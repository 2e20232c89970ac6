import ExprTree.Yaml.Scan
import ExprTree.Yaml.Group
import ExprTree.Yaml.Node

/-!
# Parsing YAML documents

The pieces of each document parsed into a node (`Yaml.parseText`):

* a key and its `:` begin a block mapping, whose keys stand at the column of
  the first; a value on the key's line comes first, else what follows,
  indented more, or null;
* a `-` begins a block sequence, whose entries stand at its column;
* `{` and `[` begin flow collections, whose entries a `,` separates;
* an anchor names the node after it, an alias refers to one by name, a tag
  marks the node after it, a reserved tag only a scalar, a mapping
  (`!!map`), or a merge key (`!!merge`).

A key may not be repeated in a document, by its path from the document's
root; a key that spans lines is a fault. A document holds one node: any
piece left over is a fault, and so is the first fault token of the chain.
-/

namespace ExprTree.Yaml

/-- A step of a path from a document's root: a key, or an index. -/
inductive Seg where
  | key (s : String)
  | index (n : Nat)
  deriving DecidableEq, Repr, Inhabited

/-- The state of parsing a text: the keys met in the document with their
    paths, and the YAML version its directive gave. -/
structure ParseState where
  keys : List (List Seg × Mark) := []
  version : Option String := none
  deriving Inhabited

/-- Parsing pieces into nodes. -/
abbrev ParseM := StateT ParseState (Except SyntaxError)

/-- Where a node is parsed: in flow context or not, and its path. -/
structure Place where
  flow : Bool := false
  path : List Seg := []
  deriving Inhabited

namespace Place

/-- The place of the value of a key. -/
def child (p : Place) (key : String) : Place := { p with path := p.path ++ [.key key] }

/-- The place of an entry of a sequence. -/
def index (p : Place) (i : Nat) : Place := { p with path := p.path ++ [.index i] }

end Place

namespace Chain

/-- The token where a mark lies; the implied null after a token. -/
def tokenOf (c : Chain) : Mark → Token
  | .token i => c.tokens.getD i default
  | .implied i => impliedNull (c.tokens.getD i default)

/-- A fault at a piece. -/
def failAt (c : Chain) (p : Piece) (msg : String) : ParseM α := throw (c.faultAt p msg)

/-- A fault at a mark. -/
def failMark (_ : Chain) (m : Mark) (msg : String) : ParseM α := throw { msg, mark := some m }

/-- Whether a piece can start an entry of a block mapping. -/
def isMapToken (c : Chain) (p : Piece) : Bool :=
  match p.groupKind? with
  | none => c.kind p == .mappingStart || c.kind p == .mappingValue
  | some k => k == .mapKey || k == .mapKeyValue

/-- Whether a piece ends an entry of a flow mapping. -/
def isFlowMapDelim (c : Chain) (p : Piece) : Bool :=
  c.kind p == .mappingEnd || c.kind p == .collectEntry

/-- Whether a token is a text: a text token, a quoted scalar when `quoted`,
    or a plain scalar that reads as one. -/
def isTextToken (t : Token) (quoted : Bool) : Bool :=
  match t.kind with
  | .text => true
  | .single | .double => quoted
  | .plain => match resolvePlain t.value with
    | .str _ _ => true
    | _ => false
  | _ => false

/-- Whether a character is white space. -/
def isSpace (ch : Char) : Bool :=
  ch == ' ' || ch == '\t' || ch == '\n' || ch == '\r' || ch == '\x0b' || ch == '\x0c' ||
    ch == '\u0085' || ch == '\u00a0'

/-- The value a reserved tag gives when no scalar follows it. -/
def tagDefault (tag : String) (m : Mark) : Node :=
  if tag == "!!int" || tag == "!!float" then .scalar true "0" m
  else if tag == "!!bool" then .scalar true "false" m
  else if tag == "!!null" then .scalar true "null" m
  else if tag == "!!merge" then .mergeKey m
  else .scalar false "" m

/-- A key checked and recorded at its path: a key already met at the path,
    or a key that spans lines, is a fault. -/
def recordKey (c : Chain) (place : Place) (key : Node) (path : List Seg) : ParseM Unit := do
  let km := key.mark
  let tok := c.tokenOf km
  match (← get).keys.find? (·.1 == path) with
  | some (_, m) =>
    let p := (c.tokenOf m).pos
    c.failMark km ("mapping key " ++ Text.quote tok.value ++ " already defined at [" ++
      toString p.line ++ ":" ++ toString p.col ++ "]")
  | none => pure ()
  let origin := tok.origin.toList.dropWhile isSpace
  if place.flow then
    if isTextToken tok false && ((origin.reverse.dropWhile isSpace).any isBreak) then
      c.failMark km "unexpected key name"
  else if isTextToken tok true && origin.any isBreak then
    c.failMark km "unexpected key name"
  modify fun s => { s with keys := (path, km) :: s.keys }

/-- An anchor with a tag on a later line, at or left of the column `col`
    of its key or entry, is a fault. -/
def checkAnchorTag (c : Chain) (v : Node) (col : Nat) : ParseM Unit :=
  match v with
  | .anchor _ (.tagged _ _ tm) am =>
    let a := c.tokenOf am
    let t := c.tokenOf tm
    if a.pos.line != t.pos.line && t.pos.col ≤ col then c.failMark tm "tag is not allowed in this context"
    else pure ()
  | _ => pure ()

/-- The YAML versions a directive may give. -/
def versions : List String := ["1.1", "1.2"]

/-- A directive: `YAML` with one known version, given once; `TAG` with two
    values. -/
def parseDirective (c : Chain) (items : List Piece) : ParseM Node := do
  match items with
  | nameG :: values =>
    let name := (c.first (nameG.items.getD 1 nameG)).value
    if name == "YAML" then
      match values with
      | [v] =>
        let text := (c.first v).value
        if !versions.contains text then c.failAt v ("unknown YAML version " ++ Text.quote text)
        if (← get).version.isSome then c.failAt v "YAML version has already been specified"
        modify fun s => { s with version := some text }
      | _ => c.failAt nameG "unexpected format YAML directive"
    else if name == "TAG" then
      if values.length != 2 then c.failAt nameG "unexpected format TAG directive"
    else if values.isEmpty then c.failAt nameG "unexpected format directive"
    return .directive (.token nameG.raw)
  | [] => return .directive (.token 0)

mutual

/-- The node at the head of `ps`, and the pieces after it. -/
def parseToken (c : Chain) : Nat → Place → List Piece → ParseM (Node × List Piece)
  | 0, _, _ => throw { msg := "document too deep", mark := none }
  | _, _, [] => throw { msg := "could not find value", mark := none }
  | fuel + 1, place, p :: rest =>
    match p.groupKind? with
    | some .mapKey | some .mapKeyValue => parseMap c fuel place (p :: rest)
    | some .directive => do return (← parseDirective c p.items, rest)
    | some .directiveName => return (.directive (.token p.raw), rest)
    | some .anchor => do return (← parseAnchor c fuel place p.items, rest)
    | some .anchorName => do
      let (name, am) ← parseAnchorName c fuel place p.items
      match rest with
      | [] => c.failAt p "could not find anchor value"
      | q :: _ =>
        if c.kind q == .sequenceEntry && c.line q == c.line p then
          c.failAt q "sequence entries are not allowed after anchor on the same line"
        let (v, rest') ← parseToken c fuel place rest
        if let .anchor _ _ vm := v then c.failMark vm "anchors cannot be used consecutively"
        return (.anchor name v am, rest')
    | some .reference => do return (← parseAlias c fuel place p.items, rest)
    | some .literal | some .folded => do return (← parseLiteral c fuel place p.items, rest)
    | some .scalarTag => do return ((← parseTag c fuel place p.items).1, rest)
    | none =>
      match c.kind p with
      | .tag => parseTag c fuel place (p :: rest)
      | .mappingStart => parseFlowMap c fuel { place with flow := true } p [] true rest
      | .sequenceStart => parseFlowSeq c fuel { place with flow := true } p [] true rest
      | .sequenceEntry => parseSequence c fuel place p [] (p :: rest)
      | .sequenceEnd => c.failAt p "could not find '[' character corresponding to ']'"
      | .mappingEnd => c.failAt p "could not find '\x7b' character corresponding to '\x7d'"
      | .mappingValue => c.failAt p "found an invalid key for this map"
      | _ => do
        let (n, remaining) ← parseScalar c fuel place p rest
        return (n, remaining.drop 1)

/-- A scalar at the piece `p`, before `rest`, and the pieces from the one the
    parse stands at after it: `p` itself, unless it is an anchor's name,
    whose value follows it. -/
def parseScalar (c : Chain) : Nat → Place → Piece → List Piece → ParseM (Node × List Piece)
  | 0, _, _, _ => throw { msg := "document too deep", mark := none }
  | fuel + 1, place, p, rest =>
    match p.groupKind? with
    | some .anchor => do return (← parseAnchor c fuel place p.items, p :: rest)
    | some .anchorName => do
      let (name, am) ← parseAnchorName c fuel place p.items
      if rest.isEmpty then c.failAt p "could not find anchor value"
      let (v, rest') ← parseToken c fuel place rest
      if let .anchor _ _ vm := v then c.failMark vm "anchors cannot be used consecutively"
      return (.anchor name v am, rest')
    | some .reference => do return (← parseAlias c fuel place p.items, p :: rest)
    | some .literal | some .folded => do return (← parseLiteral c fuel place p.items, p :: rest)
    | some .scalarTag => do return ((← parseTag c fuel place p.items).1, p :: rest)
    | some _ => c.failAt p "unexpected scalar value"
    | none =>
      let t := c.first p
      let m := Mark.token p.raw
      match t.kind with
      | .mergeKey => return (.mergeKey m, p :: rest)
      | .plain => return (.scalar true t.value m, p :: rest)
      | .text | .single | .double => return (.scalar false t.value m, p :: rest)
      | .tag => return (tagDefault t.value m, p :: rest)
      | _ => c.failAt p "unexpected scalar value type"

/-- An anchor's name from its pieces, and where the anchor lies. -/
def parseAnchorName (c : Chain) : Nat → Place → List Piece → ParseM (String × Mark)
  | 0, _, _ => throw { msg := "document too deep", mark := none }
  | fuel + 1, place, items =>
    match items with
    | a :: n :: _ => do
      let (name, _) ← parseScalar c fuel place n []
      return ((c.tokenOf name.mark).value, .token a.raw)
    | [a] => c.failAt a "could not find anchor value"
    | [] => throw { msg := "could not find anchor value", mark := none }

/-- An anchor with its value, from its pieces. -/
def parseAnchor (c : Chain) : Nat → Place → List Piece → ParseM Node
  | 0, _, _ => throw { msg := "document too deep", mark := none }
  | fuel + 1, place, items =>
    match items with
    | nameG :: rest => do
      let (name, am) ← parseAnchorName c fuel place nameG.items
      if rest.isEmpty then c.failMark am "could not find anchor value"
      let (v, _) ← parseToken c fuel place rest
      if let .anchor _ _ vm := v then c.failMark vm "anchors cannot be used consecutively"
      return .anchor name v am
    | [] => throw { msg := "could not find anchor value", mark := none }

/-- An alias from its pieces. -/
def parseAlias (c : Chain) : Nat → Place → List Piece → ParseM Node
  | 0, _, _ => throw { msg := "document too deep", mark := none }
  | fuel + 1, place, items =>
    match items with
    | star :: n :: _ => do
      let (name, _) ← parseScalar c fuel place n []
      return .reference (c.tokenOf name.mark).value name.mark (.token star.raw)
    | [star] => c.failAt star "could not find alias value"
    | [] => throw { msg := "could not find alias value", mark := none }

/-- A block scalar from its header and the token of its lines. -/
def parseLiteral (c : Chain) : Nat → Place → List Piece → ParseM Node
  | 0, _, _ => throw { msg := "document too deep", mark := none }
  | fuel + 1, place, items =>
    match items with
    | h :: rest => do
      let hm := Mark.token h.raw
      let header := (c.first h).value
      if rest.isEmpty then return .literal "" header hm
      let (v, _) ← parseToken c fuel place rest
      match v with
      | .scalar false s _ => return .literal s header hm
      | .scalar true s m => match resolvePlain s with
        | .str _ _ => return .literal s header hm
        | _ => c.failMark m "unexpected token. required string token"
      | v => c.failMark v.mark "unexpected token. required string token"
    | [] => throw { msg := "could not find block scalar", mark := none }

/-- A tag and the node it marks, from the pieces at the tag, and the pieces
    after them. -/
def parseTag (c : Chain) : Nat → Place → List Piece → ParseM (Node × List Piece)
  | 0, _, _ => throw { msg := "document too deep", mark := none }
  | _, _, [] => throw { msg := "could not find tag", mark := none }
  | fuel + 1, place, tagP :: rest => do
    let tag := (c.first tagP).value
    let tm := Mark.token tagP.raw
    match rest with
    | [] => return (.tagged tag (.null (.implied tagP.raw)) tm, [])
    | tk :: more =>
      if tag == "!!map" || tag == "!!omap" then
        if !c.isMapToken tk then c.failAt tk "could not find map"
        let (v, rest') ← if tk.groupKind?.isNone && c.kind tk == .mappingStart then
            parseFlowMap c fuel { place with flow := true } tk [] true more
          else parseMap c fuel place rest
        return (.tagged tag v tm, rest')
      else if Chain.scalarTags.contains tag || tag == "!!merge" then
        if tk.isGroup .literal || tk.isGroup .folded then
          return (.tagged tag (← parseLiteral c fuel place tk.items) tm, rest)
        else if tk.groupKind?.isNone && (c.kind tk == .collectEntry || c.kind tk == .mappingValue) then
          return (.tagged tag (tagDefault tag tm) tm, rest)
        else
          let (v, remaining) ← parseScalar c fuel place tk more
          return (.tagged tag v tm, remaining.drop 1)
      else if tag == "!!seq" || tag == "!!set" then
        c.failAt tagP ("sorry, currently not supported " ++ tag ++ " tag")
      else if tag.startsWith "!!" then
        c.failAt tagP ("unknown secondary tag name " ++ Text.quote tag ++ " specified")
      else
        let (v, rest') ← parseToken c fuel place rest
        return (.tagged tag v tm, rest')

/-- A key from the pieces of its group, and its text. -/
def parseMapKey (c : Chain) : Nat → Place → List Piece → ParseM (Node × String)
  | 0, _, _ => throw { msg := "document too deep", mark := none }
  | _, _, [] => throw { msg := "could not find key", mark := none }
  | fuel + 1, place, first :: more => do
    if c.kind first == .mappingKey then
      let sub := match first with
        | .group _ ps => ps
        | p => p :: more
      match sub with
      | q :: s :: _ =>
        let (scalar, _) ← parseScalar c fuel place s []
        let key := Node.explicitKey scalar (.token q.raw)
        let text := scalar.keyText
        c.recordKey place key (place.path ++ [.key text])
        return (key, text)
      | _ => c.failAt first "could not find value for mapping key"
    else
      let last := (first :: more).getLast?.getD first
      if last.groupKind?.isSome || c.kind last != .mappingValue then
        c.failAt last "expected map key-value delimiter ':'"
      let (key, _) ← parseScalar c fuel place first more
      let text := key.keyText
      c.recordKey place key (place.path ++ [.key text])
      return (key, text)

/-- The value of a key whose `:` is the piece `colon`, from `ps` (see the
    module header). -/
def parseMapValue (c : Chain) : Nat → Place → Node → Piece → List Piece → ParseM (Node × List Piece)
  | 0, _, _, _, _ => throw { msg := "document too deep", mark := none }
  | fuel + 1, place, key, colon, ps => do
    let keyTok := c.tokenOf key.mark
    let keyCol := keyTok.pos.col
    let keyLine := keyTok.pos.line
    let null := Node.null (.implied colon.raw)
    match ps with
    | [] => return (null, [])
    | tk :: rest =>
      let nextCol := (rest.head?.map c.col).getD 0
      let nextIsMap := (rest.head?.map c.isMapToken).getD false
      let onLine := c.line tk == keyLine
      let anchorName := tk.isGroup .anchorName
      if c.col tk != keyCol && onLine && (tk.isGroup .mapKey || tk.isGroup .mapKeyValue) then
        c.failAt tk "mapping value is not allowed in this context"
      else if c.col tk == keyCol && c.isMapToken tk then return (null, ps)
      else if onLine && anchorName && nextCol == keyCol && nextIsMap then
        let (name, am) ← parseAnchorName c fuel place tk.items
        return (.anchor name (.null (.implied tk.raw)) am, rest)
      else if c.col tk ≤ keyCol && anchorName then c.failAt tk "anchor is not allowed in this context"
      else if c.col tk ≤ keyCol && c.kind tk == .tag then c.failAt tk "tag is not allowed in this context"
      else if c.col tk < keyCol then return (null, ps)
      else if onLine && anchorName && nextCol < keyCol then
        let (name, am) ← parseAnchorName c fuel place tk.items
        return (.anchor name (.null (.implied tk.raw)) am, rest)
      else
        let (v, rest') ← parseToken c fuel place ps
        c.checkAnchorTag v keyCol
        return (v, rest')

/-- One entry of a block mapping at the head of `ps`, and the pieces after
    it. A value on the key's line may not be followed by more of it. -/
def parseMapEntry (c : Chain) : Nat → Place → List Piece → ParseM ((Node × Node) × List Piece)
  | 0, _, _ => throw { msg := "document too deep", mark := none }
  | _, _, [] => throw { msg := "could not find map key", mark := none }
  | fuel + 1, place, p :: rest => do
    match p with
    | .group .mapKeyValue (kg :: value) =>
      let (key, text) ← parseMapKey c fuel place kg.items
      let colon := kg.items.getLast?.getD kg
      let (v, _) ← parseMapValue c fuel (place.child text) key colon value
      match rest with
      | tk :: _ =>
        if c.col tk > c.col p &&
            !(place.flow && (c.kind tk == .collectEntry || c.kind tk == .sequenceEnd ||
              c.kind tk == .mappingEnd)) then
          c.failAt tk "value is not allowed in this context. map key-value is pre-defined"
      | [] => pure ()
      return ((key, v), rest)
    | .group .mapKey items =>
      let (key, text) ← parseMapKey c fuel place items
      let colon := items.getLast?.getD p
      let (v, rest') ← parseMapValue c fuel (place.child text) key colon rest
      return ((key, v), rest')
    | _ => c.failAt p "unexpected map key"

/-- A block mapping whose keys stand at `keyCol`, its entries so far `acc`
    reversed. -/
def parseMapRest (c : Chain) : Nat → Place → Nat → List (Node × Node) → List Piece →
    ParseM (List (Node × Node) × List Piece)
  | 0, _, _, _, _ => throw { msg := "document too deep", mark := none }
  | fuel + 1, place, keyCol, acc, ps =>
    match ps with
    | [] => return (acc.reverse, [])
    | tk :: _ =>
      if c.col tk != keyCol then return (acc.reverse, ps)
      else if !c.isMapToken tk then c.failAt tk "non-map value is specified"
      else do
        let (e, rest) ← parseMapEntry c fuel place ps
        parseMapRest c fuel place keyCol (e :: acc) rest

/-- A block mapping at the head of `ps`. -/
def parseMap (c : Chain) : Nat → Place → List Piece → ParseM (Node × List Piece)
  | 0, _, _ => throw { msg := "document too deep", mark := none }
  | _, _, [] => throw { msg := "could not find map key", mark := none }
  | fuel + 1, place, p :: rest => do
    let (e, rest') ← parseMapEntry c fuel place (p :: rest)
    let (entries, rest'') ← parseMapRest c fuel place (c.col p) [e] rest'
    return (.mapping entries (.token p.raw), rest'')

/-- The value of an entry of a block sequence whose `-` is `entry` (see the
    module header). -/
def parseSequenceValue (c : Chain) : Nat → Place → Piece → List Piece → ParseM (Node × List Piece)
  | 0, _, _, _ => throw { msg := "document too deep", mark := none }
  | fuel + 1, place, entry, ps => do
    let seqCol := c.col entry
    let seqLine := c.line entry
    let null := Node.null (.implied entry.raw)
    match ps with
    | [] => return (null, [])
    | tk :: rest =>
      let nextCol := (rest.head?.map c.col).getD 0
      let nextIsEntry := (rest.head?.map fun q => c.kind q == .sequenceEntry).getD false
      let onLine := c.line tk == seqLine
      let anchorName := tk.isGroup .anchorName
      if c.col tk == seqCol && c.kind tk == .sequenceEntry then return (null, ps)
      else if onLine && anchorName && nextCol == seqCol && nextIsEntry then
        let (name, am) ← parseAnchorName c fuel place tk.items
        return (.anchor name (.null (.implied tk.raw)) am, rest)
      else if c.col tk ≤ seqCol && anchorName then
        c.failAt tk "anchor is not allowed in this sequence context"
      else if c.col tk ≤ seqCol && c.kind tk == .tag then
        c.failAt tk "tag is not allowed in this sequence context"
      else if c.col tk < seqCol then return (null, ps)
      else if onLine && anchorName && nextCol < seqCol then
        let (name, am) ← parseAnchorName c fuel place tk.items
        return (.anchor name (.null (.implied tk.raw)) am, rest)
      else
        let (v, rest') ← parseToken c fuel place ps
        c.checkAnchorTag v seqCol
        return (v, rest')

/-- A block sequence whose first `-` is `start`, its items so far `acc`
    reversed; its entries stand at the column of `start`. -/
def parseSequence (c : Chain) : Nat → Place → Piece → List Node → List Piece → ParseM (Node × List Piece)
  | 0, _, _, _, _ => throw { msg := "document too deep", mark := none }
  | fuel + 1, place, start, acc, ps =>
    let done (rest : List Piece) : Node × List Piece := (.sequence acc.reverse (.token start.raw), rest)
    match ps with
    | tk :: rest =>
      if tk.groupKind?.isNone && c.kind tk == .sequenceEntry && c.col tk == c.col start then do
        let (v, rest') ← parseSequenceValue c fuel (place.index acc.length) tk rest
        parseSequence c fuel place start (v :: acc) rest'
      else return done ps
    | [] => return done []

/-- The rest of a flow mapping opened at `start`, its entries so far `acc`
    reversed. -/
def parseFlowMap (c : Chain) : Nat → Place → Piece → List (Node × Node) → Bool → List Piece →
    ParseM (Node × List Piece)
  | 0, _, _, _, _, _ => throw { msg := "document too deep", mark := none }
  | fuel + 1, place, start, acc, first, ps => do
    let endMissing : ParseM (Node × List Piece) :=
      c.failAt start "could not find flow mapping end token '\x7d'"
    let finish (rest : List Piece) : Node × List Piece := (.mapping acc.reverse (.token start.raw), rest)
    match ps with
    | [] => endMissing
    | tk :: more =>
      if tk.groupKind?.isNone && c.kind tk == .mappingEnd then return finish more
      else
        let ps ← if tk.groupKind?.isNone && c.kind tk == .collectEntry then pure more
          else if !first then c.failAt tk "',' or '\x7d' must be specified"
          else pure ps
        match ps with
        | [] => endMissing
        | cur :: more =>
          if cur.groupKind?.isNone && c.kind cur == .mappingEnd then return finish more
          else match cur with
            | .group .mapKeyValue (kg :: value) =>
              let (key, text) ← parseMapKey c fuel place kg.items
              let (v, _) ← parseToken c fuel (place.child text) value
              parseFlowMap c fuel place start ((key, v) :: acc) false more
            | .group .mapKey items =>
              let (key, text) ← parseMapKey c fuel place items
              let colon := items.getLast?.getD cur
              match more with
              | next :: _ =>
                if c.isFlowMapDelim next then
                  parseFlowMap c fuel place start ((key, .null (.implied colon.raw)) :: acc) false more
                else
                  let (v, rest) ← parseToken c fuel (place.child text) more
                  parseFlowMap c fuel place start ((key, v) :: acc) false rest
              | [] => endMissing
            | _ =>
              match more with
              | next :: _ =>
                if !c.isFlowMapDelim next then c.failAt cur "could not find flow map content"
                else
                  let (key, _) ← parseScalar c fuel place cur more
                  parseFlowMap c fuel place start ((key, .null (.implied cur.raw)) :: acc) false more
              | [] => c.failAt cur "could not find flow map content"

/-- The rest of a flow sequence opened at `start`, its items so far `acc`
    reversed. -/
def parseFlowSeq (c : Chain) : Nat → Place → Piece → List Node → Bool → List Piece →
    ParseM (Node × List Piece)
  | 0, _, _, _, _, _ => throw { msg := "document too deep", mark := none }
  | fuel + 1, place, start, acc, first, ps => do
    let endMissing : ParseM (Node × List Piece) := c.failAt start "sequence end token ']' not found"
    let finish (rest : List Piece) : Node × List Piece := (.sequence acc.reverse (.token start.raw), rest)
    match ps with
    | [] => endMissing
    | tk :: more =>
      if tk.groupKind?.isNone && c.kind tk == .sequenceEnd then return finish more
      else
        let ps ← if tk.groupKind?.isNone && c.kind tk == .collectEntry then
            (if first then c.failAt tk "expected sequence element, but found ','" else pure more)
          else if !first then c.failAt tk "',' or ']' must be specified"
          else pure ps
        match ps with
        | [] => endMissing
        | cur :: more =>
          if cur.groupKind?.isNone && c.kind cur == .sequenceEnd then return finish more
          else
            let (v, rest) ← parseToken c fuel (place.index acc.length) ps
            parseFlowSeq c fuel place start (v :: acc) false rest

end

/-- The node of a document's pieces, none when it has none: its start and
    end markers are not part of it, and it holds one node. -/
def parseDocument (c : Chain) (fuel : Nat) (doc : List Piece) : ParseM (Option Node) := do
  if doc.isEmpty then return none
  modify fun s => { s with keys := [] }
  let body := match doc with
    | p :: rest => if p.groupKind?.isNone && c.kind p == TokenKind.documentHeader then rest else doc
    | [] => []
  let ended := match body.getLast? with
    | some p => p.groupKind?.isNone && c.kind p == TokenKind.documentEnd
    | none => false
  let body := if ended then body.dropLast else body
  let result ← if body.isEmpty then pure none
    else do
      let (n, rest) ← parseToken c fuel ({} : Place) body
      match rest with
      | q :: _ => c.failAt q "value is not allowed in this context"
      | [] => pure (some n)
  if ended then modify fun s => { s with version := none }
  return result

end Chain

/-- The nodes of the documents of a YAML text, with the chain of tokens
    faults are shown against: the first fault token of the chain, else the
    first fault of the pieces or of a document (see the module header). -/
def parseText (text : String) : Array Token × Except SyntaxError (List (Option Node)) :=
  let tokens := tokenize text
  let c : Chain := ⟨tokens⟩
  let fuel := 16 * (tokens.size + 1)
  let firstFault := (List.range tokens.size).findSome? fun i =>
    match (tokens.getD i default).kind with
    | .invalid msg => some ({ msg, mark := some (.token i) } : SyntaxError)
    | _ => none
  match firstFault with
  | some e => (tokens, .error e)
  | none =>
    match documents tokens with
    | .error e => (tokens, .error e)
    | .ok docs => (tokens, ((docs.mapM (c.parseDocument fuel)).run' {}))

end ExprTree.Yaml
