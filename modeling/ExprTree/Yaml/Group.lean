import ExprTree.Yaml.Token

/-!
# Pieces of YAML documents

Before a YAML text is parsed, its tokens, comments left out, are gathered
into pieces (`Piece`): a token, or a group of pieces that belong together.
The passes run in order (`Yaml.documents`):

1. a block scalar's header with the token after it;
2. an anchor with its name, and with its value when that is a scalar on the
   same line; an alias with its name;
3. a tag with a scalar after it on the same line; a reserved tag only with a
   scalar, `!!merge` only with a merge key;
4. an anchor with a tag and scalar after it on the same line;
5. a key with its `:`, the piece before the `:` or the one after `?`;
6. a key with a scalar value on its line;
7. a directive with its name and the values on its line, which a document
   must follow;
8. the pieces split into documents at their markers.

A piece stands where its first token stands, and is of that token's kind.
-/

namespace ExprTree.Yaml

/-- The kinds of groups of pieces. -/
inductive GroupKind where
  | directive
  | directiveName
  | anchor
  | anchorName
  | reference
  | literal
  | folded
  | scalarTag
  | mapKey
  | mapKeyValue
  deriving DecidableEq, Repr, Inhabited

/-- A piece of a document: a token by its index in the chain, or a group. -/
inductive Piece where
  | tok (i : Nat)
  | group (kind : GroupKind) (items : List Piece)
  deriving Repr, Inhabited

namespace Piece

/-- The index of the first token of a piece. -/
def raw : Piece → Nat
  | tok i => i
  | group _ (p :: _) => p.raw
  | group _ [] => 0

/-- The kind of group of a piece, none for a token. -/
def groupKind? : Piece → Option GroupKind
  | tok _ => none
  | group k _ => some k

/-- The pieces of a group, the piece itself for a token. -/
def items : Piece → List Piece
  | tok i => [tok i]
  | group _ ps => ps

/-- Whether a piece is a group of a kind. -/
def isGroup (p : Piece) (k : GroupKind) : Bool := p.groupKind? == some k

end Piece

/-- Reading pieces against the chain of tokens. -/
structure Chain where
  tokens : Array Token

namespace Chain

/-- The first token of a piece. -/
def first (c : Chain) (p : Piece) : Token := c.tokens.getD p.raw default

/-- The kind of a piece: that of its first token. -/
def kind (c : Chain) (p : Piece) : TokenKind := (c.first p).kind

/-- The line of a piece. -/
def line (c : Chain) (p : Piece) : Nat := (c.first p).pos.line

/-- The column of a piece. -/
def col (c : Chain) (p : Piece) : Nat := (c.first p).pos.col

/-- A fault at a piece's first token. -/
def faultAt (_ : Chain) (p : Piece) (msg : String) : SyntaxError := { msg, mark := some (.token p.raw) }

/-- Whether a piece can be a scalar value: not a key, and of a scalar,
    anchor, alias or block scalar kind. -/
def isScalar (c : Chain) (p : Piece) : Bool :=
  !(p.isGroup .mapKey || p.isGroup .mapKeyValue) &&
    match c.kind p with
    | .anchor | .reference | .literal | .folded | .plain | .text | .single | .double => true
    | _ => false

/-- Whether a piece opens, closes or separates flow content or entries. -/
def isFlowPiece (c : Chain) (p : Piece) : Bool :=
  match c.kind p with
  | .mappingStart | .mappingEnd | .sequenceStart | .sequenceEnd | .sequenceEntry | .collectEntry => true
  | _ => false

/-- Whether a piece cannot be a key. -/
def isNotKey (c : Chain) (p : Piece) : Bool :=
  match c.kind p with
  | .directive | .documentHeader | .documentEnd | .collectEntry | .mappingStart | .mappingValue
  | .mappingEnd | .sequenceStart | .sequenceEntry | .sequenceEnd => true
  | _ => false

/-- The tags that go with a scalar. -/
def scalarTags : List String :=
  ["!!int", "!!float", "!!str", "!!binary", "!!timestamp", "!!bool", "!!null"]

/-- Pass 1: block scalar headers with the token after them. -/
def groupBlocks (c : Chain) : List Piece → List Piece
  | [] => []
  | p :: rest =>
    let k := c.kind p
    if k == .literal || k == .folded then
      let g := if k == .literal then GroupKind.literal else GroupKind.folded
      match rest with
      | q :: rest' => .group g [p, q] :: groupBlocks c rest'
      | [] => [.group g [p]]
    else p :: groupBlocks c rest

/-- Pass 2: anchors and aliases with their names, anchors with a scalar
    value on their line. -/
def groupAnchors (c : Chain) : List Piece → Except SyntaxError (List Piece)
  | [] => .ok []
  | p :: rest =>
    match c.kind p with
    | .anchor =>
      match rest with
      | [] => .error (c.faultAt p "undefined anchor name")
      | n :: tl =>
        match tl with
        | [] => .error (c.faultAt p "undefined anchor value")
        | v :: rest' =>
          let name := Piece.group .anchorName [p, n]
          if c.line p == c.line v && c.isScalar v then
            (Piece.group .anchor [name, v] :: ·) <$> groupAnchors c rest'
          else (name :: ·) <$> groupAnchors c (v :: rest')
    | .reference =>
      match rest with
      | [] => .error (c.faultAt p "undefined alias name")
      | n :: rest' => (Piece.group .reference [p, n] :: ·) <$> groupAnchors c rest'
    | _ => (p :: ·) <$> groupAnchors c rest

/-- Pass 3: tags with the scalar after them (see the module header). -/
def groupTags (c : Chain) : List Piece → Except SyntaxError (List Piece)
  | [] => .ok []
  | p :: rest =>
    if c.kind p != .tag then (p :: ·) <$> groupTags c rest
    else
      let tag := (c.first p).value
      match rest with
      | [] => .ok [p]
      | q :: rest' =>
        let sameLine := c.line p == c.line q && !q.isGroup .anchorName
        if tag.startsWith "!!" then
          if scalarTags.contains tag then
            if sameLine && c.isScalar q then (Piece.group .scalarTag [p, q] :: ·) <$> groupTags c rest'
            else (p :: ·) <$> groupTags c (q :: rest')
          else if tag == "!!merge" then
            if c.kind q != .mergeKey then .error (c.faultAt q "could not find merge key")
            else (Piece.group .scalarTag [p, q] :: ·) <$> groupTags c rest'
          else (p :: ·) <$> groupTags c (q :: rest')
        else if sameLine && !c.isFlowPiece q then
          (Piece.group .scalarTag [p, q] :: ·) <$> groupTags c rest'
        else (p :: ·) <$> groupTags c (q :: rest')

/-- Pass 4: an anchor's name with a tagged scalar after it on its line. -/
def groupAnchorTags (c : Chain) : List Piece → List Piece
  | [] => []
  | p :: rest =>
    match rest with
    | q :: rest' =>
      if p.isGroup .anchorName && c.line p == c.line q && q.isGroup .scalarTag then
        .group .anchor [p, q] :: groupAnchorTags c rest'
      else p :: groupAnchorTags c (q :: rest')
    | [] => [p]

/-- Pass 5: keys with their `:`, onto the pieces before them, reversed. -/
def groupKeys (c : Chain) (acc : List Piece) : List Piece → Except SyntaxError (List Piece)
  | [] => .ok acc.reverse
  | p :: rest =>
    match c.kind p with
    | .mappingKey =>
      match rest with
      | [] => .error (c.faultAt p "undefined map key")
      | q :: rest' => groupKeys c (.group .mapKey [p, q] :: acc) rest'
    | .mappingValue =>
      match acc with
      | [] => .error (c.faultAt p "unexpected key name")
      | prev :: acc' =>
        if c.isNotKey prev then .error (c.faultAt p "found an invalid key for this map")
        else groupKeys c (.group .mapKey [prev, p] :: acc') rest
    | _ => groupKeys c (p :: acc) rest

/-- Pass 6: a key with a scalar or tagged scalar value on its line. -/
def groupKeyValues (c : Chain) : List Piece → List Piece
  | [] => []
  | p :: rest =>
    match rest with
    | q :: rest' =>
      let value := c.line p == c.line q && !q.isGroup .anchorName &&
        !(c.kind q == .tag && !q.isGroup .scalarTag) && (c.isScalar q || c.kind q == .tag)
      if p.isGroup .mapKey && value then .group .mapKeyValue [p, q] :: groupKeyValues c rest'
      else p :: groupKeyValues c (q :: rest')
    | [] => [p]

/-- Pass 7: directives with their names and values; a document must follow.
    `fuel` bounds the pieces left. -/
def groupDirectives (c : Chain) : Nat → List Piece → Except SyntaxError (List Piece)
  | 0, ps => .ok ps
  | _, [] => .ok []
  | fuel + 1, p :: rest =>
    if c.kind p != .directive then (p :: ·) <$> groupDirectives c fuel rest
    else match rest with
      | [] => .error (c.faultAt p "undefined directive value")
      | n :: rest' =>
        let name := Piece.group .directiveName [p, n]
        let values := rest'.takeWhile fun q => c.line q == c.line p
        let after := rest'.drop values.length
        match after with
        | q :: _ =>
          if c.kind q != .documentHeader then
            .error (c.faultAt p "unexpected directive value. document not started")
          else
            let d := if values.isEmpty then name else .group .directive (name :: values)
            (d :: ·) <$> groupDirectives c fuel after
        | [] => .error (c.faultAt p "unexpected directive value. document not started")

/-- Pass 8: the pieces split into documents at their markers; the pieces
    before a document's start are one of their own. A document's start may
    not share its line with a key or a sequence entry. `fuel` bounds the
    pieces left. -/
def splitDocuments (c : Chain) : Nat → List Piece → Except SyntaxError (List (List Piece))
  | 0, ps => .ok [ps]
  | fuel + 1, ps =>
    match ps.findIdx? fun p => c.kind p == .documentHeader || c.kind p == .documentEnd with
    | none => .ok [ps]
    | some i =>
      let before := ps.take i
      match ps.drop i with
      | [] => .ok [ps]
      | tk :: after =>
        if c.kind tk == .documentHeader then
          let lead := if i == 0 then [] else [before]
          match after with
          | [] => .ok (lead ++ [[tk]])
          | q :: _ =>
            if c.kind q == .documentHeader then
              (fun docs => lead ++ [[tk]] ++ docs) <$> splitDocuments c fuel after
            else if c.line tk == c.line q &&
                (q.isGroup .mapKey || q.isGroup .mapKeyValue || c.kind q == .sequenceEntry) then
              .error (c.faultAt q "value cannot be placed after document separator")
            else
              (fun docs => match docs with
                | d :: ds => lead ++ ((tk :: d) :: ds)
                | [] => lead ++ [[tk]]) <$> splitDocuments c fuel after
        else
          let lead := if i == 0 then [] else [before ++ [tk]]
          match after with
          | [] => .ok lead
          | _ => (lead ++ ·) <$> splitDocuments c fuel after

end Chain

/-- The documents of a chain of tokens, as lists of pieces (see the module
    header). -/
def documents (tokens : Array Token) : Except SyntaxError (List (List Piece)) := do
  let c : Chain := ⟨tokens⟩
  let ps := ((List.range tokens.size).filter fun i => (tokens.getD i default).kind != .comment).map Piece.tok
  let ps := c.groupBlocks ps
  let ps ← c.groupAnchors ps
  let ps ← c.groupTags ps
  let ps := c.groupAnchorTags ps
  let ps ← c.groupKeys [] ps
  let ps := c.groupKeyValues ps
  let ps ← c.groupDirectives (ps.length + 1) ps
  c.splitDocuments (ps.length + 1) ps

end ExprTree.Yaml
