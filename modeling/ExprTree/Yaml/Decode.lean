import ExprTree.Yaml.Parse
import ExprTree.Data.Show

/-!
# YAML values

The host value of a YAML document (`Yaml.decode`):

* plain scalars resolve as the scalar rules say (`resolvePlain`): null,
  booleans, numbers, else texts; quoted and block scalars are texts;
* sequences are slices of `[]interface {}`; mappings are maps of
  `map[string]interface {}`, each key the text of its value (`null` for
  null), a later key replacing an earlier one;
* the merge key `<<` sets the entries of the mapping it names, or of each
  mapping of a sequence it names, in turn;
* an anchor's value is kept, and an alias stands for that very value, null
  while the anchor's own value is being made; an anchor met only as the
  mapping a merge key names is not kept, and an alias of an anchor not kept
  is a fault;
* tags convert (`convertTag`): `!!str` to text, `!!int` to an `int`,
  `!!float` to a `float64`, `!!bool` to a boolean, `!!null` to null,
  `!!binary` from base64 to bytes, `!!timestamp` to a moment; other tags
  change nothing.

Every document of the text is made a value in turn, each with no anchors
kept before it, and a fault in any of them is the text's fault; the value is
then made again of the first document whose value is not null, or whose node
is null itself.

Slices and maps made here take fresh storage numbers from a counter, so that
they are distinct from all others. A document that must be a mapping
(`Yaml.decodeMapping`) fails on any other node with the kind of node it is.
-/

namespace ExprTree.Yaml

/-- The state of decoding: the values and nodes of the anchors met so far
    (a value none while it is being made), and the next storage number. -/
structure DecodeState where
  values : List (String × Option Value) := []
  nodes : List (String × Node) := []
  next : Nat
  deriving Inhabited

/-- Decoding nodes into values. -/
abbrev DecodeM := StateT DecodeState (Except SyntaxError)

/-- A fresh storage number. -/
def freshRef : DecodeM Nat := modifyGet fun s => (s.next, { s with next := s.next + 1 })

/-- The text of a mapping key: `null` for null, a text as it is, any other
    value as it prints. -/
def keyString (v : Value) : String :=
  match v with
  | .nil => "null"
  | .str _ s => s.text
  | v => v.text {}

/-- Map entries with the entry of `k` set to `v`. -/
def setEntry (k : String) (v : Value) (es : List (Value × Value)) : List (Value × Value) :=
  if es.any (fun e => keyString e.1 == k) then
    es.map fun e => if keyString e.1 == k then (.ofString k, v) else e
  else es ++ [(.ofString k, v)]

/-- The text of a value as it prints, `<nil>` for nil. -/
def printed (v : Value) : String :=
  match v with
  | .str _ s => s.text
  | v => v.text {}

/-- The `int` of a decimal text with an optional sign, the nearest bound of
    64 bits beyond them, zero for a text that is no such number. -/
def atoi (s : String) : Int :=
  let digits := match s.toList with
    | '-' :: r | '+' :: r => r
    | cs => cs
  if digits.isEmpty || !digits.all Char.isDigit then 0
  else match Number.readInt 10 s.toList with
    | some n => max (-0x8000000000000000) (min n 0x7FFFFFFFFFFFFFFF)
    | none => 0

/-- A value converted to a `float64`: numbers by value, texts by reading
    them (zero when they are no number), anything else the `int` zero. -/
def castToFloat (v : Value) : Value :=
  let f (b : UInt64) : Value := .float (.float false) b
  match v with
  | .int _ n => f (Number.ofInt n)
  | .float _ b => f b
  | .str _ s => match Number.readFloat s.text with
    | some syn => f (syn.toBits Number.Format.double)
    | none => f 0
  | _ => .ofInt 0

/-- The boolean of a text as the standard reader knows it. -/
def parseBool (s : String) : Option Bool :=
  if ["1", "t", "T", "TRUE", "true", "True"].contains s then some true
  else if ["0", "f", "F", "FALSE", "false", "False"].contains s then some false
  else none

/-- The value of a base64 digit. -/
def base64Digit (c : Char) : Option Nat :=
  let alphabet := "ABCDEFGHIJKLMNOPQRSTUVWXYZabcdefghijklmnopqrstuvwxyz0123456789+/".toList
  let i := alphabet.idxOf c
  if i < 64 then some i else none

/-- The bytes of a base64 text read up to its first fault: groups of four
    digits give three bytes, a last group padded with `=` one or two; line
    breaks are passed over. -/
def base64Bytes (s : String) : List Nat :=
  let rec go (fuel : Nat) (cs : List Char) (acc : List Nat) : List Nat :=
    match fuel with
    | 0 => acc
    | fuel + 1 =>
      match cs with
      | a :: b :: c :: d :: rest =>
        match base64Digit a, base64Digit b with
        | some x, some y =>
          match c, d, base64Digit c, base64Digit d with
          | _, _, some z, some w =>
            let n := ((x * 64 + y) * 64 + z) * 64 + w
            go fuel rest (acc ++ [n / 65536, n / 256 % 256, n % 256])
          | '=', '=', _, _ => acc ++ [(x * 64 + y) / 16]
          | _, '=', some z, _ => acc ++ [((x * 64 + y) * 64 + z) / 256 / 4, ((x * 64 + y) * 64 + z) / 4 % 256]
          | _, _, _, _ => acc
        | _, _ => acc
      | _ => acc
  let cs := s.toList.filter fun c => c != '\n' && c != '\r'
  go (cs.length + 1) cs []

/-- The value of a tag applied to the value `v` of the node `n` (see the
    module header), or the fault of a value that cannot be converted. -/
def convertTag (tag : String) (n : Node) (v : Value) : DecodeM Value := do
  if tag == "!!int" then return .ofInt (atoi (printed v))
  else if tag == "!!float" then return castToFloat v
  else if tag == "!!null" then return .nil
  else if tag == "!!str" then return match v with
    | .nil => .ofString ""
    | v => .ofString (printed v)
  else if tag == "!!bool" then
    let text := printed v
    let lower := String.ofList (text.toList.map Char.toLower)
    match parseBool lower with
    | some b => return .ofBool b
    | none =>
      if lower == "yes" then return .ofBool true
      else if lower == "no" then return .ofBool false
      else throw { msg := "cannot convert " ++ Text.quote text ++ " to boolean", mark := some n.mark }
  else if tag == "!!binary" then
    match v with
    | .str _ s =>
      let r ← freshRef
      return .slice Ty.bytes r (some ((base64Bytes s.text).map fun b => .int (.uint .size8) (Int.ofNat b)))
    | v => throw { msg := "cannot convert " ++ Text.quote (printed v) ++ " to string", mark := some n.mark }
  else return v

/-- The moment of a timestamp's value: a text in a timestamp's form, else
    the zero moment. -/
def timestampOf (v : Value) : Value :=
  match v with
  | .time t => .time t
  | .str _ s => .time ((Text.Moment.read? s.text).getD Text.Moment.zero)
  | _ => .time Text.Moment.zero

/-- Whether a node is null itself: left out, or a plain null. -/
def Node.isNull : Node → Bool
  | .null _ => true
  | .scalar true s _ => match resolvePlain s with
    | .nil => true
    | _ => false
  | _ => false

mutual

/-- The value of a node (see the module header). -/
def decodeNode : Nat → Node → DecodeM Value
  | 0, _ => throw { msg := "document too deep", mark := none }
  | fuel + 1, n =>
    match n with
    | .scalar true s _ => return resolvePlain s
    | .scalar false s _ => return .ofString s
    | .literal s _ _ => return .ofString s
    | .null _ | .directive _ => return .nil
    | .mergeKey _ => return .ofString "<<"
    | .explicitKey k _ => decodeNode fuel k
    | .sequence items _ => do
      let r ← freshRef
      let vs ← decodeAll fuel items
      return .slice (.slice .any) r (some vs)
    | .mapping entries _ => do
      let r ← freshRef
      let es ← decodeEntries fuel entries []
      return .map (.map .string .any) r (some es)
    | .anchor name v _ => do
      modify fun s => { s with values := (name, none) :: s.values.filter (·.1 != name) }
      let value ← tryCatch (decodeNode fuel v) fun e => do
        modify fun s => { s with values := s.values.filter (·.1 != name) }
        throw e
      modify fun s => { s with
        nodes := (name, v) :: s.nodes.filter (·.1 != name)
        values := (name, some value) :: s.values.filter (·.1 != name) }
      return value
    | .reference name nm _ => do
      let st ← get
      match st.values.find? (·.1 == name) with
      | some (_, some v) => return v
      | some (_, none) => return .nil
      | none =>
        match st.nodes.find? (·.1 == name) with
        | some (_, node) => decodeNode fuel node
        | none => throw { msg := "could not find alias " ++ Text.quote name, mark := some nm }
    | .tagged tag v _ =>
      if tag == "!!timestamp" then
        tryCatch (timestampOf <$> decodeNode fuel v) fun _ => return .time Text.Moment.zero
      else do
        let value ← decodeNode fuel v
        convertTag tag v value

/-- The values of sequence items. -/
def decodeAll : Nat → List Node → DecodeM (List Value)
  | 0, _ => return []
  | _, [] => return []
  | fuel + 1, t :: ts => do
    let v ← decodeNode fuel t
    let vs ← decodeAll fuel ts
    return v :: vs

/-- The entries of mappings added to `acc` in order, those a merge key
    names in its place. -/
def decodeEntries : Nat → List (Node × Node) → List (Value × Value) → DecodeM (List (Value × Value))
  | 0, _, acc => return acc
  | _, [], acc => return acc
  | fuel + 1, (k, v) :: rest, acc => do
    if k.isMergeKey then
      let merged ← mappingEntries fuel v true
      let acc ← decodeEntries fuel merged acc
      decodeEntries fuel rest acc
    else
      let key ← decodeNode fuel k
      let value ← decodeNode fuel v
      decodeEntries fuel rest (setEntry (keyString key) value acc)

/-- The entries of the mapping a node stands for: through anchors, which it
    does not record, and aliases; a sequence of mappings when `merge`, in
    turn. Any other node is a fault. -/
def mappingEntries : Nat → Node → Bool → DecodeM (List (Node × Node))
  | 0, _, _ => throw { msg := "document too deep", mark := none }
  | fuel + 1, n, merge =>
    match n with
    | .mapping es _ => return es
    | .anchor _ v _ => mappingEntries fuel v merge
    | .reference name _ _ => do
      match (← get).nodes.find? (·.1 == name) with
      | some (_, node) => mappingEntries fuel node merge
      | none => throw { msg := "cannot find anchor by alias name " ++ name, mark := none }
    | .sequence items m =>
      if merge then mappingEntriesAll fuel items
      else throw { msg := "sequence was used where mapping is expected", mark := some m }
    | n => throw { msg := n.kindName ++ " was used where mapping is expected", mark := some n.mark }

/-- The entries of the mappings of a sequence's items, in turn. -/
def mappingEntriesAll : Nat → List Node → DecodeM (List (Node × Node))
  | 0, _ => return []
  | _, [] => return []
  | fuel + 1, n :: ns => do
    let es ← mappingEntries fuel n false
    let rest ← mappingEntriesAll fuel ns
    return es ++ rest

end

/-- Forget the anchors kept, as a new document starts. -/
def forgetAnchors : DecodeM Unit := modify fun s => { s with values := [], nodes := [] }

/-- The documents of a text made values in turn, and the node of the first
    whose value is not null or whose node is null (see the module header),
    with the state after them. -/
def firstDocument (fuel : Nat) (docs : List (Option Node)) : DecodeM (Option Node) := do
  let mut first : Option Node := none
  for d in docs do
    match d with
    | none => pure ()
    | some n =>
      forgetAnchors
      let v ← decodeNode fuel n
      if first.isNone && (!(match v with | .nil => true | _ => false) || n.isNull) then
        first := some n
  return first

/-- The value of the first document of a YAML text, with storage numbers
    from `next`, and the next free number. -/
def decode (text : String) (next : Nat) : Except String (Value × Nat) :=
  let (tokens, parsed) := parseText text
  let fuel := 4 * (tokens.size + 1)
  match parsed with
  | .error e => .error (e.render tokens)
  | .ok docs =>
    match (firstDocument fuel docs >>= fun first => match first with
        | none => pure Value.nil
        | some n => do forgetAnchors; decodeNode fuel n).run { next } with
    | .ok (v, s) => .ok (v, s.next)
    | .error e => .error (e.render tokens)

/-- The value of the first document of a YAML text that must be a mapping,
    none for a document without content or null (see the module header). -/
def decodeMapping (text : String) (next : Nat) : Except String (Option Value × Nat) :=
  let (tokens, parsed) := parseText text
  let fuel := 4 * (tokens.size + 1)
  match parsed with
  | .error e => .error (e.render tokens)
  | .ok docs =>
    let run : DecodeM (Option Value) := do
      match ← firstDocument fuel docs with
      | none => return none
      | some n =>
        if n.isNull then return none
        forgetAnchors
        let _ ← mappingEntries fuel n false
        return some (← decodeNode fuel n)
    match run.run { next } with
    | .ok (v, s) => .ok (v, s.next)
    | .error e => .error (e.render tokens)

end ExprTree.Yaml
