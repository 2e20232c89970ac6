import ExprTree.Yaml.Scalar
import ExprTree.Data.Show
import ExprTree.Text.Quote

/-!
# YAML text

Host values written as YAML (`Value.toYaml`), in block style or in flow
style.

* nil and nil pointers are `null`, booleans `true` and `false`, integers
  decimal; floats take their shortest general form and a `.0` when that has
  neither point nor exponent, `.inf`, `-.inf` and `.nan` for the special
  values;
* texts are plain unless they must be quoted (`needsQuote`), then in double
  quotes with escapes; a plain text with line breaks is a literal block
  (`|`, `|-` or `|+` by its trailing breaks);
* slices and arrays are sequences, nil slices the empty sequence; maps are
  mappings sorted by the text of their keys, nil maps the empty mapping;
  structs are mappings of their exported fields under their names in lower
  case, an embedded struct under its own;
* functions have no YAML text.

In block style a mapping nested in a mapping is indented deeper by the
indent width (two columns unless said otherwise); a sequence stays at the
column of its key; an item of a sequence follows `- `, its further lines two
columns in. Every block line of a literal is indented by the indent width
past its node's column.
-/

namespace ExprTree.Yaml

/-- A YAML node laid out at a column (counted from 1). -/
inductive Layout where
  /-- A scalar on one line. -/
  | scalar (text : String)
  /-- A text written as a literal block, at a column, its lines indented by
      `indent` past it. -/
  | literal (value : String) (col indent : Nat)
  /-- A mapping at a column: its keys' texts and values. -/
  | mapping (col : Nat) (entries : List (String × Layout))
  /-- A sequence at a column. -/
  | sequence (col : Nat) (items : List Layout)
  deriving Inhabited

/-- The line break a text uses: `\r\n` when all breaks are, `\r` when there
    are more of those than of `\n`, else `\n`. -/
def lineBreak (s : String) : String :=
  let cs := s.toList
  let n := cs.count '\n'
  let r := cs.count '\r'
  let rn := ((cs.zip (cs.drop 1)).filter fun (a, b) => a == '\r' && b == '\n').length
  if n == rn && r == rn then "\r\n" else if r > n then "\r" else "\n"

/-- Whether a text holds a line break, so that it is written as a literal
    block. -/
def isMultiline (s : String) : Bool := (s.splitOn (lineBreak s)).length > 1

/-- The header of a literal block: `|+` when the text ends with two breaks,
    `|` with one, `|-` with none. -/
def literalHeader (s : String) : String :=
  let lb := lineBreak s
  if s.endsWith (lb ++ lb) then "|+" else if s.endsWith lb then "|" else "|-"

/-- `s` without the suffix `t`, if it ends with it. -/
def trimSuffix (s t : String) : String :=
  if s.endsWith t then String.ofList (s.toList.take (s.length - t.length)) else s

/-- The text of a literal block at column `col`: header, then every line
    indented by `width` columns past the column. -/
def literalText (value : String) (col width : Nat) : String :=
  let lb := lineBreak value
  let space := String.ofList (List.replicate (col - 1) ' ')
  let indent := String.ofList (List.replicate width ' ')
  let lines := (value.splitOn lb).map fun l => space ++ indent ++ l
  let block := trimSuffix (trimSuffix (lb.intercalate lines) (lb ++ indent ++ space)) (indent ++ space)
  literalHeader value ++ lb ++ block

/-- The scalar or literal of a text. -/
def textLayout (flow : Bool) (indent col : Nat) (s : String) : Layout :=
  if (if flow then needsQuoteInFlow s else needsQuote s) then .scalar (Text.quote s)
  else if isMultiline s then .literal s col indent
  else .scalar s

/-- The text of a float of format `f`. -/
def floatText (f : Number.Format) (bits : UInt64) : String :=
  if Number.isNaN bits then ".nan"
  else if Number.isInfinite bits then
    if (Number.unpack bits).neg then "-.inf" else ".inf"
  else
    let t := Number.generalText f bits
    if t.contains '.' || t.contains 'e' then t else t ++ ".0"

/-- The text of a key. -/
def keyText (flow : Bool) (k : String) : String :=
  if (if flow then needsQuoteInFlow k else needsQuote k) then Text.quote k else k

/-- Whether a value is written as a mapping: a map or a struct, through
    pointers. -/
def isMappingValue : Value → Bool
  | .map _ _ _ | .struct _ _ => true
  | .ptr _ (some (_, v)) => isMappingValue v
  | _ => false

/-- The column of a mapping value at a mapping of column `col`: a mapping is
    deeper by the indent width. -/
def deeper (indent col : Nat) (v : Value) : Nat := if isMappingValue v then col + indent else col

mutual

/-- The layout of a value at column `col` (see the module header). -/
def layout (c : Catalog) (flow : Bool) (indent col : Nat) : Value → Except String Layout
  | .nil => .ok (.scalar "null")
  | .bool _ b => .ok (.scalar (if b then "true" else "false"))
  | .int _ n => .ok (.scalar (Number.intText n))
  | .float t b => .ok (.scalar (floatText (Value.floatFormat c t) b))
  | .str _ s => .ok (textLayout flow indent col s.text)
  | .slice _ _ none => .ok (.sequence col [])
  | .slice _ _ (some xs) | .array _ xs => (layoutAll c flow indent col xs).map (.sequence col)
  | .map _ _ none => .ok (.mapping col [])
  | .map _ _ (some es) => do
    let entries ← layoutEntries c flow indent col es
    return .mapping col ((entries.mergeSort fun a b => a.1 < b.1).map (·.2))
  | .struct t fs => (layoutFields c flow indent col (c.fields t) fs).map (.mapping col)
  | .ptr _ none => .ok (.scalar "null")
  | .ptr _ (some (_, v)) => layout c flow indent col v
  | .func t => .error ("unknown value type " ++ t.name)
  | .time t => .ok (.scalar t.rfc3339)

/-- The layouts of sequence items. -/
def layoutAll (c : Catalog) (flow : Bool) (indent col : Nat) :
    List Value → Except String (List Layout)
  | [] => .ok []
  | v :: vs => do return (← layout c flow indent col v) :: (← layoutAll c flow indent col vs)

/-- The entries of a mapping of map entries, each with its sort key: a
    text key is written as a text, quoted when it must be and a literal
    block when it has line breaks, any other key as its scalar; a mapping
    value is deeper by the indent width. -/
def layoutEntries (c : Catalog) (flow : Bool) (indent col : Nat) :
    List (Value × Value) → Except String (List (String × String × Layout))
  | [] => .ok []
  | (k, v) :: es => do
    let key := k.text c
    let written := match k with
      | .str _ s => match textLayout flow indent col s.text with
        | .literal v lc w => literalText v lc w
        | _ => keyText flow s.text
      | _ => match layout c flow indent col k with
        | .ok (.scalar t) => t
        | _ => keyText flow key
    let inner ← layout c flow indent (deeper indent col v) v
    return (key, (written, inner)) :: (← layoutEntries c flow indent col es)

/-- The entries of a mapping of struct fields, exported or embedded. -/
def layoutFields (c : Catalog) (flow : Bool) (indent col : Nat) :
    List Field → List Value → Except String (List (String × Layout))
  | f :: fs, v :: vs => do
    let rest ← layoutFields c flow indent col fs vs
    if f.exported || f.embedded then
      return (keyText flow (Text.lower f.name), ← layout c flow indent (deeper indent col v) v) :: rest
    else return rest
  | _, _ => .ok []

end

/-- The lines of a sequence item re-indented under `- ` at column `col`. -/
def itemText (col : Nat) (item : Layout) (text : String) : String :=
  let space := String.ofList (List.replicate (col - 1) ' ')
  let lines := text.splitOn "\n"
  let first := lines.headD ""
  let trimmedFirst := String.ofList (first.toList.dropWhile (· == ' '))
  let diff := first.length - trimmedFirst.length
  let rest := lines.drop 1
  let rest := match item with
    | .literal _ _ _ => rest.map fun (l : String) =>
        if l.startsWith (space ++ "  ") then String.ofList (l.toList.drop (space.length + 2)) else l
    | _ => rest
  let rest := rest.map fun (l : String) =>
    if l.length ≤ diff then "" else space ++ "  " ++ String.ofList (l.toList.drop diff)
  space ++ "- " ++ "\n".intercalate (trimmedFirst :: rest)

mutual

/-- The block text of a layout, without a final line break. -/
def blockText : Layout → String
  | .scalar t => t
  | .literal v col w => literalText v col w
  | .mapping _ [] => "\x7b\x7d"
  | .sequence _ [] => "[]"
  | .mapping col (e :: es) => "\n".intercalate (blockEntries col (e :: es))
  | .sequence col (i :: is) => "\n".intercalate (blockItems col (i :: is))

/-- The block lines of mapping entries at column `col`. -/
def blockEntries (col : Nat) : List (String × Layout) → List String
  | [] => []
  | (k, v) :: es =>
    let space := String.ofList (List.replicate (col - 1) ' ')
    let line := match v with
      | .scalar _ | .literal _ _ _ | .mapping _ [] | .sequence _ [] =>
        space ++ k ++ ": " ++ blockText v
      | _ => space ++ k ++ ":\n" ++ blockText v
    line :: blockEntries col es

/-- The block lines of sequence items at column `col`. -/
def blockItems (col : Nat) : List Layout → List String
  | [] => []
  | i :: is => itemText col i (blockText i) :: blockItems col is

end

mutual

/-- The flow text of a layout. -/
def flowText : Layout → String
  | .scalar t => t
  | .literal v col w => literalText v col w
  | .mapping _ es => "\x7b" ++ ", ".intercalate (flowEntries es) ++ "\x7d"
  | .sequence _ is => "[" ++ ", ".intercalate (flowItems is) ++ "]"

/-- The flow texts of mapping entries. -/
def flowEntries : List (String × Layout) → List String
  | [] => []
  | (k, v) :: es => (k ++ ": " ++ flowText v) :: flowEntries es

/-- The flow texts of sequence items. -/
def flowItems : List Layout → List String
  | [] => []
  | i :: is => flowText i :: flowItems is

end

end ExprTree.Yaml

namespace ExprTree.Value

/-- The YAML document of a value, in flow style when `flow`, else in block
    style indented by `indent` (see the module header). -/
def toYamlWith (c : Catalog) (flow : Bool) (indent : Nat) (v : Value) : Except String String := do
  let l ← Yaml.layout c flow indent 1 v
  return (if flow then Yaml.flowText l else Yaml.blockText l) ++ "\n"

/-- The YAML document of a value, in flow style when `flow`, else in block
    style indented by two columns. -/
def toYaml (c : Catalog) (flow : Bool) (v : Value) : Except String String := toYamlWith c flow 2 v

end ExprTree.Value
