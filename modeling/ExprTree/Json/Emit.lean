import ExprTree.Data.Value
import ExprTree.Number.Render
import ExprTree.Data.Show

/-!
# JSON text

Host values written as JSON (`Value.toJsonTree`, then `JsonTree.compact` or
`JsonTree.indented`):

* nil, nil pointers, nil slices and nil maps are `null`; pointers are their
  target;
* integers are decimal; floats are positional from `1e-6` up to below
  `1e21`, else scientific, in their shortest form for their width; NaN and
  the infinities have no JSON text;
* byte slices are base64 text; other slices and arrays are lists;
* maps are objects keyed by their text or integer keys, sorted; maps of
  other keys have no JSON text;
* structs are objects of their exported fields in order, the fields of an
  embedded struct in its place (none for a nil embedded pointer);
* functions have no JSON text.

Texts escape quotes, backslashes, control characters, U+2028 and U+2029, and
in the HTML-safe style also `<`, `>` and `&` (`JsonStyle`).
-/

namespace ExprTree

/-- A JSON value, numbers as their text. -/
inductive JsonTree where
  | null
  | bool (b : Bool)
  | num (text : String)
  | str (s : String)
  | arr (items : List JsonTree)
  | obj (fields : List (String × JsonTree))
  deriving Inhabited, Repr

/-- How texts are escaped. -/
structure JsonStyle where
  /-- Whether `<`, `>` and `&` are escaped. -/
  html : Bool := true
  /-- Whether backspace and form feed take their short escapes. -/
  shortControls : Bool := true

namespace JsonStyle

/-- The escape of one character. -/
def escapeChar (st : JsonStyle) (c : Char) : String :=
  let hex4 (n : Nat) := "\\u" ++ Number.hexText 4 n
  if c == '"' then "\\\""
  else if c == '\\' then "\\\\"
  else if c == '\n' then "\\n"
  else if c == '\r' then "\\r"
  else if c == '\t' then "\\t"
  else if st.shortControls && c == '\x08' then "\\b"
  else if st.shortControls && c == '\x0c' then "\\f"
  else if c.toNat < 0x20 then hex4 c.toNat
  else if st.html && (c == '<' || c == '>' || c == '&') then hex4 c.toNat
  else if c.toNat == 0x2028 || c.toNat == 0x2029 then hex4 c.toNat
  else String.singleton c

/-- A text as a JSON string. -/
def quote (st : JsonStyle) (s : String) : String :=
  "\"" ++ String.join (s.toList.map st.escapeChar) ++ "\""

end JsonStyle

namespace JsonTree

mutual

/-- The compact text of a JSON value. -/
def compact (st : JsonStyle) : JsonTree → String
  | null => "null"
  | bool b => if b then "true" else "false"
  | num t => t
  | str s => st.quote s
  | arr xs => "[" ++ ",".intercalate (compactAll st xs) ++ "]"
  | obj fs => "\x7b" ++ ",".intercalate (compactFields st fs) ++ "\x7d"

/-- The compact texts of values. -/
def compactAll (st : JsonStyle) : List JsonTree → List String
  | [] => []
  | x :: xs => compact st x :: compactAll st xs

/-- The compact texts `"k":v` of object members. -/
def compactFields (st : JsonStyle) : List (String × JsonTree) → List String
  | [] => []
  | (k, v) :: fs => (st.quote k ++ ":" ++ compact st v) :: compactFields st fs

end

mutual

/-- The indented text of a JSON value at nesting `level`, each level one
    `indent` deeper. -/
def indentedAt (st : JsonStyle) (indent : String) (level : Nat) : JsonTree → String
  | arr [] => "[]"
  | obj [] => "\x7b\x7d"
  | arr (x :: xs) =>
    "[\n" ++ ",\n".intercalate (indentedAll st indent (level + 1) (x :: xs)) ++
      "\n" ++ String.join (List.replicate level indent) ++ "]"
  | obj (f :: fs) =>
    "\x7b\n" ++ ",\n".intercalate (indentedFields st indent (level + 1) (f :: fs)) ++
      "\n" ++ String.join (List.replicate level indent) ++ "\x7d"
  | t => compact st t

/-- The indented items of a list at nesting `level`. -/
def indentedAll (st : JsonStyle) (indent : String) (level : Nat) : List JsonTree → List String
  | [] => []
  | x :: xs =>
    (String.join (List.replicate level indent) ++ indentedAt st indent level x) ::
      indentedAll st indent level xs

/-- The indented members of an object at nesting `level`. -/
def indentedFields (st : JsonStyle) (indent : String) (level : Nat) :
    List (String × JsonTree) → List String
  | [] => []
  | (k, v) :: fs =>
    (String.join (List.replicate level indent) ++ st.quote k ++ ": " ++ indentedAt st indent level v) ::
      indentedFields st indent level fs

end

/-- The indented text of a JSON value. -/
def indented (st : JsonStyle) (indent : String) (t : JsonTree) : String := indentedAt st indent 0 t

end JsonTree

/-- The base64 text of bytes, padded. -/
def base64 (bytes : List Nat) : String :=
  let alphabet := "ABCDEFGHIJKLMNOPQRSTUVWXYZabcdefghijklmnopqrstuvwxyz0123456789+/".toList
  let sym (n : Nat) := alphabet.getD (n % 64) '='
  let rec go : List Nat → List Char
    | [] => []
    | [a] => [sym (a / 4), sym ((a % 4) * 16), '=', '=']
    | [a, b] => [sym (a / 4), sym ((a % 4) * 16 + b / 16), sym ((b % 16) * 4), '=']
    | a :: b :: d :: rest =>
      [sym (a / 4), sym ((a % 4) * 16 + b / 16), sym ((b % 16) * 4 + d / 64), sym (d % 64)] ++ go rest
  String.ofList (go bytes)

namespace Value

/-- The JSON number text of a float of format `f`, or the text of the
    special value that has none. -/
def jsonFloat (f : Number.Format) (bits : UInt64) : Except String String :=
  match Number.interchangeText f bits with
  | some t => .ok t
  | none => .error ("json: unsupported value: " ++ Number.generalText f bits)

/-- The fault of a type that has no JSON text. -/
def unsupportedType (t : Ty) : String := "json: unsupported type: " ++ t.name

/-- The key text of a map key. -/
def jsonKey (_c : Catalog) (mapTy : Ty) (k : Value) : Except String String :=
  match k with
  | .str _ s => .ok s.text
  | .int _ n => .ok (Number.intText n)
  | _ => .error (unsupportedType mapTy)

mutual

/-- The JSON value of a host value (see the module header). -/
def toJsonTree (c : Catalog) : Value → Except String JsonTree
  | nil => .ok .null
  | bool _ b => .ok (.bool b)
  | int _ n => .ok (.num (Number.intText n))
  | float t b => (jsonFloat (floatFormat c t) b).map .num
  | str _ s => .ok (.str s.text)
  | slice _ _ none => .ok .null
  | slice t _ (some xs) =>
    match c.underlying t with
    | .other (.slice e) =>
      if c.kind e == .uint && c.underlying e == .other (.uint .size8) then
        .ok (.str (base64 (xs.map fun x => match x with
          | .int _ n => n.toNat
          | _ => 0)))
      else (toJsonAll c xs).map .arr
    | _ => (toJsonAll c xs).map .arr
  | array _ xs => (toJsonAll c xs).map .arr
  | map _ _ none => .ok .null
  | map t _ (some es) => do
    match c.underlying t with
    | .other (.map k _) =>
      if c.kind k == .string || c.kind k == .int || c.kind k == .uint then
        let fs ← toJsonEntries c t es
        return .obj (fs.mergeSort fun a b => a.1 < b.1)
      else throw (unsupportedType t)
    | _ => throw (unsupportedType t)
  | struct t fs => (toJsonFields c (c.fields t) fs).map .obj
  | ptr _ none => .ok .null
  | ptr _ (some (_, v)) => toJsonTree c v
  | func t => .error (unsupportedType t)
  | time t => .ok (.str t.rfc3339)

/-- The JSON values of a list of values. -/
def toJsonAll (c : Catalog) : List Value → Except String (List JsonTree)
  | [] => .ok []
  | v :: vs => do return (← toJsonTree c v) :: (← toJsonAll c vs)

/-- The members of the JSON object of map entries. -/
def toJsonEntries (c : Catalog) (t : Ty) : List (Value × Value) → Except String (List (String × JsonTree))
  | [] => .ok []
  | (k, v) :: es => do return (← jsonKey c t k, ← toJsonTree c v) :: (← toJsonEntries c t es)

/-- The members of the JSON object of struct fields, exported fields only,
    embedded structs inlined. -/
def toJsonFields (c : Catalog) : List Field → List Value → Except String (List (String × JsonTree))
  | f :: fs, v :: vs => do
    let rest ← toJsonFields c fs vs
    if f.embedded then
      match v with
      | .ptr _ none => return rest
      | .ptr _ (some (_, .struct t inner)) | .struct t inner =>
        let own ← toJsonFields c (c.fields t) inner
        return own ++ rest
      | _ => return rest
    else if f.exported then return (f.name, ← toJsonTree c v) :: rest
    else return rest
  | _, _ => .ok []

end

/-- The compact JSON text of a value in the given style. -/
def toJson (c : Catalog) (st : JsonStyle) (v : Value) : Except String String :=
  (toJsonTree c v).map (·.compact st)

/-- The JSON text of a value indented by `indent` per level, HTML-safe. -/
def toJsonIndented (c : Catalog) (indent : String) (v : Value) : Except String String :=
  (toJsonTree c v).map (·.indented {} indent)

end Value

end ExprTree
