import ExprTree.Data.Show
import ExprTree.Text.Quote

/-!
# Value source and quoted text

Two more texts of a host value, those messages about values of the wrong
type show.

The source text (`Value.sourceText`) writes a value as a composite literal:

* strings quoted, signed integers in decimal, unsigned ones in hexadecimal
  after `0x`, floats in their shortest general form, booleans as words;
* slices and arrays as their type and their items in braces, separated by a
  comma and a blank (`[]interface {}{"a", 0x1}`), maps likewise with `k:v`
  entries sorted by key, a nil slice or map as its type and `(nil)`;
* a nil item of an interface slot as `interface {}(nil)`, and the nil
  interface alone as `<nil>`.

The quoted text (`Value.quotedText`) quotes every string and writes every
integer as the quoted character of its code, `'\x01'` (a code beyond
Unicode as the replacement character); slices and maps are bracketed as in
the plain text, and a value of any other type is marked as one that cannot
be quoted: `%!q(bool=true)`, `%!q(<nil>)`.
-/

namespace ExprTree

open Number

/-- The type of the items of a slice or array type; the empty interface for
    other types. -/
def elemOf : Ty → Ty
  | .slice e | .array _ e => e
  | _ => .any

/-- The key and value types of a map type; the empty interface for other
    types. -/
def entryOf : Ty → Ty × Ty
  | .map k v => (k, v)
  | _ => (.any, .any)

namespace Value

mutual

/-- The source text of a value held in a slot of type `slot` (see the module
    header). -/
def sourceAt (c : Catalog) (slot : Ty) : Value → String
  | nil => slot.name ++ "(nil)"
  | bool _ b => if b then "true" else "false"
  | int t n => match c.underlying t with
    | .other (.uint _) => "0x" ++ hexText 0 n.toNat
    | _ => intText n
  | float t bits => generalText (floatFormat c t) bits
  | str _ s => Text.quoteBytes s.bytes
  | slice t _ none => t.name ++ "(nil)"
  | slice t _ (some xs) => t.name ++ "\x7b" ++ sourceAll c (elemOf t) xs ++ "\x7d"
  | array t xs => t.name ++ "\x7b" ++ sourceAll c (elemOf t) xs ++ "\x7d"
  | map t _ none => t.name ++ "(nil)"
  | map t _ (some es) =>
    let (kt, vt) := entryOf t
    let sorted := (sourceEntries c kt vt es).mergeSort fun a b => keyLt a.1 b.1
    t.name ++ "\x7b" ++ ", ".intercalate (sorted.map (·.2)) ++ "\x7d"
  | struct t fs => t.name ++ "\x7b" ++ sourceAll c .any fs ++ "\x7d"
  | ptr t none => "(" ++ t.name ++ ")(nil)"
  | ptr t (some (addr, _)) => "(" ++ t.name ++ ")(0x" ++ hexText 0 (0xc000010000 + 16 * addr) ++ ")"
  | func t => "(" ++ t.name ++ ")(nil)"
  | time t => t.source

/-- The source texts of items in slots of type `slot`, separated by a comma
    and a blank. -/
def sourceAll (c : Catalog) (slot : Ty) : List Value → String
  | [] => ""
  | [v] => sourceAt c slot v
  | v :: vs => sourceAt c slot v ++ ", " ++ sourceAll c slot vs

/-- The keys of map entries with the source texts `k:v` of the entries. -/
def sourceEntries (c : Catalog) (kt vt : Ty) : List (Value × Value) → List (Value × String)
  | [] => []
  | (k, v) :: es => (k, sourceAt c kt k ++ ":" ++ sourceAt c vt v) :: sourceEntries c kt vt es

end

/-- The source text of a value (see the module header). -/
def sourceText (c : Catalog) : Value → String
  | nil => "<nil>"
  | v => sourceAt c .any v

mutual

/-- The quoted text of a value (see the module header). -/
def quotedText (c : Catalog) : Value → String
  | nil => "%!q(<nil>)"
  | bool _ b => "%!q(bool=" ++ (if b then "true" else "false") ++ ")"
  | int _ n => Text.quoteRune (if n < 0 then 0x110000 else n.toNat)
  | float t bits => "%!q(" ++ t.name ++ "=" ++ generalText (floatFormat c t) bits ++ ")"
  | str _ s => Text.quoteBytes s.bytes
  | slice _ _ none => "[]"
  | slice _ _ (some xs) => "[" ++ quotedAll c xs ++ "]"
  | array _ xs => "[" ++ quotedAll c xs ++ "]"
  | map _ _ none => "map[]"
  | map _ _ (some es) =>
    let sorted := (quotedEntries c es).mergeSort fun a b => keyLt a.1 b.1
    "map[" ++ " ".intercalate (sorted.map (·.2)) ++ "]"
  | v => "%!q(" ++ ((v.ty?.map Ty.name).getD "<nil>") ++ "=" ++ v.text c ++ ")"

/-- The quoted texts of values separated by blanks. -/
def quotedAll (c : Catalog) : List Value → String
  | [] => ""
  | [v] => quotedText c v
  | v :: vs => quotedText c v ++ " " ++ quotedAll c vs

/-- The keys of map entries with the quoted texts `k:v` of the entries. -/
def quotedEntries (c : Catalog) : List (Value × Value) → List (Value × String)
  | [] => []
  | (k, v) :: es => (k, quotedText c k ++ ":" ++ quotedText c v) :: quotedEntries c es

end

end Value

end ExprTree
