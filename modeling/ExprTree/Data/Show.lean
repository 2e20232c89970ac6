import ExprTree.Data.Value
import ExprTree.Number.Render

/-!
# Value text

The plain text of a host value (`Value.text`), as literals of expressions
show it:

* numbers in decimal, floats in their shortest general form for their own
  width (`1e+06`, `0.1`), booleans as `true` and `false`, strings as they are;
* slices and arrays as `[a b c]`, maps as `map[k:v k:v]` sorted by key,
  structs as `{a b c}`, a nil slot as `<nil>`;
* a pointer to a struct, slice, array or map as `&` and its target, at the
  outermost level only; other non-nil pointers by address;
* values of a labelled integer type by their label, `Catalog.labels`;
* moments as `2006-01-02 15:04:05 -0700 MST` (`Text.Moment.text`).

The detailed text (`Value.detailText`) is the plain text with the fields of
structs named, `{X:1 Y:2}`.

`Value.literal` is the text of a value as an expression literal: `null` for
nil and for nil pointers, maps, slices and functions, the text otherwise.
-/

namespace ExprTree

open Number

namespace Value

/-- The format of floats of type `t`. -/
def floatFormat (c : Catalog) (t : Ty) : Format :=
  match c.underlying t with
  | .other (.float true) => Format.single
  | _ => Format.double

/-- The label of an integer of a labelled type. -/
def label (names : List String × String) (n : Int) : String :=
  if 0 ≤ n then names.1.getD n.toNat names.2 else names.2

/-- The order of map keys in text: numbers by value (a NaN first), strings
    and booleans in their order; keys of different types by their kinds. -/
def keyLt (a b : Value) : Bool :=
  match a, b with
  | int _ x, int _ y => x < y
  | str _ x, str _ y => x < y
  | bool _ x, bool _ y => !x && y
  | float _ x, float _ y =>
    match exactValue x, exactValue y with
    | some (p, k), some (q, l) => p * (Nat.pow 2 l : Int) < q * (Nat.pow 2 k : Int)
    | none, some _ => isNaN x || (unpack x).neg
    | some _, none => !isNaN y && !(unpack y).neg
    | none, none => isNaN x && !isNaN y
  | _, _ => rank a < rank b
where
  /-- The place of a value's form among keys of different forms. -/
  rank : Value → Nat
    | nil => 0
    | bool _ _ => 1
    | int _ _ => 2
    | float _ _ => 3
    | str _ _ => 4
    | _ => 5

/-- Whether a pointer to the value shows as `&` and the value. -/
def opensAt : Value → Bool
  | struct _ _ | slice _ _ _ | array _ _ | map _ _ _ => true
  | _ => false

mutual

/-- The text of a value nested at `depth`, its struct fields named when
    `named` holds (see the module header). -/
def textAt (c : Catalog) (named : Bool) (depth : Nat) : Value → String
  | nil => "<nil>"
  | bool _ b => if b then "true" else "false"
  | int t n => match c.labels t with
    | some names => label names n
    | none => intText n
  | float t bits => generalText (floatFormat c t) bits
  | str _ s => s.text
  | slice _ _ none => "[]"
  | slice _ _ (some xs) => "[" ++ textAll c named (depth + 1) xs ++ "]"
  | array _ xs => "[" ++ textAll c named (depth + 1) xs ++ "]"
  | map _ _ none => "map[]"
  | map _ _ (some es) =>
    let sorted := (entryTexts c named (depth + 1) es).mergeSort fun a b => keyLt a.1 b.1
    "map[" ++ " ".intercalate (sorted.map (·.2)) ++ "]"
  | struct t fs =>
    let names := if named then (c.fields t).map (·.name ++ ":") else []
    "\x7b" ++ fieldsText c named (depth + 1) names fs ++ "\x7d"
  | ptr _ none => "<nil>"
  | ptr _ (some (addr, v)) =>
    if depth = 0 && opensAt v then "&" ++ textAt c named (depth + 1) v
    else "0x" ++ hexText 0 (0xc000010000 + 16 * addr)
  | func _ => "<nil>"
  | time t => t.text

/-- The texts of values separated by blanks. -/
def textAll (c : Catalog) (named : Bool) (depth : Nat) : List Value → String
  | [] => ""
  | [v] => textAt c named depth v
  | v :: vs => textAt c named depth v ++ " " ++ textAll c named depth vs

/-- The texts of struct fields separated by blanks, each after its name
    from `names` while names last. -/
def fieldsText (c : Catalog) (named : Bool) (depth : Nat) (names : List String) :
    List Value → String
  | [] => ""
  | [v] => names.headD "" ++ textAt c named depth v
  | v :: vs => names.headD "" ++ textAt c named depth v ++ " " ++
    fieldsText c named depth names.tail vs

/-- The keys of map entries with the texts `k:v` of the entries. -/
def entryTexts (c : Catalog) (named : Bool) (depth : Nat) :
    List (Value × Value) → List (Value × String)
  | [] => []
  | (k, v) :: es =>
    (k, textAt c named depth k ++ ":" ++ textAt c named depth v) :: entryTexts c named depth es

end

/-- The plain text of a value (see the module header). -/
def text (c : Catalog) (v : Value) : String := textAt c false 0 v

/-- The text of a value with the fields of structs named (see the module
    header). -/
def detailText (c : Catalog) (v : Value) : String := textAt c true 0 v

/-- The text of a value as an expression literal: `null` for nil and nil
    references, the plain text otherwise. -/
def literal (c : Catalog) (v : Value) : String :=
  match v with
  | nil => "null"
  | v => if v.isNilRef then "null" else text c v

end Value

end ExprTree
