import ExprTree.Data.Ty
import ExprTree.Number.Binary
import ExprTree.Text.Moment
import ExprTree.Text.Bytes

/-!
# Host values

A host value is the nil interface or a value of a dynamic type (`Value`).
Slots of an interface type (elements of `[]any`, a field `V any`) hold the
dynamic value itself, or `nil`; slots of other types hold values of exactly
that type, so a nil pointer in a slot of type `any` is a pointer, not `nil`.

Slices, maps and pointers refer to storage: each carries a reference number,
equal for two values exactly when they share their storage (a pointer's is its
address), which is what makes two pointers equal and lets deep equality stop
at shared storage. Values are immutable, so a value met twice carries the
same references both times.

Equality of dynamic values (`Value.strictEq`) is the host's: nil equals only
nil; values of different dynamic types differ; a comparable type whose values
hold nothing incomparable compares with `==` (`Value.shallowEq`: numbers by
value, a NaN unequal to itself, pointers by address); otherwise by
`Value.deepEq`, which compares contents and stops at shared storage.
-/

namespace ExprTree

open Number

/-- A host value. -/
inductive Value where
  /-- The nil interface: no dynamic type. -/
  | nil
  | bool (ty : Ty) (b : Bool)
  /-- An integer of a signed or unsigned integer type, within its range. -/
  | int (ty : Ty) (n : Int)
  /-- A float, as the bits of the double it equals. -/
  | float (ty : Ty) (bits : UInt64)
  /-- A string, as its bytes. -/
  | str (ty : Ty) (s : HostString)
  /-- A slice: its storage and its items, `none` for the nil slice. -/
  | slice (ty : Ty) (ref : Nat) (items : Option (List Value))
  | array (ty : Ty) (items : List Value)
  /-- A map: its storage and its entries in storage order, `none` for the
      nil map. -/
  | map (ty : Ty) (ref : Nat) (entries : Option (List (Value × Value)))
  /-- A struct value, its fields in declaration order. -/
  | struct (ty : Ty) (fields : List Value)
  /-- A pointer: the address and the value there, `none` when nil. -/
  | ptr (ty : Ty) (target : Option (Nat × Value))
  /-- A nil function. -/
  | func (ty : Ty)
  /-- A moment, of type `time.Time`. -/
  | time (t : Text.Moment)
  deriving Repr, Inhabited

namespace Value

/-- The dynamic type of a value, none for nil. -/
def ty? : Value → Option Ty
  | nil => none
  | bool t _ | int t _ | float t _ | str t _ | slice t _ _ | array t _ | map t _ _
  | struct t _ | ptr t _ | func t => some t
  | time _ => some (.named "time.Time")

/-- A string of type `string`. -/
def ofString (s : String) : Value := .str .string (.ofString s)

/-- A boolean of type `bool`. -/
def ofBool (b : Bool) : Value := .bool .bool b

/-- An integer of type `int`. -/
def ofInt (n : Int) : Value := .int (.int .word) n

/-- Whether a value is a nil pointer, map, slice or function. -/
def isNilRef : Value → Bool
  | slice _ _ none | map _ _ none | ptr _ none | func _ => true
  | _ => false

mutual

/-- The number of values a value is built of, itself included. -/
def size : Value → Nat
  | slice _ _ (some xs) | array _ xs | struct _ xs => sizeAll xs + 1
  | map _ _ (some es) => sizeEntries es + 1
  | ptr _ (some (_, v)) => size v + 1
  | _ => 1

/-- The sizes of a list of values, added. -/
def sizeAll : List Value → Nat
  | [] => 0
  | v :: vs => size v + sizeAll vs

/-- The sizes of the keys and values of map entries, added. -/
def sizeEntries : List (Value × Value) → Nat
  | [] => 0
  | (k, v) :: es => size k + size v + sizeEntries es

end

mutual

/-- Whether a value holds nothing incomparable where `==` looks: the dynamic
    values of its interface slots, through structs and arrays, are of
    comparable types. -/
def comparableValue (c : Catalog) : Value → Bool
  | struct _ fs => comparableAll c fs
  | array _ xs => comparableAll c xs
  | _ => true

/-- `comparableValue` of every value of a list, and of its dynamic type. -/
def comparableAll (c : Catalog) : List Value → Bool
  | [] => true
  | v :: vs =>
    (match v.ty? with
      | some t => c.isComparable t
      | none => true) && comparableValue c v && comparableAll c vs

end

mutual

/-- The host's `==` on two values of one comparable type. -/
def shallowEq : Value → Value → Bool
  | nil, nil => true
  | bool _ a, bool _ b => a == b
  | int _ a, int _ b => a == b
  | float _ a, float _ b => floatEq a b
  | str _ a, str _ b => a == b
  | time a, time b => a == b
  | ptr _ a, ptr _ b => a.map (·.1) == b.map (·.1)
  | array _ xs, array _ ys => shallowAll xs ys
  | struct _ xs, struct _ ys => shallowAll xs ys
  | _, _ => false

/-- `shallowEq` item by item, of interface slots by dynamic type first. -/
def shallowAll : List Value → List Value → Bool
  | [], [] => true
  | x :: xs, y :: ys => x.ty? == y.ty? && shallowEq x y && shallowAll xs ys
  | _, _ => false

end

mutual

/-- Deep equality of two values of one type: contents compared, shared
    storage equal without looking, a NaN unequal to itself, functions equal
    only when both nil. -/
def deepEq : Value → Value → Bool
  | nil, nil => true
  | bool _ a, bool _ b => a == b
  | int _ a, int _ b => a == b
  | float _ a, float _ b => floatEq a b
  | str _ a, str _ b => a == b
  | func _, func _ => true
  | time a, time b => a == b
  | ptr _ none, ptr _ none => true
  | ptr _ (some (a, x)), ptr _ (some (b, y)) => a == b || deepEq x y
  | slice _ _ none, slice _ _ none => true
  | slice _ a (some xs), slice _ b (some ys) =>
    xs.length == ys.length && (a == b || deepAll xs ys)
  | array _ xs, array _ ys => deepAll xs ys
  | struct _ xs, struct _ ys => deepAll xs ys
  | map _ _ none, map _ _ none => true
  | map _ a (some xs), map _ b (some ys) =>
    xs.length == ys.length && (a == b || deepEntries xs ys)
  | _, _ => false

/-- `deepEq` item by item, of interface slots by dynamic type first. -/
def deepAll : List Value → List Value → Bool
  | [], [] => true
  | x :: xs, y :: ys => x.ty? == y.ty? && deepEq x y && deepAll xs ys
  | _, _ => false

/-- Whether every entry of `xs` has its key in `ys`, with a deeply equal
    value there. -/
def deepEntries : List (Value × Value) → List (Value × Value) → Bool
  | [], _ => true
  | (k, v) :: xs, ys =>
    (match lookupEntry k ys with
      | some w => v.ty? == w.ty? && deepEq v w
      | none => false) && deepEntries xs ys

/-- The value of the key `k` in entries `ys`, keys compared with `==`. -/
def lookupEntry (k : Value) : List (Value × Value) → Option Value
  | [] => none
  | (k', v) :: ys => if k.ty? == k'.ty? && shallowEq k k' then some v else lookupEntry k ys

end

/-- The host's equality of two dynamic values (see the module header). -/
def strictEq (c : Catalog) (l r : Value) : Bool :=
  match l.ty?, r.ty? with
  | none, none => true
  | some lt, some rt =>
    lt == rt &&
      (if c.isComparable lt && comparableValue c l then shallowEq l r else deepEq l r)
  | _, _ => false

end Value

end ExprTree
