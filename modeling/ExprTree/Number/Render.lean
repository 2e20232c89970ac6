import ExprTree.Number.Shortest

/-!
# Number text

The texts of integers and binary floating point numbers used by the formats of
this library. A float is printed from its shortest decimal (`shortest`) in one
of three layouts:

* *positional*: digits with a decimal point where needed, `1234.5`;
* *scientific*: one digit, the others after a point, and an exponent with a
  sign and at least two digits, `1.2345e+03`;
* *general*: scientific when the decimal exponent is below `-4` or at least
  `6`, positional otherwise.

`generalText` is the general layout with `NaN`, `+Inf` and `-Inf`;
`interchangeText` is the layout of data interchange text, which has no special
values.
-/

namespace ExprTree.Number

/-- The decimal digit character of `d < 10`. -/
def digitChar (d : Nat) : Char := Char.ofNat ('0'.toNat + d)

/-- The text of the digits `ds`. -/
def digitsText (ds : List Nat) : String := String.ofList (ds.map digitChar)

/-- The decimal text of a natural number. -/
def natText (n : Nat) : String := String.ofList (Nat.toDigits 10 n)

/-- The decimal text of an integer, with a minus sign when negative. -/
def intText (i : Int) : String := if i < 0 then "-" ++ natText i.natAbs else natText i.natAbs

/-- The lowercase hexadecimal text of `n`, padded with zeros to `width`
    digits. -/
def hexText (width : Nat) (n : Nat) : String :=
  let s := String.ofList (Nat.toDigits 16 n)
  String.ofList (List.replicate (width - s.length) '0') ++ s

/-- The positional text of a decimal with `prec` digits after the point (none
    and no point when `prec = 0`). -/
def positional (d : Decimal) (prec : Nat) : String :=
  let nd := d.digits.length
  let at_ (i : Int) : Nat := if 0 ≤ i ∧ i < nd then d.digits.getD i.toNat 0 else 0
  let intPart :=
    if d.point > 0 then
      digitsText ((List.range d.point.toNat).map fun i => at_ (Int.ofNat i))
    else "0"
  let frac :=
    if prec > 0 then
      "." ++ digitsText ((List.range prec).map fun i => at_ (d.point + Int.ofNat i))
    else ""
  intPart ++ frac

/-- The scientific text of a decimal with `prec` digits after the point, the
    exponent marked by `mark` with its sign and at least two digits. -/
def scientific (d : Decimal) (prec : Nat) (mark : Char) : String :=
  let first := match d.digits with
    | [] => 0
    | x :: _ => x
  let rest := (List.range prec).map fun i => d.digits.getD (i + 1) 0
  let mant := if prec > 0 then natText first ++ "." ++ digitsText rest else natText first
  let exp : Int := if d.digits.isEmpty then 0 else d.point - 1
  let sign := if exp < 0 then "-" else "+"
  let e := natText exp.natAbs
  let e := if e.length < 2 then "0" ++ e else e
  mant ++ String.singleton mark ++ sign ++ e

/-- The general text of a decimal: scientific when the exponent is below `-4` or
    at least `6`, positional otherwise, with all its digits. -/
def general (d : Decimal) : String :=
  let nd := d.digits.length
  let exp := d.point - 1
  if nd ≠ 0 ∧ (exp < -4 ∨ exp ≥ 6) then scientific d (nd - 1) 'e'
  else positional d (nd - d.point).toNat

/-- A float as a sign and a decimal, or a special value. -/
inductive FloatText where
  | nan
  | inf (neg : Bool)
  | num (neg : Bool) (d : Decimal)

/-- The shortest decimal of the double with bits `b`, read in format `f` (the
    value must belong to `f`). -/
def FloatText.ofBits (f : Format) (b : UInt64) : FloatText :=
  let u := unpack b
  match u.mag with
  | .nan => .nan
  | .infinite => .inf u.neg
  | .finite m e => .num u.neg (shortest f m e)

/-- The general text of a float with the special values `NaN`, `+Inf` and
    `-Inf`: the shortest form of the number in its format. -/
def generalText (f : Format) (b : UInt64) : String :=
  match FloatText.ofBits f b with
  | .nan => "NaN"
  | .inf neg => if neg then "-Inf" else "+Inf"
  | .num neg d => (if neg then "-" else "") ++ general d

/-- The text of a float in data interchange text: positional from `1e-6` up to
    below `1e21` and for zero, scientific otherwise with an exponent of as few
    digits as it needs; `none` for the special values, which have no text. -/
def interchangeText (f : Format) (b : UInt64) : Option String :=
  match FloatText.ofBits f b with
  | .nan => none
  | .inf _ => none
  | .num neg d =>
    let sign := if neg then "-" else ""
    let nd := d.digits.length
    let exp := d.point - 1
    if nd ≠ 0 ∧ (exp < -6 ∨ exp ≥ 21) then
      let s := scientific d (nd - 1) 'e'
      -- an exponent `e-0d` is written `e-d`
      let cs := s.toList
      let n := cs.length
      let s :=
        if n ≥ 4 ∧ cs.getD (n - 4) ' ' = 'e' ∧ cs.getD (n - 3) ' ' = '-' ∧ cs.getD (n - 2) ' ' = '0'
        then String.ofList (cs.take (n - 2) ++ [cs.getD (n - 1) '0'])
        else s
      some (sign ++ s)
    else some (sign ++ positional d (nd - d.point).toNat)

end ExprTree.Number
