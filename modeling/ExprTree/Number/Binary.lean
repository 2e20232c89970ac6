/-!
# Binary floating point

The IEEE 754 binary interchange formats of 64 and 32 bits, as exact values.
A finite number is `(-1)^neg · m · 2^e` with a significand `m` of at most
`precision` bits and an exponent `e` no lower than `minExp`; numbers with a
full-width significand are normal, the others subnormal.

A value is held as the 64 bits of a double: a single precision number widens
to a double exactly, so both formats share one representation, and only
rounding (`Format.round`) and printing consult the narrower format.

`Format.round` is the rounding of an exact positive rational `n / d · 2^k` to
the nearest number of a format, a tie going to the even significand, and
overflowing to infinity above the largest finite number.
-/

namespace ExprTree.Number

/-- The number of bits of `n`: `0` for `0`, else `⌊log₂ n⌋ + 1`. -/
def bitLength (n : Nat) : Nat := if n = 0 then 0 else n.log2 + 1

/-- An IEEE 754 binary interchange format. -/
structure Format where
  /-- Significand bits, the hidden one included. -/
  precision : Nat
  /-- Bits of the biased exponent field. -/
  expBits : Nat
  deriving DecidableEq, Repr

namespace Format

/-- Double precision: 53 significand bits, 11 exponent bits. -/
def double : Format := ⟨53, 11⟩

/-- Single precision: 24 significand bits, 8 exponent bits. -/
def single : Format := ⟨24, 8⟩

/-- The exponent bias. -/
def bias (f : Format) : Int := (Nat.pow 2 (f.expBits - 1) : Int) - 1

/-- The exponent of the unit of the least significand bit of a subnormal
    number: `-1074` for doubles, `-149` for singles. -/
def minExp (f : Format) : Int := 1 - f.bias - (f.precision - 1 : Nat)

/-- The exponent of the unit of the least significand bit of the largest
    numbers: `971` for doubles, `104` for singles. -/
def maxExp (f : Format) : Int := f.bias - (f.precision - 1 : Nat)

end Format

/-- A number of a binary format, apart from its sign: not a number, infinity,
    or the finite value `m · 2^e`. -/
inductive Magnitude where
  | nan
  | infinite
  | finite (m : Nat) (e : Int)
  deriving DecidableEq, Repr

/-- A double split into its sign and magnitude. -/
structure Unpacked where
  /-- Whether the sign bit is set. -/
  neg : Bool
  /-- The magnitude. -/
  mag : Magnitude
  deriving DecidableEq, Repr

/-- The sign and magnitude of the double with bits `b`. -/
def unpack (b : UInt64) : Unpacked :=
  let neg := b >>> 63 == 1
  let ex := ((b >>> 52) &&& 0x7FF).toNat
  let frac := (b &&& 0xFFFFFFFFFFFFF).toNat
  if ex = 0x7FF then
    ⟨neg, if frac = 0 then .infinite else .nan⟩
  else if ex = 0 then
    ⟨neg, .finite frac (-1074)⟩
  else
    ⟨neg, .finite (frac + 0x10000000000000) (ex - 1075 : Int)⟩

/-- Shift `m · 2^e` to the significand width of doubles when it has fewer
    bits, keeping its value. -/
def widen (m : Nat) (e : Int) : Nat × Int :=
  let b := bitLength m
  if b < 53 then (m <<< (53 - b), e - (53 - b : Nat)) else (m, e)

/-- The bits of the double `(-1)^neg · m · 2^e`, which must be a double: a
    significand of at most 53 bits and an exponent from `-1074` to `971`
    after normalisation. -/
def packFinite (neg : Bool) (m : Nat) (e : Int) : UInt64 :=
  let sign : UInt64 := if neg then 0x8000000000000000 else 0
  if m = 0 then sign
  else
    let (m', e') := widen m e
    if e' < -1074 then
      sign ||| (m' >>> (-1074 - e').toNat).toUInt64
    else
      sign ||| ((e' + 1075).toNat.toUInt64 <<< 52) ||| (m' - 0x10000000000000).toUInt64

/-- The bits of positive infinity. -/
def infBits : UInt64 := 0x7FF0000000000000

/-- The bits of the quiet not-a-number that arithmetic produces. -/
def nanBits : UInt64 := 0x7FF8000000000001

/-- The bits of a double from its sign and magnitude. -/
def pack (u : Unpacked) : UInt64 :=
  match u.mag with
  | .nan => nanBits
  | .infinite => (if u.neg then 0x8000000000000000 else 0) ||| infBits
  | .finite m e => packFinite u.neg m e

/-- The quotient `n / d` rounded to the nearest integer, a tie going to the
    even one. -/
def roundHalfEven (n d : Nat) : Nat :=
  let q := n / d
  let r := n % d
  if 2 * r > d then q + 1
  else if 2 * r = d then (if q % 2 = 1 then q + 1 else q)
  else q

/-- `n · 2^s / d` as a numerator and denominator of naturals. -/
def scaled (n d : Nat) (s : Int) : Nat × Nat :=
  if 0 ≤ s then (n <<< s.toNat, d) else (n, d <<< (-s).toNat)

namespace Format

/-- The number of `f` nearest to `n / d · 2^k` (for `n, d > 0`): a tie goes to
    the even significand; above the largest finite number the result is
    infinite; a result below the least subnormal may be zero. -/
def round (f : Format) (n d : Nat) (k : Int) : Magnitude :=
  -- `n / d` lies in `[2^(l-1), 2^(l+1))`
  let l : Int := (bitLength n : Int) - bitLength d
  let s0 : Int := l + k - f.precision
  let q0 := (scaled n d (k - s0)).1 / (scaled n d (k - s0)).2
  -- the significand `q0` has `precision` or `precision + 1` bits
  let s1 : Int := if q0 ≥ Nat.pow 2 f.precision then s0 + 1 else s0
  let s := max s1 f.minExp
  let (num, den) := scaled n d (k - s)
  let q := roundHalfEven num den
  let (q, s) := if q ≥ Nat.pow 2 f.precision then (q / 2, s + 1) else (q, s)
  if s > f.maxExp then .infinite else .finite q s

end Format

/-- The double of the exact value `(-1)^neg · n / d · 2^k` rounded to format
    `f`, as bits of a double (a single widens exactly). -/
def roundToBits (f : Format) (neg : Bool) (n d : Nat) (k : Int) : UInt64 :=
  if n = 0 then packFinite neg 0 0 else pack ⟨neg, f.round n d k⟩

/-- The double nearest to the decimal `(-1)^neg · digits · 10^exp`, rounded
    to format `f`. -/
def ofDecimal (f : Format) (neg : Bool) (digits : Nat) (exp : Int) : UInt64 :=
  if 0 ≤ exp then roundToBits f neg (digits * Nat.pow 10 exp.toNat) 1 0
  else roundToBits f neg digits (Nat.pow 10 (-exp).toNat) 0

/-- Whether the double with bits `b` is not a number. -/
def isNaN (b : UInt64) : Bool := (unpack b).mag == .nan

/-- Whether the double with bits `b` is infinite. -/
def isInfinite (b : UInt64) : Bool := (unpack b).mag == .infinite

/-- Equality of doubles as numbers: a NaN equals nothing, and the two zeros
    are equal. -/
def floatEq (a b : UInt64) : Bool :=
  match (unpack a).mag, (unpack b).mag with
  | .nan, _ => false
  | _, .nan => false
  | .finite 0 _, .finite 0 _ => true
  | _, _ => a == b

/-- The double nearest to the integer `i`. -/
def ofInt (i : Int) : UInt64 := ofDecimal Format.double (i < 0) i.natAbs 0

/-- The exact value of a finite double as a signed fraction `num / 2^k`
    (`k ≥ 0`), or `none` for infinities and NaN. -/
def exactValue (b : UInt64) : Option (Int × Nat) :=
  let u := unpack b
  match u.mag with
  | .finite m e =>
    let v : Int := if u.neg then -(m : Int) else m
    if 0 ≤ e then some (v * (Nat.pow 2 e.toNat : Int), 0) else some (v, (-e).toNat)
  | _ => none

/-- The integer a double converts to by truncation toward zero, when it lies
    strictly between `-2^63 - 1` and `2^63`; any other double (NaN, the
    infinities and the large magnitudes) converts to `-2^63`, the value the
    processor produces for an out-of-range conversion. -/
def truncToInt64 (b : UInt64) : Int :=
  match exactValue b with
  | some (v, k) =>
    let t : Int := v.tdiv (Nat.pow 2 k : Int)
    if -0x8000000000000000 ≤ t ∧ t < 0x8000000000000000 then t else -0x8000000000000000
  | none => -0x8000000000000000

/-- Whether a double is a whole number (NaN and the infinities are not; the
    infinities are whole for the truncation test `x = trunc x`). -/
def isIntegral (b : UInt64) : Bool :=
  match (unpack b).mag with
  | .nan => false
  | .infinite => true
  | .finite m e => 0 ≤ e || m % Nat.pow 2 (-e).toNat = 0

end ExprTree.Number
