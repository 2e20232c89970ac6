import ExprTree.Number.Binary

/-!
# Shortest decimal form

The decimal with the fewest significant digits that rounds back to a given
binary number, and of those the nearest to it, a tie going to the even last
digit.

A finite positive number `v = m · 2^e` of a format rounds back from every real
of the interval between the midpoints to its two neighbours; the midpoints
belong to the interval when `m` is even, since a tie rounds to the even
significand. For `n = 1, 2, …` the decimals of `n` significant digits nearest
to `v` from below and from above are tested against the interval in exact
integer arithmetic, and the first `n` with a hit wins: a decimal of `n` digits
in the interval is one of those two, since the interval holds `v`.
-/

namespace ExprTree.Number

/-- A decimal `0.d₁d₂…dₙ × 10^point`, with digits `d₁ ≠ 0` and `dₙ ≠ 0`, or
    the zero decimal with no digits. -/
structure Decimal where
  /-- The significant digits, most significant first. -/
  digits : List Nat
  /-- The position of the decimal point relative to the first digit. -/
  point : Int
  deriving DecidableEq, Repr

/-- The decimal digits of `n`, most significant first (`[]` for zero). -/
def decimalDigits (n : Nat) : List Nat :=
  (Nat.toDigits 10 n).map (fun c => c.toNat - '0'.toNat) |>.dropWhile (· = 0)

/-- The comparison of `a · 10^k` with `b · 2^t`. -/
def compareScaled (a : Nat) (k : Int) (b : Nat) (t : Int) : Ordering :=
  let l := a * (if 0 ≤ k then Nat.pow 10 k.toNat else 1) *
    (if t < 0 then Nat.pow 2 (-t).toNat else 1)
  let r := b * (if 0 ≤ t then Nat.pow 2 t.toNat else 1) *
    (if k < 0 then Nat.pow 10 (-k).toNat else 1)
  compare l r

/-- The greatest `c` with `c · 10^k ≤ m · 2^e`. -/
def floorScaled (m : Nat) (e : Int) (k : Int) : Nat :=
  let num := m * (if 0 ≤ e then Nat.pow 2 e.toNat else 1) *
    (if k < 0 then Nat.pow 10 (-k).toNat else 1)
  let den := (if 0 ≤ k then Nat.pow 10 k.toNat else 1) *
    (if e < 0 then Nat.pow 2 (-e).toNat else 1)
  num / den

/-- Lower `x` while `10^x > m · 2^e`, at most `fuel` times. -/
def lowerExponent (m : Nat) (e : Int) : Nat → Int → Int
  | 0, x => x
  | fuel + 1, x => if compareScaled 1 x m e == .gt then lowerExponent m e fuel (x - 1) else x

/-- Raise `x` while `10^(x+1) ≤ m · 2^e`, at most `fuel` times. -/
def raiseExponent (m : Nat) (e : Int) : Nat → Int → Int
  | 0, x => x
  | fuel + 1, x => if compareScaled 1 (x + 1) m e != .gt then raiseExponent m e fuel (x + 1) else x

/-- The exponent `E` with `10^E ≤ m · 2^e < 10^(E+1)`, for `m > 0`: an estimate
    through `log₁₀ 2 ≈ 0.30103`, off by at most two, corrected by exact
    comparisons. -/
def decimalExponent (m : Nat) (e : Int) : Int :=
  let est : Int := ((bitLength m : Int) - 1 + e) * 30103 / 100000
  raiseExponent m e 4 (lowerExponent m e 4 est)

/-- The significand and exponent of `m · 2^e` in format `f` in canonical form:
    the exponent as small as the format allows for this value. The value must
    be a number of the format. -/
def Format.canonical (f : Format) (m : Nat) (e : Int) : Nat × Int :=
  let s := max (e + bitLength m - f.precision) f.minExp
  if s ≤ e then (m <<< (e - s).toNat, s) else (m >>> (s - e).toNat, s)

/-- The rounding interval of the positive number `m · 2^e` of format `f` (in
    canonical form), as the numerators over `2^(e-2)` of its ends: the lower
    gap is half as wide at a power of two above the subnormals. -/
def roundingInterval (f : Format) (m : Nat) (e : Int) : Nat × Nat :=
  let lower := if m = Nat.pow 2 (f.precision - 1) ∧ e > f.minExp then 4 * m - 1 else 4 * m - 2
  (lower, 4 * m + 2)

/-- Whether `c · 10^k` lies in the rounding interval of `m · 2^e` in format `f`,
    its ends included when `m` is even. -/
def inInterval (f : Format) (m : Nat) (e : Int) (c : Nat) (k : Int) : Bool :=
  let (lo, hi) := roundingInterval f m e
  let inclusive := m % 2 = 0
  let aboveLo := match compareScaled c k lo (e - 2) with
    | .gt => true
    | .eq => inclusive
    | .lt => false
  let belowHi := match compareScaled c k hi (e - 2) with
    | .lt => true
    | .eq => inclusive
    | .gt => false
  aboveLo && belowHi

/-- The decimal `c · 10^k` with trailing zeros of `c` removed. -/
def Decimal.ofScaled (c : Nat) (k : Int) : Decimal :=
  let ds := decimalDigits c
  let trimmed := (ds.reverse.dropWhile (· = 0)).reverse
  ⟨trimmed, k + ds.length⟩

/-- The shortest, then nearest, decimal `c · 10^k` of the positive number
    `m · 2^e` (canonical in format `f`), searching `n` significant digits from
    `n` upward for at most `fuel` steps. -/
def shortestFrom (f : Format) (m : Nat) (e : Int) (big : Int) : Nat → Nat → Nat × Int
  | 0, n =>
    let k := big - n + 1
    (floorScaled m e k, k)
  | fuel + 1, n =>
    let k := big - n + 1
    let lo := floorScaled m e k
    let hi := lo + 1
    let okLo := inInterval f m e lo k
    let okHi := inInterval f m e hi k
    if okLo && okHi then
      -- the nearer of the two; `v` against their midpoint `(2 lo + 1) · 10^k / 2`
      match compareScaled (2 * lo + 1) k (8 * m) (e - 2) with
      | .gt => (lo, k)
      | .lt => (hi, k)
      | .eq => if lo % 2 = 0 then (lo, k) else (hi, k)
    else if okLo then (lo, k)
    else if okHi then (hi, k)
    else shortestFrom f m e big fuel (n + 1)

/-- The shortest decimal that rounds back to the finite number `m · 2^e` of
    format `f`, nearest of those, a tie to the even digit; zero has no
    digits. -/
def shortest (f : Format) (m : Nat) (e : Int) : Decimal :=
  if m = 0 then ⟨[], 0⟩
  else
    let (m, e) := f.canonical m e
    let big := decimalExponent m e
    let (c, k) := shortestFrom f m e big 20 1
    Decimal.ofScaled c k

end ExprTree.Number
