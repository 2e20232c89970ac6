import ExprTree.Number.Binary

/-!
# Reading numbers

The number texts this library accepts, read into exact values:

* integers in base 2 to 16 with an optional sign (`readNat`, `readInt`), the
  digits only, without separators;
* floating point texts (`readFloat`): an optional sign, digits with at
  most one point and at least one digit, an optional exponent `e` or `E` with
  an optional sign; digits may be separated by single underscores between
  digits; the words `inf`, `infinity` and `nan` in any case, with an optional
  sign; and hex floats, `0x` or `0X`, hex digits with at most one point and a
  binary exponent `p` or `P` that may not be left out.

A decimal or hex float reads as the double nearest to its exact value
(`FloatSyntax.toBits`), which is infinite above the largest double: a reader
that must refuse such texts checks `FloatSyntax.overflows`.
-/

namespace ExprTree.Number

/-- The value of the digit `c` in base `base`, if it is one. -/
def digitValue (base : Nat) (c : Char) : Option Nat :=
  let v :=
    if '0' ≤ c ∧ c ≤ '9' then some (c.toNat - '0'.toNat)
    else if 'a' ≤ c ∧ c ≤ 'z' then some (c.toNat - 'a'.toNat + 10)
    else if 'A' ≤ c ∧ c ≤ 'Z' then some (c.toNat - 'A'.toNat + 10)
    else none
  match v with
  | some d => if d < base then some d else none
  | none => none

/-- The natural number written by the digits `cs` in base `base`: at least one
    digit and nothing else. -/
def readNat (base : Nat) (cs : List Char) : Option Nat :=
  if cs.isEmpty then none
  else cs.foldl (fun acc c => acc.bind fun n => (digitValue base c).map (n * base + ·)) (some 0)

/-- The integer written by an optional sign and the digits `cs` in base
    `base`. -/
def readInt (base : Nat) (cs : List Char) : Option Int :=
  match cs with
  | '-' :: rest => (readNat base rest).map fun n => -(n : Int)
  | '+' :: rest => (readNat base rest).map fun n => (n : Int)
  | _ => (readNat base cs).map fun n => (n : Int)

/-- A floating point text read exactly: a special value,
    `(-1)^neg · digits · 10^exp`, or `(-1)^neg · digits · 2^exp`. -/
inductive FloatSyntax where
  | nan
  | inf (neg : Bool)
  | decimal (neg : Bool) (digits : Nat) (exp : Int)
  | binary (neg : Bool) (digits : Nat) (exp : Int)
  deriving DecidableEq, Repr

/-- Whether the underscores of a number text each stand between two digits
    (hex digits too when `hex`), the text after a base prefix counting as
    led by a digit. -/
def underscoresBetweenDigits (hex : Bool) (cs : List Char) : Bool :=
  let isD (c : Char) := ('0' ≤ c ∧ c ≤ '9') ∨ (hex ∧ (digitValue 16 c).isSome)
  let rec go : List Char → Char → Bool
    | [], last => last != '_'
    | c :: rest, last =>
      if isD c then go rest '0'
      else if c = '_' then last == '0' && go rest '_'
      else last != '_' && go rest '!'
  go cs (if hex then '0' else '^')

/-- The mantissa part of a number text in base `base`: its digits as a
    number, the count of digits after the point, and the rest of the text.
    Underscores are skipped. -/
def readMantissa (base : Nat) : List Char → Nat → Nat → Bool → Bool → Option (Nat × Nat × List Char × Bool)
  | [], acc, frac, dot, seen => if seen then some (acc, frac, [], dot) else none
  | c :: rest, acc, frac, dot, seen =>
    match digitValue base c with
    | some d => readMantissa base rest (acc * base + d) (if dot then frac + 1 else frac) dot true
    | none =>
      if c = '_' then readMantissa base rest acc frac dot seen
      else if c = '.' ∧ !dot then readMantissa base rest acc frac true seen
      else if seen then some (acc, frac, c :: rest, dot) else none

/-- The exponent part of a number text, after one of the letters `marks`, a
    sign and decimal digits (underscores skipped), which must end the text;
    none stands for zero unless it is `needed`. -/
def readExponent (marks : List Char) (needed : Bool) (cs : List Char) : Option Int :=
  let digitsOf (ds : List Char) : Option Nat :=
    let ds := ds.filter (· ≠ '_')
    if ds.isEmpty ∨ !(ds.all fun c => '0' ≤ c ∧ c ≤ '9') then none else readNat 10 ds
  match cs with
  | [] => if needed then none else some 0
  | c :: rest =>
    if c ∈ marks then
      match rest with
      | '+' :: ds => if ds.head? == some '_' then none else (digitsOf ds).map (fun n => (n : Int))
      | '-' :: ds => if ds.head? == some '_' then none else (digitsOf ds).map (fun n => -(n : Int))
      | ds => if ds.head? == some '_' then none else (digitsOf ds).map (fun n => (n : Int))
    else none

/-- The special value named by a text, in any case: `inf` or `infinity`
    with an optional sign, or `nan` without one. -/
def readSpecial (cs : List Char) : Option FloatSyntax :=
  let low := cs.map Char.toLower
  let (neg, body) := match low with
    | '-' :: r => (true, r)
    | '+' :: r => (false, r)
    | r => (false, r)
  if body = "inf".toList ∨ body = "infinity".toList then some (.inf neg)
  else if low = "nan".toList then some .nan
  else none

/-- The reading of a floating point text (see the module header). -/
def readFloat (s : String) : Option FloatSyntax :=
  let cs := s.toList
  match readSpecial cs with
  | some v => some v
  | none =>
    let (neg, body) := match cs with
      | '-' :: r => (true, r)
      | '+' :: r => (false, r)
      | r => (false, r)
    match body with
    | '0' :: x :: digits@(_ :: _) =>
      if x = 'x' ∨ x = 'X' then
        match readMantissa 16 digits 0 0 false false with
        | none => none
        | some (m, frac, rest, _) =>
          match readExponent ['p', 'P'] true rest with
          | none => none
          | some ex =>
            if ('_' ∈ digits) ∧ !underscoresBetweenDigits true digits then none
            else some (.binary neg m (ex - 4 * frac))
      else readDecimalBody neg body cs
    | _ => readDecimalBody neg body cs
where
  /-- The decimal reading of the text `cs` with sign `neg` and the rest `body`. -/
  readDecimalBody (neg : Bool) (body cs : List Char) : Option FloatSyntax :=
    if body.head? == some '_' then none
    else
      match readMantissa 10 body 0 0 false false with
      | none => none
      | some (m, frac, rest, _) =>
        let mantText := body.take (body.length - rest.length)
        match readExponent ['e', 'E'] false rest with
        | none => none
        | some ex =>
          if ('_' ∈ cs) ∧ !underscoresBetweenDigits false (mantText ++ rest) then none
          else some (.decimal neg m (ex - frac))

/-- The double a floating point syntax denotes. -/
def FloatSyntax.toBits (f : Format) : FloatSyntax → UInt64
  | .nan => nanBits
  | .inf neg => pack ⟨neg, .infinite⟩
  | .decimal neg m e => ofDecimal f neg m e
  | .binary neg m e => roundToBits f neg m 1 e

/-- Whether the syntax is a finite number whose value overflows the format to
    infinity. -/
def FloatSyntax.overflows (f : Format) : FloatSyntax → Bool
  | .decimal neg m e => isInfinite (ofDecimal f neg m e)
  | .binary neg m e => isInfinite (roundToBits f neg m 1 e)
  | _ => false

end ExprTree.Number
