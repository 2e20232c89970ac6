import ExprTree.Data.Value
import ExprTree.Number.Parse
import ExprTree.Number.Render

/-!
# YAML scalars

What a plain YAML scalar means, and which texts must be quoted to keep their
meaning as text.

A plain scalar is (`resolvePlain`) null (`null`, `Null`, `NULL`, `~`), a
boolean (`true`, `false` in those three spellings), an infinity or NaN
(`.inf`, `-.inf`, `.nan` in those spellings), a number (`readNumber`), or
else text.

A number text (`readNumber`) has an optional sign and no leading
underscore, underscores being dropped elsewhere: with one point it is a
float; with a prefix `0x`, `0o`, `0b`, or a leading `0` and more digits, an
integer in base 16, 8, 2 or 8; else a decimal integer. Integers are
unsigned 64-bit, or signed 64-bit when negative. A number out of range is
no value, but still looks like a number.

A text must be quoted (`needsQuote`) when it is empty or a lone `-`, a
reserved word (also the words `y`, `yes`, `on`, `off`, `n`, `no` in their
spellings), looks like a number or a timestamp (`looksLikeTime`), starts
with an indicator character, ends with a colon or blank, or holds `#`, a
backslash, or `: ` or `- `. In flow collections also any of `]`, `}`, `,`,
`'`, `"` and a colon not before `/`.
-/

namespace ExprTree.Yaml

open Number

/-- The words that read as null. -/
def nullWords : List String := ["null", "Null", "NULL", "~"]

/-- The words that read as true. -/
def trueWords : List String := ["true", "True", "TRUE"]

/-- The words that read as false. -/
def falseWords : List String := ["false", "False", "FALSE"]

/-- The words that read as positive infinity. -/
def infWords : List String := [".inf", ".Inf", ".INF"]

/-- The words that read as negative infinity. -/
def negInfWords : List String := ["-.inf", "-.Inf", "-.INF"]

/-- The words that read as NaN. -/
def nanWords : List String := [".nan", ".NaN", ".NAN"]

/-- The words of older YAML booleans, kept as text but quoted. -/
def oldBoolWords : List String :=
  ["y", "Y", "yes", "Yes", "YES", "n", "N", "no", "No", "NO",
    "on", "On", "ON", "off", "Off", "OFF"]

/-- What reading a number text gives. -/
inductive NumberText where
  /-- Not a number. -/
  | none
  /-- A number beyond the range of its type. -/
  | outOfRange
  | value (v : Value)

/-- The unsigned integer of the digits `cs` in base `base`, or whether it
    is out of range. -/
def readUnsigned (base : Nat) (cs : List Char) : NumberText :=
  match readNat base cs with
  | some n => if n < 0x10000000000000000 then .value (.int (.uint .size64) n) else .outOfRange
  | none => .none

/-- The signed integer `-n` of the digits `cs` in base `base`. -/
def readNegative (base : Nat) (cs : List Char) : NumberText :=
  match readNat base cs with
  | some n => if n ≤ 0x8000000000000000 then .value (.int (.int .size64) (-(n : Int))) else .outOfRange
  | none => .none

/-- The float of a text with one point, decimal or hex, read to the nearest
    double. -/
def readDecimal (s : String) : NumberText :=
  match readFloat s with
  | some syn@(.decimal ..) | some syn@(.binary ..) =>
    if syn.overflows Format.double then .outOfRange
    else .value (.float (.float false) (syn.toBits Format.double))
  | some _ => .none
  | none => .none

/-- The number a text reads as (see the module header). -/
def readNumber (s : String) : NumberText :=
  let cs := s.toList
  if cs.isEmpty || cs.head? == some '_' || cs.count '.' > 1 then .none
  else
    let neg := cs.head? == some '-'
    let body := match cs with
      | '+' :: rest => rest
      | _ => cs
    let body := match body with
      | '-' :: rest => rest
      | _ => body
    let body := body.filter (· != '_')
    let dots := cs.count '.'
    let int (base : Nat) (ds : List Char) : NumberText :=
      if neg then readNegative base ds else readUnsigned base ds
    match body with
    | '0' :: 'x' :: ds => int 16 ds
    | '0' :: 'o' :: ds => int 8 ds
    | '0' :: 'b' :: ds => int 2 ds
    | '0' :: d :: ds => if dots == 0 then int 8 (d :: ds)
      else readDecimal (String.ofList ((if neg then ['-'] else []) ++ body))
    | ds => if dots == 1 then readDecimal (String.ofList ((if neg then ['-'] else []) ++ ds))
      else int 10 ds

/-- Whether a text looks like a number, in range or not. -/
def looksNumeric (s : String) : Bool :=
  match readNumber s with
  | .none => false
  | _ => true

/-- The plain scalar's value (see the module header). -/
def resolvePlain (s : String) : Value :=
  if nullWords.contains s then .nil
  else if trueWords.contains s then .ofBool true
  else if falseWords.contains s then .ofBool false
  else if infWords.contains s then .float (.float false) infBits
  else if negInfWords.contains s then .float (.float false) (0x8000000000000000 ||| infBits)
  else if nanWords.contains s then .float (.float false) nanBits
  else match readNumber s with
    | .value v => v
    | _ => .ofString s

/-! ## Timestamps -/

/-- Read one or two digits: the number and the rest. -/
def readShortNum (cs : List Char) : Option (Nat × List Char) :=
  let isD (c : Char) := '0' ≤ c && c ≤ '9'
  match cs with
  | a :: b :: rest =>
    if isD a && isD b then some ((a.toNat - 48) * 10 + (b.toNat - 48), rest)
    else if isD a then some (a.toNat - 48, b :: rest) else none
  | [a] => if isD a then some (a.toNat - 48, []) else none
  | [] => none

/-- Read exactly two digits. -/
def readTwo (cs : List Char) : Option (Nat × List Char) :=
  match cs with
  | a :: b :: rest =>
    if '0' ≤ a && a ≤ '9' && '0' ≤ b && b ≤ '9' then some ((a.toNat - 48) * 10 + (b.toNat - 48), rest)
    else none
  | _ => none

/-- Match a literal character. -/
def expect (c : Char) : List Char → Option (List Char)
  | d :: rest => if c == d then some rest else none
  | [] => none

/-- The days of a month of a year. -/
def daysIn (month year : Nat) : Nat :=
  if month == 2 then
    if year % 4 == 0 && (year % 100 != 0 || year % 400 == 0) then 29 else 28
  else if month == 4 || month == 6 || month == 9 || month == 11 then 30
  else 31

/-- A date `YYYY-MM-DD` (four digits of year, two each of month and day):
    its year, month, day and the rest, the month from 1 to 12. -/
def readDate (cs : List Char) : Option (Nat × Nat × Nat × List Char) := do
  let y ← match cs with
    | a :: b :: c :: d :: rest =>
      if [a, b, c, d].all fun x => '0' ≤ x && x ≤ '9' then
        some (String.ofList [a, b, c, d] |>.toNat!, rest)
      else none
    | _ => none
  let r ← expect '-' y.2
  let (m, r) ← readTwo r
  let r ← expect '-' r
  let (d, r) ← readTwo r
  if 1 ≤ m && m ≤ 12 then some (y.1, m, d, r) else none

/-- A time `h:mm:ss` (one or two digits of hour) with an optional fraction of
    digits after a point or comma: the rest. -/
def readClock (cs : List Char) : Option (List Char) := do
  let (h, r) ← readShortNum cs
  let r ← expect ':' r
  let (mi, r) ← readTwo r
  let r ← expect ':' r
  let (s, r) ← readTwo r
  if h < 24 && mi < 60 && s < 60 then
    match r with
    | c :: d :: rest =>
      if (c == '.' || c == ',') && '0' ≤ d && d ≤ '9' then
        some (rest.dropWhile fun x => '0' ≤ x && x ≤ '9')
      else some r
    | _ => some r
  else none

/-- A zone: `Z`, or a sign and `hh:mm`, at most 24 hours and 60 minutes. -/
def readZone (cs : List Char) : Option (List Char) :=
  match cs with
  | 'Z' :: rest => some rest
  | s :: rest =>
    if s == '+' || s == '-' then do
      let (h, r) ← readTwo rest
      let r ← expect ':' r
      let (m, r) ← readTwo r
      if h ≤ 24 && m ≤ 60 then some r else none
    else none
  | [] => none

/-- Whether a text is an hour and a minute, `h:m`, each of one or two
    digits. -/
def isHourMinute (cs : List Char) : Bool :=
  match readShortNum cs with
  | some (h, ':' :: r) =>
    match readShortNum r with
    | some (m, []) => h < 24 && m < 60
    | _ => false
  | _ => false

/-- Whether a text is a timestamp: a date alone, a date and a time joined by
    blanks, a date and a time with a zone joined by `T` or `t`, or an hour and a
    minute (see `readDate`, `readClock`, `readZone`, `isHourMinute`). -/
def looksLikeTime (s : String) : Bool :=
  let cs := s.toList
  isHourMinute cs ||
  match readDate cs with
  | none => false
  | some (y, m, d, rest) =>
    1 ≤ d && d ≤ daysIn m y &&
      (match rest with
        | [] => true
        | ' ' :: r => readClock (r.dropWhile (· == ' ')) == some []
        | 'T' :: r | 't' :: r => (readClock r >>= readZone) == some []
        | _ => false)

/-! ## Quoting -/

/-- Whether a text must be quoted in block style (see the module header). -/
def needsQuote (s : String) : Bool :=
  let cs := s.toList
  match cs with
  | [] => true
  | ['-'] => true
  | first :: _ =>
    nullWords.contains s || trueWords.contains s || falseWords.contains s ||
    infWords.contains s || negInfWords.contains s || nanWords.contains s ||
    oldBoolWords.contains s || looksNumeric s ||
    "*&[\x7b\x7d],!|>%'\"@ `".toList.contains first ||
    (match cs.getLast? with
      | some l => l == ':' || l == ' '
      | none => false) ||
    looksLikeTime s ||
    (cs.zip (cs.drop 1 ++ ['!'])).any fun (c, n) =>
      c == '#' || c == '\\' || ((c == ':' || c == '-') && n == ' ')

/-- Whether a text must be quoted inside a flow collection. -/
def needsQuoteInFlow (s : String) : Bool :=
  let cs := s.toList
  cs.any (fun c => "]\x7d,'\"".toList.contains c) ||
    (cs.zip (cs.drop 1 ++ ['!'])).any (fun (c, n) => c == ':' && n != '/') ||
    needsQuote s

end ExprTree.Yaml
