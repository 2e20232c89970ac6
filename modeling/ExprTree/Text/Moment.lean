import ExprTree.Text.Clock

/-!
# Moments

A moment (`Moment`) is an instant seen in a time zone: the zone's offset east
of UTC, in seconds, and its name, empty for a zone known by its offset only.
The zero moment is the first instant of the year 1, in UTC.

* `Moment.text`: `2006-01-02 15:04:05.999999999 -0700 MST`, the fraction of
  the second without its trailing zeros, and left out when zero; a zone
  without a name is written by its offset;
* `Moment.source`: the call that makes the moment;
* `Moment.rfc3339`: `2006-01-02T15:04:05.999999999Z07:00`, the offset `Z` in
  UTC;
* `Moment.read?`: a moment from a YAML timestamp, in one of the forms
  `2006-1-2T15:4:5.999999999Z07:00` (or with `t`),
  `2006-1-2 15:4:5.999999999` and `2006-1-2`: the year in four digits, the
  other fields in one or two, the fraction optional and of any length, a
  zone `Z` for UTC or an offset `±hh:mm`; the moment is in UTC when the
  offset is zero or not given, and in a zone known by its offset otherwise.
-/

namespace ExprTree.Text

/-- An instant seen in a time zone (see the module header). -/
structure Moment where
  instant : Instant
  offset : Int := 0
  zone : String := "UTC"
  deriving Repr, Inhabited, DecidableEq

namespace Moment

/-- The first instant of the year 1, in UTC. -/
def zero : Moment := { instant := ⟨-62135596800, 0⟩ }

/-- The instant whose UTC fields are the moment's fields in its zone. -/
def wall (m : Moment) : Instant := ⟨m.instant.seconds + m.offset, m.instant.nanos⟩

/-- An offset from UTC as `+hhmm`, or `+hh:mm` with `colon`. -/
def offsetText (offset : Int) (colon : Bool) : String :=
  let minutes := offset.natAbs / 60
  (if offset < 0 then "-" else "+") ++ zeroPad 2 (minutes / 60) ++ (if colon then ":" else "") ++
    zeroPad 2 (minutes % 60)

/-- The text of a moment (see the module header). -/
def text (m : Moment) : String :=
  let off := offsetText m.offset false
  m.wall.format "2006-01-02 15:04:05.999999999" ++ " " ++ off ++ " " ++
    (if m.zone.isEmpty then off else m.zone)

/-- A moment in the form of RFC 3339, the fraction of the second without its
    trailing zeros. -/
def rfc3339 (m : Moment) : String :=
  m.wall.format "2006-01-02T15:04:05.999999999" ++
    (if m.offset == 0 then "Z" else offsetText m.offset true)

/-- A moment as the call that makes it:
    `time.Date(2001, time.December, 14, 0, 0, 0, 0, time.UTC)`, a zone without
    a name as `time.Location("")`. -/
def source (m : Moment) : String :=
  let w := m.wall
  let days := w.seconds / 86400
  let secs := (w.seconds % 86400).toNat
  let (y, mo, d) := civil days
  let yText := if y < 0 then "-" ++ toString y.natAbs else toString y.toNat
  "time.Date(" ++ yText ++ ", time." ++ monthNames.getD (mo - 1) "" ++ ", " ++ toString d ++ ", " ++
    toString (secs / 3600) ++ ", " ++ toString (secs % 3600 / 60) ++ ", " ++ toString (secs % 60) ++
    ", " ++ toString w.nanos ++ ", " ++
    (if m.zone == "UTC" then "time.UTC" else "time.Location(" ++ Text.quote m.zone ++ ")") ++ ")"

/-- The number of days since 1970-01-01 of a date, by eras of 400 years of
    146097 days each, the years of an era counted from March. -/
def daysFromCivil (y : Int) (m d : Nat) : Int :=
  let y := if m ≤ 2 then y - 1 else y
  let era := y / 400
  let yoe := y - era * 400
  let mp : Int := if m > 2 then m - 3 else m + 9
  let doy := (153 * mp + 2) / 5 + d - 1
  let doe := yoe * 365 + yoe / 4 - yoe / 100 + doy
  era * 146097 + doe - 719468

/-- The number of days of a month. -/
def monthDays (y : Int) (m : Nat) : Nat :=
  if m == 2 then (if leapYear y then 29 else 28)
  else if m == 4 || m == 6 || m == 9 || m == 11 then 30
  else 31

/-- A number of one or two digits at the start of the characters. -/
def readNum (cs : List Char) : Option (Nat × List Char) :=
  let digit (c : Char) : Nat := c.toNat - '0'.toNat
  match cs with
  | a :: b :: r =>
    if !a.isDigit then none
    else if b.isDigit then some (10 * digit a + digit b, r)
    else some (digit a, b :: r)
  | [a] => if a.isDigit then some (digit a, []) else none
  | [] => none

/-- The characters after a given one at their start. -/
def expectChar (c : Char) : List Char → Option (List Char)
  | d :: r => if c == d then some r else none
  | [] => none

/-- A date `2006-1-2` at the start of the characters: year, month from 1 to
    12, and day. -/
def readDate (cs : List Char) : Option ((Nat × Nat × Nat) × List Char) := do
  let year := cs.take 4
  if year.length < 4 || !year.all Char.isDigit then none
  let y := year.foldl (fun n c => 10 * n + (c.toNat - '0'.toNat)) 0
  let r ← expectChar '-' (cs.drop 4)
  let (mo, r) ← readNum r
  if mo < 1 || mo > 12 then none
  let r ← expectChar '-' r
  let (d, r) ← readNum r
  return ((y, mo, d), r)

/-- The nanoseconds of the digits of a fraction of a second: the first nine,
    padded with zeros. -/
def fractionNanos (digits : List Char) : Nat :=
  let ds := digits.take 9
  let ds := ds ++ List.replicate (9 - ds.length) '0'
  ds.foldl (fun n c => 10 * n + (c.toNat - '0'.toNat)) 0

/-- A time of day `15:4:5` at the start of the characters, with the
    nanoseconds of a fraction after a point or comma. -/
def readClock (cs : List Char) : Option ((Nat × Nat × Nat × Nat) × List Char) := do
  let (h, r) ← readNum cs
  if h ≥ 24 then none
  let r ← expectChar ':' r
  let (mi, r) ← readNum r
  if mi ≥ 60 then none
  let r ← expectChar ':' r
  let (s, r) ← readNum r
  if s ≥ 60 then none
  match r with
  | p :: d :: more =>
    if (p == '.' || p == ',') && d.isDigit then
      let digits := (d :: more).takeWhile Char.isDigit
      return ((h, mi, s, fractionNanos digits), (d :: more).drop digits.length)
    else return ((h, mi, s, 0), r)
  | _ => return ((h, mi, s, 0), r)

/-- A zone at the start of the characters: `Z`, or `±hh:mm` as an offset in
    seconds. -/
def readZone (cs : List Char) : Option (Int × List Char) :=
  match cs with
  | 'Z' :: r => some (0, r)
  | sign :: h1 :: h2 :: ':' :: m1 :: m2 :: r =>
    if !(h1.isDigit && h2.isDigit && m1.isDigit && m2.isDigit) then none
    else
      let hh := 10 * (h1.toNat - '0'.toNat) + (h2.toNat - '0'.toNat)
      let mm := 10 * (m1.toNat - '0'.toNat) + (m2.toNat - '0'.toNat)
      let off : Int := hh * 3600 + mm * 60
      if hh > 24 || mm > 60 then none
      else if sign == '+' then some (off, r)
      else if sign == '-' then some (-off, r)
      else none
  | _ => none

/-- The moment of a date, a time of day and an offset, none when the day is
    not in its month. -/
def ofFields (date : Nat × Nat × Nat) (clock : Nat × Nat × Nat × Nat) (offset : Int) : Option Moment :=
  let (y, mo, d) := date
  let (h, mi, s, ns) := clock
  if d < 1 || d > monthDays y mo then none
  else
    let secs := daysFromCivil y mo d * 86400 + h * 3600 + mi * 60 + s - offset
    some { instant := ⟨secs, ns⟩, offset, zone := if offset == 0 then "UTC" else "" }

/-- A moment from a YAML timestamp (see the module header). -/
def read? (s : String) : Option Moment :=
  let cs := s.toList
  let stamped (sep : Char) : Option Moment := do
    let (date, r) ← readDate cs
    let r ← expectChar sep r
    let (clock, r) ← readClock r
    let (off, r) ← readZone r
    if !r.isEmpty then none
    ofFields date clock off
  let spaced : Option Moment := do
    let (date, r) ← readDate cs
    if r.head? != some ' ' then none
    let (clock, r) ← readClock (r.dropWhile (· == ' '))
    if !r.isEmpty then none
    ofFields date clock 0
  let dated : Option Moment := do
    let (date, r) ← readDate cs
    if !r.isEmpty then none
    ofFields date (0, 0, 0, 0) 0
  (stamped 'T').orElse fun _ => (stamped 't').orElse fun _ => spaced.orElse fun _ => dated

end Moment

end ExprTree.Text
