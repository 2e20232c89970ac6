import ExprTree.Text.Quote

/-!
# Timestamps

An instant (`Instant`) written in a layout (`Instant.format`), in UTC. A
layout is an example of the reference time, Monday, January 2 15:04:05 2006,
written as wanted: each element of the reference time found in the layout,
left to right, stands for that element of the instant, and the text between
elements is kept as it is.

* `2006` and `06` are the year, `January`, `Jan`, `01` and `1` the month,
  `Monday` and `Mon` the weekday, `02`, `_2` and `2` the day (`_2` padded
  with a blank), `002` and `__2` the day of the year;
* `15` is the hour of the day, `03` and `3` the hour of a half day, `PM` and
  `pm` the half; `04` and `4` the minute, `05` and `5` the second;
* a dot or a comma followed by only zeros (only nines) is the fraction of the
  second to as many digits (its trailing zeros dropped, and the dot with it
  when nothing is left);
* `MST` is the zone's name, `-0700`, `-07:00`, `-07`, `-070000`, `-07:00:00`
  its offset, and the same led by `Z` instead of `-` write `Z` for UTC.

`Jan` and `Mon` followed by a lower-case letter are text, as in `Monkey`.
-/

namespace ExprTree.Text

/-- An instant: whole seconds since 1970-01-01 00:00:00 UTC and the
    nanoseconds past them. -/
structure Instant where
  seconds : Int
  nanos : Nat
  deriving Repr, Inhabited, DecidableEq

/-- One element of a layout. -/
inductive TimeField where
  | longMonth | month | numMonth | zeroMonth
  | longWeekDay | weekDay
  | day | underDay | zeroDay | underYearDay | zeroYearDay
  | hour | hour12 | zeroHour12
  | minute | zeroMinute | second | zeroSecond
  | longYear | year
  | upperHalf | lowerHalf
  | zoneName
  /-- A numeric offset: with `Z` for UTC or not, its form (`0700`, `07:00`,
      `07`, `070000`, `07:00:00`). -/
  | offset (iso : Bool) (form : String)
  /-- A fraction of a second: trailing zeros dropped or not, its digits. -/
  | fraction (trim : Bool) (digits : Nat) (sep : Char)
  deriving Repr, DecidableEq

/-- A piece of a layout: text kept as it is, or an element. -/
inductive LayoutPiece where
  | text (s : Char)
  | field (f : TimeField)
  deriving Repr

/-- Whether a list of characters starts with a text. -/
def hasPrefix (cs : List Char) (p : String) : Bool := p.toList.isPrefixOf cs

/-- Whether the characters start with a lower-case letter. -/
def lowerNext : List Char → Bool
  | c :: _ => 'a' ≤ c && c ≤ 'z'
  | [] => false

/-- Whether the characters start with a digit. -/
def digitNext : List Char → Bool
  | c :: _ => c.isDigit
  | [] => false

/-- The element at the start of a layout and the characters it takes, if
    one starts there (see the module header). -/
def stampAt (cs : List Char) : Option (TimeField × Nat) :=
  let offsets (iso : Bool) : Option (TimeField × Nat) :=
    let forms := ["070000", "07:00:00", "0700", "07:00", "07"]
    (forms.find? fun f => hasPrefix (cs.drop 1) f).map fun f => (.offset iso f, f.length + 1)
  match cs with
  | 'J' :: _ =>
    if hasPrefix cs "January" then some (.longMonth, 7)
    else if hasPrefix cs "Jan" && !lowerNext (cs.drop 3) then some (.month, 3)
    else none
  | 'M' :: _ =>
    if hasPrefix cs "Monday" then some (.longWeekDay, 6)
    else if hasPrefix cs "Mon" && !lowerNext (cs.drop 3) then some (.weekDay, 3)
    else if hasPrefix cs "MST" then some (.zoneName, 3)
    else none
  | '0' :: c :: rest =>
    if c == '1' then some (.zeroMonth, 2)
    else if c == '2' then some (.zeroDay, 2)
    else if c == '3' then some (.zeroHour12, 2)
    else if c == '4' then some (.zeroMinute, 2)
    else if c == '5' then some (.zeroSecond, 2)
    else if c == '6' then some (.year, 2)
    else if c == '0' && rest.head? == some '2' then some (.zeroYearDay, 3)
    else none
  | '1' :: c :: _ => if c == '5' then some (.hour, 2) else some (.numMonth, 1)
  | '1' :: _ => some (.numMonth, 1)
  | '2' :: _ => if hasPrefix cs "2006" then some (.longYear, 4) else some (.day, 1)
  | '_' :: _ =>
    if hasPrefix cs "_2" && !hasPrefix cs "_2006" then some (.underDay, 2)
    else if hasPrefix cs "__2" then some (.underYearDay, 3)
    else none
  | '3' :: _ => some (.hour12, 1)
  | '4' :: _ => some (.minute, 1)
  | '5' :: _ => some (.second, 1)
  | 'P' :: 'M' :: _ => some (.upperHalf, 2)
  | 'p' :: 'm' :: _ => some (.lowerHalf, 2)
  | '-' :: _ => offsets false
  | 'Z' :: _ => offsets true
  | sep :: c :: rest =>
    if (sep == '.' || sep == ',') && (c == '0' || c == '9') then
      let run := (c :: rest).takeWhile (· == c)
      if digitNext ((c :: rest).drop run.length) then none
      else some (.fraction (c == '9') run.length sep, run.length + 1)
    else none
  | _ => none

/-- A layout as its pieces, read left to right (see the module header); `_2006`
    is a blank-led year only after its underscore is taken as text. -/
def parseLayout (cs : List Char) : List LayoutPiece :=
  match _h : cs with
  | [] => []
  | c :: rest =>
    if hasPrefix cs "_2006" then .text '_' :: .field .longYear :: parseLayout (cs.drop 5)
    else match stampAt cs with
      | some (s, n) => .field s :: parseLayout (cs.drop (max n 1))
      | none => .text c :: parseLayout rest
termination_by cs.length
decreasing_by
  all_goals subst _h; simp only [List.length_drop, List.length_cons]; omega

/-- The date of a count of days since 1970-01-01: year, month and day, by
    eras of 400 years of 146097 days each, the years of an era counted from
    March so that the leap day ends them. -/
def civil (days : Int) : Int × Nat × Nat :=
  let z := days + 719468
  let era := z / 146097
  let doe := z - era * 146097
  let yoe := (doe - doe / 1460 + doe / 36524 - doe / 146096) / 365
  let y := yoe + era * 400
  let doy := doe - (365 * yoe + yoe / 4 - yoe / 100)
  let mp := (5 * doy + 2) / 153
  let d := doy - (153 * mp + 2) / 5 + 1
  let m := if mp < 10 then mp + 3 else mp - 9
  ((if m ≤ 2 then y + 1 else y), m.toNat, d.toNat)

/-- Whether a year is a leap year. -/
def leapYear (y : Int) : Bool := y % 4 == 0 && (y % 100 != 0 || y % 400 == 0)

/-- The day of the year, from one, of a date. -/
def yearDay (y : Int) (m d : Nat) : Nat :=
  let before := [31, 28, 31, 30, 31, 30, 31, 31, 30, 31, 30, 31].take (m - 1)
  before.foldl (· + ·) 0 + d + (if m > 2 && leapYear y then 1 else 0)

/-- The names of the months. -/
def monthNames : List String :=
  ["January", "February", "March", "April", "May", "June", "July", "August", "September",
    "October", "November", "December"]

/-- The names of the weekdays, from Sunday. -/
def weekDayNames : List String :=
  ["Sunday", "Monday", "Tuesday", "Wednesday", "Thursday", "Friday", "Saturday"]

/-- A number in at least `width` digits, led by zeros. -/
def zeroPad (width : Nat) (n : Nat) : String :=
  let s := toString n
  String.ofList (List.replicate (width - s.length) '0') ++ s

/-- A number in at least `width` characters, led by blanks. -/
def blankPad (width : Nat) (n : Nat) : String :=
  let s := toString n
  String.ofList (List.replicate (width - s.length) ' ') ++ s

/-- A year in at least four digits, a minus sign before a year before one. -/
def yearText (y : Int) : String :=
  if y < 0 then "-" ++ zeroPad 4 y.natAbs else zeroPad 4 y.toNat

/-- The fraction of a second of `nanos` (see the module header). -/
def secondFraction (trim : Bool) (digits : Nat) (sep : Char) (nanos : Nat) : String :=
  let all := (zeroPad 9 nanos).toList.take digits
  let kept := if trim then (all.reverse.dropWhile (· == '0')).reverse else all
  if kept.isEmpty then "" else String.ofList (sep :: kept)

namespace Instant

/-- An element of the reference time, written for an instant in UTC. -/
def element (t : Instant) (f : TimeField) : String :=
  let days := t.seconds / 86400
  let secs := (t.seconds % 86400).toNat
  let (y, m, d) := civil days
  let hour := secs / 3600
  let minute := secs % 3600 / 60
  let second := secs % 60
  let weekDay := ((days + 4) % 7).toNat
  let hour12 := if hour % 12 == 0 then 12 else hour % 12
  match f with
  | .longMonth => monthNames.getD (m - 1) ""
  | .month => String.ofList ((monthNames.getD (m - 1) "").toList.take 3)
  | .numMonth => toString m
  | .zeroMonth => zeroPad 2 m
  | .longWeekDay => weekDayNames.getD weekDay ""
  | .weekDay => String.ofList ((weekDayNames.getD weekDay "").toList.take 3)
  | .day => toString d
  | .underDay => blankPad 2 d
  | .zeroDay => zeroPad 2 d
  | .underYearDay => blankPad 3 (yearDay y m d)
  | .zeroYearDay => zeroPad 3 (yearDay y m d)
  | .hour => zeroPad 2 hour
  | .hour12 => toString hour12
  | .zeroHour12 => zeroPad 2 hour12
  | .minute => toString minute
  | .zeroMinute => zeroPad 2 minute
  | .second => toString second
  | .zeroSecond => zeroPad 2 second
  | .longYear => yearText y
  | .year => zeroPad 2 (y % 100).toNat
  | .upperHalf => if hour ≥ 12 then "PM" else "AM"
  | .lowerHalf => if hour ≥ 12 then "pm" else "am"
  | .zoneName => "UTC"
  | .offset iso form =>
    if iso then "Z"
    else "+" ++ form.replace "07" "00"
  | .fraction trim digits sep => secondFraction trim digits sep t.nanos

/-- An instant written in a layout, in UTC (see the module header). -/
def format (t : Instant) (layout : String) : String :=
  String.join ((parseLayout layout.toList).map fun
    | .text c => String.singleton c
    | .field f => t.element f)

end Instant

end ExprTree.Text
