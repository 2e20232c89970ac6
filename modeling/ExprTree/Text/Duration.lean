import ExprTree.Number.Render

/-!
# Durations as text

A span of time, counted in nanoseconds, as text (`durationText`):

* zero is `0s`;
* below one second, in the largest of nanoseconds (`ns`), microseconds
  (`µs`) and milliseconds (`ms`) of which it holds at least one, as a
  decimal with the trailing zeros of its fraction left out: `1.5ms`, `250ns`;
* from one second on, in hours, minutes and seconds, the hours and minutes
  left out while they are zero and the seconds a decimal as above:
  `1.5s`, `1m0s`, `2h0m3.25s`;
* a negative span is the text of its magnitude after a minus sign.
-/

namespace ExprTree.Text

/-- The decimal fraction of `v / 10 ^ prec` after its point, trailing zeros
    and then the point left out, and the whole part. -/
def fractionText (v prec : Nat) : String × Nat :=
  let frac := v % Nat.pow 10 prec
  if frac = 0 then ("", v / Nat.pow 10 prec)
  else
    let digits := Nat.toDigits 10 frac
    let padded := List.replicate (prec - digits.length) '0' ++ digits
    let kept := (padded.reverse.dropWhile (· == '0')).reverse
    ("." ++ String.ofList kept, v / Nat.pow 10 prec)

/-- The text of a span of time of `ns` nanoseconds (see the module header). -/
def durationText (ns : Int) : String :=
  let u := ns.natAbs
  let sign := if ns < 0 then "-" else ""
  if u = 0 then "0s"
  else if u < 1000000000 then
    let (prec, unit) :=
      if u < 1000 then (0, "ns") else if u < 1000000 then (3, "µs") else (6, "ms")
    let (frac, whole) := fractionText u prec
    sign ++ Nat.repr whole ++ frac ++ unit
  else
    let (frac, secs) := fractionText u 9
    let s := Nat.repr (secs % 60) ++ frac ++ "s"
    let mins := secs / 60
    if mins = 0 then sign ++ s
    else
      let m := Nat.repr (mins % 60) ++ "m" ++ s
      let hours := mins / 60
      if hours = 0 then sign ++ m else sign ++ Nat.repr hours ++ "h" ++ m

end ExprTree.Text
