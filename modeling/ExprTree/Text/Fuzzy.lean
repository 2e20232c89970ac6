import ExprTree.Text.Unicode

/-!
# Fuzzy matching

Ranking the candidates that contain the characters of a pattern in order,
equal up to case, by how well they match, to suggest names close to a
misspelt one (`suggest`).

A candidate is read character by character, at byte offsets. Each character
that matches the current pattern character scores

* `10` at the start of the candidate,
* `20` when a lower case letter precedes an upper case one,
* `20` after a separator (`/`, `-`, `_`, blank, `.`, a backslash),
* an adjacency bonus right after the previous match: twice the bonus so far
  plus `5`, the bonus growing with every such match scored.

The best scoring occurrence is taken for a pattern character once the next
candidate character is the next pattern character, or the candidate ends; the
first taken pays `5` per byte before it, at most `15`. Every byte of the
candidate not taken costs `1`. Candidates are ranked by score, highest first,
and among equal scores the later candidate first.
-/

namespace ExprTree.Text

/-- The separators after which a match scores a bonus. -/
def isSeparator (c : Char) : Bool :=
  c == '/' || c == '-' || c == '_' || c == ' ' || c == '.' || c == '\\'

/-- The character with code point zero, standing for "none". -/
def noChar : Char := Char.ofNat 0

/-- The state of matching a pattern against one candidate. -/
structure MatchState where
  /-- The position of the current pattern character. -/
  pat : Nat := 0
  /-- The best score of an occurrence of the current pattern character. -/
  best : Int := -1
  /-- The offset of that occurrence, `-1` when none was found yet. -/
  found : Int := -1
  /-- The adjacency bonus so far. -/
  adjacent : Int := 0
  /-- The previous character of the candidate. -/
  last : Char := noChar
  /-- The offset of the previous character. -/
  lastAt : Nat := 0
  /-- The offsets taken, the latest first. -/
  taken : List Nat := []
  /-- The score so far. -/
  score : Int := 0

/-- The step of matching `pattern` at the candidate character `c` at offset
    `j`, followed by `next` (`noChar` at the end). -/
def MatchState.step (pattern : List Char) (st : MatchState) (j : Nat) (c next : Char) :
    MatchState :=
  let st :=
    if equalFoldChar c (pattern.getD st.pat noChar) then
      let base : Int := (if j == 0 then 10 else 0) +
        (if isLower st.last && isUpper c then 20 else 0) +
        (if j != 0 && isSeparator st.last then 20 else 0)
      let (s, adjacent) := match st.taken with
        | lastMatch :: _ =>
          let bonus := if lastMatch == st.lastAt then st.adjacent * 2 + 5 else 0
          (base + bonus, st.adjacent + bonus)
        | [] => (base, st.adjacent)
      if s > st.best then { st with best := s, found := j, adjacent := adjacent }
      else { st with adjacent := adjacent }
    else st
  let nextPat := if st.pat + 1 < pattern.length then pattern.getD (st.pat + 1) noChar else noChar
  let st :=
    if (equalFoldChar nextPat next || next == noChar) && st.found > -1 then
      let best :=
        if st.taken.isEmpty then st.best + max (st.found * -5) (-15) else st.best
      { st with score := st.score + best, taken := st.found.toNat :: st.taken, best := -1,
                pat := st.pat + 1 }
    else st
  { st with lastAt := j, last := c }

/-- The characters of a text with their byte offsets. -/
def withOffsets (s : String) : List (Nat × Char) :=
  let (_, out) := s.toList.foldl (fun (acc : Nat × List (Nat × Char)) c =>
    (acc.1 + c.utf8Size, (acc.1, c) :: acc.2)) (0, [])
  out.reverse

/-- Run the matching steps over the characters of a candidate. -/
def runSteps (pattern : List Char) : MatchState → List (Nat × Char) → MatchState
  | st, [] => st
  | st, [(j, c)] => st.step pattern j c noChar
  | st, (j, c) :: (k, d) :: rest => runSteps pattern (st.step pattern j c d) ((k, d) :: rest)

/-- The score of `candidate` for `pattern`, if every pattern character was
    matched. -/
def matchScore (pattern : List Char) (candidate : String) : Option Int :=
  let st := runSteps pattern {} (withOffsets candidate)
  if st.taken.length == pattern.length then
    some (st.score + st.taken.length - candidate.utf8ByteSize)
  else none

/-- Insert `x` into a list ranked by score, behind no element of a higher
    score: an element of an equal score comes after it. -/
def insertRanked (x : Int × String) : List (Int × String) → List (Int × String)
  | [] => [x]
  | y :: ys => if x.1 ≥ y.1 then x :: y :: ys else y :: insertRanked x ys

/-- The candidates matching `pattern`, in order, with their scores. -/
def scored (pattern : String) (candidates : List String) : List (Int × String) :=
  candidates.filterMap fun s => (matchScore pattern.toList s).map (·, s)

/-- The matching candidates ranked by score (see the module header). -/
def rank (pattern : String) (candidates : List String) : List String :=
  if pattern.isEmpty then []
  else ((scored pattern candidates).foldl (fun acc x => insertRanked x acc) []).map (·.2)

/-- At most `n` of the best matching candidates. -/
def suggest (n : Nat) (pattern : String) (candidates : List String) : List String :=
  (rank pattern candidates).take n

end ExprTree.Text
