import ExprTree.Log.Record
import ExprTree.Log.Json
import ExprTree.Text.Unicode
import ExprTree.Number.Parse

/-!
# Level and format names

The names of log levels and line formats, and how a name is read back.

A level is an integer. The five named levels are written in lower case
(`trace`, `debug`, `info`, `warn`, `error`); any other level by the nearest of
`debug`, `info`, `warn` and `error` at or below it and the signed distance from
it (`info+2`, `debug-96`), which is the standard name in lower case
(`levelName`).

A level text (`parseLevel`) is read with the blanks around it removed: the
word `trace` in any case, or one of the four standard words in any case
followed by an optional signed decimal offset (`warn+2`, `INFO-1`). Anything
else reads as the default level, `info`. Levels are machine integers, so an
offset may wrap around.

A format is `text` or `json`; a format text reads as `json` or `text` in any
case, anything else as `text` (`parseFormat`).
-/

namespace ExprTree.Log

/-- The level that a text which names none reads as. -/
def defaultLevel : Level := Level.info

/-- The named levels, least severe first. -/
def namedLevels : List Level := [Level.trace, Level.debug, Level.info, Level.warn, Level.error]

/-- An integer reduced to the range of signed 64-bit machine integers, as
    their arithmetic wraps around. -/
def wrap64 (n : Int) : Int := (n + 0x8000000000000000) % 0x10000000000000000 - 0x8000000000000000

/-- The name of a level (see the module header). -/
def levelName (l : Level) : String :=
  if l == Level.trace then "trace"
  else if l == Level.debug then "debug"
  else if l == Level.info then "info"
  else if l == Level.warn then "warn"
  else if l == Level.error then "error"
  else Text.lower (standardLevelName l)

/-- A text without the white space around it. -/
def trimSpace (s : String) : String :=
  let cs := (s.toList.dropWhile Text.isSpace).reverse.dropWhile Text.isSpace
  String.ofList cs.reverse

/-- A signed decimal integer of at most 64 bits: an optional sign and at
    least one digit. -/
def readOffset (cs : List Char) : Option Int :=
  let (neg, ds) := match cs with
    | '-' :: r => (true, r)
    | '+' :: r => (false, r)
    | r => (false, r)
  match Number.readNat 10 ds with
  | some n =>
    let v : Int := if neg then -(n : Int) else n
    if -0x8000000000000000 ≤ v ∧ v < 0x8000000000000000 then some v else none
  | none => none

/-- The standard level a word names, in any case. -/
def standardLevel? (name : String) : Option Level :=
  match Text.upper name with
  | "DEBUG" => some Level.debug
  | "INFO" => some Level.info
  | "WARN" => some Level.warn
  | "ERROR" => some Level.error
  | _ => none

/-- The level a standard level text names: a word and an optional offset
    from the first sign on. -/
def readStandardLevel (s : String) : Option Level :=
  let cs := s.toList
  let name := cs.takeWhile fun c => c != '+' && c != '-'
  let rest := cs.dropWhile fun c => c != '+' && c != '-'
  do
    let base ← standardLevel? (String.ofList name)
    let offset ← if rest.isEmpty then some 0 else readOffset rest
    return wrap64 (base + offset)

/-- The level a text names (see the module header). -/
def parseLevel (s : String) : Level :=
  let s := trimSpace s
  if Text.equalFold s "trace" then Level.trace
  else (readStandardLevel s).getD defaultLevel

/-- A line format of log records. -/
inductive Format where
  | text
  | json
  deriving DecidableEq, Repr, Inhabited

namespace Format

/-- Every format, in order. -/
def all : List Format := [text, json]

/-- The name of a format. -/
def name : Format → String
  | text => "text"
  | json => "json"

/-- The name of the format numbered `n`, `unknown` past the last. -/
def nameOf (n : Int) : String :=
  if 0 ≤ n then (all[n.toNat]?.map name).getD "unknown" else "unknown"

end Format

/-- The format a text names (see the module header). -/
def parseFormat (s : String) : Format :=
  match Text.lower (trimSpace s) with
  | "json" => .json
  | _ => .text

end ExprTree.Log
