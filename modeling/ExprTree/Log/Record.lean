import ExprTree.Fault

/-!
# Log records

A log record: a level, a message and attributes in order. Levels are
integers, the named ones four apart: `trace` −8, `debug` −4, `info` 0,
`warn` 4 and `error` 8.
-/

namespace ExprTree.Log

/-- A log level. -/
abbrev Level := Int

namespace Level

/-- The level of tracing. -/
def trace : Level := -8

/-- The level of debugging. -/
def debug : Level := -4

/-- The level of information. -/
def info : Level := 0

/-- The level of warnings. -/
def warn : Level := 4

/-- The level of errors. -/
def error : Level := 8

end Level

/-- A log record. -/
structure Record where
  /-- The level. -/
  level : Level
  /-- The message. -/
  msg : String
  /-- The attributes, in order. -/
  attrs : List Attr := []
  deriving Inhabited

end ExprTree.Log
