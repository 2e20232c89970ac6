import ExprTree.Log.Level

/-!
# Loggers

A logger writes the records at or above its level, in its format, to its
output. Its configuration (`Config`) is changed by settings (`Setting`),
applied in order; a logger made afresh (`Logger.make`) starts from the
defaults: level `info`, the text format styled for a terminal (`pretty`),
RFC 3339 timestamps and no call sites.

* `Logger.wrap` applies settings over a logger's configuration and drops the
  attributes added to it; the zero logger starts from the defaults with its
  records discarded.
* `Logger.withAttrs` adds attributes to every record of a logger; the zero
  logger and an empty list change nothing.
* The zero logger (`Logger.zero`) writes nothing, enables no level and
  reports the default level and format.

A timestamp layout (`timeLayoutOf`) may name a standard layout in any case
and with any punctuation (`RFC3339Nano`, `stamp-milli`); a layout naming none
is kept as it is, and the empty layout or `none` leaves timestamps out.
-/

namespace ExprTree.Log

/-- Where a logger's records go. -/
inductive Output where
  /-- Nowhere. -/
  | discard
  /-- To the stream the logger was made for. -/
  | stream
  deriving DecidableEq, Repr, Inhabited

/-- The layout of RFC 3339 timestamps, the default. -/
def rfc3339 : String := "2006-01-02T15:04:05Z07:00"

/-- The standard timestamp layouts by their plain names; `none` is the empty
    layout. -/
def timeLayouts : List (String × String) :=
  [("none", ""), ("rfc3339", rfc3339), ("rfc3339nano", "2006-01-02T15:04:05.999999999Z07:00"),
    ("datetime", "2006-01-02 15:04:05"), ("ansic", "Mon Jan _2 15:04:05 2006"),
    ("unixdate", "Mon Jan _2 15:04:05 MST 2006"), ("rfc822", "02 Jan 06 15:04 MST"),
    ("kitchen", "3:04PM"), ("stamp", "Jan _2 15:04:05"), ("stampmilli", "Jan _2 15:04:05.000"),
    ("stampmicro", "Jan _2 15:04:05.000000"), ("stampnano", "Jan _2 15:04:05.000000000")]

/-- The timestamp layout a text names (see the module header). -/
def timeLayoutOf (layout : String) : String :=
  let key := String.ofList ((Text.lower layout).toList.filter fun c =>
    ('a' ≤ c && c ≤ 'z') || ('0' ≤ c && c ≤ '9'))
  if key.isEmpty then "" else (timeLayouts.lookup key).getD layout

/-- The configuration of a logger. -/
structure Config where
  /-- Where records go. -/
  output : Output := .stream
  /-- The timestamp layout, empty for none. -/
  timeLayout : String := rfc3339
  /-- The least level written. -/
  level : Level := defaultLevel
  /-- The line format. -/
  format : Format := .text
  /-- Whether records carry their call site. -/
  caller : Bool := false
  /-- Whether text lines are styled for a terminal. -/
  pretty : Bool := true
  deriving Repr, Inhabited

/-- The default configuration, writing to `o`. -/
def Config.defaults (o : Output) : Config := { output := o }

/-- A change to the configuration of a logger. -/
inductive Setting where
  /-- Every setting back to its default, writing to the output given. -/
  | defaults (o : Output)
  | output (o : Output)
  | level (l : Level)
  | format (f : Format)
  /-- A timestamp layout, read by `timeLayoutOf`. -/
  | timeLayout (layout : String)
  | caller (on : Bool)
  | pretty (on : Bool)
  deriving Repr

/-- The configuration after one setting. -/
def Setting.apply : Setting → Config → Config
  | .defaults o, _ => Config.defaults o
  | .output o, c => { c with output := o }
  | .level l, c => { c with level := l }
  | .format f, c => { c with format := f }
  | .timeLayout s, c => { c with timeLayout := timeLayoutOf s }
  | .caller b, c => { c with caller := b }
  | .pretty b, c => { c with pretty := b }

/-- The configuration after settings, in order. -/
def Config.apply (c : Config) (ss : List Setting) : Config :=
  ss.foldl (fun c s => s.apply c) c

/-- A logger: the zero logger, or one of a configuration with the attributes
    added to all its records. -/
inductive Logger where
  | zero
  | active (config : Config) (preset : List Attr)
  deriving Inhabited

namespace Logger

/-- A logger writing to `o`, of the default configuration with settings
    applied. -/
def make (o : Output) (ss : List Setting) : Logger :=
  active ((Config.defaults o).apply ss) []

/-- A logger of a configuration changed by settings, without added
    attributes (see the module header). -/
def wrap : Logger → List Setting → Logger
  | zero, ss => active ((Config.defaults .discard).apply ss) []
  | active c _, ss => active (c.apply ss) []

/-- A logger adding attributes to every record (see the module header). -/
def withAttrs (l : Logger) (attrs : List Attr) : Logger :=
  match l, attrs with
  | zero, _ => zero
  | l, [] => l
  | active c p, attrs => active c (p ++ attrs)

/-- The least level a logger writes; the default for the zero logger. -/
def level : Logger → Level
  | zero => defaultLevel
  | active c _ => c.level

/-- The format of a logger; the default for the zero logger. -/
def format : Logger → Format
  | zero => .text
  | active c _ => c.format

/-- Whether a logger writes records of a level. -/
def enabled (l : Logger) (lv : Level) : Bool :=
  match l with
  | zero => false
  | active c _ => decide (c.level ≤ lv)

end Logger

end ExprTree.Log
