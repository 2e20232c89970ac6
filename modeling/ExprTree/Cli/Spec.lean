import ExprTree.Log.Level

/-!
# The command line

The program's command line (`Spec.program`): global flags, grouped into the
logging and profiling options, and five commands with flags of their own,
of which `compile` is taken when no command is named.

A flag (`Flag`) has a long name, perhaps a one-letter short name, the kind
of value it reads (`ValueKind`), a default, a set of allowed values, a help
text and the group it is listed under. Boolean flags take no value; a
negatable one is also written `--no-name`. A flag of a list reads one value
per occurrence.

Profiling (`Profile`) has modes by name, each writing one file into the
profile directory when the program ends: `mem.pprof` for the memory modes,
`threadcreation.pprof` for threads, `trace.out` for traces, and
`mode.pprof` for the others.
-/

namespace ExprTree.Cli

/-- How a flag reads its value. -/
inductive ValueKind where
  /-- A text. -/
  | text
  /-- A text handed to a decoder of its own, as levels and formats are. -/
  | decoded
  /-- A boolean, given or implied. -/
  | bool
  /-- A machine integer. -/
  | int
  /-- A text per occurrence, collected in order. -/
  | list
  /-- The path of a file that must exist, made absolute. -/
  | existingFile
  /-- A path, made absolute. -/
  | path
  deriving DecidableEq, Repr, Inhabited

/-- A flag of the command line (see the module header). -/
structure Flag where
  name : String
  short : Option Char := none
  kind : ValueKind
  default : Option String := none
  /-- The values allowed, when limited. -/
  enum : Option (List String) := none
  help : String
  /-- The name of the value in help, when not derived. -/
  placeholder : Option String := none
  negatable : Bool := false
  /-- The key of the group the flag is listed under. -/
  group : Option String := none
  deriving Repr, Inhabited

/-- A titled group of flags. -/
structure Group where
  key : String
  title : String
  deriving Repr

/-- A command: its name, help, flags, and whether it reads a source. -/
structure CommandSpec where
  name : String
  help : String
  flags : List Flag
  /-- Whether the command takes the optional `source` argument. -/
  source : Bool
  deriving Repr, Inhabited

/-- A command-line program. -/
structure Spec where
  name : String
  description : String
  version : String
  /-- The global flags, the help flag first. -/
  flags : List Flag
  groups : List Group
  commands : List CommandSpec
  /-- The command taken when none is named. -/
  defaultCommand : String
  deriving Repr

namespace Profile

/-- The profiling modes, in order. -/
def modes : List String :=
  ["allocs", "block", "clock", "cpu", "goroutine", "heap", "mem", "mutex", "thread", "trace"]

/-- The file a profiling mode writes (see the module header). -/
def fileName (mode : String) : String :=
  if mode == "allocs" || mode == "heap" || mode == "mem" then "mem.pprof"
  else if mode == "thread" then "threadcreation.pprof"
  else if mode == "trace" then "trace.out"
  else mode ++ ".pprof"

/-- Whether a mode profiles. -/
def enabled (mode : String) : Bool := !mode.isEmpty && modes.contains mode

end Profile

namespace Spec

/-- The help flag. -/
def helpFlag : Flag :=
  { name := "help", short := some 'h', kind := .bool, help := "Show context-sensitive help." }

/-- The version flag. -/
def versionFlag : Flag :=
  { name := "version", short := some 'V', kind := .bool, help := "Print version and exit." }

/-- The source argument's help. -/
def sourceHelp : String := "Tree document file or '-' for stdin."

/-- The program, its profiles kept under `cacheDir`. -/
def program (cacheDir : String) : Spec where
  name := "lambdex"
  description := "Typed expression trees compiled to lambda text"
  version := "0.1.0"
  flags := [helpFlag,
    { name := "log-level", kind := .decoded, default := some "info",
      enum := some (Log.namedLevels.map Log.levelName), group := some "log",
      help := "Set log level (" ++ ",".intercalate (Log.namedLevels.map Log.levelName) ++ ")." },
    { name := "log-format", kind := .decoded, default := some "text",
      enum := some (Log.Format.all.map (·.name)), group := some "log",
      help := "Set log format (" ++ ",".intercalate (Log.Format.all.map (·.name)) ++ ")." },
    { name := "log-time-layout", kind := .text, default := some "RFC3339", group := some "log",
      help := "Set timestamp layout; 'none' omits it." },
    { name := "log-caller", kind := .bool, default := some "false", negatable := true,
      group := some "log", help := "Include caller information." },
    { name := "log-pretty", kind := .bool, default := some "true", negatable := true,
      group := some "log", help := "Style text output for a terminal." },
    { name := "pprof-mode", short := some 'p', kind := .text, default := some "",
      enum := some ("" :: Profile.modes), placeholder := some "MODE", group := some "pprof",
      help := "Enable profiling (" ++ ",".intercalate ("" :: Profile.modes) ++ ")." },
    { name := "pprof-dir", kind := .path, default := some (cacheDir ++ "/pprof"),
      group := some "pprof", help := "Profile output directory." },
    versionFlag]
  groups := [⟨"log", "Logging options"⟩, ⟨"pprof", "Profiling (pprof)"⟩]
  commands := [
    { name := "compile", help := "Print the compiled text of a tree.", source := true, flags := [
      { name := "dialect", short := some 'd', kind := .text, default := some "lambda",
        enum := some ["lambda", "expr"], help := "Output syntax (lambda,expr)." },
      { name := "fingerprint", short := some 'F', kind := .bool,
        help := "Prefix the text with its 64-bit fingerprint." }] },
    { name := "eval", help := "Evaluate a tree and print the result.", source := true, flags := [
      { name := "bind", short := some 'b', kind := .list, placeholder := some "NAME=VALUE",
        help := "Bind a parameter to a YAML value (name=value)." },
      { name := "bindings", short := some 'B', kind := .existingFile,
        help := "YAML file mapping parameter names to values." },
      { name := "arg", short := some 'a', kind := .list, placeholder := some "VALUE",
        help := "YAML argument passed to a root lambda." }] },
    { name := "fmt", help := "Re-emit a tree document.", source := true, flags := [
      { name := "format", short := some 'f', kind := .text, default := some "yaml",
        enum := some ["yaml", "json"], help := "Output format (yaml,json)." },
      { name := "indent", short := some 'i', kind := .int, default := some "2",
        help := "Indent width; 0 selects compact output." }] },
    { name := "tree", help := "Print the node structure of a tree.", source := true, flags := [] },
    { name := "init", help := "Write the current flags to the configuration file.",
      source := false, flags := [
      { name := "force", short := some 'f', kind := .bool,
        help := "Overwrite an existing configuration file." }] }]
  defaultCommand := "compile"

/-- The command of a name. -/
def command? (s : Spec) (name : String) : Option CommandSpec :=
  s.commands.find? (·.name == name)

/-- Every flag of the program: the global flags, then each command's. -/
def allFlags (s : Spec) : List Flag := s.flags ++ s.commands.flatMap (·.flags)

end Spec

end ExprTree.Cli
