import ExprTree.Cli.Config
import ExprTree.Cli.Help
import ExprTree.Command.Run

/-!
# Running the program

One run of the program (`run`) on its command line, standard input and
files:

1. the configuration file is loaded, and a broken one stops the run;
2. the command line is read; help or the version, when asked for, is
   printed and the run ends with exit code zero;
3. the configuration fills the flags the command line left unset, and the
   flags with allowed values are checked;
4. the package logger takes the logging flags and logs them at the debug
   level; profiling starts when a profiling mode is given;
5. the command runs; a fault it ends with is reported wrapped;
6. profiling stops, writing its file into the profile directory.

Faults of the steps before the command are plain texts.

The package logger a run ends with (`Report.logger`) is the one that reports
its fault. The logging flags reach it before the command line is read in
full (`scanSettings`), so that a command line that fails is reported as it
asks; once the values are reset to their defaults, before the
configuration is read, the level and format are those of the configuration,
or the defaults, until the command's logger is set up.
-/

namespace ExprTree.Cli

open Host

/-- What a run of the program starts from. -/
structure Environment where
  args : List String
  stdin : String := ""
  fs : FileSystem := {}
  cwd : String
  home : String
  /-- The program's configuration directory. -/
  configDir : String
  /-- The program's cache directory. -/
  cacheDir : String
  /-- The texts of the time and call site of log records. -/
  stamp : Log.Stamp
  /-- The declared types values may have. -/
  catalog : Catalog := {}
  deriving Inhabited

/-- What a run of the program ends with: its standard output, its log, the
    exit code when it stopped early, the fault it failed with, and the
    files. -/
structure Report where
  stdout : String := ""
  log : String := ""
  exit : Option Nat := none
  fault : Option Fault := none
  fs : FileSystem := {}
  /-- The package logger at the end of the run. -/
  logger : Log.Logger := Log.Logger.make .stream []
  deriving Inhabited

/-- The path of the configuration file. -/
def Environment.configFile (env : Environment) : String := env.configDir ++ "/config.yaml"

namespace Spec

/-- The command a reading of the command line selected, with its values. -/
def invocation (s : Spec) (p : Parsed) : Command.Invocation :=
  let text (n : String) := s.textOf p n
  let list (n : String) : List String := match p.value? n with
    | some (.list xs) => xs
    | _ => []
  let flag (n : String) : Bool := match p.value? n with
    | some (.bool b) => b
    | _ => false
  let source := p.source.getD "-"
  match p.command.getD s.defaultCommand with
  | "eval" => .eval (list "bind") (text "bindings") (list "arg") source
  | "fmt" => .format (text "format") (match p.value? "indent" with
      | some (.int n) => n
      | _ => 2) source
  | "tree" => .draw source
  | "init" => .init (flag "force")
  | _ => .compile (text "dialect") (flag "fingerprint") source

/-- The values of the global flags a configuration file keeps: the logging
    flags, an empty text left out. -/
def globals (s : Spec) (p : Parsed) : List (String × Value) :=
  s.flags.filterMap fun f =>
    if f.name == "help" || f.name == "version" || f.name.startsWith "pprof" then none
    else match f.kind with
      | .bool => some (f.name, .ofBool (s.textOf p f.name == "true"))
      | .decoded => some (f.name, .ofString (s.textOf p f.name))
      | _ => let t := s.textOf p f.name; if t.isEmpty then none else some (f.name, .ofString t)

end Spec

/-- A boolean in one of its spellings: `1`, `t`, `true` and `0`, `f`,
    `false`, the words also in capitals or with a capital first letter. -/
def parseBool? (t : String) : Option Bool :=
  if ["1", "t", "T", "TRUE", "true", "True"].contains t then some true
  else if ["0", "f", "F", "FALSE", "false", "False"].contains t then some false
  else none

/-- The boolean a negatable flag sets: true, or the value after `=` when it
    reads as a boolean, negated for the `--no-` form. -/
def flagBool (name : String) (value : Option String) : Bool :=
  let v := match value with
    | some t => (parseBool? t).getD true
    | none => true
  if name.startsWith "--no-" then !v else v

/-- The logging setting of one argument split at its first `=`. -/
def scanOne (name : String) (value : Option String) : List Log.Setting :=
  if name == "--log-level" then [.level (Log.parseLevel (value.getD ""))]
  else if name == "--log-format" then [.format (Log.parseFormat (value.getD ""))]
  else if name == "--log-pretty" || name == "--no-log-pretty" then [.pretty (flagBool name value)]
  else if name == "--log-caller" || name == "--no-log-caller" then [.caller (flagBool name value)]
  else []

/-- An argument split at its first `=`. -/
def cutAssign (a : String) : String × Option String :=
  match a.splitOn "=" with
  | name :: v :: more => (name, some ("=".intercalate (v :: more)))
  | _ => (a, none)

/-- The logging settings of a command line read before it is parsed: the
    level and format after `=` or as the next argument when that does not
    start with a dash, and the negatable booleans (see `flagBool`). -/
def scanSettings : List String → List Log.Setting
  | [] => []
  | [a] => let (name, value) := cutAssign a; scanOne name value
  | a :: v :: more =>
    let (name, value) := cutAssign a
    if value.isNone && (name == "--log-level" || name == "--log-format") && !v.startsWith "-" then
      scanOne name (some v) ++ scanSettings more
    else scanOne name value ++ scanSettings (v :: more)

/-- The logger settings of the logging flags. -/
def loggerSettings (s : Spec) (p : Parsed) : List Log.Setting :=
  [.level (Log.parseLevel (s.textOf p "log-level")), .format (Log.parseFormat (s.textOf p "log-format")),
    .timeLayout (s.textOf p "log-time-layout"), .caller (s.textOf p "log-caller" == "true"),
    .pretty (s.textOf p "log-pretty" == "true")]

/-- The command's part of a run: logging set up, profiling around the
    command (see the module header). -/
def session (s : Spec) (env : Environment) (p : Parsed) : Command.SessionM Unit := do
  Command.debug "logger initialized" [Attr.str "level" (s.textOf p "log-level"),
    Attr.str "format" (s.textOf p "log-format"), Attr.str "time" (s.textOf p "log-time-layout"),
    Attr.mk "caller" (.bool (s.textOf p "log-caller" == "true")),
    Attr.mk "pretty" (.bool (s.textOf p "log-pretty" == "true"))]
  let mode := s.textOf p "pprof-mode"
  let dir := s.textOf p "pprof-dir"
  let profiling := Profile.enabled mode
  let attrs := [Attr.str "mode" mode, Attr.str "dir" dir]
  if profiling then
    Command.debug "pprof start" attrs
    modify fun st => { st with fs := st.fs.mkdirAll dir }
  let result ← tryCatch ((s.invocation p).run env.configFile (s.globals p) >>= fun _ => pure none)
    fun e => pure (some e)
  if profiling then
    let file := Path.join dir (Profile.fileName mode)
    modify fun st => match st.fs.write file file "" with
      | .ok fs => { st with fs := fs }
      | .error _ => st
    Command.debug "pprof stop" attrs
  match result with
  | some e => throw (Fault.plain e.message (some e))
  | none => pure ()

/-- How reading the command line ends: with a failure, the logging
    settings in force then; with a text printed and exit code zero; or with
    the values to run the command with. -/
inductive Outcome where
  | failed (msg : String) (settings : List Log.Setting)
  | exit (stdout : String)
  | proceed (p : Parsed)

/-- The first steps of a run, up to the command (see the module header). -/
def outcome (env : Environment) : Outcome :=
  let s := Spec.program env.cacheDir
  let pl : Place := { fs := env.fs, cwd := env.cwd, home := env.home }
  let early := scanSettings env.args
  match loadConfig env.fs env.configFile with
  | .error msg => .failed msg early
  | .ok settings =>
    match s.trace pl env.args with
    | .error e => .failed e.text early
    | .ok p =>
      match p.seen.find? (fun n => n == "help" || n == "version") with
      | some "help" => .exit (match p.command.bind s.command? with
        | some c => s.commandHelp c
        | none => s.appHelp)
      | some _ => .exit (s.version ++ "\n")
      | none =>
        let configured (q : Parsed) (name : String) : String :=
          if (p.value? name).isSome then ((s.flags.find? (·.name == name)).bind (·.default)).getD ""
          else s.textOf q name
        let reset (q : Parsed) : List Log.Setting := early ++
          [.level (Log.parseLevel (configured q "log-level")),
            .format (Log.parseFormat (configured q "log-format"))]
        match s.resolve pl settings p with
        | .error e => .failed e.text (reset p)
        | .ok q => match s.checkChoices q with
          | .error e => .failed e.text (reset q)
          | .ok _ => .proceed q

/-- Whether a run reads its standard input: its command reads a source and
    the source is `-` or empty. -/
def readsInput (env : Environment) : Bool :=
  match outcome env with
  | .proceed p =>
    let s := Spec.program env.cacheDir
    let source := p.source.getD "-"
    p.command.getD s.defaultCommand != "init" && (source == "-" || source.isEmpty)
  | _ => false

/-- One run of the program (see the module header). -/
def run (env : Environment) : Report :=
  let s := Spec.program env.cacheDir
  match outcome env with
  | .failed msg settings =>
    { fault := some (Fault.text msg), fs := env.fs, logger := Log.Logger.make .stream settings }
  | .exit text => { stdout := text, exit := some 0, fs := env.fs }
  | .proceed p =>
    let logger := (Log.Logger.make .stream []).wrap (loggerSettings s p)
    let start : Command.Session :=
      { catalog := env.catalog, fs := env.fs, cwd := env.cwd,
        stdin := env.stdin, logger := logger, stamp := env.stamp }
    let (r, st) := ((session s env p).run).run start
    { stdout := st.out, log := st.log, fs := st.fs, logger := st.logger, fault := match r with
      | .error e => some e
      | .ok _ => none }

end ExprTree.Cli
