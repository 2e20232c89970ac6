import ExprTree.Cli.Run
import ExprTree.Text.Clock
import Std.Time.Format

/-!
# The program

The command line of the program: the arguments, the environment, standard
input and the files a run may touch are gathered, the run is computed by
`Cli.run`, and what it ends with is carried out: its output printed, its
log written to standard error, the files it wrote written, and a fault
logged as `run failed` by the logger the run ended with, exit code one.

* The configuration directory is `$XDG_CONFIG_HOME/lambdex`, else
  `$HOME/.config/lambdex`; the cache directory likewise under
  `$XDG_CACHE_HOME` or `$HOME/.cache`; a relative or missing directory falls
  back to the home directory, then the working directory.
* The files read are the configuration file and every argument, and every
  value after an `=` or a short flag, that names a file; those that name a
  directory are known as directories.
* Standard input is read only when the run reads its source from it.
* Timestamps are the time the run started, in UTC; the call site of a record
  is the program's name.
-/

namespace ExprTree.Shell

open Host

/-- The text of an environment variable, empty when unset. -/
def env (name : String) : IO String := return (← IO.getEnv name).getD ""

/-- The directory of the program under a base directory variable and its
    hidden fallback under the home directory (see the module header). -/
def userDir (given hidden home cwd : String) : String :=
  let base :=
    if !given.isEmpty then (if given.startsWith "/" then some given else none)
    else if home.isEmpty then none
    else some (home ++ "/" ++ hidden)
  let dir := base.getD (if home.isEmpty then cwd else home ++ "/" ++ hidden)
  Path.join dir "lambdex"

/-- What is at a path: the text of a file, a directory, or nothing. -/
inductive Entry where
  | file (text : String)
  | directory
  | missing

/-- What is at a path, a file's bytes taken as UTF-8 where they are. -/
def probe (path : String) : IO Entry := do
  try
    let bytes ← IO.FS.readBinFile path
    let text := (String.fromUTF8? bytes).getD
      (String.ofList (bytes.toList.map fun b => Char.ofNat b.toNat))
    return .file text
  catch e =>
    match e with
    | .inappropriateType .. => return .directory
    | _ => return .missing

/-- The paths a run may read: the configuration file, its directory, the
    working directory, and each argument and each value within one. -/
def candidates (args : List String) (cwd home configFile : String) : List String :=
  let values := args.flatMap fun a =>
    let assigned := match Cli.cutAssign a with
      | (_, some v) => [v]
      | _ => []
    let short := if a.startsWith "-" && !a.startsWith "--" && a.length > 2
      then [String.ofList (a.toList.drop 2)] else []
    a :: assigned ++ short
  let expand (p : String) : String :=
    if p.startsWith "~/" then Path.join home (String.ofList (p.toList.drop 2))
    else Path.absolute cwd p
  [configFile, Path.parent configFile, cwd] ++ values.filter (!·.isEmpty) |>.map expand

/-- The files and directories at the candidate paths. -/
def snapshot (paths : List String) : IO FileSystem := do
  let mut fs : FileSystem := {}
  for p in paths.eraseDups do
    match ← probe p with
    | .file text => fs := { fs with files := fs.files ++ [(p, text)] }
    | .directory => fs := { fs with dirs := fs.dirs ++ [p] }
    | .missing => pure ()
  return fs

/-- Standard input to its end. -/
partial def readAll (stream : IO.FS.Stream) (acc : String) : IO String := do
  let line ← stream.getLine
  if line.isEmpty then return acc else readAll stream (acc ++ line)

/-- The files and directories a run made or changed, written. -/
def writeBack (before after : FileSystem) : IO Unit := do
  for d in after.dirs do
    if !before.dirs.contains d then IO.FS.createDirAll d
  for (p, text) in after.files do
    if before.read? p != some text then
      IO.FS.createDirAll (Path.parent p)
      IO.FS.writeFile p text

/-- One run of the program on its command line (see the module header). -/
def start (args : List String) : IO UInt32 := do
  let cwd := toString (← IO.currentDir)
  let home ← env "HOME"
  let configDir := userDir (← env "XDG_CONFIG_HOME") ".config" home cwd
  let cacheDir := userDir (← env "XDG_CACHE_HOME") ".cache" home cwd
  let configFile := configDir ++ "/config.yaml"
  let fs ← snapshot (candidates args cwd home configFile)
  let now ← Std.Time.Timestamp.now
  let nanos := now.toNanosecondsSinceUnixEpoch.val
  let instant : Text.Instant := ⟨nanos / 1000000000, (nanos % 1000000000).toNat⟩
  let stamp : Log.Stamp := ⟨instant.format, "lambdex"⟩
  let base : Cli.Environment :=
    { args := args, fs := fs, cwd := cwd, home := home, configDir := configDir,
      cacheDir := cacheDir, stamp := stamp }
  let stdin ← if Cli.readsInput base then readAll (← IO.getStdin) "" else pure ""
  let r := Cli.run { base with stdin := stdin }
  let out ← IO.getStdout
  let err ← IO.getStderr
  out.putStr r.stdout
  out.flush
  err.putStr r.log
  writeBack fs r.fs
  match r.exit, r.fault with
  | some code, _ => return code.toUInt32
  | none, some f =>
    let record : Log.Record :=
      { level := Log.Level.error, msg := "run failed", attrs := [Attr.mk "error" f.logValue] }
    err.putStr (r.logger.line {} stamp "" record)
    err.flush
    return 1
  | none, none => return 0

end ExprTree.Shell

/-- The program's entry point. -/
def main (args : List String) : IO UInt32 := ExprTree.Shell.start args
