import ExprTree.Host.FileSystem
import ExprTree.Log.Line
import ExprTree.Tree.Decode
import ExprTree.Tree.Eval

/-!
# Command sessions

What a command works with while it runs (`Session`): the files, the working
directory, standard input, what it has written to standard output, the
logger it logs to and the log text written so far, and the next storage
number for the values it reads. A command runs in `SessionM`: it ends with a
fault or without one, the session kept either way.

A command reads its tree document (`readSource`) from standard input when
the source is empty or `-`, else from the file it names, relative to the
working directory:

* a missing file fails with the sentinel `openSource` caused by the failure
  to open it, and the attribute `file`;
* a directory fails to be read, with the sentinel `readInput`;
* a document that is not a tree fails as decoding does, with the attribute
  `file` added for a file.
-/

namespace ExprTree.Command

open Host

/-- The state of a running command (see the module header). -/
structure Session where
  /-- The declared types values may have. -/
  catalog : Catalog := {}
  /-- The files. -/
  fs : FileSystem := {}
  /-- The working directory. -/
  cwd : String := "/"
  /-- Standard input. -/
  stdin : String := ""
  /-- What was written to standard output. -/
  out : String := ""
  /-- The logger records go to. -/
  logger : Log.Logger := .zero
  /-- The time and call site given to records. -/
  stamp : Log.Stamp := ⟨fun _ => "", ""⟩
  /-- The log text written. -/
  log : String := ""
  /-- The next storage number. -/
  next : Nat := 1
  deriving Inhabited

/-- A command running in a session. -/
abbrev SessionM := ExceptT Fault (StateM Session)

/-- Write text to standard output. -/
def write (s : String) : SessionM Unit :=
  modify fun st => { st with out := st.out ++ s }

/-- Log a record. -/
def logRecord (r : Log.Record) : SessionM Unit :=
  modify fun st => { st with log := st.log ++ st.logger.line st.catalog st.stamp "" r }

/-- Log a record at the debug level. -/
def debug (msg : String) (attrs : List Attr) : SessionM Unit :=
  logRecord { level := Log.Level.debug, msg := msg, attrs := attrs }

/-- A tree document's tree, storage numbers taken from the session. -/
def decodeTree (text : String) : SessionM Node := do
  match Node.decodeText text (← get).next with
  | .ok (n, next) =>
    modify fun st => { st with next := next }
    return n
  | .error e => throw e

/-- A YAML text's value, storage numbers taken from the session; a failure
    is the reader's message. -/
def decodeValue (text : String) : SessionM (Except String Value) := do
  match Yaml.decode text (← get).next with
  | .ok (v, next) =>
    modify fun st => { st with next := next }
    return .ok v
  | .error e => return .error e

/-- The tree of a source (see the module header). -/
def readSource (source : String) : SessionM Node := do
  let st ← get
  if source.isEmpty || source == "-" then decodeTree st.stdin
  else
    let path := Path.absolute st.cwd source
    let fileAttr := Attr.str "file" source
    if st.fs.isDir path then
      throw (((Fault.of .readInput).wrap (Fault.text (FileError.isDirectory "read" source).message)).withAttrs
        [Attr.str "source" "reader", fileAttr])
    match st.fs.read? path with
    | none =>
      throw (((Fault.of .openSource).wrap (Fault.text (FileError.notFound "open" source).message)).withAttrs
        [fileAttr])
    | some text =>
      tryCatch (decodeTree text) fun e => throw (e.absorb.withAttrs [fileAttr])

end ExprTree.Command
