import ExprTree.Command.Session
import ExprTree.Tree.Dialect
import ExprTree.Tree.Document
import ExprTree.Yaml.Emit
import ExprTree.Hash.Xxh3
import ExprTree.Text.Drawing

/-!
# Commands

The commands of the program, each on the tree document of its source
(`Invocation.run`):

* `compile` prints a tree's text in a dialect, a name that is no dialect
  taken for the lambda dialect, after its fingerprint in sixteen hex digits
  when asked, and logs the dialect and the text's length in bytes;
* `eval` evaluates a tree under bindings, from a YAML file of a mapping and
  then from `name=yaml` texts, the later binding of a name winning; a
  callable result is applied to the arguments, YAML texts, and arguments
  for a result that is no function fail (`notCallable`); the result is
  printed as YAML, and the numbers of bindings and arguments are logged;
* `fmt` prints a tree's document as JSON or YAML, indented by the width
  given, compact (JSON) or in flow style (YAML) for a width below one;
* `tree` draws a tree's outline, a line per node of its kind and detail;
* `init` writes the configuration file from the values of the global flags,
  unless it exists and may not be overwritten.

Faults of evaluation and compilation carry the attribute `command`; faults
of writing output derive from `writeOutput`.
-/

namespace ExprTree

/-- The fingerprint of a tree: the 64-bit hash of its text. -/
def Node.fingerprint (c : Catalog) (n : Node) : UInt64 := Hash.xxh3Text (n.compile c)

/-- The label of a node in a drawing: its kind, and its detail in the
    detail's own block of cells. -/
def Node.drawLabel (k : Kind) (detail : String) : String :=
  k.name ++ if detail.isEmpty then "" else " " ++ Text.block detail

/-- The outline of a tree as a drawing: a node per node of the tree, views
    looked through, labelled by its kind and detail; a lambda's parameters
    are in its detail and its only child is its body. -/
def Node.drawing (c : Catalog) : Node → Text.Drawing
  | .view _ n => drawing c n
  | .param p => .node (drawLabel .parameter p.name) []
  | .value t v => .node (drawLabel .value (detail c (.value t v))) []
  | .member t s f => .node (drawLabel .member (detail c (.member t s f))) [drawing c s]
  | .index t s i => .node (drawLabel .arrayIndex (detail c (.index t s i))) [drawing c s]
  | .not o => .node (drawLabel .not "!") [drawing c o]
  | .equal l r => .node (drawLabel .equal "===") [drawing c l, drawing c r]
  | .and l r => .node (drawLabel .and "&&") [drawing c l, drawing c r]
  | .or l r => .node (drawLabel .or "||") [drawing c l, drawing c r]
  | .lambda t ps b => .node (drawLabel .lambda (detail c (.lambda t ps b))) [drawing c b]

namespace Command

/-- A command of the program with its options and source. -/
inductive Invocation where
  | compile (dialect : String) (fingerprint : Bool) (source : String)
  | eval (bind : List String) (bindings : String) (args : List String) (source : String)
  | format (format : String) (indent : Int) (source : String)
  | draw (source : String)
  | init (force : Bool)
  deriving Repr, Inhabited

/-- A fault of an evaluation or compilation, marked with its command. -/
def marked (command : String) (e : Fault) : Fault :=
  e.absorb.withAttrs [Attr.str "command" command]

/-- A fault of writing output. -/
def writeFault (reason : String) : Fault := (Fault.of .writeOutput).wrap (Fault.text reason)

/-- Print a tree's text (see the module header). -/
def compile (dialect : String) (fingerprint : Bool) (source : String) : SessionM Unit := do
  let n ← readSource source
  let c := (← get).catalog
  let d := (Dialect.parse? dialect).getD .lambda
  let number : Int := match d with
    | .lambda => 0
    | .expr => 1
  match Node.compileIn c (some n) number with
  | .error e => throw (marked "compile" e)
  | .ok text =>
    debug "compiled" [Attr.str "dialect" d.name, Attr.int "length" text.utf8ByteSize]
    let head := if fingerprint then Number.hexText 16 (n.fingerprint c).toNat ++ " " else ""
    write (head ++ text ++ "\n")

/-- Bindings of a file and of `name=yaml` texts (see the module header). -/
def bindings (binds : List String) (file : String) : SessionM Env := do
  let st ← get
  let fromFile ← if file.isEmpty then pure [] else
    let fault (reason : String) : Fault :=
      ((Fault.of .readBindings).wrap (Fault.text reason)).withAttrs [Attr.str "file" file]
    match st.fs.read? file with
    | none => throw (fault (Host.FileError.notFound "open" file).message)
    | some text => match Yaml.decodeMapping text st.next with
      | .error e => throw (fault e)
      | .ok (m, next) =>
        modify fun st => { st with next := next }
        pure ((Node.asMap (m.getD .nil)).getD [])
  let bindOne (env : Env) (kv : String) : SessionM Env := do
    let invalid := (Fault.of .invalidBinding).withAttrs [Attr.str "bind" kv]
    match kv.splitOn "=" with
    | name :: rest@(_ :: _) =>
      let name := Log.trimSpace name
      if name.isEmpty then throw invalid
      match ← decodeValue ("=".intercalate rest) with
      | .ok v => pure (env.bind name v)
      | .error e => throw (((Fault.of .invalidBinding).wrap (Fault.text e)).withAttrs
          [Attr.str "bind" kv])
    | _ => throw invalid
  binds.foldlM bindOne (Env.ofList fromFile)

/-- The values of YAML argument texts. -/
def arguments (args : List String) : SessionM (List Value) :=
  args.zipIdx.mapM fun (text, i) => do
    match ← decodeValue text with
    | .ok v => pure v
    | .error e => throw (((Fault.of .invalidBinding).wrap (Fault.text e)).withAttrs
        [Attr.int "arg" i, Attr.str "value" text])

/-- The result of an outcome, its records logged. -/
def settle (o : Outcome Result) : SessionM Result := do
  o.1.forM logRecord
  match o.2 with
  | .ok r => pure r
  | .error e => throw (marked "eval" e)

/-- Evaluate a tree and print the result (see the module header). -/
def eval (binds : List String) (file : String) (args : List String) (source : String) :
    SessionM Unit := do
  let n ← readSource source
  let env ← bindings binds file
  let vals ← arguments args
  let c := (← get).catalog
  let r ← settle (n.eval c env)
  let r ← if r.isCallable then settle (r.call c vals)
    else if vals.isEmpty then pure r
    else throw ((Fault.of .notCallable).withAttrs
      [Attr.str "kind" n.kind.name, Attr.int "args" vals.length])
  debug "evaluated" [Attr.str "kind" n.kind.name,
    Attr.int "bindings" ((env.names.map List.length).getD 0), Attr.int "args" vals.length]
  match r with
  | .data v => match v.toYaml c false with
    | .ok text => write text
    | .error e => throw (writeFault e)
  | .closure .. => throw (writeFault ("unknown value type " ++ Ty.func.name))

/-- Print a tree's document (see the module header). -/
def format (fmt : String) (indent : Int) (source : String) : SessionM Unit := do
  let n ← readSource source
  let c := (← get).catalog
  let doc := n.toDoc
  let text := if fmt == "json" then
      if indent > 0 then
        (doc.toJsonIndented c (String.ofList (List.replicate indent.toNat ' '))).map (· ++ "\n")
      else (doc.toJson c {}).map (· ++ "\n")
    else doc.toYamlWith c (indent ≤ 0) indent.toNat
  match text with
  | .ok t => write t
  | .error e => throw ((writeFault e).withAttrs [Attr.str "format" fmt])

/-- Draw a tree's outline, the drawing rebuilt from the outline's lines, a
    line a child of the nearest line before it one level up. -/
def draw (source : String) : SessionM Unit := do
  let n ← readSource source
  let c := (← get).catalog
  let lines := (n.outlines c).map fun o => (o.depth, Node.drawLabel o.kind o.detail)
  match Text.Drawing.ofLines lines with
  | some d => write (d.render ++ "\n")
  | none => pure ()

/-- Write the configuration file `path` from the values of the global
    flags (see the module header). -/
def init (force : Bool) (path : String) (values : List (String × Value)) : SessionM Unit := do
  let st ← get
  let fault (cause : Fault) : Fault :=
    ((Fault.of .writeConfig).wrap cause).withAttrs [Attr.str "file" path]
  if st.fs.has path && !force then throw (fault (Fault.of .fileExists))
  let doc : Value := .map (.map .string .any) 0 (some (values.map fun (k, v) => (.ofString k, v)))
  match doc.toYaml st.catalog false with
  | .error e => throw (fault (Fault.text e))
  | .ok text =>
    match st.fs.write path path text with
    | .error e => throw (fault (Fault.text e.message))
    | .ok fs => modify fun st => { st with fs := fs }
  debug "initialized configuration file" [Attr.str "path" path]

/-- Run a command; `config` is the configuration file and `globals` the
    values of the global flags, which `init` writes. -/
def Invocation.run (config : String) (globals : List (String × Value)) :
    Invocation → SessionM Unit
  | .compile d f s => Command.compile d f s
  | .eval b f a s => Command.eval b f a s
  | .format f i s => Command.format f i s
  | .draw s => Command.draw s
  | .init force => Command.init force config globals

end Command

end ExprTree
