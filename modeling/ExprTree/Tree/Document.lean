import ExprTree.Tree.Build
import ExprTree.Text.Quote

/-!
# Tree documents

A tree as nested maps and lists (`Node.toDoc`), the form trees take in JSON
and YAML text, and back (`Node.fromDoc`).

A node is a map of one key, its kind in lower case: a parameter holds its
name, a value the value itself, a member the map of `source` and `field`, an
element the map of `source` and `index`, a negation its operand, an
equality, conjunction or disjunction the list of its two operands, and a
lambda the map of `params`, a list of names, and `body`.

Reading resolves parameter names lexically: a name is the parameter of the
innermost enclosing lambda declaring it, else the one free parameter of that
name, the same instance at every occurrence. Members and operands of
equality are read at type `any`, elements from a source of type `[]any` and
the operands of `!`, `&&` and `||` at type `bool`.

A document that is not of this form is a decode fault with the *path* of the
offending part (`$` for the whole, then `.kind`, `[i]` for an operand and
`.params[i]` for a lambda parameter) and a reason; a node that the form
admits but its constructor refuses is a decode fault caused by the
constructor's fault, with the path of the node.
-/

namespace ExprTree

open Text

namespace Node

/-- The type of documents of maps. -/
def docMapTy : Ty := .map .string .any

/-- A map document of entries. -/
def docMap (entries : List (String × Value)) : Value :=
  .map docMapTy 0 (some (entries.map fun (k, v) => (.ofString k, v)))

/-- A list document. -/
def docList (items : List Value) : Value := .slice (.slice .any) 0 (some items)

/-- The document of a tree (see the module header). -/
def toDoc : Node → Value
  | view _ n => toDoc n
  | param p => docMap [("parameter", .ofString p.name)]
  | value _ v => docMap [("value", v)]
  | member _ s f => docMap [("member", docMap [("source", toDoc s), ("field", .ofString f)])]
  | index _ s i => docMap [("arrayindex", docMap [("source", toDoc s), ("index", .ofInt i)])]
  | not o => docMap [("not", toDoc o)]
  | equal l r => docMap [("equal", docList [toDoc l, toDoc r])]
  | and l r => docMap [("and", docList [toDoc l, toDoc r])]
  | or l r => docMap [("or", docList [toDoc l, toDoc r])]
  | lambda _ ps b =>
    docMap [("lambda", docMap [("params", docList (ps.map (.ofString ·.name))), ("body", toDoc b)])]

/-- The document of a tree, the nil map for no tree. -/
def toDoc? : Option Node → Value
  | some n => toDoc n
  | none => .map docMapTy 0 none

/-- The entries of a document that is a map of text keys: a map from `string`
    to `any`, or from `any` to `any` whose keys are all of type `string`. -/
def asMap : Value → Option (List (String × Value))
  | .map t _ es =>
    if t == docMapTy then
      some ((es.getD []).filterMap fun (k, v) => match k with
        | .str _ s => some (s.text, v)
        | _ => none)
    else if t == .map .any .any then
      (es.getD []).foldr (fun (k, v) acc => match k, acc with
        | .str .string s, some rest => some ((s.text, v) :: rest)
        | _, _ => none) (some [])
    else none
  | _ => none

/-- The entry of `key` in map entries, nil when missing. -/
def entry (m : List (String × Value)) (key : String) : Value :=
  ((m.find? (·.1 == key)).map (·.2)).getD .nil

/-- The items of a document that is a list of type `[]any`. -/
def asList : Value → Option (List Value)
  | .slice t _ xs => if t == .slice .any then some (xs.getD []) else none
  | _ => none

/-- The text of a document of type `string`. -/
def asText : Value → Option String
  | .str .string s => some s.text
  | _ => none

/-- The integer of a document that is an `int`, `int64`, `uint64` up to the
    largest `int64`, or a whole `float64` (converted as the processor does,
    out of range to the least `int64`). -/
def asInt : Value → Option Int
  | .int (.int .word) n | .int (.int .size64) n => some n
  | .int (.uint .size64) n => if n < 0x8000000000000000 then some n else none
  | .float (.float false) bits =>
    if Number.isIntegral bits then some (Number.truncToInt64 bits) else none
  | _ => none

/-- The state of reading: the scopes of the enclosing lambdas, innermost
    first, the free parameters and the next parameter instance. -/
structure Reader where
  /-- The parameters of the enclosing lambdas, innermost first, the last of a
      name first within a lambda. -/
  scopes : List (List Param) := []
  /-- The free parameters met so far. -/
  free : List Param := []
  /-- The instance of the next new parameter. -/
  next : Nat := 0

/-- Reading a document. -/
abbrev ReadM := StateT Reader (Except Fault)

/-- The decode fault at `path` for `reason`. -/
def decodeFault (path reason : String) : Fault :=
  (Fault.of .decode).withAttrs [Attr.str "path" path, Attr.str "reason" reason]

/-- Fail reading with a fault. -/
def failWith (e : Fault) : ReadM α := fun _ => .error e

/-- Lift a constructor's outcome into reading. -/
def lift (r : Except Fault α) : ReadM α := fun s => r.map (·, s)

/-- A new parameter instance of name `name` and type `any`. -/
def freshParam (name : String) : ReadM Param := do
  let st ← get
  let n ← lift (Build.parameter name .any st.next)
  set { st with next := st.next + 1 }
  match n with
  | .param p => return p
  | _ => failWith (Fault.text "")

/-- The parameter a name refers to (see the module header). -/
def lookupParam (name : String) : ReadM Param := do
  let st ← get
  match (st.scopes.findSome? fun sc => sc.find? (·.name == name)) with
  | some p => return p
  | none => match st.free.find? (·.name == name) with
    | some p => return p
    | none =>
      let p ← freshParam name
      modify fun st => { st with free := st.free ++ [p] }
      return p

/-- New parameter instances for a lambda's parameter list, in order: the
    first item that is no text is a decode fault at its position, the first
    name that is no identifier the constructor's fault. -/
def readParams (path : String) : Nat → List Value → ReadM (List Param)
  | _, [] => return []
  | i, v :: vs => match asText v with
    | some name => do
      let p ← freshParam name
      let rest ← readParams path (i + 1) vs
      return p :: rest
    | none => failWith (decodeFault (path ++ ".params[" ++ toString i ++ "]")
        "parameter name must be a string")

/-- Read a node with `read` and see it at type `any`. -/
def readAny (read : Value → String → ReadM Node) (d : Value) (p : String) : ReadM Node := do
  let n ← read d p
  lift (Build.cast {} .any (some n))

/-- Read a node with `read` and see it at type `bool`: a node of another type
    is a decode fault at `p`, caused by the mismatch. -/
def readBool (read : Value → String → ReadM Node) (d : Value) (p : String) : ReadM Node := do
  let n ← read d p
  match Build.cast {} .bool (some n) with
  | .ok b => return b
  | .error e => failWith (((Fault.of .decode).wrap e).withAttrs [Attr.str "path" p])

/-- Read the node of kind `k` whose argument is `arg`, at `path`, its operands
    with `read` (see the module header). -/
def readKind (read : Value → String → ReadM Node) (k : Kind) (arg : Value) (path : String) :
    ReadM Node :=
  match k with
  | .parameter => match asText arg with
    | some name => return .param (← lookupParam name)
    | none => failWith (decodeFault path "parameter name must be a string")
  | .value => return .value .any arg
  | .member => match asMap arg with
    | none => failWith (decodeFault path "member must be a mapping of source and field")
    | some m => match asText (entry m "field") with
      | none => failWith (decodeFault path "member field must be a string")
      | some field => do
        let src ← readAny read (entry m "source") (path ++ ".source")
        lift (Build.member {} .any (some src) field)
  | .arrayIndex => match asMap arg with
    | none => failWith (decodeFault path "arrayindex must be a mapping of source and index")
    | some m => match asInt (entry m "index") with
      | none => failWith (decodeFault path "arrayindex index must be an integer")
      | some i => do
        let src ← read (entry m "source") (path ++ ".source")
        let seq ← lift (Build.cast {} (.slice .any) (some src))
        lift (Build.arrayIndex (some seq) i)
  | .not => do
    let o ← readBool read arg path
    lift (Build.not (some o))
  | .equal | .and | .or => match asList arg with
    | some [l, r] =>
      if k == .equal then do
        let a ← readAny read l (path ++ "[0]")
        let b ← readAny read r (path ++ "[1]")
        lift (Build.equal {} (some a) (some b))
      else do
        let a ← readBool read l (path ++ "[0]")
        let b ← readBool read r (path ++ "[1]")
        lift (if k == .and then Build.and (some a) (some b) else Build.or (some a) (some b))
    | _ => failWith (decodeFault path (k.key ++ " must be a list of two operands"))
  | .lambda => match asMap arg with
    | none => failWith (decodeFault path "lambda must be a mapping of params and body")
    | some m => match asList (entry m "params") with
      | none => failWith (decodeFault path "lambda params must be a list of names")
      | some items => do
        let ps ← readParams path 0 items
        modify fun st => { st with scopes := ps.reverse :: st.scopes }
        let body ← readAny read (entry m "body") (path ++ ".body")
        modify fun st => { st with scopes := st.scopes.drop 1 }
        lift (Build.lambda .any (some body) (ps.map some))

/-- Read the node of a document at `path`, at most `fuel` levels deep (see
    the module header). -/
def readNode : Nat → Value → String → ReadM Node
  | 0, _, path => failWith (decodeFault path "document too deep")
  | fuel + 1, doc, path =>
    match asMap doc with
    | some [(key, arg)] =>
      match Kind.parse? key with
      | none => failWith (decodeFault path ("unknown node kind " ++ quote key))
      | some k =>
        let path := path ++ "." ++ k.key
        tryCatch (readKind (readNode fuel) k arg path) fun e =>
          if e.is .decode then failWith e
          else failWith (((Fault.of .decode).wrap e).withAttrs [Attr.str "path" path])
    | _ => failWith (decodeFault path "node must be a mapping with exactly one kind key")

/-- The tree of a document (see the module header). -/
def fromDoc (doc : Value) : Except Fault Node :=
  (readNode (doc.size + 1) doc "$" |>.run {}).map (·.1)

end Node

end ExprTree
