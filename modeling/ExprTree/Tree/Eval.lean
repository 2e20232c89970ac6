import ExprTree.Tree.Node
import ExprTree.Data.Access
import ExprTree.Log.Record

/-!
# Evaluation

The value of a tree under bindings of parameter names to host values
(`Node.eval`). A lambda evaluates to a closure (`Result.closure`) of its
parameters, body and bindings, which `Result.call` applies to arguments.

Each node is visited one level deeper than its parent, the root at depth 1,
and logs a `trace` record once it is done, so children log before their
parents: `evaluate` with its kind, depth and the type of its result, or
`evaluate failed` with the fault as a group.

The rules per kind: a parameter is its binding (unbound: a fault listing the
bound names); a value is itself; members and elements are read by
`Value.memberOf` and `Value.elementOf`; `!`, `&&` and `||` need booleans and
the latter two skip their right operand once the left decides;
`===` is `Value.strictEq`. A body is evaluated one level below its lambda.
-/

namespace ExprTree

/-- Bindings of names to host values; a later binding of a name hides an
    earlier one. -/
structure Env where
  /-- The bindings, the latest first. -/
  entries : List (String × Value) := []
  deriving Inhabited

namespace Env

/-- The value bound to `name`. -/
def find? (env : Env) (name : String) : Option Value :=
  (env.entries.find? (·.1 == name)).map (·.2)

/-- The bindings with `name` bound to `v`. -/
def bind (env : Env) (name : String) (v : Value) : Env := ⟨(name, v) :: env.entries⟩

/-- The bindings of a list of pairs, the first binding of a name hidden by a
    later one. -/
def ofList (xs : List (String × Value)) : Env := ⟨xs.reverse⟩

/-- The bound names in order, each once; none when nothing is bound. -/
def names (env : Env) : Option (List String) :=
  let ks := (env.entries.map (·.1)).mergeSort (fun a b => a < b)
  let ks := ks.foldr (fun k acc => match acc with
    | k' :: _ => if k == k' then acc else k :: acc
    | [] => [k]) []
  if ks.isEmpty then none else some ks

end Env

/-- The result of an evaluation: a host value, or a closure. -/
inductive Result where
  | data (v : Value)
  /-- A lambda's parameters and body with the bindings and depth where it
      was evaluated. -/
  | closure (params : List Param) (body : Node) (env : Env) (depth : Nat)
  deriving Inhabited

namespace Result

/-- The name of a result's type in records and faults: `nil`, `lambda` for
    functions, else its type. -/
def typeName : Result → String
  | data .nil => "nil"
  | data v => match v.ty? with
    | some .func => "lambda"
    | some t => t.name
    | none => "nil"
  | closure .. => "lambda"

/-- The host value of a result; a closure is a function. -/
def value? : Result → Option Value
  | data v => some v
  | closure .. => none

end Result

/-- The outcome of evaluating: the records logged, in order, and the result
    or the fault. -/
abbrev Outcome (α : Type) := List Log.Record × Except Fault α

namespace Node

/-- The record of a node of kind `k` done at depth `d`. -/
def record (k : Kind) (d : Nat) (r : Except Fault Result) : Log.Record :=
  match r with
  | .ok v => ⟨Log.Level.trace, "evaluate",
      [Attr.str "kind" k.name, Attr.int "depth" d, Attr.str "result" v.typeName]⟩
  | .error e => ⟨Log.Level.trace, "evaluate failed",
      [Attr.str "kind" k.name, Attr.int "depth" d, Attr.mk "error" e.logValue]⟩

/-- The outcome with the record of the node of kind `k` at depth `d` added. -/
def done (k : Kind) (d : Nat) (o : Outcome Result) : Outcome Result :=
  (o.1 ++ [record k d o.2], o.2)

/-- Continue after an outcome: on success with `f`, whose records follow. -/
def andThen (o : Outcome α) (f : α → Outcome β) : Outcome β :=
  match o with
  | (rs, .error e) => (rs, .error e)
  | (rs, .ok a) => let (rs', r) := f a; (rs ++ rs', r)

/-- The boolean a result must be for the operator of kind `op`. -/
def asBool (op : Kind) (r : Result) : Except Fault Bool :=
  match r with
  | .data (.bool .bool b) => .ok b
  | r => .error ((Fault.of .typeMismatch).withAttrs
      [Attr.str "kind" op.name, Attr.str "have" r.typeName, Attr.str "want" "bool"])

/-- The member `field` of a result. -/
def memberOfResult (c : Catalog) (r : Result) (field : String) : Except Fault Result :=
  match r with
  | .data v => (v.memberOf c field).map .data
  | .closure .. => .error (unknownMember .func field [])

/-- The element at `index` of a result. -/
def elementOfResult (r : Result) (index : Nat) : Except Fault Result :=
  match r with
  | .data v => (v.elementOf index).map .data
  | .closure .. => .error ((Fault.of .typeMismatch).withAttrs
      [Attr.str "kind" "ArrayIndex", Attr.str "have" Ty.func.name])

/-- The strict equality of two results: a closure equals nothing. -/
def resultEq (c : Catalog) : Result → Result → Bool
  | .data l, .data r => l.strictEq c r
  | _, _ => false

/-- The evaluation of a node visited at depth `d` (see the module header),
    its own record last. -/
def evalAt (c : Catalog) (env : Env) (d : Nat) : Node → Outcome Result
  | view _ n => evalAt c env d n
  | param p => done .parameter d ([], match env.find? p.name with
    | some v => .ok (.data v)
    | none => .error ((Fault.of .unboundParameter).withAttrs
        [Attr.str "name" p.name, Attr.strings "bound" env.names]))
  | value _ v => done .value d ([], .ok (.data v))
  | member _ s f => done .member d <| andThen (evalAt c env (d + 1) s) fun r =>
      ([], memberOfResult c r f)
  | index _ s i => done .arrayIndex d <| andThen (evalAt c env (d + 1) s) fun r =>
      ([], elementOfResult r i)
  | not o => done .not d <| andThen (evalAt c env (d + 1) o) fun r =>
      ([], (asBool .not r).map fun b => .data (.ofBool !b))
  | equal l r => done .equal d <| andThen (evalAt c env (d + 1) l) fun a =>
      andThen (evalAt c env (d + 1) r) fun b => ([], .ok (.data (.ofBool (resultEq c a b))))
  | and l r => done .and d <| andThen (evalAt c env (d + 1) l) fun a =>
      match asBool .and a with
      | .error e => ([], .error e)
      | .ok false => ([], .ok (.data (.ofBool false)))
      | .ok true => andThen (evalAt c env (d + 1) r) fun b =>
        ([], (asBool .and b).map fun x => .data (.ofBool x))
  | or l r => done .or d <| andThen (evalAt c env (d + 1) l) fun a =>
      match asBool .or a with
      | .error e => ([], .error e)
      | .ok true => ([], .ok (.data (.ofBool true)))
      | .ok false => andThen (evalAt c env (d + 1) r) fun b =>
        ([], (asBool .or b).map fun x => .data (.ofBool x))
  | lambda _ ps b => done .lambda d ([], .ok (.closure ps b env d))

/-- The evaluation of a tree under bindings, the root at depth 1. -/
def eval (c : Catalog) (env : Env) (n : Node) : Outcome Result := evalAt c env 1 n

end Node

namespace Result

/-- A result applied to arguments: a closure evaluates its body one level
    below its lambda, its parameters bound to the arguments, which must be
    as many. -/
def call (c : Catalog) (f : Result) (args : List Value) : Outcome Result :=
  match f with
  | closure ps body env d =>
    if args.length != ps.length then
      ([], .error ((Fault.of .arityMismatch).withAttrs
        [Attr.int "expected" ps.length, Attr.int "got" args.length]))
    else
      let env := (ps.zip args).foldl (fun e (p, a) => e.bind p.name a) env
      Node.evalAt c env (d + 1) body
  | data _ => ([], .error (Fault.text "not a function"))

/-- Whether a result can be applied. -/
def isCallable : Result → Bool
  | closure .. => true
  | data _ => false

end Result

/-- A test of one argument of type `p` by a lambda of one parameter whose
    body yields booleans: the lambda must have one parameter, of a type that
    values of type `p` fit. -/
def Node.predicate (c : Catalog) (p : Ty) (l : Option Node) (env : Env) :
    Except Fault (Value → Outcome Bool) :=
  match l with
  | none => .error ((Fault.of .nilOperand).withAttrs [Attr.str "kind" "Lambda"])
  | some n => match n.unwrap with
    | .lambda _ ps body =>
      match ps with
      | [q] =>
        if !c.compatible p q.ty then
          .error ((Fault.of .typeMismatch).withAttrs
            [Attr.str "parameter" q.name, Attr.str "have" p.name, Attr.str "want" q.ty.name])
        else .ok fun arg =>
          let (rs, r) := Result.call c (.closure ps body env 0) [arg]
          (rs, r.bind fun v => match v with
            | .data (.bool .bool b) => .ok b
            | v => .error ((Fault.of .typeMismatch).withAttrs
                [Attr.str "kind" "Lambda", Attr.str "have" v.typeName, Attr.str "want" "bool"]))
      | _ => .error ((Fault.of .arityMismatch).withAttrs
          [Attr.int "expected" 1, Attr.int "got" ps.length])
    | _ => .error ((Fault.of .nilOperand).withAttrs [Attr.str "kind" "Lambda"])

end ExprTree
