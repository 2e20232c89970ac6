import ExprTree.Tree.Node
import ExprTree.Fault

/-!
# Scope

Which lambda declares each parameter of a tree. A parameter occurrence is
*declared* by the innermost enclosing lambda with a parameter of its name
(the last of that name, when a lambda declares one name twice), and must be
that very instance; an occurrence no lambda declares is *free*.

`Node.resolve` walks a tree in the order of its children and reports the
free occurrences it met, stopping at the first occurrence that is not the
instance declared for its name (a *shadowed* parameter) or, when `strict`, at
the first free one. On it rest

* `Node.check`: a tree is closed when every parameter is declared (the first
  free one is the fault);
* `Node.freeParams`: the free instances in the order first met, each once,
  up to the first shadowed parameter.
-/

namespace ExprTree

namespace Node

/-- The declaration of `name` in a scope, innermost first. -/
def declared? (scope : List Param) (name : String) : Option Param :=
  scope.find? (·.name == name)

/-- The free parameters met, in order, and the fault that stopped the walk
    (see the module header). -/
def resolve (strict : Bool) (scope : List Param) : Node → List Param × Option Fault
  | view _ n => resolve strict scope n
  | param p =>
    match declared? scope p.name with
    | none =>
      if strict then ([], some ((Fault.of .unscopedParameter).withAttrs [Attr.str "name" p.name]))
      else ([p], none)
    | some d =>
      if d == p then ([], none)
      else ([], some ((Fault.of .shadowedParameter).withAttrs [Attr.str "name" p.name]))
  | value _ _ => ([], none)
  | lambda _ ps b => resolve strict (ps.reverse ++ scope) b
  | member _ s _ | index _ s _ | not s => resolve strict scope s
  | equal l r | and l r | or l r =>
    match resolve strict scope l with
    | (free, some e) => (free, some e)
    | (free, none) =>
      let (more, e) := resolve strict scope r
      (free ++ more, e)

/-- Whether every parameter of a tree is declared: the first free parameter
    or shadowed one is the fault. -/
def check (n : Node) : Except Fault Unit :=
  match (resolve true [] n).2 with
  | some e => .error e
  | none => .ok ()

/-- The instances of `ps` each once, in the order first met. -/
def dedup : List Param → List Param
  | [] => []
  | p :: ps => p :: dedup (ps.filter (·.id != p.id))
termination_by ps => ps.length
decreasing_by
  simp_wf
  have := List.length_filter_le (fun q => q.id != p.id) ps
  omega

/-- The free parameters of a tree, each once, in the order first met. -/
def freeParams (n : Node) : List Param := dedup (resolve false [] n).1

end Node

end ExprTree
