import ExprTree.Data.Show
import ExprTree.Text.Unicode

/-!
# Expression trees

An expression tree (`Node`) reads host values: parameters, literal values,
members and elements of other nodes, negation, strict equality, conjunction,
disjunction and lambdas. A node has a *static type*, the type its
constructor was given, and a *type*, the one it reports: they differ only for
a *view*, a node re-typed by `Node.cast`, which keeps the kind and type of
the node it shows and is otherwise transparent.

The text of a tree (`Node.compile`):

* a parameter is its name, a value its literal text between single quotes,
  without escaping;
* a member is `source.field`, an element `source[i]`, a negation `!x`;
* equality, conjunction and disjunction are `(l === r)`, `(l && r)` and
  `(l || r)`;
* a lambda is `(p,q) => body`.

`Node.walk` visits a tree parents first, a lambda's parameters before its
body; `Node.outlines` lists its lines, each with its depth, kind and a
detail, a lambda's only child being its body, and `Node.outlineIn` hands
them to a consumer one by one, for as long as it asks for more.

Parameters are instances: two parameters of one name and type are distinct
unless they carry the same `Param.id`.
-/

namespace ExprTree

/-- The kinds of nodes. -/
inductive Kind where
  | parameter
  | member
  | arrayIndex
  | value
  | not
  | equal
  | and
  | or
  | lambda
  deriving DecidableEq, Repr

namespace Kind

/-- Every kind, in order. -/
def all : List Kind := [parameter, member, arrayIndex, value, not, equal, and, or, lambda]

/-- The name of a kind. -/
def name : Kind → String
  | parameter => "Parameter"
  | member => "Member"
  | arrayIndex => "ArrayIndex"
  | value => "Value"
  | not => "Not"
  | equal => "Equal"
  | and => "And"
  | or => "Or"
  | lambda => "Lambda"

/-- The name of the kind numbered `n`, `Unknown` past the last. -/
def nameOf (n : Int) : String :=
  if 0 ≤ n then (all[n.toNat]?.map name).getD "Unknown" else "Unknown"

/-- The kind named `s`, in any case. -/
def parse? (s : String) : Option Kind := all.find? fun k => Text.equalFold k.name s

/-- The key of a kind in tree documents: its name in lower case. -/
def key (k : Kind) : String := k.name.toLower

end Kind

/-- Whether a text is an identifier: not empty, of letters, digits, `_` and
    `$`, not starting with a digit. -/
def isIdentifier (s : String) : Bool :=
  match s.toList with
  | [] => false
  | c :: cs =>
    (c == '_' || c == '$' || Text.isLetter c) &&
      cs.all fun c => c == '_' || c == '$' || Text.isLetter c || Text.isDigit c

/-- A parameter instance. -/
structure Param where
  /-- The name it is bound by. -/
  name : String
  /-- Its static type. -/
  ty : Ty
  /-- The instance: parameters of equal `id` are the same. -/
  id : Nat
  deriving DecidableEq, Repr, Inhabited

/-- An expression tree (see the module header). -/
inductive Node where
  | param (p : Param)
  /-- A literal value of static type `ty`. -/
  | value (ty : Ty) (v : Value)
  /-- The member `field` of `source`, of static type `ty`. -/
  | member (ty : Ty) (source : Node) (field : String)
  /-- The element at `index` of `source`, of static type `elem`. -/
  | index (elem : Ty) (source : Node) (index : Nat)
  | not (operand : Node)
  | equal (left right : Node)
  | and (left right : Node)
  | or (left right : Node)
  /-- A lambda of its parameters, whose body has static type `ret`. -/
  | lambda (ret : Ty) (params : List Param) (body : Node)
  /-- The node `inner` seen at static type `ty`. -/
  | view (ty : Ty) (inner : Node)
  deriving Repr, Inhabited

namespace Node

/-- The static type. -/
def staticTy : Node → Ty
  | param p => p.ty
  | value t _ => t
  | member t _ _ => t
  | index t _ _ => t
  | not _ | equal _ _ | and _ _ | or _ _ => .bool
  | lambda _ _ _ => .func
  | view t _ => t

/-- The node a view shows, through all views; the node itself otherwise. -/
def unwrap : Node → Node
  | view _ n => unwrap n
  | n => n

/-- The type a node reports: its static type, a view's the shown node's. -/
def ty : Node → Ty
  | view _ n => ty n
  | n => n.staticTy

/-- The kind, a view's the shown node's. -/
def kind : Node → Kind
  | param _ => .parameter
  | value _ _ => .value
  | member _ _ _ => .member
  | index _ _ _ => .arrayIndex
  | not _ => .not
  | equal _ _ => .equal
  | and _ _ => .and
  | or _ _ => .or
  | lambda _ _ _ => .lambda
  | view _ n => kind n

/-- The children of a node: operands in order, a lambda's parameters and
    then its body; a view's are the shown node's. -/
def children : Node → List Node
  | param _ | value _ _ => []
  | member _ s _ | index _ s _ | not s => [s]
  | equal l r | and l r | or l r => [l, r]
  | lambda _ ps b => ps.map param ++ [b]
  | view _ n => children n

/-- The text of a tree (see the module header). -/
def compile (c : Catalog) : Node → String
  | param p => p.name
  | value _ v => "'" ++ v.literal c ++ "'"
  | member _ s f => compile c s ++ "." ++ f
  | index _ s i => compile c s ++ "[" ++ toString i ++ "]"
  | not o => "!" ++ compile c o
  | equal l r => "(" ++ compile c l ++ " === " ++ compile c r ++ ")"
  | and l r => "(" ++ compile c l ++ " && " ++ compile c r ++ ")"
  | or l r => "(" ++ compile c l ++ " || " ++ compile c r ++ ")"
  | lambda _ ps b => "(" ++ ",".intercalate (ps.map (·.name)) ++ ") => " ++ compile c b
  | view _ n => compile c n

/-- The nodes a walk visits, parents first, views unwrapped: a node where
    `visit` says no is listed without its children. -/
def walk (visit : Node → Bool) : Node → List Node
  | view _ n => walk visit n
  | param p => [param p]
  | value t v => [value t v]
  | member t s f => if visit (member t s f) then member t s f :: walk visit s else [member t s f]
  | index t s i => if visit (index t s i) then index t s i :: walk visit s else [index t s i]
  | not o => if visit (not o) then not o :: walk visit o else [not o]
  | equal l r => if visit (equal l r) then equal l r :: (walk visit l ++ walk visit r) else [equal l r]
  | and l r => if visit (and l r) then and l r :: (walk visit l ++ walk visit r) else [and l r]
  | or l r => if visit (or l r) then or l r :: (walk visit l ++ walk visit r) else [or l r]
  | lambda t ps b =>
    if visit (lambda t ps b) then lambda t ps b :: (ps.map param ++ walk visit b)
    else [lambda t ps b]

/-- A line of an outline: the depth, the kind and a detail. -/
structure Outline where
  /-- The depth below the root. -/
  depth : Nat
  /-- The kind of the node. -/
  kind : Kind
  /-- A parameter's name, a value's text, `.field`, `[i]`, a lambda's
      parameter list or an operator. -/
  detail : String
  deriving DecidableEq, Repr

/-- The detail of a node's outline line. -/
def detail (c : Catalog) : Node → String
  | param p => p.name
  | value t v => compile c (value t v)
  | member _ _ f => "." ++ f
  | index _ _ i => "[" ++ toString i ++ "]"
  | not _ => "!"
  | equal _ _ => "==="
  | and _ _ => "&&"
  | or _ _ => "||"
  | lambda _ ps _ => "(" ++ ",".intercalate (ps.map (·.name)) ++ ")"
  | view _ n => detail c n

/-- The outline lines of a tree from depth `d`, parents first; a lambda's
    only child is its body. -/
def outlinesAt (c : Catalog) (d : Nat) : Node → List Outline
  | view _ n => outlinesAt c d n
  | param p => [⟨d, .parameter, p.name⟩]
  | value t v => [⟨d, .value, detail c (value t v)⟩]
  | member t s f => ⟨d, .member, detail c (member t s f)⟩ :: outlinesAt c (d + 1) s
  | index t s i => ⟨d, .arrayIndex, detail c (index t s i)⟩ :: outlinesAt c (d + 1) s
  | not o => ⟨d, .not, "!"⟩ :: outlinesAt c (d + 1) o
  | equal l r => ⟨d, .equal, "==="⟩ :: (outlinesAt c (d + 1) l ++ outlinesAt c (d + 1) r)
  | and l r => ⟨d, .and, "&&"⟩ :: (outlinesAt c (d + 1) l ++ outlinesAt c (d + 1) r)
  | or l r => ⟨d, .or, "||"⟩ :: (outlinesAt c (d + 1) l ++ outlinesAt c (d + 1) r)
  | lambda t ps b => ⟨d, .lambda, detail c (lambda t ps b)⟩ :: outlinesAt c (d + 1) b

/-- The outline lines of a tree. -/
def outlines (c : Catalog) (n : Node) : List Outline := outlinesAt c 0 n

/-- `k` after `x`, when `x` answers `true`: an iterator goes on only while
    its consumer asks for more. -/
def Outline.goOn {m : Type → Type} [Monad m] (x k : m Bool) : m Bool := do
  if (← x) then k else pure false

/-- The outline lines of a tree from depth `d`, parents first, handed one by
    one to the consumer `yield` until it answers `false`; the answer is
    whether it never did. -/
def outlineIn {m : Type → Type} [Monad m] (c : Catalog) (yield : Outline → m Bool) (d : Nat) :
    Node → m Bool
  | view _ n => outlineIn c yield d n
  | param p => yield ⟨d, .parameter, p.name⟩
  | value t v => yield ⟨d, .value, detail c (value t v)⟩
  | member t s f =>
    Outline.goOn (yield ⟨d, .member, detail c (member t s f)⟩) (outlineIn c yield (d + 1) s)
  | index t s i =>
    Outline.goOn (yield ⟨d, .arrayIndex, detail c (index t s i)⟩) (outlineIn c yield (d + 1) s)
  | not o => Outline.goOn (yield ⟨d, .not, "!"⟩) (outlineIn c yield (d + 1) o)
  | equal l r => Outline.goOn (yield ⟨d, .equal, "==="⟩)
      (Outline.goOn (outlineIn c yield (d + 1) l) (outlineIn c yield (d + 1) r))
  | and l r => Outline.goOn (yield ⟨d, .and, "&&"⟩)
      (Outline.goOn (outlineIn c yield (d + 1) l) (outlineIn c yield (d + 1) r))
  | or l r => Outline.goOn (yield ⟨d, .or, "||"⟩)
      (Outline.goOn (outlineIn c yield (d + 1) l) (outlineIn c yield (d + 1) r))
  | lambda t ps b =>
    Outline.goOn (yield ⟨d, .lambda, detail c (lambda t ps b)⟩) (outlineIn c yield (d + 1) b)

/-- The printed outline: a line per node, indented by two blanks per level,
    of its kind and detail. -/
def printOutline (c : Catalog) (n : Node) : String :=
  String.join ((outlines c n).map fun o =>
    String.ofList (List.replicate (2 * o.depth) ' ') ++ o.kind.name ++ " " ++ o.detail ++ "\n")

end Node

end ExprTree
