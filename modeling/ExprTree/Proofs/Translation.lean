import ExprTree.Tree.Dialect

/-!
# Trees in the expression language

The expression language has no lambdas, and literals only for nil,
booleans, texts, integers and floats. A tree is written in it
(`Node.toExpr`, printed by `Node.compileIn` at the dialect numbered 1) once a
lambda at its root, seen through views, has given way to its body
(`Node.dropLambda`). What is left is written when each of its nodes is
(`Node.inExpr`): it is no lambda, and a literal is nil, a boolean, a text, a
float, or an integer that, of an unsigned kind, is at most the largest `int`
(`Value.inExpr`). What counts is the form of the value, not the static type
of its node: a nil pointer has no literal, a text of a declared type has one.

The expression is then the structural image of the tree (`Node.image`): an
identifier for a parameter, a member access by a text or by an integer for a
member or an element, `!`, `==`, `&&` and `||` for the operators, and a
literal of the same value. Otherwise the fault is the one of the first node,
in preorder (`Node.nodes`), that the language cannot write: an unsupported
dialect naming its kind and, for a literal, its value or its type
(`Node.unsupportedFault`).

* `exprLiteral_eq`: the literal of a value, or its fault;
* `exprOf_eq_exprSpec`: the translation of a tree is its image or the fault
  of its first node the language cannot write (`Node.exprSpec`), by one
  case per kind of node;
* `toExpr_spec`: the same for the whole tree once its root lambda is
  dropped; it is written exactly when no node left is a lambda and every
  literal has a literal of the language, and its text in the expression
  dialect is the printed expression or the same fault.
-/

namespace ExprTree

namespace Value

/-- The largest value of `int`. -/
def maxInt : Int := 9223372036854775807

/-- Whether the expression language has a literal for a value (see the
    module header). -/
def inExpr (c : Catalog) : Value → Bool
  | nil | bool .. | str .. | float .. => true
  | int t n => c.kind t != .uint || n ≤ maxInt
  | _ => false

/-- The literal of the same value in the expression language; nil for the
    values it has none for. -/
def exprImage : Value → Expr
  | bool _ b => .bool b
  | str _ s => .str s
  | int _ n => .int n
  | float _ x => .float x
  | _ => .nil

/-- The fault of a value the expression language has no literal for: an
    integer (of an unsigned kind, past `maxInt`) names its value, any other
    value its type. -/
def unsupportedFault : Value → Fault
  | int _ n => Node.unsupported [Attr.str "kind" "Value", Attr.mk "value" (.uint n.toNat)]
  | v => Node.unsupported [Attr.str "kind" "Value", Attr.str "type" ((v.ty?.map Ty.name).getD "")]

end Value

namespace Node

/-- The nodes of a tree in preorder, views looked through, a lambda's
    parameters before its body. -/
def nodes (n : Node) : List Node := n.walk fun _ => true

/-- Whether the expression language can write a node itself: it is no
    lambda, and a literal has a literal of the language. -/
def inExpr (c : Catalog) : Node → Bool
  | lambda .. => false
  | value _ v => v.inExpr c
  | _ => true

/-- The fault of a node the expression language cannot write. -/
def unsupportedFault : Node → Fault
  | value _ v => v.unsupportedFault
  | _ => unsupported [Attr.str "kind" "Lambda"]

/-- The structural image of a tree in the expression language (see the
    module header); nil for a lambda, which has none. -/
def image : Node → Expr
  | view _ n => n.image
  | param p => .ident p.name
  | value _ v => v.exprImage
  | member _ s f => .member s.image (.str (.ofString f))
  | index _ s i => .member s.image (.int i)
  | not o => .unary "!" o.image
  | equal l r => .binary "==" l.image r.image
  | and l r => .binary "&&" l.image r.image
  | or l r => .binary "||" l.image r.image
  | lambda .. => .nil

/-- The expression a tree is written as: the fault of its first node, in
    preorder, that the language cannot write, else its image. -/
def exprSpec (c : Catalog) (n : Node) : Except Fault Expr :=
  match n.nodes.find? (fun m => !m.inExpr c) with
  | some m => .error m.unsupportedFault
  | none => .ok n.image

/-- The tree written in the expression language: a lambda at the root,
    seen through views, gives way to its body. -/
def dropLambda (n : Node) : Node :=
  match n.unwrap with
  | lambda _ _ b => b
  | m => m

variable {c : Catalog}

/-- A literal is written as the literal of its value, if the language has
    one. -/
theorem exprLiteral_eq (c : Catalog) (v : Value) :
    exprLiteral c v = if v.inExpr c then .ok v.exprImage else .error v.unsupportedFault := by
  cases v with
  | int t n =>
    -- an integer of an unsigned kind has a literal up to the largest `int`
    by_cases hk : c.kind t = .uint
    · by_cases hn : n ≤ Value.maxInt
      · have h : ¬ n ≥ 0x8000000000000000 := by rw [Value.maxInt] at hn; omega
        simp only [exprLiteral, Value.inExpr, hk, decide_eq_false h, hn]
        simp [Value.exprImage]
      · have h : n ≥ 0x8000000000000000 := by rw [Value.maxInt] at hn; omega
        simp only [exprLiteral, Value.inExpr, hk, decide_eq_true h, hn]
        simp [Value.unsupportedFault]
    · simp [exprLiteral, Value.inExpr, hk, Value.exprImage]
  | _ => simp [exprLiteral, Value.inExpr, Value.exprImage, Value.unsupportedFault]

/-- The step at a node of one operand `s`, which it writes as `g` of the
    operand's expression. -/
theorem exprSpec_unary {n s : Node} {g : Expr → Expr} (hn : n.nodes = n :: s.nodes)
    (hin : n.inExpr c = true) (himage : n.image = g s.image) :
    n.exprSpec c = do return g (← s.exprSpec c) := by
  simp only [exprSpec, hn, List.find?_cons, hin, Bool.not_true]
  cases s.nodes.find? (fun m => !m.inExpr c) <;> simp [himage, bind, Except.bind, pure, Except.pure]

/-- The step at a binary node of operands `l` and `r`, written by the
    operator `op`: the left operand's fault comes first. -/
theorem exprSpec_binary {n l r : Node} {op : String} (hn : n.nodes = n :: (l.nodes ++ r.nodes))
    (hin : n.inExpr c = true) (himage : n.image = .binary op l.image r.image) :
    n.exprSpec c = do return .binary op (← l.exprSpec c) (← r.exprSpec c) := by
  simp only [exprSpec, hn, List.find?_cons, hin, Bool.not_true, List.find?_append]
  cases l.nodes.find? (fun m => !m.inExpr c) <;>
    cases r.nodes.find? (fun m => !m.inExpr c) <;>
    simp [himage, bind, Except.bind, pure, Except.pure]

/-- The translation of a tree whose lambdas are unsupported is its image, or
    the fault of the first node in preorder the language cannot write. -/
theorem exprOf_eq_exprSpec (c : Catalog) (n : Node) : exprOf c n = n.exprSpec c := by
  induction n with
  | view t n ih => rw [exprOf, ih]; rfl
  | param p => simp [exprOf, exprSpec, nodes, walk, inExpr, image]
  | value t v =>
    rw [exprOf, exprLiteral_eq]
    by_cases hv : v.inExpr c <;> simp [exprSpec, nodes, walk, inExpr, hv, image, unsupportedFault]
  | member t s f ih => rw [exprOf, exprSpec_unary (g := (.member · (.str (.ofString f)))) rfl rfl rfl, ih]
  | index t s i ih => rw [exprOf, exprSpec_unary (g := (.member · (.int i))) rfl rfl rfl, ih]
  | not o ih => rw [exprOf, exprSpec_unary (g := .unary "!") rfl rfl rfl, ih]
  | equal l r ihl ihr => rw [exprOf, exprSpec_binary rfl rfl rfl, ihl, ihr]
  | and l r ihl ihr => rw [exprOf, exprSpec_binary rfl rfl rfl, ihl, ihr]
  | or l r ihl ihr => rw [exprOf, exprSpec_binary rfl rfl rfl, ihl, ihr]
  | lambda t ps b => simp [exprOf, exprSpec, nodes, walk, inExpr, unsupportedFault]

theorem toExpr_eq_exprOf (c : Catalog) (n : Node) : toExpr c (some n) = exprOf c n.dropLambda := by
  simp only [toExpr, dropLambda]
  cases n.unwrap <;> rfl

/-- A tree is written in the expression language, after its root lambda is
    dropped, as its structural image exactly when no node left is a lambda
    and every literal has a literal of the language; otherwise the
    translation, and the text in the expression dialect, fail with the
    fault of the first node in preorder that the language cannot write. -/
theorem toExpr_spec (c : Catalog) (n : Node) :
    toExpr c (some n) = (match n.dropLambda.nodes.find? (fun m => !m.inExpr c) with
      | some m => .error m.unsupportedFault
      | none => .ok n.dropLambda.image) ∧
    ((∃ e, toExpr c (some n) = .ok e) ↔ ∀ m ∈ n.dropLambda.nodes, m.inExpr c = true) ∧
    compileIn c (some n) 1 = (toExpr c (some n)).map Expr.print := by
  have hspec : toExpr c (some n) = n.dropLambda.exprSpec c := by
    rw [toExpr_eq_exprOf, exprOf_eq_exprSpec]
  refine ⟨hspec, ?_, rfl⟩
  rw [hspec, exprSpec]
  -- success is the absence of a node the language cannot write
  cases h : n.dropLambda.nodes.find? (fun m => !m.inExpr c) with
  | none => simpa using List.find?_eq_none.1 h
  | some m =>
    simp only [reduceCtorEq, exists_false, false_iff]
    intro hall
    simpa [hall m (List.mem_of_find?_eq_some h)] using List.find?_some h

end Node

end ExprTree
