import ExprTree.Tree.Node
import ExprTree.Fault
import ExprTree.Text.Quote

/-!
# Dialects

The texts a tree can be written in: its own lambda text (`Node.compile`),
and the expression language of `Expr`, which has no lambdas: a tree whose
root is a lambda is written as its body, any other lambda is unsupported.

An `Expr` is printed with the least parentheses that keep its shape:
binary operators bind `==` (20) tighter than `&&` (15) tighter than `||`
(10), all to the left; an operand binding less tightly than its operator is
parenthesised, and so is a right operand of equal binding and a boolean
operand of a different operator. `!` parenthesises a binary operand, a member
access a binary source. Strings are quoted byte by byte (`Text.quoteBytes`), floats in their
shortest general form, `nil` for nil.
-/

namespace ExprTree

/-- A dialect: the lambda text of trees, or the expression language. -/
inductive Dialect where
  | lambda
  | expr
  deriving DecidableEq, Repr

namespace Dialect

/-- Every dialect, in order. -/
def all : List Dialect := [lambda, expr]

/-- The name of a dialect. -/
def name : Dialect → String
  | lambda => "lambda"
  | expr => "expr"

/-- The name of the dialect numbered `n`, `unknown` past the last. -/
def nameOf (n : Int) : String :=
  if 0 ≤ n then (all[n.toNat]?.map name).getD "unknown" else "unknown"

/-- The dialect named `s`, in any case. -/
def parse? (s : String) : Option Dialect := all.find? fun d => Text.equalFold d.name s

/-- The dialect numbered `n`. -/
def ofNat? (n : Int) : Option Dialect := if 0 ≤ n then all[n.toNat]? else none

end Dialect

/-- An expression of the expression language. -/
inductive Expr where
  | nil
  | ident (name : String)
  | int (n : Int)
  /-- A float, as the bits of a double. -/
  | float (bits : UInt64)
  | bool (b : Bool)
  /-- A string, as its bytes. -/
  | str (s : HostString)
  /-- The property `prop` of `node`: a field name or an index. -/
  | member (node : Expr) (prop : Expr)
  | unary (op : String) (operand : Expr)
  | binary (op : String) (left right : Expr)
  deriving Repr, Inhabited

namespace Expr

/-- The binding strength of a binary operator. -/
def precedence : String → Nat
  | "||" => 10
  | "&&" => 15
  | "==" => 20
  | _ => 0

/-- Whether an operator is boolean. -/
def isBoolean (op : String) : Bool := op == "&&" || op == "||"

/-- The binding strength of unary operators. -/
def unaryPrecedence : Nat := 50

/-- Whether an expression is binary. -/
def isBinary : Expr → Bool
  | binary .. => true
  | _ => false

/-- Whether the left operand `e` of the operator `op` is parenthesised. -/
def wrapsLeft (op : String) : Expr → Bool
  | unary _ _ => unaryPrecedence < precedence op
  | binary lop _ _ => precedence lop < precedence op || (isBoolean lop && op != lop)
  | _ => false

/-- Whether the right operand `e` of the operator `op` is parenthesised. -/
def wrapsRight (op : String) : Expr → Bool
  | binary rop _ _ =>
    precedence rop < precedence op || precedence rop == precedence op ||
      (isBoolean rop && op != rop)
  | _ => false

/-- The text of an expression (see the module header). -/
def print : Expr → String
  | nil => "nil"
  | ident n => n
  | int n => Number.intText n
  | float b => Number.generalText Number.Format.double b
  | bool b => if b then "true" else "false"
  | str s => Text.quoteBytes s.bytes
  | member n p =>
    let node := if n.isBinary then "(" ++ print n ++ ")" else print n
    match p with
    | str s => if isIdentifier s.text then node ++ "." ++ s.text else node ++ "[" ++ print p ++ "]"
    | _ => node ++ "[" ++ print p ++ "]"
  | unary op o => if o.isBinary then op ++ "(" ++ print o ++ ")" else op ++ print o
  | binary op l r =>
    let lhs := if wrapsLeft op l then "(" ++ print l ++ ")" else print l
    let rhs := if wrapsRight op r then "(" ++ print r ++ ")" else print r
    lhs ++ " " ++ op ++ " " ++ rhs

end Expr

namespace Node

/-- The fault of what the expression language cannot write. -/
def unsupported (attrs : List Attr) : Fault :=
  (Fault.of .unsupportedDialect).withAttrs (Attr.str "dialect" "expr" :: attrs)

/-- The expression of a literal value: nil, booleans, texts, integers up to
    the largest `int64` and floats; nothing else. -/
def exprLiteral (c : Catalog) (v : Value) : Except Fault Expr :=
  match v with
  | .nil => .ok .nil
  | .bool _ b => .ok (.bool b)
  | .str _ s => .ok (.str s)
  | .int t n =>
    if c.kind t == .uint && n ≥ 0x8000000000000000 then
      .error (unsupported [Attr.str "kind" "Value", Attr.mk "value" (.uint n.toNat)])
    else .ok (.int n)
  | .float _ b => .ok (.float b)
  | v => .error (unsupported
      [Attr.str "kind" "Value", Attr.str "type" ((v.ty?.map Ty.name).getD "")])

/-- The expression of a tree whose lambdas are unsupported. -/
def exprOf (c : Catalog) : Node → Except Fault Expr
  | view _ n => exprOf c n
  | param p => .ok (.ident p.name)
  | value _ v => exprLiteral c v
  | member _ s f => do return .member (← exprOf c s) (.str (.ofString f))
  | index _ s i => do return .member (← exprOf c s) (.int i)
  | not o => do return .unary "!" (← exprOf c o)
  | equal l r => do return .binary "==" (← exprOf c l) (← exprOf c r)
  | and l r => do return .binary "&&" (← exprOf c l) (← exprOf c r)
  | or l r => do return .binary "||" (← exprOf c l) (← exprOf c r)
  | lambda _ _ _ => .error (unsupported [Attr.str "kind" "Lambda"])

/-- The expression of a tree: of a lambda's body when the root is a lambda. -/
def toExpr (c : Catalog) : Option Node → Except Fault Expr
  | none => .error (Fault.of .nilOperand)
  | some n => match n.unwrap with
    | lambda _ _ b => exprOf c b
    | m => exprOf c m

/-- The text of a tree in a dialect, given by number: a number that names no
    dialect is unsupported. -/
def compileIn (c : Catalog) (n : Option Node) (d : Int) : Except Fault String :=
  match n with
  | none => .error (Fault.of .nilOperand)
  | some t => match Dialect.ofNat? d with
    | some .lambda => .ok (t.compile c)
    | some .expr => (toExpr c (some t)).map Expr.print
    | none => .error ((Fault.of .unsupportedDialect).withAttrs [Attr.int "dialect" d])

end Node

end ExprTree
