import ExprTree.Tree.Scope
import ExprTree.Data.Access

/-!
# Building trees

The constructors of trees that check their operands (`Build`). An operand
may be missing (`none`): each constructor answers that first, as a nil
operand. The checks, in order:

* `parameter`: the name is an identifier;
* `cast`: a node already of the wanted static type stays as it is; a node
  whose type fits the wanted one, or is an interface, is shown through a
  view; any other is a type mismatch;
* `member`: the field is an identifier, and a member of the source's static
  type that fits the wanted type (`Catalog.checkMember`);
* `arrayIndex`: the index is not negative;
* `equal`: operand types are equal unless one of them is an interface;
* `lambda`: there are parameters, a body, no missing parameter, no name
  twice, and the body uses no other instance of a parameter's name than the
  declared one (`Node.resolve`).
-/

namespace ExprTree

namespace Build

/-- The fault of a missing operand with attributes `attrs`. -/
def nilOperand (attrs : List Attr) : Fault := (Fault.of .nilOperand).withAttrs attrs

/-- A parameter of name `name`, static type `ty` and instance `id`. -/
def parameter (name : String) (ty : Ty) (id : Nat) : Except Fault Node :=
  if isIdentifier name then .ok (.param ⟨name, ty, id⟩)
  else .error ((Fault.of .invalidIdentifier).withAttrs
    [Attr.str "kind" "Parameter", Attr.str "name" name])

/-- A node seen at static type `r` (see the module header). -/
def cast (c : Catalog) (r : Ty) : Option Node → Except Fault Node
  | none => .error (nilOperand [Attr.str "cast" r.name])
  | some n =>
    if n.staticTy == r then .ok n
    else if c.compatible n.ty r then .ok (.view r n.unwrap)
    else .error ((Fault.of .typeMismatch).withAttrs
      [Attr.str "kind" n.kind.name, Attr.str "have" n.ty.name, Attr.str "want" r.name])

/-- The member `field` of `source`, wanted at type `m`. -/
def member (c : Catalog) (m : Ty) (source : Option Node) (field : String) : Except Fault Node :=
  match source with
  | none => .error (nilOperand [Attr.str "kind" "Member", Attr.str "field" field])
  | some s =>
    if !isIdentifier field then
      .error ((Fault.of .invalidIdentifier).withAttrs
        [Attr.str "kind" "Member", Attr.str "field" field])
    else do
      c.checkMember s.staticTy field m
      return .member m s field

/-- The element at `index` of `source`, a node of a slice type. -/
def arrayIndex (source : Option Node) (index : Int) : Except Fault Node :=
  match source with
  | none => .error (nilOperand [Attr.str "kind" "ArrayIndex", Attr.int "index" index])
  | some s =>
    if index < 0 then .error ((Fault.of .negativeIndex).withAttrs [Attr.int "index" index])
    else
      let elem := match s.staticTy with
        | .slice e => e
        | _ => .any
      .ok (.index elem s index.toNat)

/-- The negation of a boolean node. -/
def not : Option Node → Except Fault Node
  | none => .error (nilOperand [Attr.str "kind" "Not"])
  | some o => .ok (.not o)

/-- The strict equality of two nodes. -/
def equal (c : Catalog) : Option Node → Option Node → Except Fault Node
  | some l, some r =>
    if c.kind l.ty != .iface && c.kind r.ty != .iface && l.ty != r.ty then
      .error ((Fault.of .typeMismatch).withAttrs
        [Attr.str "kind" "Equal", Attr.str "left" l.ty.name, Attr.str "right" r.ty.name])
    else .ok (.equal l r)
  | _, _ => .error (nilOperand [Attr.str "kind" "Equal"])

/-- The conjunction of two boolean nodes. -/
def and : Option Node → Option Node → Except Fault Node
  | some l, some r => .ok (.and l r)
  | _, _ => .error (nilOperand [Attr.str "kind" "And"])

/-- The disjunction of two boolean nodes. -/
def or : Option Node → Option Node → Except Fault Node
  | some l, some r => .ok (.or l r)
  | _, _ => .error (nilOperand [Attr.str "kind" "Or"])

/-- The parameters of a lambda checked in order: none missing, no name
    twice. `seen` holds the names before position `i`. -/
def checkParams : Nat → List String → List (Option Param) → Except Fault (List Param)
  | _, _, [] => .ok []
  | i, _, none :: _ =>
    .error (nilOperand [Attr.str "kind" "Lambda", Attr.int "parameter" i])
  | i, seen, some p :: ps =>
    if seen.contains p.name then
      .error ((Fault.of .duplicateParameter).withAttrs
        [Attr.str "name" p.name, Attr.strings "parameters" (some (seen ++ [p.name]))])
    else do
      let rest ← checkParams (i + 1) (seen ++ [p.name]) ps
      return p :: rest

/-- A lambda of `params` with body `body` of static type `ret`. -/
def lambda (ret : Ty) (body : Option Node) (params : List (Option Param)) : Except Fault Node :=
  if params.isEmpty then .error (Fault.of .emptyParameters)
  else match body with
    | none => .error (nilOperand [Attr.str "kind" "Lambda"])
    | some b => do
      let ps ← checkParams 0 [] params
      match (Node.resolve false ps.reverse b).2 with
      | some e => throw e
      | none => return .lambda ret ps b

end Build

end ExprTree
