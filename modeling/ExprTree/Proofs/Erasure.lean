import ExprTree.Tree.Document
import ExprTree.Tree.Eval
import ExprTree.Command.Run

/-!
# Untyped trees

The static types of a tree, its views and the instances of its parameters
are read by the constructors' checks and by nothing else: the text, the
document and the evaluation of a tree see parameters by name, members by
field, elements by position and literals by value. The *erasure* of a tree
(`Node.erase`) keeps just that, every type `any`, every instance `0`, no
view; the erasure of a result (`Result.erase`) erases the body and parameters
of a closure.

* `compile_erase`, `toDoc_erase`, `kind_erase`: a tree and its erasure have
  one text, one document and one kind;
* `evalAt_erase`, `call_erase`: evaluating the erasure gives the erased
  outcome of evaluating the tree, and so does calling an erased closure; so
  trees of one erasure evaluate alike, records included, down any chain of
  calls of what they give (`Outcome.same_of_erase_eq`, `chain_erase`).
-/

namespace ExprTree

/-- A parameter known by its name alone. -/
def Param.erase (p : Param) : Param := ⟨p.name, .any, 0⟩

@[simp] theorem Param.name_erase (p : Param) : p.erase.name = p.name := rfl

namespace Node

/-- The erasure of a tree (see the module header). -/
def erase : Node → Node
  | param p => param p.erase
  | value _ v => value .any v
  | member _ s f => member .any s.erase f
  | index _ s i => index .any s.erase i
  | not o => not o.erase
  | equal l r => equal l.erase r.erase
  | and l r => and l.erase r.erase
  | or l r => or l.erase r.erase
  | lambda _ ps b => lambda .any (ps.map Param.erase) b.erase
  | view _ n => n.erase

@[simp] theorem erase_view (t : Ty) (n : Node) : (view t n).erase = n.erase := rfl

@[simp] theorem erase_unwrap (n : Node) : n.unwrap.erase = n.erase := by
  induction n <;> simp_all [unwrap, erase]

@[simp] theorem kind_erase (n : Node) : n.erase.kind = n.kind := by
  induction n <;> simp_all [erase, kind]

@[simp] theorem compile_erase (c : Catalog) (n : Node) : n.erase.compile c = n.compile c := by
  induction n <;> simp_all [erase, compile, Function.comp_def]

@[simp] theorem toDoc_erase (n : Node) : n.erase.toDoc = n.toDoc := by
  induction n <;> simp_all [erase, toDoc, Function.comp_def]

@[simp] theorem fingerprint_erase (c : Catalog) (n : Node) :
    n.erase.fingerprint c = n.fingerprint c := by
  simp [fingerprint]

end Node

namespace Result

/-- The erasure of a result: a closure's parameters and body erased. -/
def erase : Result → Result
  | data v => data v
  | closure ps b env d => closure (ps.map Param.erase) b.erase env d

@[simp] theorem erase_data (v : Value) : (data v).erase = data v := rfl

@[simp] theorem typeName_erase (r : Result) : r.erase.typeName = r.typeName := by
  cases r <;> rfl

end Result

namespace Node

@[simp] theorem asBool_erase (k : Kind) (r : Result) : asBool k r.erase = asBool k r := by
  cases r <;> rfl

@[simp] theorem memberOfResult_erase (c : Catalog) (r : Result) (f : String) :
    memberOfResult c r.erase f = memberOfResult c r f := by
  cases r <;> rfl

@[simp] theorem elementOfResult_erase (r : Result) (i : Nat) :
    elementOfResult r.erase i = elementOfResult r i := by
  cases r <;> rfl

@[simp] theorem resultEq_erase (c : Catalog) (a b : Result) :
    resultEq c a.erase b.erase = resultEq c a b := by
  cases a <;> cases b <;> rfl

/-- A member or an element is a host value, which erasure keeps. -/
theorem map_erase_memberOfResult (c : Catalog) (r : Result) (f : String) :
    (memberOfResult c r f).map Result.erase = memberOfResult c r f := by
  cases r with
  | data v => simp only [memberOfResult]; cases v.memberOf c f <;> rfl
  | closure => rfl

theorem map_erase_elementOfResult (r : Result) (i : Nat) :
    (elementOfResult r i).map Result.erase = elementOfResult r i := by
  cases r with
  | data v => simp only [elementOfResult]; cases v.elementOf i <;> rfl
  | closure => rfl

theorem map_erase_bool (x : Except Fault Bool) (g : Bool → Value) :
    (x.map fun b => Result.data (g b)).map Result.erase = x.map fun b => Result.data (g b) := by
  cases x <;> rfl

end Node

namespace Outcome

/-- The erasure of an outcome: its result erased, its records kept. -/
def erase (o : Outcome Result) : Outcome Result := (o.1, o.2.map Result.erase)

/-- Call what an outcome gives with each argument list in turn, stopping at
    the first fault (`f(a)(b)…`). -/
def chain (c : Catalog) : Outcome Result → List (List Value) → Outcome Result
  | o, [] => o
  | o, args :: rest => chain c (Node.andThen o fun f => f.call c args) rest

/-- Two outcomes are the same: the same records, and equal values, two
    functions, or equal faults. -/
def Same (o o' : Outcome Result) : Prop :=
  o.1 = o'.1 ∧
    match o.2, o'.2 with
    | .ok (.data v), .ok (.data w) => v = w
    | .ok (.closure ..), .ok (.closure ..) => True
    | .error e, .error e' => e = e'
    | _, _ => False

theorem same_of_erase_eq {o o' : Outcome Result} (h : o.erase = o'.erase) : Same o o' := by
  obtain ⟨rs, r⟩ := o
  obtain ⟨rs', r'⟩ := o'
  simp only [erase, Prod.mk.injEq] at h
  obtain ⟨rfl, h⟩ := h
  refine ⟨rfl, ?_⟩
  cases r <;> cases r' <;> simp only [Except.map, reduceCtorEq, Except.error.injEq,
    Except.ok.injEq] at h ⊢
  · exact h
  · rename_i a b
    cases a <;> cases b <;> simp_all [Result.erase]

end Outcome

namespace Node

theorem done_erase (k : Kind) (d : Nat) (o : Outcome Result) :
    (done k d o).erase = done k d o.erase := by
  obtain ⟨rs, r⟩ := o
  cases r <;> simp [done, Outcome.erase, record, Except.map]

/-- Continuing an erased outcome with a step that sees only erasures. -/
theorem andThen_erase (o : Outcome Result) {f g : Result → Outcome Result}
    (h : ∀ a, g a.erase = (f a).erase) : andThen o.erase g = (andThen o f).erase := by
  obtain ⟨rs, r⟩ := o
  cases r with
  | error e => rfl
  | ok a => simp only [Outcome.erase, Except.map, andThen, h]

/-- Evaluating the erasure of a tree gives the erased outcome of evaluating
    the tree. -/
theorem evalAt_erase (c : Catalog) (env : Env) (d : Nat) (n : Node) :
    evalAt c env d n.erase = (evalAt c env d n).erase := by
  induction n generalizing d with
  | param p =>
    simp only [erase, evalAt, Param.name_erase, done_erase]
    congr 1
    simp only [Outcome.erase]
    split <;> rfl
  | value t v => simp only [erase, evalAt, done_erase]; rfl
  | member t s f ih =>
    simp only [erase, evalAt, ih, done_erase]
    congr 1
    exact andThen_erase _ fun a => by
      simp [Outcome.erase, map_erase_memberOfResult]
  | index t s i ih =>
    simp only [erase, evalAt, ih, done_erase]
    congr 1
    exact andThen_erase _ fun a => by
      simp [Outcome.erase, map_erase_elementOfResult]
  | not o ih =>
    simp only [erase, evalAt, ih, done_erase]
    congr 1
    exact andThen_erase _ fun a => by simp [Outcome.erase, map_erase_bool]
  | equal l r ihl ihr =>
    simp only [erase, evalAt, ihl, ihr, done_erase]
    congr 1
    exact andThen_erase _ fun a => andThen_erase _ fun b => by
      simp [Outcome.erase, Except.map]
  | and l r ihl ihr | or l r ihl ihr =>
    simp only [erase, evalAt, ihl, ihr, done_erase]
    congr 1
    refine andThen_erase _ fun a => ?_
    simp only [asBool_erase]
    -- a fault, the value that decides, or the right operand's turn
    split
    · rfl
    · rfl
    · exact andThen_erase _ fun b => by simp [Outcome.erase, map_erase_bool]
  | lambda t ps b ih => simp only [erase, evalAt, done_erase]; rfl
  | view t n ih => simpa only [erase, evalAt] using ih d

end Node

namespace Result

/-- Binding a closure's arguments sees its parameters' names alone. -/
theorem bind_erase (ps : List Param) (args : List Value) (env : Env) :
    ((ps.map Param.erase).zip args).foldl (fun e (p, a) => e.bind p.name a) env =
      (ps.zip args).foldl (fun e (p, a) => e.bind p.name a) env := by
  simp [List.zip_map_left, List.foldl_map]

/-- Calling an erased closure gives the erased outcome of calling it. -/
theorem call_erase (c : Catalog) (f : Result) (args : List Value) :
    f.erase.call c args = (f.call c args).erase := by
  cases f with
  | data v => rfl
  | closure ps b env d =>
    simp only [erase, call, List.length_map, bind_erase]
    split
    · rfl
    · exact Node.evalAt_erase _ _ _ _

end Result

namespace Outcome

/-- Calling down a chain commutes with erasure. -/
theorem chain_erase (c : Catalog) (o : Outcome Result) (calls : List (List Value)) :
    o.erase.chain c calls = (o.chain c calls).erase := by
  induction calls generalizing o with
  | nil => rfl
  | cons args rest ih =>
    simp only [chain]
    rw [Node.andThen_erase o (f := fun f => f.call c args) fun a => Result.call_erase c a args, ih]

end Outcome

end ExprTree
