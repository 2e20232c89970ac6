import ExprTree.Tree.Build

/-!
# Trees built by the constructors

The trees a program can make are those the checking constructors of `Build`
return (`Node.Built`), applied to operands they accept and of the static
types their signatures ask for: the operand of `!`, `&&` and `||` has static
type `bool`, the two operands of `===` one static type, the source of an
element a slice type and the body of a lambda the lambda's result type. A
literal holds a value of its static type (`Value.HasTy`), and a parameter is
drawn from a table of instances, so that an instance has one name and one
type wherever it occurs.

The constructors are described once, by one lemma each saying exactly when
they succeed and what they return (`Build.cast_eq_ok` and its siblings);
everything later about built trees goes through these. From them:

* `Built.checked`: every node of a built tree passed its constructor's
  checks (`Node.Checked`), the form in which later proofs take built trees;
* a built node reports its static type, or a type that fits it through a
  view (`Checked.ty_fits`);
* the operand of `!`, `&&` and `||` is never a lambda, the source of an
  element is a parameter, a literal, a member or an element, and `===`
  never compares a lambda with an operator (`Checked.kind_ne_lambda_of_bool`,
  `Checked.kind_of_slice`, `equal_kinds`).
-/

namespace ExprTree

namespace Value

/-- The values a slot of type `t` can hold: nil, or a value of any dynamic
    type, in a slot of an interface type; otherwise a value of exactly that
    type, whose parts are in turn values of the types of their slots. A
    moment is a value of `time.Time`, the host's struct of unexported
    fields, where the catalog leaves that name to the host. -/
inductive HasTy (c : Catalog) : Ty → Value → Prop where
  | nil {t : Ty} : c.kind t = .iface → HasTy c t .nil
  | dynamic {t d : Ty} {v : Value} : c.kind t = .iface → v.ty? = some d → HasTy c d v →
      HasTy c t v
  | bool {t : Ty} {b : Bool} : c.kind t = .bool → HasTy c t (.bool t b)
  | int {t : Ty} {n : Int} : c.kind t = .int ∨ c.kind t = .uint → HasTy c t (.int t n)
  | float {t : Ty} {x : UInt64} : c.kind t = .float → HasTy c t (.float t x)
  | str {t : Ty} {s : HostString} : c.kind t = .string → HasTy c t (.str t s)
  | sliceNil {t e : Ty} {r : Nat} : c.underlying t = .other (.slice e) →
      HasTy c t (.slice t r none)
  | slice {t e : Ty} {r : Nat} {xs : List Value} : c.underlying t = .other (.slice e) →
      (∀ x ∈ xs, HasTy c e x) → HasTy c t (.slice t r (some xs))
  | array {t e : Ty} {n : Nat} {xs : List Value} : c.underlying t = .other (.array n e) →
      (∀ x ∈ xs, HasTy c e x) → HasTy c t (.array t xs)
  | mapNil {t k e : Ty} {r : Nat} : c.underlying t = .other (.map k e) →
      HasTy c t (.map t r none)
  | map {t k e : Ty} {r : Nat} {es : List (Value × Value)} :
      c.underlying t = .other (.map k e) → (∀ kv ∈ es, HasTy c k kv.1) →
      (∀ kv ∈ es, HasTy c e kv.2) → HasTy c t (.map t r (some es))
  | struct {t : Ty} {fs : List Field} {vs : List Value} : c.underlying t = .struct fs →
      fs.length = vs.length → (∀ fv ∈ fs.zip vs, HasTy c fv.1.ty fv.2) →
      HasTy c t (.struct t vs)
  | ptrNil {t e : Ty} : c.underlying t = .other (.ptr e) → HasTy c t (.ptr t none)
  | ptr {t e : Ty} {a : Nat} {w : Value} : c.underlying t = .other (.ptr e) → HasTy c e w →
      HasTy c t (.ptr t (some (a, w)))
  | func {t : Ty} : c.kind t = .func → HasTy c t (.func t)
  | time {m : Text.Moment} : c.underlying (.named "time.Time") = .struct Catalog.timeFields →
      HasTy c (.named "time.Time") (.time m)

/-- A value in a slot of a type that is no interface is of exactly that type. -/
theorem HasTy.ty?_eq {c : Catalog} {t : Ty} {v : Value} (h : HasTy c t v)
    (ht : c.kind t ≠ .iface) : v.ty? = some t := by
  cases h with
  | nil h' | dynamic h' => exact absurd h' ht
  | _ => rfl

end Value

/-- A computation of `Except` that succeeds, split at its first step. -/
theorem except_bind_eq_ok {ε α β : Type} {x : Except ε α} {f : α → Except ε β} {b : β} :
    x >>= f = .ok b ↔ ∃ a, x = .ok a ∧ f a = .ok b := by
  cases x <;> simp [bind, Except.bind]

namespace Build

/-! ### When the constructors succeed -/

theorem parameter_eq_ok {name : String} {ty : Ty} {id : Nat} {n : Node} :
    parameter name ty id = .ok n ↔ isIdentifier name ∧ n = .param ⟨name, ty, id⟩ := by
  unfold parameter
  by_cases h : isIdentifier name
  · simp only [h, ↓reduceIte, Except.ok.injEq, true_and]
    exact eq_comm
  · simp [h]

theorem cast_eq_ok {c : Catalog} {r : Ty} {s n : Node} :
    cast c r (some s) = .ok n ↔
      (s.staticTy = r ∧ n = s) ∨
        (s.staticTy ≠ r ∧ c.compatible s.ty r ∧ n = .view r s.unwrap) := by
  unfold cast
  by_cases hs : s.staticTy = r
  · simp only [hs, beq_self_eq_true, ↓reduceIte, Except.ok.injEq, true_and, ne_eq,
      not_true_eq_false, false_and, or_false]
    exact eq_comm
  · by_cases hc : c.compatible s.ty r
    · simp only [beq_iff_eq, hs, ↓reduceIte, hc, Except.ok.injEq, false_and, ne_eq,
        not_false_eq_true, true_and, false_or]
      exact eq_comm
    · simp [hs, hc]

theorem member_eq_ok {c : Catalog} {m : Ty} {s n : Node} {f : String} :
    member c m (some s) f = .ok n ↔
      isIdentifier f ∧ c.checkMember s.staticTy f m = .ok () ∧ n = .member m s f := by
  unfold member
  by_cases hf : isIdentifier f
  · simp only [hf, Bool.not_true, Bool.false_eq_true, ↓reduceIte, true_and, except_bind_eq_ok]
    constructor
    · rintro ⟨⟨⟩, h, he⟩
      exact ⟨h, (Except.ok.inj he).symm⟩
    · rintro ⟨h, rfl⟩
      exact ⟨(), h, rfl⟩
  · simp [hf]

/-- The static type of an element of a node of static type `t`. -/
def elemTy (t : Ty) : Ty :=
  match t with
  | .slice e => e
  | _ => .any

theorem arrayIndex_eq_ok {s n : Node} {i : Int} :
    arrayIndex (some s) i = .ok n ↔ 0 ≤ i ∧ n = .index (elemTy s.staticTy) s i.toNat := by
  unfold arrayIndex
  by_cases hi : i < 0
  · simp only [hi, ↓reduceIte, reduceCtorEq, false_iff, not_and]
    intro h; omega
  · have h0 : 0 ≤ i := by omega
    simp only [hi, ↓reduceIte, Except.ok.injEq, h0, true_and]
    cases s.staticTy <;> exact eq_comm

theorem not_eq_ok {o n : Node} : not (some o) = .ok n ↔ n = .not o := by
  simp only [not, Except.ok.injEq]
  exact eq_comm

theorem equal_eq_ok {c : Catalog} {l r n : Node} :
    equal c (some l) (some r) = .ok n ↔
      (c.kind l.ty = .iface ∨ c.kind r.ty = .iface ∨ l.ty = r.ty) ∧ n = .equal l r := by
  unfold equal
  by_cases hl : c.kind l.ty = .iface
  · simp only [hl, bne_self_eq_false, Bool.false_and, Bool.false_eq_true, ↓reduceIte,
      Except.ok.injEq, true_or, true_and]
    exact eq_comm
  · by_cases hr : c.kind r.ty = .iface
    · simp only [hr, bne_self_eq_false, Bool.and_false, Bool.false_and, Bool.false_eq_true,
        ↓reduceIte, Except.ok.injEq, true_or, or_true, true_and]
      exact eq_comm
    · by_cases he : l.ty = r.ty
      · simp only [he, bne_self_eq_false, Bool.and_false, Bool.false_eq_true, ↓reduceIte,
          Except.ok.injEq, or_true, true_and]
        exact eq_comm
      · simp [hl, hr, he]

theorem and_eq_ok {l r n : Node} : and (some l) (some r) = .ok n ↔ n = .and l r := by
  simp only [and, Except.ok.injEq]
  exact eq_comm

theorem or_eq_ok {l r n : Node} : or (some l) (some r) = .ok n ↔ n = .or l r := by
  simp only [or, Except.ok.injEq]
  exact eq_comm

/-- Checking parameters none of which is missing accepts them as they are
    when their names are pairwise distinct and none was seen before. -/
theorem checkParams_eq_ok {i : Nat} {seen : List String} {ps qs : List Param} :
    checkParams i seen (ps.map some) = .ok qs ↔
      (ps.map (·.name)).Nodup ∧ (∀ p ∈ ps, p.name ∉ seen) ∧ qs = ps := by
  induction ps generalizing i seen qs with
  | nil =>
    simp only [List.map_nil, checkParams, Except.ok.injEq, List.nodup_nil, List.not_mem_nil,
      false_imp_iff, implies_true, true_and]
    exact eq_comm
  | cons p ps ih =>
    rw [List.map_cons, checkParams]
    by_cases hp : p.name ∈ seen
    · simp [hp]
    · rw [if_neg (by simpa using hp), except_bind_eq_ok]
      simp only [ih, List.mem_append, List.mem_singleton, not_or, List.map_cons,
        List.nodup_cons, List.mem_map, List.forall_mem_cons, pure, Except.pure, Except.ok.injEq]
      constructor
      · rintro ⟨rest, ⟨hnd, hseen, rfl⟩, rfl⟩
        exact ⟨⟨fun ⟨q, hq, he⟩ => (hseen q hq).2 he, hnd⟩, ⟨hp, fun q hq => (hseen q hq).1⟩, rfl⟩
      · rintro ⟨⟨hn, hnd⟩, ⟨-, hseen⟩, rfl⟩
        exact ⟨ps, ⟨hnd, fun q hq => ⟨hseen q hq, fun he => hn ⟨q, hq, he⟩⟩, rfl⟩, rfl⟩

theorem lambda_eq_ok {ret : Ty} {b n : Node} {ps : List Param} :
    lambda ret (some b) (ps.map some) = .ok n ↔
      ps ≠ [] ∧ (ps.map (·.name)).Nodup ∧ (Node.resolve false ps.reverse b).2 = none ∧
        n = .lambda ret ps b := by
  unfold lambda
  by_cases hps : ps = []
  · simp [hps]
  · have hne : (ps.map some).isEmpty = false := by simp [hps]
    simp only [hne, Bool.false_eq_true, ↓reduceIte, ne_eq, hps, not_false_eq_true, true_and,
      except_bind_eq_ok, checkParams_eq_ok, List.not_mem_nil, not_false_eq_true, implies_true]
    constructor
    · rintro ⟨qs, ⟨hnd, rfl⟩, h⟩
      refine ⟨hnd, ?_⟩
      revert h
      cases (Node.resolve false qs.reverse b).2 with
      | none => simp only [pure, Except.pure, Except.ok.injEq, true_and]; exact Eq.symm
      | some e => simp [throw, throwThe, MonadExceptOf.throw]
    · rintro ⟨hnd, hr, rfl⟩
      exact ⟨ps, ⟨hnd, rfl⟩, by simp [hr, pure, Except.pure]⟩

end Build

namespace Node

/-! ### Views -/

@[simp] theorem ty_unwrap (n : Node) : n.unwrap.ty = n.ty := by
  induction n <;> simp_all [unwrap, ty]

@[simp] theorem kind_unwrap (n : Node) : n.unwrap.kind = n.kind := by
  induction n <;> simp_all [unwrap, kind]

@[simp] theorem unwrap_unwrap (n : Node) : n.unwrap.unwrap = n.unwrap := by
  induction n <;> simp_all [unwrap]

/-- A node seen at another type shows the same node. -/
theorem cast_eq_ok_unwrap {c : Catalog} {r : Ty} {s n : Node}
    (h : Build.cast c r (some s) = .ok n) : n.unwrap = s.unwrap ∧ n.staticTy = r := by
  rcases Build.cast_eq_ok.mp h with ⟨hs, rfl⟩ | ⟨-, -, rfl⟩
  · exact ⟨rfl, hs⟩
  · exact ⟨unwrap_unwrap s, rfl⟩

/-- Seeing a node at type `any` always succeeds. -/
theorem cast_any_ok (c : Catalog) (s : Node) : ∃ n, Build.cast c .any (some s) = .ok n := by
  by_cases hs : s.staticTy = .any
  · exact ⟨s, Build.cast_eq_ok.mpr (.inl ⟨hs, rfl⟩)⟩
  · exact ⟨_, Build.cast_eq_ok.mpr (.inr ⟨hs, by simp [Catalog.compatible, Catalog.assignable], rfl⟩)⟩

/-- A lambda, seen through views, is of the type of functions. -/
theorem ty_of_kind_lambda {n : Node} (h : n.kind = .lambda) : n.ty = .func := by
  induction n <;> simp_all [kind, ty, staticTy]

/-- Negation, equality, conjunction and disjunction, seen through views, are
    of type `bool`. -/
theorem ty_of_kind_logic {n : Node} (h : n.kind ∈ [.not, .equal, .and, .or]) :
    n.ty = .bool := by
  induction n <;> simp_all [kind, ty, staticTy]

/-- The trees built by the constructors (see the module header); instance `i`
    of a parameter is the parameter `inst i`. -/
inductive Built (c : Catalog) (inst : Nat → Param) : Node → Prop where
  | param {name : String} {ty : Ty} {id : Nat} {n : Node} :
      inst id = ⟨name, ty, id⟩ → Build.parameter name ty id = .ok n → Built c inst n
  | value {ty : Ty} {v : Value} : Value.HasTy c ty v → Built c inst (.value ty v)
  | member {m : Ty} {s n : Node} {f : String} :
      Built c inst s → Build.member c m (some s) f = .ok n → Built c inst n
  | arrayIndex {e : Ty} {s n : Node} {i : Int} : Built c inst s → s.staticTy = .slice e →
      Build.arrayIndex (some s) i = .ok n → Built c inst n
  | not {o n : Node} :
      Built c inst o → o.staticTy = .bool → Build.not (some o) = .ok n → Built c inst n
  | equal {l r n : Node} : Built c inst l → Built c inst r → l.staticTy = r.staticTy →
      Build.equal c (some l) (some r) = .ok n → Built c inst n
  | and {l r n : Node} : Built c inst l → Built c inst r → l.staticTy = .bool →
      r.staticTy = .bool → Build.and (some l) (some r) = .ok n → Built c inst n
  | or {l r n : Node} : Built c inst l → Built c inst r → l.staticTy = .bool →
      r.staticTy = .bool → Build.or (some l) (some r) = .ok n → Built c inst n
  | lambda {ret : Ty} {b n : Node} {ps : List Param} : Built c inst b → b.staticTy = ret →
      (∀ p ∈ ps, Built c inst (.param p)) → Build.lambda ret (some b) (ps.map some) = .ok n →
      Built c inst n
  | cast {r : Ty} {s n : Node} : Built c inst s → Build.cast c r (some s) = .ok n →
      Built c inst n

/-- The trees built by the constructors by their shapes: every node carries
    what its constructor checked of it (`Built.checked`). -/
inductive Checked (c : Catalog) (inst : Nat → Param) : Node → Prop where
  | param {p : Param} : inst p.id = p → isIdentifier p.name → Checked c inst (.param p)
  | value {ty : Ty} {v : Value} : Value.HasTy c ty v → Checked c inst (.value ty v)
  | member {m : Ty} {s : Node} {f : String} : Checked c inst s → isIdentifier f →
      c.checkMember s.staticTy f m = .ok () → Checked c inst (.member m s f)
  | index {e : Ty} {s : Node} {i : Nat} : Checked c inst s → s.staticTy = .slice e →
      Checked c inst (.index e s i)
  | not {o : Node} : Checked c inst o → o.staticTy = .bool → Checked c inst (.not o)
  | equal {l r : Node} : Checked c inst l → Checked c inst r → l.staticTy = r.staticTy →
      (c.kind l.ty = .iface ∨ c.kind r.ty = .iface ∨ l.ty = r.ty) → Checked c inst (.equal l r)
  | and {l r : Node} : Checked c inst l → Checked c inst r → l.staticTy = .bool →
      r.staticTy = .bool → Checked c inst (.and l r)
  | or {l r : Node} : Checked c inst l → Checked c inst r → l.staticTy = .bool →
      r.staticTy = .bool → Checked c inst (.or l r)
  | lambda {ret : Ty} {ps : List Param} {b : Node} : Checked c inst b → b.staticTy = ret →
      (∀ p ∈ ps, inst p.id = p ∧ isIdentifier p.name) → ps ≠ [] → (ps.map (·.name)).Nodup →
      (resolve false ps.reverse b).2 = none → Checked c inst (.lambda ret ps b)
  | view {r : Ty} {s : Node} : Checked c inst s → s.staticTy ≠ r → c.compatible s.ty r →
      Checked c inst (.view r s.unwrap)

variable {c : Catalog} {inst : Nat → Param}

/-- What the constructors checked of a built tree, node by node: each lemma
    `Build.*_eq_ok` read once, so that later proofs go by the shapes of
    trees. -/
theorem Built.checked {n : Node} (h : n.Built c inst) : n.Checked c inst := by
  induction h with
  | param hi h =>
    obtain ⟨hid, rfl⟩ := Build.parameter_eq_ok.mp h
    exact .param hi hid
  | value hv => exact .value hv
  | member _ h ih =>
    obtain ⟨hid, hc, rfl⟩ := Build.member_eq_ok.mp h
    exact .member ih hid hc
  | arrayIndex _ he h ih =>
    obtain ⟨-, rfl⟩ := Build.arrayIndex_eq_ok.mp h
    rw [he]
    exact .index ih he
  | not _ hb h ih => rw [Build.not_eq_ok.mp h]; exact .not ih hb
  | equal _ _ he h ihl ihr =>
    obtain ⟨hk, rfl⟩ := Build.equal_eq_ok.mp h
    exact .equal ihl ihr he hk
  | and _ _ hbl hbr h ihl ihr => rw [Build.and_eq_ok.mp h]; exact .and ihl ihr hbl hbr
  | or _ _ hbl hbr h ihl ihr => rw [Build.or_eq_ok.mp h]; exact .or ihl ihr hbl hbr
  | lambda _ hret _ h ih ihps =>
    obtain ⟨hne, hnd, hres, rfl⟩ := Build.lambda_eq_ok.mp h
    -- the parameters were built as parameters, so each is its instance
    refine .lambda ih hret (fun p hp => ?_) hne hnd hres
    cases ihps p hp with
    | param hi hid => exact ⟨hi, hid⟩
  | cast _ h ih =>
    rcases Build.cast_eq_ok.mp h with ⟨-, rfl⟩ | ⟨hne, hc, rfl⟩
    · exact ih
    · exact .view ih hne hc

/-- A built node reports its static type, or, seen through a view, a type
    that fits it. -/
theorem Checked.ty_fits {n : Node} (h : n.Checked c inst) :
    n.ty = n.staticTy ∨ c.compatible n.ty n.staticTy := by
  cases h with
  | view _ _ hc => exact .inr (by simpa [ty, staticTy] using hc)
  | _ => exact .inl rfl

/-- No type of `bool` or of functions fits another of these or a slice type:
    none of them is an interface, and they are declared types. -/
theorem not_compatible {t r : Ty} (ht : t = .bool ∨ t = .func)
    (hr : r = .bool ∨ r = .func ∨ ∃ e, r = .slice e) (hne : t ≠ r) : ¬ c.compatible t r := by
  rcases ht with rfl | rfl <;> rcases hr with rfl | rfl | ⟨e, rfl⟩ <;>
    simp_all [Catalog.compatible, Catalog.assignable, Catalog.kind, Catalog.underlying,
      Ty.isLiteral]

/-- The operand of `!`, `&&` and `||`, of static type `bool`, is never a
    lambda. -/
theorem Checked.kind_ne_lambda_of_bool {o : Node} (h : o.Checked c inst)
    (ho : o.staticTy = .bool) : o.kind ≠ .lambda := by
  intro hk
  have hty := ty_of_kind_lambda hk
  rcases h.ty_fits with he | hc
  · rw [hty, ho] at he; cases he
  · rw [hty, ho] at hc
    exact not_compatible (.inr rfl) (.inl rfl) (by decide) hc

/-- The source of an element, of a slice type, is a parameter, a literal, a
    member or an element. -/
theorem Checked.kind_of_slice {s : Node} {e : Ty} (h : s.Checked c inst)
    (hs : s.staticTy = .slice e) : s.kind ∈ [.parameter, .value, .member, .arrayIndex] := by
  have hlam : s.kind ≠ .lambda := by
    intro hk
    have hty := ty_of_kind_lambda hk
    rcases h.ty_fits with he | hc
    · rw [hty, hs] at he; cases he
    · rw [hty, hs] at hc
      exact not_compatible (.inr rfl) (.inr (.inr ⟨e, rfl⟩)) (by simp) hc
  have hlog : s.kind ∉ [.not, .equal, .and, .or] := by
    intro hk
    have hty := ty_of_kind_logic hk
    rcases h.ty_fits with he | hc
    · rw [hty, hs] at he; cases he
    · rw [hty, hs] at hc
      exact not_compatible (.inl rfl) (.inr (.inr ⟨e, rfl⟩)) (by simp) hc
  cases hk : s.kind <;> simp_all

/-- `===` never compares a lambda with a negation, equality, conjunction or
    disjunction: their types differ and neither is an interface. -/
theorem equal_kinds {l r : Node}
    (h : c.kind l.ty = .iface ∨ c.kind r.ty = .iface ∨ l.ty = r.ty) :
    ¬ (l.kind = .lambda ∧ r.kind ∈ [.not, .equal, .and, .or]) := by
  rintro ⟨hl, hr⟩
  rw [ty_of_kind_lambda hl, ty_of_kind_logic hr] at h
  simp [Catalog.kind, Catalog.underlying] at h

end Node

end ExprTree
