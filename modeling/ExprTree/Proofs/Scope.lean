import ExprTree.Proofs.Construction

/-!
# Static scope

Which parameter occurrences of a tree its lambdas declare, said without the
walk of `Node.resolve`:

* `Node.freeOccurrences`: the parameter occurrences of a tree whose name no
  enclosing lambda of the tree declares, in the order of the walk, the
  parameter lists of lambdas skipped;
* `Node.Scoped s`: every occurrence whose name a lambda of the tree, or
  else the scope `s`, declares is the declared instance.

The walk reports exactly these: it stops at no shadowed parameter when the
tree is scoped, and otherwise lists the free occurrences the scope leaves
free (`resolve_snd_eq_none_iff`, `resolve_fst_of_scoped`). A tree is scoped
in a scope when it is scoped alone and its free occurrences agree with the
scope (`scoped_iff`). Each lambda checked its body against its own
parameters when it was built, and that is all scoping asks: a built tree is
scoped from the root (`Checked.scoped`), so its free parameters are its free
occurrences, each instance once (`Built.freeParams_eq`), and it is closed
exactly when it has none (`Built.check_eq_ok_iff`).
-/

namespace ExprTree

namespace Node

/-- The occurrences of parameters whose name no enclosing lambda of the tree
    declares, in the order of the walk. -/
def freeOccurrences : Node → List Param
  | param p => [p]
  | value _ _ => []
  | member _ s _ | index _ s _ | not s | view _ s => freeOccurrences s
  | equal l r | and l r | or l r => freeOccurrences l ++ freeOccurrences r
  | lambda _ ps b => (freeOccurrences b).filter fun p => p.name ∉ ps.map (·.name)

/-- The occurrence `p` is the instance that the scope `s` declares for its
    name, if `s` declares it. -/
def Resolves (s : List Param) (p : Param) : Prop :=
  ∀ d, declared? s p.name = some d → d = p

/-- Every occurrence declared by a lambda of the tree, or else by the scope
    `s` (innermost first), is the declared instance. -/
def Scoped (s : List Param) : Node → Prop
  | param p => Resolves s p
  | value _ _ => True
  | member _ n _ | index _ n _ | not n | view _ n => Scoped s n
  | equal l r | and l r | or l r => Scoped s l ∧ Scoped s r
  | lambda _ ps b => Scoped (ps.reverse ++ s) b

@[simp] theorem freeOccurrences_unwrap (n : Node) :
    n.unwrap.freeOccurrences = n.freeOccurrences := by
  induction n <;> simp_all [unwrap, freeOccurrences]

@[simp] theorem scoped_unwrap {s : List Param} (n : Node) : n.unwrap.Scoped s ↔ n.Scoped s := by
  induction n <;> simp_all [unwrap, Scoped]

/-! ### Lambdas' scopes -/

theorem declared?_append (s t : List Param) (x : String) :
    declared? (s ++ t) x = (declared? s x).or (declared? t x) := by
  simp [declared?, List.find?_append]

theorem declared?_eq_none_iff {s : List Param} {x : String} :
    declared? s x = none ↔ x ∉ s.map (·.name) := by
  simp [declared?, List.find?_eq_none]

/-- Inside a lambda, a name the lambda does not declare is looked up outside. -/
theorem declared?_lambda {ps s : List Param} {x : String} (hx : x ∉ ps.map (·.name)) :
    declared? (ps.reverse ++ s) x = declared? s x := by
  rw [declared?_append, declared?_eq_none_iff.mpr (by simpa using hx), Option.none_or]

/-- A name a lambda declares is declared by it, whatever lies outside. -/
theorem declared?_lambda_of_mem {ps s : List Param} {x : String} (hx : x ∈ ps.map (·.name)) :
    declared? (ps.reverse ++ s) x = declared? ps.reverse x := by
  rw [declared?_append]
  cases h : declared? ps.reverse x with
  | none => exact absurd hx (by simpa using declared?_eq_none_iff.mp h)
  | some d => rfl

theorem mem_freeOccurrences_lambda {ret : Ty} {ps : List Param} {b : Node} {p : Param} :
    p ∈ (lambda ret ps b).freeOccurrences ↔ p ∈ b.freeOccurrences ∧ p.name ∉ ps.map (·.name) := by
  simp [freeOccurrences]

/-! ### What the walk reports -/

/-- The walk stops at no parameter exactly when the tree is scoped and, when
    `strict`, its scope declares each of its free occurrences. -/
theorem resolve_snd_eq_none_iff (strict : Bool) (s : List Param) (n : Node) :
    (resolve strict s n).2 = none ↔
      n.Scoped s ∧ (strict → ∀ p ∈ n.freeOccurrences, declared? s p.name ≠ none) := by
  induction n generalizing s with
  | param p =>
    simp only [resolve, Scoped, Resolves, freeOccurrences, List.mem_singleton, forall_eq]
    cases h : declared? s p.name with
    | none => cases strict <;> simp
    | some d => by_cases hd : d = p <;> simp [hd]
  | value => simp [resolve, Scoped, freeOccurrences]
  | member _ _ _ ih | index _ _ _ ih | not _ ih | view _ _ ih =>
    simpa [resolve, Scoped, freeOccurrences] using ih s
  | equal l r ihl ihr | and l r ihl ihr | or l r ihl ihr =>
    simp only [resolve, Scoped, freeOccurrences, List.mem_append]
    cases hl : resolve strict s l with
    | mk free e =>
      cases e with
      | some e =>
        have hnl := mt (ihl s).mpr (by simp [hl])
        simp only [ne_eq, reduceCtorEq, false_iff, not_and]
        intro hs hst
        exact hnl ⟨hs.1, fun h p hp => hst h p (.inl hp)⟩
      | none =>
        obtain ⟨hsl, hstl⟩ := (ihl s).mp (by simp [hl])
        simp only [ihr s, hsl, true_and]
        constructor
        · rintro ⟨hsr, hstr⟩
          exact ⟨hsr, fun h p hp => hp.elim (hstl h p) (hstr h p)⟩
        · rintro ⟨hsr, hst⟩
          exact ⟨hsr, fun h p hp => hst h p (.inr hp)⟩
  | lambda ret ps b ih =>
    simp only [resolve, Scoped, ih, mem_freeOccurrences_lambda, and_imp]
    refine and_congr_right fun _ => imp_congr_right fun _ => forall_congr' fun p => ?_
    by_cases hp : p.name ∈ ps.map (·.name)
    · refine ⟨fun _ _ hn => absurd hp hn, fun _ _ => ?_⟩
      rw [declared?_lambda_of_mem hp, ne_eq, declared?_eq_none_iff]
      simpa using hp
    · simp [hp, declared?_lambda hp]

/-- When the tree is scoped, the walk lists its free occurrences that the
    scope leaves free. -/
theorem resolve_fst_of_scoped {s : List Param} {n : Node} (h : n.Scoped s) :
    (resolve false s n).1 = n.freeOccurrences.filter fun p => declared? s p.name = none := by
  induction n generalizing s with
  | param p =>
    simp only [resolve, freeOccurrences, List.filter_cons, List.filter_nil]
    cases hd : declared? s p.name with
    | none => simp
    | some d => simp [(h d hd).symm]
  | value => simp [resolve, freeOccurrences]
  | member _ _ _ ih | index _ _ _ ih | not _ ih | view _ _ ih =>
    simpa [resolve, freeOccurrences] using ih h
  | equal l r ihl ihr | and l r ihl ihr | or l r ihl ihr =>
    have hl : (resolve false s l).2 = none := (resolve_snd_eq_none_iff false s l).mpr ⟨h.1, nofun⟩
    simp only [resolve, freeOccurrences, List.filter_append]
    rcases hr : resolve false s l with ⟨free, e⟩
    simp only [hr] at hl; subst hl
    simp only
    rw [← ihl h.1, ← ihr h.2, hr]
  | lambda ret ps b ih =>
    simp only [resolve, freeOccurrences, ih h, List.filter_filter]
    refine List.filter_congr fun p _ => ?_
    by_cases hp : p.name ∈ ps.map (·.name)
    · simp [hp, declared?_lambda_of_mem hp, declared?_eq_none_iff]
    · simp [hp, declared?_lambda hp]

/-- A tree is scoped in a scope exactly when it is scoped alone and the scope
    declares each of its free occurrences as itself, if at all. -/
theorem scoped_iff {s : List Param} {n : Node} :
    n.Scoped s ↔ n.Scoped [] ∧ ∀ p ∈ n.freeOccurrences, Resolves s p := by
  induction n generalizing s with
  | param p => simp [Scoped, Resolves, freeOccurrences, declared?]
  | value => simp [Scoped, freeOccurrences]
  | member _ _ _ ih | index _ _ _ ih | not _ ih | view _ _ ih =>
    simpa [Scoped, freeOccurrences] using ih
  | equal l r ihl ihr | and l r ihl ihr | or l r ihl ihr =>
    simp only [Scoped, freeOccurrences, List.mem_append, ihl (s := s), ihr (s := s)]
    constructor
    · rintro ⟨⟨hl, hl'⟩, hr, hr'⟩
      exact ⟨⟨hl, hr⟩, fun p hp => hp.elim (hl' p) (hr' p)⟩
    · rintro ⟨⟨hl, hr⟩, h⟩
      exact ⟨⟨hl, fun p hp => h p (.inl hp)⟩, hr, fun p hp => h p (.inr hp)⟩
  | lambda ret ps b ih =>
    simp only [Scoped, List.append_nil]
    rw [ih, ih (s := ps.reverse)]
    simp only [mem_freeOccurrences_lambda, and_imp, and_assoc]
    refine and_congr_right fun _ => ⟨fun h => ⟨fun p hp => ?_, fun p hp hn => ?_⟩,
      fun ⟨h₁, h₂⟩ p hp => ?_⟩
    · by_cases hn : p.name ∈ ps.map (·.name)
      · intro d hd; exact h p hp d (by rw [declared?_lambda_of_mem hn]; exact hd)
      · intro d hd
        rw [declared?_eq_none_iff.mpr (by simpa using hn)] at hd
        cases hd
    · intro d hd; exact h p hp d (by rw [declared?_lambda hn]; exact hd)
    · by_cases hn : p.name ∈ ps.map (·.name)
      · intro d hd; exact h₁ p hp d (by rwa [declared?_lambda_of_mem hn] at hd)
      · intro d hd; exact h₂ p hp hn d (by rwa [declared?_lambda hn] at hd)

/-- A tree scoped in a scope stays scoped in any scope whose declarations it
    makes. -/
theorem Scoped.mono {s t : List Param} {n : Node} (h : n.Scoped s)
    (hts : ∀ x d, declared? t x = some d → declared? s x = some d) : n.Scoped t := by
  obtain ⟨h₀, hs⟩ := scoped_iff.mp h
  exact scoped_iff.mpr ⟨h₀, fun p hp d hd => hs p hp d (hts _ _ hd)⟩

/-! ### Each instance once -/

theorem mem_of_mem_dedup : ∀ {ps : List Param} {p : Param}, p ∈ dedup ps → p ∈ ps
  | [], _, h => by simp [dedup] at h
  | q :: qs, p, h => by
    rw [dedup.eq_2] at h
    rcases List.mem_cons.mp h with rfl | h
    · exact List.mem_cons_self
    · exact List.mem_cons_of_mem _ (List.mem_filter.mp (mem_of_mem_dedup h)).1
termination_by ps => ps.length
decreasing_by
  have := List.length_filter_le (fun x => x.id != q.id) qs
  simp only [List.length_cons]; omega

/-- Every parameter listed is represented, by its instance, in its dedup. -/
theorem exists_mem_dedup : ∀ {ps : List Param} {p : Param}, p ∈ ps →
    ∃ q ∈ dedup ps, q.id = p.id
  | [], _, h => by simp at h
  | q :: qs, p, h => by
    rw [dedup.eq_2]
    by_cases hq : p.id = q.id
    · exact ⟨q, List.mem_cons_self, hq.symm⟩
    · rcases List.mem_cons.mp h with rfl | h
      · exact absurd rfl hq
      · have hmem : p ∈ qs.filter (fun x => x.id != q.id) :=
          List.mem_filter.mpr ⟨h, by simpa using hq⟩
        obtain ⟨r, hr, hid⟩ := exists_mem_dedup hmem
        exact ⟨r, List.mem_cons_of_mem _ hr, hid⟩
termination_by ps => ps.length
decreasing_by
  have := List.length_filter_le (fun x => x.id != q.id) qs
  simp only [List.length_cons]; omega

/-! ### Built trees -/

variable {c : Catalog} {inst : Nat → Param}

/-- A built tree is scoped from the root: each lambda checked its body
    against its own parameters, which is all that scoping asks. -/
theorem Checked.scoped {n : Node} (h : n.Checked c inst) : n.Scoped [] := by
  induction h with
  | param => simp [Scoped, Resolves, declared?]
  | value => trivial
  | member _ _ _ ih | index _ _ ih | not _ _ ih => exact ih
  | equal _ _ _ _ ihl ihr | and _ _ _ _ ihl ihr | or _ _ _ _ ihl ihr => exact ⟨ihl, ihr⟩
  | lambda _ _ _ _ _ hr => simpa [Scoped] using ((resolve_snd_eq_none_iff false _ _).mp hr).1
  | view _ _ _ ih => simpa [Scoped] using ih

/-- Every occurrence of a parameter in a built tree is the instance of its
    number. -/
theorem Checked.inst_eq {n : Node} (h : n.Checked c inst) {p : Param}
    (hp : p ∈ n.freeOccurrences) : inst p.id = p := by
  induction h with
  | param hi =>
    rw [freeOccurrences, List.mem_singleton] at hp
    exact hp ▸ hi
  | value => simp [freeOccurrences] at hp
  | member _ _ _ ih | index _ _ ih | not _ _ ih => exact ih hp
  | equal _ _ _ _ ihl ihr | and _ _ _ _ ihl ihr | or _ _ _ _ ihl ihr =>
    rw [freeOccurrences, List.mem_append] at hp
    exact hp.elim ihl ihr
  | lambda _ _ _ _ _ _ ih => exact ih (mem_freeOccurrences_lambda.mp hp).1
  | view _ _ _ ih => exact ih (by simpa [freeOccurrences] using hp)

/-- The free parameters of a built tree are its free occurrences, each
    instance once. -/
theorem Built.freeParams_eq {n : Node} (h : n.Built c inst) :
    n.freeParams = dedup n.freeOccurrences := by
  rw [freeParams, resolve_fst_of_scoped h.checked.scoped]
  congr 1
  exact List.filter_eq_self.mpr fun p _ => by simp [declared?]

/-- Each free occurrence of a built tree is one of its free parameters. -/
theorem Built.mem_freeParams {n : Node} (h : n.Built c inst) {p : Param}
    (hp : p ∈ n.freeOccurrences) : p ∈ n.freeParams := by
  obtain ⟨q, hq, hid⟩ := exists_mem_dedup hp
  rw [h.freeParams_eq]
  have hq' : inst q.id = q := h.checked.inst_eq (mem_of_mem_dedup hq)
  rwa [show q = p by rw [← hq', hid, h.checked.inst_eq hp]] at hq

/-- A built tree is closed exactly when no occurrence of a parameter is free
    in it. -/
theorem Built.check_eq_ok_iff {n : Node} (h : n.Built c inst) :
    n.check = .ok () ↔ n.freeOccurrences = [] := by
  have hs := (resolve_snd_eq_none_iff true [] n)
  simp only [declared?, List.find?_nil, ne_eq, not_true_eq_false, imp_false, forall_const,
    h.checked.scoped, true_and] at hs
  rw [List.eq_nil_iff_forall_not_mem, ← hs, check]
  cases (resolve true [] n).2 <;> simp

end Node

end ExprTree
