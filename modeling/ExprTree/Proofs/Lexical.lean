import Mathlib.Data.List.Nodup
import ExprTree.Proofs.Reading

/-!
# Lexical scope of made trees

The trees a program makes are built by the constructors or read from a
document (`Node.Made`). On both, the walk of `Node.resolve` that `Node.check`
and `Node.freeParams` run from the root agrees with the declarative scope of
`Proofs.Scope`: it never meets a parameter that is not the instance its
enclosing lambda declares, so

* `Made.check_eq_freeParams`: a made tree is closed exactly when it has no
  free parameters, and otherwise its check fails on the first of them as an
  unscoped parameter; its free parameters are its free occurrences in the
  order of the walk, each instance once.

Reading a document keeps a table of the parameters that no enclosing lambda
declares (`Reader.free`): one instance per name, each new instance numbered
above all before it (`Reader.FreeOk`). Every free occurrence of what is read
is in that table (`readNode_free`), so

* `fromDoc_lexical`: the tree read from a document resolves every name in
  the innermost enclosing lambda declaring it, shares one instance per free
  name, and its free parameters carry pairwise distinct names: the names the
  document uses outside every lambda declaring them, in the order they first
  occur.
-/

namespace ExprTree

/-! ### Lists without repetitions -/

section EraseDups

variable {α β : Type} [BEq α] [LawfulBEq α] [BEq β] [LawfulBEq β]

theorem nodup_eraseDups : ∀ l : List α, l.eraseDups.Nodup
  | [] => List.nodup_nil
  | a :: l => by
    rw [List.eraseDups_cons]
    refine List.nodup_cons.mpr ⟨fun ha => ?_, nodup_eraseDups _⟩
    simp at ha
termination_by l => l.length
decreasing_by
  have := List.length_filter_le (fun b => !b == a) l
  simp only [List.length_cons]; omega

/-- Mapping by a function that is injective on a list commutes with removing
    repetitions. -/
theorem map_eraseDups (f : α → β) : ∀ l : List α, (∀ a ∈ l, ∀ b ∈ l, f a = f b → a = b) →
    l.eraseDups.map f = (l.map f).eraseDups
  | [], _ => rfl
  | a :: l, h => by
    rw [List.eraseDups_cons, List.map_cons, List.map_cons, List.eraseDups_cons, List.filter_map]
    -- another element is dropped with `a` exactly when its image is dropped with `f a`
    have hf : l.filter (fun b => !b == a) = l.filter ((fun y => !y == f a) ∘ f) :=
      List.filter_congr fun b hb => by
        by_cases hba : b = a
        · simp [hba]
        · have : f b ≠ f a := fun e => hba (h b (List.mem_cons_of_mem _ hb) a List.mem_cons_self e)
          simp [beq_false_of_ne hba, beq_false_of_ne this]
    rw [hf, map_eraseDups f _ fun x hx y hy =>
      h x (List.mem_cons_of_mem _ (List.mem_filter.mp hx).1) y
        (List.mem_cons_of_mem _ (List.mem_filter.mp hy).1)]
termination_by l => l.length
decreasing_by
  have := List.length_filter_le ((fun y => !y == f a) ∘ f) l
  simp only [List.length_cons]; omega

end EraseDups

namespace Node

/-- Where the number of an instance tells it apart, keeping each instance
    once is removing repetitions. -/
theorem dedup_eq_eraseDups : ∀ ps : List Param, (∀ p ∈ ps, ∀ q ∈ ps, p.id = q.id → p = q) →
    dedup ps = ps.eraseDups
  | [], _ => by rw [dedup.eq_1]; rfl
  | p :: ps, h => by
    rw [dedup.eq_2, List.eraseDups_cons]
    have hf : ps.filter (fun q => q.id != p.id) = ps.filter (fun q => !q == p) :=
      List.filter_congr fun q hq => by
        by_cases hqp : q = p
        · simp [hqp]
        · have : q.id ≠ p.id := fun e => hqp (h q (List.mem_cons_of_mem _ hq) p List.mem_cons_self e)
          rw [bne_iff_ne.mpr this, beq_false_of_ne hqp]
          rfl
    rw [hf, dedup_eq_eraseDups _ fun a ha b hb =>
      h a (List.mem_cons_of_mem _ (List.mem_filter.mp ha).1) b
        (List.mem_cons_of_mem _ (List.mem_filter.mp hb).1)]
termination_by ps => ps.length
decreasing_by
  have := List.length_filter_le (fun q => !q == p) ps
  simp only [List.length_cons]; omega

/-! ### The strict walk of a scoped tree -/

/-- On a scoped tree the strict walk stops at the first free occurrence the
    scope leaves free, as an unscoped parameter, and at nothing else. -/
theorem resolve_strict_of_scoped {s : List Param} {n : Node} (h : n.Scoped s) :
    (resolve true s n).2 = (n.freeOccurrences.find? fun p => (declared? s p.name).isNone).map
      fun p => (Fault.of .unscopedParameter).withAttrs [Attr.str "name" p.name] := by
  induction n generalizing s with
  | param p =>
    simp only [resolve, freeOccurrences]
    cases hd : declared? s p.name with
    | none => simp [hd]
    | some d =>
      obtain rfl := h d hd
      simp [hd]
  | value => simp [resolve, freeOccurrences]
  | member _ _ _ ih | index _ _ _ ih | not _ ih | view _ _ ih =>
    simpa [resolve, freeOccurrences] using ih h
  | equal l r ihl ihr | and l r ihl ihr | or l r ihl ihr =>
    have hl := ihl h.1
    simp only [resolve, freeOccurrences, List.find?_append]
    rcases hres : resolve true s l with ⟨free, _ | e⟩ <;> rw [hres] at hl
    · -- the left operand passes: the right one decides
      simp only [ihr h.2]
      cases hf : l.freeOccurrences.find? fun p => (declared? s p.name).isNone with
      | none => rfl
      | some q => simp [hf] at hl
    · cases hf : l.freeOccurrences.find? fun p => (declared? s p.name).isNone with
      | none => simp [hf] at hl
      | some q => simpa [hf] using hl
  | lambda ret ps b ih =>
    simp only [resolve, freeOccurrences, ih h, List.find?_filter]
    congr 1
    congr 1
    funext p
    by_cases hp : p.name ∈ ps.map (·.name)
    · -- a name the lambda declares is not free below it
      have hd : declared? ps.reverse p.name ≠ none := by
        rw [ne_eq, declared?_eq_none_iff]; simpa using hp
      rw [declared?_lambda_of_mem hp]
      cases hq : declared? ps.reverse p.name with
      | none => exact absurd hq hd
      | some q => simp [hp]
    · rw [declared?_lambda hp]
      cases declared? s p.name <;> simp [hp]

/-- A tree scoped from the root lists its free occurrences, each instance
    once, as its free parameters. -/
theorem freeParams_of_scoped {n : Node} (h : n.Scoped []) : n.freeParams = dedup n.freeOccurrences := by
  rw [freeParams, resolve_fst_of_scoped h]
  congr 1
  exact List.filter_eq_self.mpr fun p _ => by simp [declared?]

/-- A tree scoped from the root is closed exactly when no occurrence is free,
    and otherwise fails its check on the first free occurrence. -/
theorem check_of_scoped {n : Node} (h : n.Scoped []) :
    n.check = match n.freeOccurrences with
      | [] => .ok ()
      | p :: _ => .error ((Fault.of .unscopedParameter).withAttrs [Attr.str "name" p.name]) := by
  rw [check, resolve_strict_of_scoped h]
  cases n.freeOccurrences with
  | nil => rfl
  | cons p ps => simp [declared?]

/-! ### Reading keeps a table of free parameters -/

/-- The table of free parameters: one per name, told apart by their numbers,
    all numbered below the next instance. -/
structure Reader.FreeOk (st : Reader) : Prop where
  names : (st.free.map (·.name)).Nodup
  ids : (st.free.map (·.id)).Nodup
  below : ∀ p ∈ st.free, p.id < st.next

theorem Reader.freeOk_empty : Reader.FreeOk {} := ⟨List.nodup_nil, List.nodup_nil, nofun⟩

/-- A state of the same free parameters and no fewer instances keeps the
    table. -/
theorem Reader.FreeOk.of_eq {st st' : Reader} (h : st.FreeOk) (hfr : st'.free = st.free)
    (hn : st.next ≤ st'.next) : st'.FreeOk :=
  ⟨hfr ▸ h.names, hfr ▸ h.ids, fun p hp => Nat.lt_of_lt_of_le (h.below p (hfr ▸ hp)) hn⟩

/-- A new instance of a name not yet free joins the table. -/
theorem Reader.FreeOk.add {st : Reader} (h : st.FreeOk) {name : String}
    (hn : name ∉ st.free.map (·.name)) :
    Reader.FreeOk { st with next := st.next + 1, free := st.free ++ [⟨name, .any, st.next⟩] } := by
  refine ⟨?_, ?_, ?_⟩
  · simpa [List.nodup_append] using ⟨h.names, fun q hq he => hn (List.mem_map.mpr ⟨q, hq, he⟩)⟩
  · -- the new number is above every number in the table
    have hid : st.next ∉ st.free.map (·.id) := fun hm => by
      obtain ⟨q, hq, he⟩ := List.mem_map.mp hm
      exact absurd (h.below q hq) (by omega)
    simpa [List.nodup_append] using ⟨h.ids, fun q hq he => hid (List.mem_map.mpr ⟨q, hq, he⟩)⟩
  · intro q hq
    rcases List.mem_append.mp hq with hq | hq
    · exact Nat.lt_succ_of_lt (h.below q hq)
    · rw [List.mem_singleton.mp hq]; exact Nat.lt_succ_self _

/-- Reading a node from `st` to `st'` keeps the table of free parameters: the
    parameters free before stay, the count of instances goes on, and every
    free occurrence of the node that no enclosing lambda declares is in the
    table. -/
structure FreeRead (n : Node) (st st' : Reader) : Prop where
  keeps : st.free ⊆ st'.free
  next : st.next ≤ st'.next
  ok : st'.FreeOk
  free : ∀ p ∈ n.freeOccurrences, declared? st.scopes.flatten p.name = none → p ∈ st'.free

/-- A node of two operands read one after the other, in the same scopes. -/
theorem FreeRead.pair {l r n : Node} {st st₁ st₂ : Reader} (hl : FreeRead l st st₁)
    (hr : FreeRead r st₁ st₂) (hsc : st₁.scopes = st.scopes)
    (hn : n.freeOccurrences = l.freeOccurrences ++ r.freeOccurrences) : FreeRead n st st₂ := by
  refine ⟨List.Subset.trans hl.keeps hr.keeps, Nat.le_trans hl.next hr.next, hr.ok, fun p hp hd => ?_⟩
  rw [hn] at hp
  rcases List.mem_append.mp hp with hp | hp
  · exact hr.keeps (hl.free p hp hd)
  · exact hr.free p hp (hsc ▸ hd)

/-- A node with the free occurrences of another. -/
theorem FreeRead.of_eq {n m : Node} {st st' : Reader} (h : FreeRead m st st')
    (hn : n.freeOccurrences = m.freeOccurrences) : FreeRead n st st' :=
  ⟨h.keeps, h.next, h.ok, hn ▸ h.free⟩

/-- A reader of operands keeps the table. -/
def ReadsFree (read : Value → String → ReadM Node) : Prop :=
  ∀ d p st n st', read d p st = .ok (n, st') → st.Valid → st.FreeOk → FreeRead n st st'

section Free

variable {read : Value → String → ReadM Node} {d a : Value} {p path : String} {st st' : Reader}
  {n : Node}

/-- A name found in scope or free is resolved there; a new one joins the
    table. -/
theorem lookupParam_free {name : String} {q : Param} (h : lookupParam name st = .ok (q, st'))
    (ho : st.FreeOk) : st.free ⊆ st'.free ∧ st.next ≤ st'.next ∧ st'.FreeOk ∧
      (declared? st.scopes.flatten name = none → q ∈ st'.free) := by
  simp only [lookupParam, readM_bind_eq_ok, get_eq] at h
  obtain ⟨_, _, hget, h⟩ := h
  cases hget
  have hdecl : declared? st.scopes.flatten name =
      st.scopes.findSome? fun sc => sc.find? (·.name == name) := List.find?_flatten
  cases hs : st.scopes.findSome? fun sc => sc.find? (·.name == name) with
  | some q' =>
    rw [hs] at h hdecl
    obtain ⟨rfl, rfl⟩ := readM_pure_eq_ok.mp h
    exact ⟨List.Subset.refl _, Nat.le_refl _, ho, fun hn => by rw [hdecl] at hn; cases hn⟩
  | none =>
    rw [hs] at h
    cases hf : st.free.find? (·.name == name) with
    | some q' =>
      rw [hf] at h
      obtain ⟨rfl, rfl⟩ := readM_pure_eq_ok.mp h
      exact ⟨List.Subset.refl _, Nat.le_refl _, ho, fun _ => List.mem_of_find?_eq_some hf⟩
    | none =>
      rw [hf] at h
      simp only [readM_bind_eq_ok, modify_eq] at h
      obtain ⟨q', st₁, hq, _, _, hm, h⟩ := h
      cases hm
      obtain ⟨rfl, rfl⟩ := readM_pure_eq_ok.mp h
      obtain ⟨-, rfl, rfl⟩ := freshParam_eq_ok.mp hq
      -- the name is not yet free: it joins the table as a new instance
      have hn : name ∉ st.free.map (·.name) := fun hm => by
        obtain ⟨r, hr, rfl⟩ := List.mem_map.mp hm
        exact absurd hf (by simpa using ⟨r, hr, rfl⟩)
      exact ⟨List.subset_append_left _ _, Nat.le_succ _, ho.add hn,
        fun _ => List.mem_append_right _ List.mem_cons_self⟩

/-- Reading the parameters of a lambda only counts instances. -/
theorem readParams_next {i : Nat} {items : List Value} {ps : List Param}
    (h : readParams path i items st = .ok (ps, st')) : st.next ≤ st'.next := by
  induction items generalizing i st ps with
  | nil => obtain ⟨rfl, rfl⟩ := readM_pure_eq_ok.mp h; exact Nat.le_refl _
  | cons v vs ih =>
    simp only [readParams] at h
    cases hv : asText v with
    | none => rw [hv] at h; exact absurd h failWith_ne_ok
    | some name =>
      simp only [hv, readM_bind_eq_ok] at h
      obtain ⟨q, st₁, hq, rest, st₂, hrest, h⟩ := h
      obtain ⟨rfl, rfl⟩ := readM_pure_eq_ok.mp h
      obtain ⟨-, rfl, rfl⟩ := freshParam_eq_ok.mp hq
      exact Nat.le_of_succ_le (ih hrest)

theorem readAny_free (hf : ReadsFree read) (h : readAny read d p st = .ok (n, st'))
    (hv : st.Valid) (ho : st.FreeOk) : FreeRead n st st' := by
  obtain ⟨m, hm, hc⟩ := readAny_eq_ok.mp h
  refine (hf _ _ _ _ _ hm hv ho).of_eq ?_
  rw [← freeOccurrences_unwrap n, (cast_eq_ok_unwrap hc).1, freeOccurrences_unwrap]

theorem readBool_free (hf : ReadsFree read) (h : readBool read d p st = .ok (n, st'))
    (hv : st.Valid) (ho : st.FreeOk) : FreeRead n st st' := by
  obtain ⟨m, hm, hc⟩ := readBool_eq_ok.mp h
  refine (hf _ _ _ _ _ hm hv ho).of_eq ?_
  rw [← freeOccurrences_unwrap n, (cast_eq_ok_unwrap hc).1, freeOccurrences_unwrap]

theorem readKind_param_free (h : readKind read .parameter a path st = .ok (n, st'))
    (hv : st.Valid) (ho : st.FreeOk) : FreeRead n st st' := by
  simp only [readKind] at h
  cases ha : asText a with
  | none => rw [ha] at h; exact absurd h failWith_ne_ok
  | some name =>
    simp only [ha, readM_bind_eq_ok] at h
    obtain ⟨q, st₁, hq, h⟩ := h
    obtain ⟨rfl, rfl⟩ := readM_pure_eq_ok.mp h
    obtain ⟨hkeep, hnext, hok, hfree⟩ := lookupParam_free hq ho
    have hname := (lookupParam_sound hq hv).1
    refine ⟨hkeep, hnext, hok, fun p hp hd => ?_⟩
    rw [freeOccurrences, List.mem_singleton] at hp
    subst hp
    exact hfree (hname ▸ hd)

theorem readKind_value_free (h : readKind read .value a path st = .ok (n, st'))
    (ho : st.FreeOk) : FreeRead n st st' := by
  obtain ⟨rfl, rfl⟩ := readM_pure_eq_ok.mp h
  exact ⟨List.Subset.refl _, Nat.le_refl _, ho, by simp [freeOccurrences]⟩

theorem readKind_member_free (hf : ReadsFree read)
    (h : readKind read .member a path st = .ok (n, st')) (hv : st.Valid) (ho : st.FreeOk) :
    FreeRead n st st' := by
  simp only [readKind] at h
  cases hm : asMap a with
  | none => rw [hm] at h; exact absurd h failWith_ne_ok
  | some m =>
    cases hfd : asText (entry m "field") with
    | none => simp only [hm, hfd] at h; exact absurd h failWith_ne_ok
    | some f =>
      simp only [hm, hfd, readM_bind_eq_ok, lift_eq_ok] at h
      obtain ⟨src, st₁, hsrc, hb, rfl⟩ := h
      obtain ⟨-, -, rfl⟩ := Build.member_eq_ok.mp hb
      exact (readAny_free hf hsrc hv ho).of_eq rfl

theorem readKind_arrayIndex_free (hf : ReadsFree read)
    (h : readKind read .arrayIndex a path st = .ok (n, st')) (hv : st.Valid) (ho : st.FreeOk) :
    FreeRead n st st' := by
  simp only [readKind] at h
  cases hm : asMap a with
  | none => rw [hm] at h; exact absurd h failWith_ne_ok
  | some m =>
    cases hi : asInt (entry m "index") with
    | none => simp only [hm, hi] at h; exact absurd h failWith_ne_ok
    | some i =>
      simp only [hm, hi, readM_bind_eq_ok, lift_eq_ok] at h
      obtain ⟨src, st₁, hsrc, seq, _, ⟨hc, rfl⟩, hb, rfl⟩ := h
      obtain ⟨-, rfl⟩ := Build.arrayIndex_eq_ok.mp hb
      refine (hf _ _ _ _ _ hsrc hv ho).of_eq ?_
      show seq.freeOccurrences = _
      rw [← freeOccurrences_unwrap seq, (cast_eq_ok_unwrap hc).1, freeOccurrences_unwrap]

theorem readKind_not_free (hf : ReadsFree read)
    (h : readKind read .not a path st = .ok (n, st')) (hv : st.Valid) (ho : st.FreeOk) :
    FreeRead n st st' := by
  simp only [readKind, readM_bind_eq_ok, lift_eq_ok] at h
  obtain ⟨o, st₁, ho', hb, rfl⟩ := h
  rw [Build.not_eq_ok.mp hb]
  exact (readBool_free hf ho' hv ho).of_eq rfl

theorem readKind_equal_free (hs : ReadsSound read) (hf : ReadsFree read)
    (h : readKind read .equal a path st = .ok (n, st')) (hv : st.Valid) (ho : st.FreeOk) :
    FreeRead n st st' := by
  simp only [readKind] at h
  rcases hl : asList a with _ | _ | ⟨dl, _ | ⟨dr, _ | _⟩⟩
  all_goals simp only [hl] at h
  all_goals try exact absurd h failWith_ne_ok
  simp only [if_pos (show (Kind.equal == Kind.equal) = true from rfl), readM_bind_eq_ok,
    lift_eq_ok] at h
  obtain ⟨l, st₁, hl', r, st₂, hr', hb, rfl⟩ := h
  have hdl := (readAny_sound hs hl' hv).2
  have hfl := readAny_free hf hl' hv ho
  rw [(Build.equal_eq_ok.mp hb).2]
  exact hfl.pair (readAny_free hf hr' hdl.valid hfl.ok) hdl.scopes rfl

theorem readKind_and_free (hs : ReadsSound read) (hf : ReadsFree read)
    (h : readKind read .and a path st = .ok (n, st')) (hv : st.Valid) (ho : st.FreeOk) :
    FreeRead n st st' := by
  simp only [readKind] at h
  rcases hl : asList a with _ | _ | ⟨dl, _ | ⟨dr, _ | _⟩⟩
  all_goals simp only [hl] at h
  all_goals try exact absurd h failWith_ne_ok
  simp only [if_neg (show ¬ (Kind.and == Kind.equal) = true by decide),
    if_pos (show (Kind.and == Kind.and) = true from rfl), readM_bind_eq_ok, lift_eq_ok] at h
  obtain ⟨l, st₁, hl', r, st₂, hr', hb, rfl⟩ := h
  have hdl := (readBool_sound hs hl' hv).2.2
  have hfl := readBool_free hf hl' hv ho
  rw [Build.and_eq_ok.mp hb]
  exact hfl.pair (readBool_free hf hr' hdl.valid hfl.ok) hdl.scopes rfl

theorem readKind_or_free (hs : ReadsSound read) (hf : ReadsFree read)
    (h : readKind read .or a path st = .ok (n, st')) (hv : st.Valid) (ho : st.FreeOk) :
    FreeRead n st st' := by
  simp only [readKind] at h
  rcases hl : asList a with _ | _ | ⟨dl, _ | ⟨dr, _ | _⟩⟩
  all_goals simp only [hl] at h
  all_goals try exact absurd h failWith_ne_ok
  simp only [if_neg (show ¬ (Kind.or == Kind.equal) = true by decide),
    if_neg (show ¬ (Kind.or == Kind.and) = true by decide), readM_bind_eq_ok, lift_eq_ok] at h
  obtain ⟨l, st₁, hl', r, st₂, hr', hb, rfl⟩ := h
  have hdl := (readBool_sound hs hl' hv).2.2
  have hfl := readBool_free hf hl' hv ho
  rw [Build.or_eq_ok.mp hb]
  exact hfl.pair (readBool_free hf hr' hdl.valid hfl.ok) hdl.scopes rfl

theorem readKind_lambda_free (hf : ReadsFree read)
    (h : readKind read .lambda a path st = .ok (n, st')) (hv : st.Valid) (ho : st.FreeOk) :
    FreeRead n st st' := by
  simp only [readKind] at h
  cases hm : asMap a with
  | none => rw [hm] at h; exact absurd h failWith_ne_ok
  | some m =>
    cases hi : asList (entry m "params") with
    | none => simp only [hm, hi] at h; exact absurd h failWith_ne_ok
    | some items =>
      simp only [hm, hi, readM_bind_eq_ok, modify_eq, lift_eq_ok] at h
      obtain ⟨ps, st₁, hps, _, _, hm₁, b, st₃, hb, _, _, hm₂, hl, rfl⟩ := h
      cases hm₁
      cases hm₂
      obtain ⟨-, hpsv, hsc₁, hfr₁⟩ := readParams_sound hps
      have hnext := readParams_next hps
      -- the body is read with the lambda's parameters as the innermost scope
      have hv₂ : Reader.Valid { st₁ with scopes := ps.reverse :: st₁.scopes } :=
        (hv.of_eq hsc₁ hfr₁).push fun q hq => hpsv q (List.mem_reverse.mp hq)
      have hfb := readAny_free hf hb hv₂ (ho.of_eq hfr₁ hnext)
      obtain ⟨-, -, -, rfl⟩ := Build.lambda_eq_ok.mp hl
      refine ⟨fun q hq => hfb.keeps (hfr₁ ▸ hq), Nat.le_trans hnext hfb.next,
        hfb.ok.of_eq rfl (Nat.le_refl _), fun p hp hd => hfb.free p (mem_freeOccurrences_lambda.mp hp).1 ?_⟩
      -- a name the lambda does not declare is looked up outside it
      simp only [List.flatten_cons, hsc₁]
      rw [declared?_lambda (mem_freeOccurrences_lambda.mp hp).2]
      exact hd

theorem readKind_free (hs : ReadsSound read) (hf : ReadsFree read) {k : Kind}
    (h : readKind read k a path st = .ok (n, st')) (hv : st.Valid) (ho : st.FreeOk) :
    FreeRead n st st' := by
  cases k with
  | parameter => exact readKind_param_free h hv ho
  | value => exact readKind_value_free h ho
  | member => exact readKind_member_free hf h hv ho
  | arrayIndex => exact readKind_arrayIndex_free hf h hv ho
  | not => exact readKind_not_free hf h hv ho
  | equal => exact readKind_equal_free hs hf h hv ho
  | and => exact readKind_and_free hs hf h hv ho
  | or => exact readKind_or_free hs hf h hv ho
  | lambda => exact readKind_lambda_free hf h hv ho

end Free

/-- Reading keeps the table of free parameters at every depth. -/
theorem readNode_free (fuel : Nat) : ReadsFree (readNode fuel) := by
  induction fuel with
  | zero => intro d p st n st' h; simp only [readNode] at h; exact absurd h failWith_ne_ok
  | succ fuel ih =>
    intro d p st n st' h hv ho
    obtain ⟨k, a, hk, h⟩ := readNode_succ_eq_ok.mp h
    exact readKind_free (readNode_sound fuel) ih h hv ho

/-- The free occurrences of a tree read from a document are free parameters
    of the final table. -/
theorem fromDoc_free {d : Value} {m : Node} (h : fromDoc d = .ok m) :
    ∃ st : Reader, st.FreeOk ∧ m.freeOccurrences ⊆ st.free := by
  cases hr : readNode (d.size + 1) d "$" {} with
  | error f => simp [fromDoc, StateT.run, hr, Except.map] at h
  | ok r =>
    simp only [fromDoc, StateT.run, hr, Except.map, Except.ok.injEq] at h
    subst h
    have hfr := readNode_free _ d "$" {} r.1 r.2 hr Reader.valid_empty Reader.freeOk_empty
    exact ⟨r.2, hfr.ok, fun p hp => hfr.free p hp rfl⟩

/-- A tree read from a document is scoped from the root. -/
theorem fromDoc_scoped {d : Value} {m : Node} (h : fromDoc d = .ok m) : m.Scoped [] := by
  cases hr : readNode (d.size + 1) d "$" {} with
  | error f => simp [fromDoc, StateT.run, hr, Except.map] at h
  | ok r =>
    simp only [fromDoc, StateT.run, hr, Except.map, Except.ok.injEq] at h
    subst h
    exact (readNode_sound _ d "$" {} r.1 r.2 hr Reader.valid_empty).2.2.resolved

@[simp] theorem freeOccurrences_erase (n : Node) :
    n.erase.freeOccurrences = n.freeOccurrences.map Param.erase := by
  induction n with
  | lambda t ps b ih =>
    simp only [erase, freeOccurrences, ih, List.filter_map]
    congr 1
    -- the erased parameters carry the same names, the decisions differ only in instances
    refine List.filter_congr fun p _ => ?_
    simp only [Function.comp_apply, Param.name_erase, List.map_map]
    exact decide_eq_decide.mpr (by simp [Function.comp_def])
  | _ => simp_all [erase, freeOccurrences]

/-! ### Made trees -/

/-- The trees a program makes: built by the constructors, or read from a
    document. -/
def Made (n : Node) : Prop := (∃ c inst, n.Built c inst) ∨ ∃ d, fromDoc d = .ok n

/-- A made tree is scoped from the root, and its free occurrences are told
    apart by their numbers. -/
theorem Made.scoped {n : Node} (h : n.Made) :
    n.Scoped [] ∧ ∀ p ∈ n.freeOccurrences, ∀ q ∈ n.freeOccurrences, p.id = q.id → p = q := by
  rcases h with ⟨c, inst, hb⟩ | ⟨d, hd⟩
  · -- a built parameter is the instance of its number
    refine ⟨hb.checked.scoped, fun p hp q hq he => ?_⟩
    rw [← hb.checked.inst_eq hp, ← hb.checked.inst_eq hq, he]
  · obtain ⟨st, ho, hsub⟩ := fromDoc_free hd
    exact ⟨fromDoc_scoped hd, fun p hp q hq => List.inj_on_of_nodup_map ho.ids (hsub hp) (hsub hq)⟩

/-- On a made tree, the walk behind `Node.freeParams` stops at no parameter,
    so none is shadowed; the tree is closed exactly when it has no free
    parameters, and otherwise its check fails on the first of them as an
    unscoped parameter; its free parameters are its free occurrences, in the
    order of the walk that skips the parameter lists of lambdas, each
    instance once. -/
theorem Made.check_eq_freeParams {n : Node} (h : n.Made) :
    (resolve false [] n).2 = none ∧
      n.check = (match n.freeParams with
        | [] => .ok ()
        | p :: _ => .error ((Fault.of .unscopedParameter).withAttrs [Attr.str "name" p.name])) ∧
      n.freeParams = n.freeOccurrences.eraseDups ∧ n.freeParams.Nodup := by
  obtain ⟨hs, hid⟩ := h.scoped
  have hfp : n.freeParams = n.freeOccurrences.eraseDups := by
    rw [freeParams_of_scoped hs, dedup_eq_eraseDups _ hid]
  refine ⟨(resolve_snd_eq_none_iff false [] n).mpr ⟨hs, nofun⟩, ?_, hfp, hfp ▸ nodup_eraseDups _⟩
  rw [check_of_scoped hs, hfp]
  cases n.freeOccurrences with
  | nil => rfl
  | cons p ps => rw [List.eraseDups_cons]

set_option maxRecDepth 20000 in
/-- A document using `y` free twice and as the parameter of a lambda reads as
    a tree whose check fails on the free `y`. -/
theorem Made.check_eq_freeParams_shared :
    Made (.or (.view .bool (.param ⟨"y", .any, 0⟩))
      (.equal (.view .any (.lambda .any [⟨"y", .any, 1⟩] (.param ⟨"y", .any, 1⟩)))
        (.param ⟨"y", .any, 0⟩))) ∧
    (resolve false [] (.or (.view .bool (.param ⟨"y", .any, 0⟩))
      (.equal (.view .any (.lambda .any [⟨"y", .any, 1⟩] (.param ⟨"y", .any, 1⟩)))
        (.param ⟨"y", .any, 0⟩)))).2 = none ∧
    (Node.or (.view .bool (.param ⟨"y", .any, 0⟩))
      (.equal (.view .any (.lambda .any [⟨"y", .any, 1⟩] (.param ⟨"y", .any, 1⟩)))
        (.param ⟨"y", .any, 0⟩))).check =
      (match (Node.or (.view .bool (.param ⟨"y", .any, 0⟩))
          (.equal (.view .any (.lambda .any [⟨"y", .any, 1⟩] (.param ⟨"y", .any, 1⟩)))
            (.param ⟨"y", .any, 0⟩))).freeParams with
        | [] => .ok ()
        | p :: _ => .error ((Fault.of .unscopedParameter).withAttrs [Attr.str "name" p.name])) ∧
    (Node.or (.view .bool (.param ⟨"y", .any, 0⟩))
      (.equal (.view .any (.lambda .any [⟨"y", .any, 1⟩] (.param ⟨"y", .any, 1⟩)))
        (.param ⟨"y", .any, 0⟩))).freeParams =
      (Node.or (.view .bool (.param ⟨"y", .any, 0⟩))
        (.equal (.view .any (.lambda .any [⟨"y", .any, 1⟩] (.param ⟨"y", .any, 1⟩)))
          (.param ⟨"y", .any, 0⟩))).freeOccurrences.eraseDups ∧
    (Node.or (.view .bool (.param ⟨"y", .any, 0⟩))
      (.equal (.view .any (.lambda .any [⟨"y", .any, 1⟩] (.param ⟨"y", .any, 1⟩)))
        (.param ⟨"y", .any, 0⟩))).freeParams.Nodup :=
  have hm : Made (.or (.view .bool (.param ⟨"y", .any, 0⟩))
      (.equal (.view .any (.lambda .any [⟨"y", .any, 1⟩] (.param ⟨"y", .any, 1⟩)))
        (.param ⟨"y", .any, 0⟩))) :=
    .inr ⟨docMap [("or", docList [docMap [("parameter", .ofString "y")],
      docMap [("equal", docList [docMap [("lambda", docMap [("params", docList [.ofString "y"]),
        ("body", docMap [("parameter", .ofString "y")])])],
        docMap [("parameter", .ofString "y")]])]])], rfl⟩
  ⟨hm, Made.check_eq_freeParams hm⟩

/-! ### Names read from a document -/

/-- Reading a document resolves names lexically: every parameter under a
    lambda declaring its name is the instance the innermost such lambda
    declares; the occurrences under no lambda declaring their name share one
    instance per name; and the free parameters carry pairwise distinct
    names, which are the names the document uses outside every lambda
    declaring them, in the order they first occur, lambdas' parameter lists
    skipped. -/
theorem fromDoc_lexical {d : Value} {m : Node} (h : fromDoc d = .ok m) :
    m.Scoped [] ∧
      (∀ p ∈ m.freeOccurrences, ∀ q ∈ m.freeOccurrences, p.name = q.name → p = q) ∧
      (m.freeParams.map (·.name)).Nodup ∧
      ∀ e, DocOf d e → m.freeParams.map (·.name) = (e.freeOccurrences.map (·.name)).eraseDups := by
  have hs := fromDoc_scoped h
  obtain ⟨st, ho, hsub⟩ := fromDoc_free h
  -- the free occurrences are in the table, which has one instance per name and number
  have hname : ∀ p ∈ m.freeOccurrences, ∀ q ∈ m.freeOccurrences, p.name = q.name → p = q :=
    fun p hp q hq => List.inj_on_of_nodup_map ho.names (hsub hp) (hsub hq)
  have hid : ∀ p ∈ m.freeOccurrences, ∀ q ∈ m.freeOccurrences, p.id = q.id → p = q :=
    fun p hp q hq => List.inj_on_of_nodup_map ho.ids (hsub hp) (hsub hq)
  have hnames : m.freeParams.map (·.name) = (m.freeOccurrences.map (·.name)).eraseDups := by
    rw [freeParams_of_scoped hs, dedup_eq_eraseDups _ hid, map_eraseDups _ _ hname]
  refine ⟨hs, hname, hnames ▸ nodup_eraseDups _, fun e he => ?_⟩
  -- the document denotes the erasure of the tree read, which keeps the names
  rw [hnames, ← (fromDoc_sound h).unique he, freeOccurrences_erase, List.map_map]
  rfl

set_option maxRecDepth 20000 in
/-- The free `y` of a document is one instance, distinct from the `y` of the
    lambda inside it. -/
theorem fromDoc_lexical_shared :
    fromDoc (docMap [("or", docList [docMap [("parameter", .ofString "y")],
      docMap [("equal", docList [docMap [("lambda", docMap [("params", docList [.ofString "y"]),
        ("body", docMap [("parameter", .ofString "y")])])],
        docMap [("parameter", .ofString "y")]])]])]) =
      .ok (.or (.view .bool (.param ⟨"y", .any, 0⟩))
        (.equal (.view .any (.lambda .any [⟨"y", .any, 1⟩] (.param ⟨"y", .any, 1⟩)))
          (.param ⟨"y", .any, 0⟩))) ∧
    (Node.or (.view .bool (.param ⟨"y", .any, 0⟩))
      (.equal (.view .any (.lambda .any [⟨"y", .any, 1⟩] (.param ⟨"y", .any, 1⟩)))
        (.param ⟨"y", .any, 0⟩))).Scoped [] ∧
    (∀ p ∈ (Node.or (.view .bool (.param ⟨"y", .any, 0⟩))
        (.equal (.view .any (.lambda .any [⟨"y", .any, 1⟩] (.param ⟨"y", .any, 1⟩)))
          (.param ⟨"y", .any, 0⟩))).freeOccurrences,
      ∀ q ∈ (Node.or (.view .bool (.param ⟨"y", .any, 0⟩))
        (.equal (.view .any (.lambda .any [⟨"y", .any, 1⟩] (.param ⟨"y", .any, 1⟩)))
          (.param ⟨"y", .any, 0⟩))).freeOccurrences, p.name = q.name → p = q) ∧
    ((Node.or (.view .bool (.param ⟨"y", .any, 0⟩))
      (.equal (.view .any (.lambda .any [⟨"y", .any, 1⟩] (.param ⟨"y", .any, 1⟩)))
        (.param ⟨"y", .any, 0⟩))).freeParams.map (·.name)).Nodup ∧
    ∀ e, DocOf (docMap [("or", docList [docMap [("parameter", .ofString "y")],
        docMap [("equal", docList [docMap [("lambda", docMap [("params", docList [.ofString "y"]),
          ("body", docMap [("parameter", .ofString "y")])])],
          docMap [("parameter", .ofString "y")]])]])]) e →
      (Node.or (.view .bool (.param ⟨"y", .any, 0⟩))
        (.equal (.view .any (.lambda .any [⟨"y", .any, 1⟩] (.param ⟨"y", .any, 1⟩)))
          (.param ⟨"y", .any, 0⟩))).freeParams.map (·.name) =
        (e.freeOccurrences.map (·.name)).eraseDups :=
  have h : fromDoc (docMap [("or", docList [docMap [("parameter", .ofString "y")],
      docMap [("equal", docList [docMap [("lambda", docMap [("params", docList [.ofString "y"]),
        ("body", docMap [("parameter", .ofString "y")])])],
        docMap [("parameter", .ofString "y")]])]])]) =
      .ok (.or (.view .bool (.param ⟨"y", .any, 0⟩))
        (.equal (.view .any (.lambda .any [⟨"y", .any, 1⟩] (.param ⟨"y", .any, 1⟩)))
          (.param ⟨"y", .any, 0⟩))) := rfl
  ⟨h, fromDoc_lexical h⟩

end Node

end ExprTree
