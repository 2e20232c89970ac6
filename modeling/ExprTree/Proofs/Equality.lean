import Mathlib.Data.Fintype.Card
import Mathlib.Data.Fintype.EquivFin
import ExprTree.Proofs.Safety

/-!
# Strict equality is safe and symmetric

`===` compares two host values by `Value.strictEq`: values of different
dynamic types differ; values of a comparable type are compared by the host's
`==` when the left one holds nothing incomparable
(`Value.comparableValue`), and deeply otherwise. The host's `==` on two
interface values (`Value.ifaceEq`) compares dynamic types first, panics on
two values of one incomparable type, and compares structs and arrays slot by
slot, stopping at the first unequal slot; `none` stands for the panic.

The choice of `==` looks at the left value only. It is safe all the same:
`==` stops at the first slot where the two values differ, and every slot
the left value holds is of a comparable type, so `==` never reaches two
incomparable values of one type (`eqOp_of_comparableValue`). And it is
symmetric: where one side holds nothing incomparable and the other does,
the two differ in the dynamic type of some slot, so that `==` and deep
equality both answer false (`shallowEq_eq_false_of_comparableValue_ne`,
`deepEq_eq_false_of_comparableValue_ne`).

Deep equality of two maps looks each key of one up in the other. It is
symmetric for maps that hold each key once (`Value.WellKeyed`), as the
host's maps do: a lookup then finds the one entry of an equal key, and a
matching of the entries of a map into those of another, as many, whose keys
tell entries apart, is a matching both ways (`matched_symm`).

* `ifaceEq_of_comparableValue`: where `strictEq` compares by `==`, the
  host's `==` does not panic and gives the same answer;
* `strictEq_comm`: `strictEq` is symmetric on well-keyed values;
* `evalAt_wellKeyed`: evaluation under well-keyed bindings and literals
  gives well-keyed data;
* `evalAt_equal_swap`: swapping the operands of `===` changes nothing once
  both evaluate, under well-keyed bindings and literals;
* `strictEq_safe_symm`: the three together.
-/

namespace ExprTree

namespace Number

theorem floatEq_comm (a b : UInt64) : floatEq a b = floatEq b a := by
  unfold floatEq
  split <;> split <;> simp_all [Bool.beq_comm]

/-- Equality of doubles: neither is a NaN, and both are zeros or they are
    the same double. -/
theorem floatEq_eq_true {a b : UInt64} :
    floatEq a b = true ↔ (unpack a).mag ≠ .nan ∧ (unpack b).mag ≠ .nan ∧
      ((∃ e e', (unpack a).mag = .finite 0 e ∧ (unpack b).mag = .finite 0 e') ∨ a = b) := by
  unfold floatEq
  split
  · simp_all
  · simp_all
  · simp_all
  · rename_i ha hb hz
    simp only [beq_iff_eq]
    constructor
    · intro h
      exact ⟨ha, hb, .inr h⟩
    · rintro ⟨-, -, ⟨e, e', hae, hbe⟩ | h⟩
      · exact absurd hbe (hz e e' hae)
      · exact h

theorem floatEq_trans {a b d : UInt64} (hab : floatEq a b = true) (hbd : floatEq b d = true) :
    floatEq a d = true := by
  rw [floatEq_eq_true] at hab hbd ⊢
  obtain ⟨ha, -, hz₁ | rfl⟩ := hab
  · obtain ⟨-, hd, hz₂ | rfl⟩ := hbd
    · obtain ⟨e, -, hae, -⟩ := hz₁
      obtain ⟨-, e', -, hde⟩ := hz₂
      exact ⟨ha, hd, .inl ⟨e, e', hae, hde⟩⟩
    · exact ⟨ha, hd, .inl hz₁⟩
  · exact hbd

end Number

namespace Value

open Number

variable {c : Catalog}

/-! ### The host's `==` -/

mutual

/-- The host's `==` on two values of one comparable type, `none` for its
    run-time panic (see the module header). -/
def eqOp (c : Catalog) : Value → Value → Option Bool
  | array _ xs, array _ ys => eqSlots c xs ys
  | struct _ xs, struct _ ys => eqSlots c xs ys
  | x, y => some (shallowEq x y)

/-- The host's `==` on the slots of two structs or arrays, in order: slots
    of different dynamic types are unequal, two of one incomparable type
    panic, and the first unequal slot ends the comparison. -/
def eqSlots (c : Catalog) : List Value → List Value → Option Bool
  | [], [] => some true
  | x :: xs, y :: ys =>
    if x.ty? != y.ty? then some false
    else if x.ty?.all c.isComparable then
      match eqOp c x y with
      | some true => eqSlots c xs ys
      | r => r
    else none
  | _, _ => some false

end

/-- The host's `==` on two interface values (see the module header). -/
def ifaceEq (c : Catalog) (x y : Value) : Option Bool :=
  if x.ty? != y.ty? then some false
  else if x.ty?.all c.isComparable then eqOp c x y
  else none

theorem comparableAll_cons (x : Value) (xs : List Value) :
    comparableAll c (x :: xs) =
      (x.ty?.all c.isComparable && comparableValue c x && comparableAll c xs) := by
  cases h : x.ty? <;> simp [comparableAll, h]

mutual

/-- `==` never panics against a value that holds nothing incomparable: the
    induction is on that value, slot by slot. -/
theorem eqOp_of_comparableValue :
    ∀ (x y : Value), comparableValue c x = true → eqOp c x y = some (shallowEq x y)
  | .array _ xs, y, h => by
    cases y with
    | array _ ys => simpa [eqOp, shallowEq] using eqSlots_of_comparableAll xs ys h
    | _ => rfl
  | .struct _ xs, y, h => by
    cases y with
    | struct _ ys => simpa [eqOp, shallowEq] using eqSlots_of_comparableAll xs ys h
    | _ => rfl
  | .nil, _, _ | .bool .., _, _ | .int .., _, _ | .float .., _, _ | .str .., _, _
  | .slice .., _, _ | .map .., _, _ | .ptr .., _, _ | .func .., _, _ | .time .., _, _ => rfl

theorem eqSlots_of_comparableAll :
    ∀ (xs ys : List Value), comparableAll c xs = true → eqSlots c xs ys = some (shallowAll xs ys)
  | [], [], _ => rfl
  | x :: xs, y :: ys, h => by
    simp only [comparableAll_cons, Bool.and_eq_true] at h
    obtain ⟨⟨hcmp, hx⟩, hxs⟩ := h
    by_cases hxy : x.ty? = y.ty?
    · -- slots of one type: the left one is comparable, so `==` goes on
      rw [eqSlots, if_neg (by simpa using hxy), if_pos hcmp, eqOp_of_comparableValue x y hx]
      cases hs : shallowEq x y
      · simp [shallowAll, hs]
      · simp [shallowAll, hxy, hs, eqSlots_of_comparableAll xs ys hxs]
    · simp [eqSlots, shallowAll, hxy]
  | [], _ :: _, _ | _ :: _, [], _ => rfl

end

/-- Where `strictEq` compares by `==` (the left value of a comparable type
    and holding nothing incomparable), the host's `==` does not panic and
    gives the answer of `strictEq`. -/
theorem ifaceEq_of_comparableValue {x y : Value} {t : Ty} (hx : x.ty? = some t)
    (hy : y.ty? = some t) (ht : c.isComparable t = true) (hv : comparableValue c x = true) :
    ifaceEq c x y = some (strictEq c x y) := by
  simp [ifaceEq, strictEq, hx, hy, ht, hv, eqOp_of_comparableValue x y hv]

/-! ### `==` and deep equality -/

mutual

theorem shallowEq_comm : ∀ (x y : Value), shallowEq x y = shallowEq y x
  | .array _ xs, y => by
    cases y with
    | array _ ys => simp only [shallowEq]; exact shallowAll_comm xs ys
    | _ => rfl
  | .struct _ xs, y => by
    cases y with
    | struct _ ys => simp only [shallowEq]; exact shallowAll_comm xs ys
    | _ => rfl
  | .nil, y | .bool .., y | .int .., y | .float .., y | .str .., y | .slice .., y | .map .., y
  | .ptr .., y | .func .., y | .time .., y => by
    cases y <;> simp [shallowEq, floatEq_comm, Bool.beq_comm]

theorem shallowAll_comm : ∀ (xs ys : List Value), shallowAll xs ys = shallowAll ys xs
  | [], [] => rfl
  | x :: xs, y :: ys => by
    simp only [shallowAll, shallowEq_comm x y, shallowAll_comm xs ys, Bool.beq_comm]
  | [], _ :: _ | _ :: _, [] => rfl

end

mutual

theorem shallowEq_trans : ∀ (x y z : Value), shallowEq x y = true → shallowEq y z = true →
    shallowEq x z = true
  | .array _ xs, y, z, h₁, h₂ | .struct _ xs, y, z, h₁, h₂ => by
    -- `==` holds between values of one form only: `y`, then `z`, has the form of `x`
    cases y <;> simp only [shallowEq, Bool.false_eq_true] at h₁
    cases z <;> simp only [shallowEq, Bool.false_eq_true] at h₂ ⊢
    exact shallowAll_trans _ _ _ h₁ h₂
  | .nil, y, z, h₁, h₂ | .bool .., y, z, h₁, h₂ | .int .., y, z, h₁, h₂ | .float .., y, z, h₁, h₂
  | .str .., y, z, h₁, h₂ | .slice .., y, z, h₁, h₂ | .map .., y, z, h₁, h₂
  | .ptr .., y, z, h₁, h₂ | .func .., y, z, h₁, h₂ | .time .., y, z, h₁, h₂ => by
    cases y <;> simp only [shallowEq, Bool.false_eq_true] at h₁ <;> cases z <;>
      simp only [shallowEq, Bool.false_eq_true] at h₂ ⊢ <;>
      first
      | exact floatEq_trans h₁ h₂
      | simp_all

theorem shallowAll_trans : ∀ (xs ys zs : List Value), shallowAll xs ys = true →
    shallowAll ys zs = true → shallowAll xs zs = true
  | [], [], [], _, _ => rfl
  | x :: xs, y :: ys, z :: zs, h₁, h₂ => by
    simp only [shallowAll, Bool.and_eq_true, beq_iff_eq] at h₁ h₂ ⊢
    exact ⟨⟨h₁.1.1.trans h₂.1.1, shallowEq_trans x y z h₁.1.2 h₂.1.2⟩,
      shallowAll_trans xs ys zs h₁.2 h₂.2⟩
  | [], [], _ :: _, _, h | [], _ :: _, _, h, _ | _ :: _, [], _, h, _
  | _ :: _, _ :: _, [], _, h => by simp [shallowAll] at h

end

mutual

/-- Values that `==` finds equal are deeply equal. -/
theorem deepEq_of_shallowEq : ∀ (x y : Value), shallowEq x y = true → deepEq x y = true
  | .array _ xs, y, h => by
    cases y <;> simp only [shallowEq, deepEq] at h ⊢ <;> first
      | exact deepAll_of_shallowAll _ _ h
      | simp at h
  | .struct _ xs, y, h => by
    cases y <;> simp only [shallowEq, deepEq] at h ⊢ <;> first
      | exact deepAll_of_shallowAll _ _ h
      | simp at h
  | .ptr _ (some (a, _)), y, h => by
    cases y with
    | ptr _ target =>
      rcases target with _ | ⟨b, _⟩ <;> simp_all [shallowEq, deepEq]
    | _ => simp [shallowEq] at h
  | .nil, y, h | .bool .., y, h | .int .., y, h | .float .., y, h | .str .., y, h
  | .slice .., y, h | .map .., y, h | .ptr _ none, y, h | .func .., y, h | .time .., y, h => by
    -- only a value of the same form is `==`
    cases y <;> simp only [shallowEq, Bool.false_eq_true] at h <;> simp_all [deepEq]

theorem deepAll_of_shallowAll : ∀ (xs ys : List Value), shallowAll xs ys = true →
    deepAll xs ys = true
  | [], [], _ => rfl
  | x :: xs, y :: ys, h => by
    simp only [shallowAll, deepAll, Bool.and_eq_true] at h ⊢
    exact ⟨⟨h.1.1, deepEq_of_shallowEq x y h.1.2⟩, deepAll_of_shallowAll xs ys h.2⟩
  | [], _ :: _, h | _ :: _, [], h => by simp [shallowAll] at h

end

mutual

/-- Deeply equal values hold values of the same types in the same slots, so
    they hold something incomparable alike. -/
theorem comparableValue_eq_of_deepEq : ∀ (x y : Value), deepEq x y = true →
    comparableValue c x = comparableValue c y
  | .array _ xs, y, h => by
    cases y <;> simp only [deepEq, comparableValue] at h ⊢ <;> first
      | exact comparableAll_eq_of_deepAll _ _ h
      | simp at h
  | .struct _ xs, y, h => by
    cases y <;> simp only [deepEq, comparableValue] at h ⊢ <;> first
      | exact comparableAll_eq_of_deepAll _ _ h
      | simp at h
  | .nil, y, h | .bool .., y, h | .int .., y, h | .float .., y, h | .str .., y, h
  | .slice .., y, h | .map .., y, h | .ptr .., y, h | .func .., y, h | .time .., y, h => by
    -- neither holds slots, unless `y` does and is then not deeply equal to `x`
    cases y <;> first
      | rfl
      | simp only [deepEq, Bool.false_eq_true] at h

theorem comparableAll_eq_of_deepAll : ∀ (xs ys : List Value), deepAll xs ys = true →
    comparableAll c xs = comparableAll c ys
  | [], [], _ => rfl
  | x :: xs, y :: ys, h => by
    simp only [deepAll, Bool.and_eq_true, beq_iff_eq] at h
    rw [comparableAll_cons, comparableAll_cons, h.1.1, comparableValue_eq_of_deepEq x y h.1.2,
      comparableAll_eq_of_deepAll xs ys h.2]
  | [], _ :: _, h | _ :: _, [], h => by simp [deepAll] at h

end

/-! ### Maps that hold each key once -/

/-- The values a value is made of, one level down: items, fields, the keys
    and values of a map's entries, a pointer's target. -/
def parts : Value → List Value
  | slice _ _ (some xs) | array _ xs | struct _ xs => xs
  | map _ _ (some es) => es.flatMap fun e => [e.1, e.2]
  | ptr _ (some (_, v)) => [v]
  | _ => []

/-- The entries of a map. -/
def entries? : Value → Option (List (Value × Value))
  | map _ _ es => es
  | _ => none

/-- Two keys that `==` takes for one: of one dynamic type, and equal. -/
def KeyEq (a b : Value) : Prop := a.ty? = b.ty? ∧ shallowEq a b = true

instance (a b : Value) : Decidable (KeyEq a b) :=
  inferInstanceAs (Decidable (a.ty? = b.ty? ∧ shallowEq a b = true))

/-- Map entries whose keys are pairwise unequal under `==`. -/
def KeysDistinct (es : List (Value × Value)) : Prop := es.Pairwise fun a b => ¬ KeyEq a.1 b.1

/-- A value whose maps, at every depth, hold each key once, as the host's
    maps do. -/
inductive WellKeyed : Value → Prop where
  | mk {v : Value} : (∀ es, v.entries? = some es → KeysDistinct es) →
      (∀ w ∈ v.parts, WellKeyed w) → WellKeyed v

theorem WellKeyed.of_mem_parts {v w : Value} (h : v.WellKeyed) (hw : w ∈ v.parts) :
    w.WellKeyed := by
  cases h with
  | mk _ hp => exact hp w hw

theorem WellKeyed.keysDistinct {v : Value} {es : List (Value × Value)} (h : v.WellKeyed)
    (he : v.entries? = some es) : KeysDistinct es := by
  cases h with
  | mk hd _ => exact hd es he

theorem KeyEq.symm {a b : Value} (h : KeyEq a b) : KeyEq b a :=
  ⟨h.1.symm, by rw [shallowEq_comm]; exact h.2⟩

theorem KeyEq.trans {a b d : Value} (h : KeyEq a b) (h' : KeyEq b d) : KeyEq a d :=
  ⟨h.1.trans h'.1, shallowEq_trans a b d h.2 h'.2⟩

/-- The test by which a lookup compares keys. -/
theorem keyTest_eq (k k' : Value) : (k.ty? == k'.ty? && shallowEq k k') = decide (KeyEq k k') := by
  rw [Bool.eq_iff_iff, decide_eq_true_iff]
  simp [KeyEq]

/-- A key finds the value of the one entry of an equal key. -/
theorem lookupEntry_eq_some {k w : Value} {ys : List (Value × Value)} (hd : KeysDistinct ys) :
    lookupEntry k ys = some w ↔ ∃ k', (k', w) ∈ ys ∧ KeyEq k k' := by
  induction ys with
  | nil => simp [lookupEntry]
  | cons e ys ih =>
    obtain ⟨k₁, w₁⟩ := e
    rw [KeysDistinct, List.pairwise_cons] at hd
    by_cases hk : KeyEq k k₁
    · -- the first key is equal, and no later key can be
      simp only [lookupEntry, keyTest_eq, hk, decide_true, if_true, Option.some.injEq,
        List.mem_cons, Prod.mk.injEq]
      constructor
      · rintro rfl
        exact ⟨k₁, .inl ⟨rfl, rfl⟩, hk⟩
      · rintro ⟨k', ⟨rfl, rfl⟩ | hmem, hk'⟩
        · rfl
        · exact absurd (hk.symm.trans hk') (hd.1 _ hmem)
    · simp only [lookupEntry, keyTest_eq, hk, decide_false, Bool.false_eq_true, if_false,
        ih hd.2, List.mem_cons, Prod.mk.injEq]
      constructor
      · rintro ⟨k', hmem, hk'⟩
        exact ⟨k', .inr hmem, hk'⟩
      · rintro ⟨k', ⟨rfl, rfl⟩ | hmem, hk'⟩
        · exact absurd hk' hk
        · exact ⟨k', hmem, hk'⟩

/-- Every entry of `xs` has its key in `ys`, by an entry of a deeply equal
    value. -/
theorem deepEntries_eq_true {xs ys : List (Value × Value)} (hd : KeysDistinct ys) :
    deepEntries xs ys = true ↔
      ∀ e ∈ xs, ∃ e' ∈ ys, KeyEq e.1 e'.1 ∧ e.2.ty? = e'.2.ty? ∧ deepEq e.2 e'.2 = true := by
  induction xs with
  | nil => simp [deepEntries]
  | cons e xs ih =>
    obtain ⟨k, v⟩ := e
    simp only [deepEntries, Bool.and_eq_true, ih, List.forall_mem_cons]
    refine and_congr_left' ?_
    cases hl : lookupEntry k ys with
    | none =>
      simp only [Bool.false_eq_true, false_iff, not_exists, not_and]
      intro e' he' hk
      obtain ⟨k', w⟩ := e'
      exact absurd ((lookupEntry_eq_some hd).2 ⟨k', he', hk⟩) (by simp [hl])
    | some w =>
      obtain ⟨k', hmem, hk⟩ := (lookupEntry_eq_some hd).1 hl
      simp only [Bool.and_eq_true, beq_iff_eq]
      constructor
      · rintro ⟨ht, hv⟩
        exact ⟨(k', w), hmem, hk, ht, hv⟩
      · rintro ⟨⟨k'', w'⟩, hmem', hk', ht, hv⟩
        -- the entry found is the one of the equal key
        have : some w' = some w := ((lookupEntry_eq_some hd).2 ⟨k'', hmem', hk'⟩).symm.trans hl
        cases this
        exact ⟨ht, hv⟩

/-- A matching of the entries of `xs` into those of `ys`, as many, that
    takes entries to entries of an equal key, is a matching both ways: two
    entries of `xs` never go to one of `ys`, so every entry of `ys` is
    reached. -/
theorem matched_symm {xs ys : List (Value × Value)} {R : Value × Value → Value × Value → Prop}
    (hlen : xs.length = ys.length) (hdx : KeysDistinct xs) (hR : ∀ a b, R a b → KeyEq a.1 b.1)
    (h : ∀ e ∈ xs, ∃ e' ∈ ys, R e e') : ∀ e' ∈ ys, ∃ e ∈ xs, R e e' := by
  have hf : ∀ i : Fin xs.length, ∃ j : Fin ys.length, R xs[i] ys[j] := by
    intro i
    obtain ⟨e', he', hr⟩ := h xs[i] (List.getElem_mem _)
    obtain ⟨j, hj, rfl⟩ := List.getElem_of_mem he'
    exact ⟨⟨j, hj⟩, hr⟩
  choose f hfR using hf
  have hinj : Function.Injective f := by
    intro i i' hii'
    have hk : KeyEq xs[i].1 xs[i'].1 := by
      have h₂ := hR _ _ (hfR i')
      rw [← hii'] at h₂
      exact (hR _ _ (hfR i)).trans h₂.symm
    by_contra hne
    rcases Nat.lt_or_gt_of_ne (Fin.val_ne_of_ne hne) with hlt | hlt
    · exact List.pairwise_iff_getElem.1 hdx i i' i.2 i'.2 hlt hk
    · exact List.pairwise_iff_getElem.1 hdx i' i i'.2 i.2 hlt hk.symm
  intro e' he'
  obtain ⟨j, hj, rfl⟩ := List.getElem_of_mem he'
  obtain ⟨i, hi⟩ := (Finite.injective_iff_surjective_of_equiv (finCongr hlen)).1 hinj ⟨j, hj⟩
  refine ⟨xs[i], List.getElem_mem _, ?_⟩
  have := hfR i
  rw [hi] at this
  exact this

/-- Deep equality of the entries of two maps of as many entries, each map
    holding each key once, is symmetric when it is on their values. -/
theorem deepEntries_comm {xs ys : List (Value × Value)} (hlen : xs.length = ys.length)
    (hdx : KeysDistinct xs) (hdy : KeysDistinct ys)
    (hsym : ∀ e ∈ xs, ∀ e' ∈ ys, deepEq e.2 e'.2 = deepEq e'.2 e.2) :
    deepEntries xs ys = deepEntries ys xs := by
  rw [Bool.eq_iff_iff, deepEntries_eq_true hdy, deepEntries_eq_true hdx]
  constructor
  · intro h e' he'
    obtain ⟨e, he, hk, ht, hv⟩ := matched_symm hlen hdx (fun _ _ h => h.1) h e' he'
    exact ⟨e, he, hk.symm, ht.symm, by rw [← hsym e he e' he']; exact hv⟩
  · intro h e he
    obtain ⟨e', he', hk, ht, hv⟩ := matched_symm hlen.symm hdy (fun _ _ h => h.1) h e he
    exact ⟨e', he', hk.symm, ht.symm, by rw [hsym e he e' he']; exact hv⟩

theorem mem_parts_map {t : Ty} {r : Nat} {es : List (Value × Value)} {e : Value × Value}
    (he : e ∈ es) : e.1 ∈ (map t r (some es)).parts ∧ e.2 ∈ (map t r (some es)).parts := by
  simp only [parts, List.mem_flatMap, List.mem_cons, List.not_mem_nil, or_false]
  exact ⟨⟨e, he, .inl rfl⟩, ⟨e, he, .inr rfl⟩⟩

mutual

/-- Deep equality is symmetric on well-keyed values: the induction is on the
    left value, through the items, fields, targets and map values it holds;
    values of different forms are unequal both ways once their options are
    opened. -/
theorem deepEq_comm : ∀ (x y : Value), x.WellKeyed → y.WellKeyed → deepEq x y = deepEq y x
  | .array _ xs, y, hx, hy => by
    cases y with
    | array _ ys =>
      simp only [deepEq]
      exact deepAll_comm xs (fun x h => hx.of_mem_parts h) ys (fun y h => hy.of_mem_parts h)
    | slice _ _ items => cases items <;> rfl
    | map _ _ entries => cases entries <;> rfl
    | ptr _ target => rcases target with _ | ⟨_, _⟩ <;> rfl
    | _ => rfl
  | .struct _ xs, y, hx, hy => by
    cases y with
    | struct _ ys =>
      simp only [deepEq]
      exact deepAll_comm xs (fun x h => hx.of_mem_parts h) ys (fun y h => hy.of_mem_parts h)
    | slice _ _ items => cases items <;> rfl
    | map _ _ entries => cases entries <;> rfl
    | ptr _ target => rcases target with _ | ⟨_, _⟩ <;> rfl
    | _ => rfl
  | .slice _ a (some xs), y, hx, hy => by
    cases y with
    | slice _ b items =>
      cases items with
      | some ys =>
        simp only [deepEq, deepAll_comm xs (fun x h => hx.of_mem_parts h) ys
          (fun y h => hy.of_mem_parts h), Bool.beq_comm]
      | none => rfl
    | map _ _ entries => cases entries <;> rfl
    | ptr _ target => rcases target with _ | ⟨_, _⟩ <;> rfl
    | _ => rfl
  | .ptr _ (some (a, v)), y, hx, hy => by
    cases y with
    | ptr _ target =>
      rcases target with _ | ⟨b, w⟩
      · rfl
      · simp only [deepEq, deepEq_comm v w (hx.of_mem_parts (by simp [parts]))
          (hy.of_mem_parts (by simp [parts])), Bool.beq_comm]
    | slice _ _ items => cases items <;> rfl
    | map _ _ entries => cases entries <;> rfl
    | _ => rfl
  | .map _ a (some xs), y, hx, hy => by
    cases y with
    | map _ b entries =>
      cases entries with
      | some ys =>
        simp only [deepEq]
        by_cases hlen : xs.length = ys.length
        · -- maps of as many entries: the entries are matched both ways
          rw [deepEntries_comm hlen (hx.keysDistinct rfl) (hy.keysDistinct rfl)
            fun e he e' he' =>
              entryValues_comm xs (fun e he => hx.of_mem_parts (mem_parts_map he).2)
                e he e'.2 (hy.of_mem_parts (mem_parts_map he').2)]
          simp [hlen, Bool.beq_comm]
        · rw [beq_false_of_ne hlen, beq_false_of_ne (Ne.symm hlen)]
          rfl
      | none => rfl
    | slice _ _ items => cases items <;> rfl
    | ptr _ target => rcases target with _ | ⟨_, _⟩ <;> rfl
    | _ => rfl
  | .nil, y, _, _ | .bool .., y, _, _ | .int .., y, _, _ | .float .., y, _, _
  | .str .., y, _, _ | .slice _ _ none, y, _, _ | .map _ _ none, y, _, _ | .ptr _ none, y, _, _
  | .func .., y, _, _ | .time .., y, _, _ => by
    cases y with
    | slice _ _ items => cases items <;> rfl
    | map _ _ entries => cases entries <;> rfl
    | ptr _ target => rcases target with _ | ⟨_, _⟩ <;> rfl
    | _ => simp [deepEq, floatEq_comm, Bool.beq_comm]

theorem deepAll_comm : ∀ (xs : List Value), (∀ x ∈ xs, x.WellKeyed) →
    ∀ (ys : List Value), (∀ y ∈ ys, y.WellKeyed) → deepAll xs ys = deepAll ys xs
  | [], _, [], _ => rfl
  | x :: xs, hxs, y :: ys, hys => by
    simp only [deepAll, deepEq_comm x y (hxs x (.head _)) (hys y (.head _)),
      deepAll_comm xs (fun x h => hxs x (.tail _ h)) ys (fun y h => hys y (.tail _ h)),
      Bool.beq_comm]
  | [], _, _ :: _, _ | _ :: _, _, [], _ => rfl

theorem entryValues_comm : ∀ (es : List (Value × Value)), (∀ e ∈ es, e.2.WellKeyed) →
    ∀ e ∈ es, ∀ w : Value, w.WellKeyed → deepEq e.2 w = deepEq w e.2
  | [], _, _, he, _, _ => absurd he List.not_mem_nil
  | (_, v) :: es, hes, e, he, w, hw => by
    rcases List.mem_cons.1 he with rfl | he
    · exact deepEq_comm v w (hes _ (.head _)) hw
    · exact entryValues_comm es (fun e h => hes e (.tail _ h)) e he w hw

end

/-- Values of which one holds something incomparable and the other not are
    not deeply equal. -/
theorem deepEq_eq_false_of_comparableValue_ne {x y : Value}
    (h : comparableValue c x ≠ comparableValue c y) : deepEq x y = false :=
  Bool.eq_false_iff.2 fun hd => h (comparableValue_eq_of_deepEq x y hd)

/-- Values of which one holds something incomparable and the other not are
    not equal under `==`. -/
theorem shallowEq_eq_false_of_comparableValue_ne {x y : Value}
    (h : comparableValue c x ≠ comparableValue c y) : shallowEq x y = false :=
  Bool.eq_false_iff.2 fun hs => h (comparableValue_eq_of_deepEq x y (deepEq_of_shallowEq x y hs))

/-- Strict equality is symmetric on well-keyed values. -/
theorem strictEq_comm {x y : Value} (hx : x.WellKeyed) (hy : y.WellKeyed) :
    strictEq c x y = strictEq c y x := by
  unfold strictEq
  cases hxt : x.ty? with
  | none => cases y.ty? <;> rfl
  | some lt =>
    cases hyt : y.ty? with
    | none => rfl
    | some rt =>
      dsimp only
      by_cases hlr : lt = rt
      · subst hlr
        simp only [beq_self_eq_true, Bool.true_and]
        -- which side `==` is chosen for
        cases hc : c.isComparable lt
        · simpa using deepEq_comm x y hx hy
        · cases hcx : comparableValue c x <;> cases hcy : comparableValue c y
          · simpa using deepEq_comm x y hx hy
          · -- one side holds something incomparable and the other not: both answers are false
            have hne : comparableValue c x ≠ comparableValue c y := by simp [hcx, hcy]
            simp [deepEq_eq_false_of_comparableValue_ne hne,
              shallowEq_eq_false_of_comparableValue_ne (Ne.symm hne)]
          · have hne : comparableValue c x ≠ comparableValue c y := by simp [hcx, hcy]
            simp [shallowEq_eq_false_of_comparableValue_ne hne,
              deepEq_eq_false_of_comparableValue_ne (Ne.symm hne)]
          · simpa using shallowEq_comm x y
      · rw [beq_false_of_ne hlr, beq_false_of_ne (Ne.symm hlr)]
        rfl

/-! ### What evaluation gives is well-keyed -/

theorem WellKeyed.of_parts_eq_nil {v : Value} (hp : v.parts = []) (he : v.entries? = none) :
    v.WellKeyed :=
  .mk (by simp [he]) (by simp [hp])

theorem WellKeyed.ofBool (b : Bool) : (ofBool b).WellKeyed := .of_parts_eq_nil rfl rfl

theorem WellKeyed.deref {v : Value} (h : v.WellKeyed) : (deref v).WellKeyed := by
  fun_induction Value.deref v with
  | case1 t a w ih => exact ih (h.of_mem_parts (by simp [parts]))
  | case2 => exact h

theorem WellKeyed.fieldAt {v w : Value} {path : List Nat} (h : v.WellKeyed)
    (hf : fieldAt v path = some w) : w.WellKeyed := by
  fun_induction Value.fieldAt v path with
  | case1 => exact Option.some_inj.1 hf ▸ h
  | case2 t fs i =>
    exact h.of_mem_parts (List.mem_of_getElem? hf)
  | case3 t fs i rest _ t' a inner hfs ih =>
    exact ih (h.of_mem_parts (List.mem_of_getElem? hfs) |>.of_mem_parts (by simp [parts])) hf
  | case4 => simp at hf
  | case5 t fs i rest _ other _ _ hfs ih => exact ih (h.of_mem_parts (List.mem_of_getElem? hfs)) hf
  | case6 => simp at hf
  | case7 => simp at hf

theorem WellKeyed.of_memberOf {v w : Value} {f : String} (h : v.WellKeyed)
    (hm : Value.memberOf c v f = .ok w) : w.WellKeyed := by
  have hd := h.deref
  simp only [Value.memberOf] at hm
  generalize Value.deref v = u at hm hd
  -- every path but a field or a key found is a fault
  repeat' split at hm
  all_goals first | (simp at hm; done) | cases Except.ok.inj hm
  · exact hd.fieldAt ‹_›
  · exact hd.of_mem_parts (mem_parts_map (List.mem_of_find?_eq_some ‹_›)).2

theorem WellKeyed.of_elementOf {v w : Value} {i : Nat} (h : v.WellKeyed)
    (he : Value.elementOf v i = .ok w) : w.WellKeyed := by
  have hd := h.deref
  simp only [Value.elementOf] at he
  generalize Value.deref v = u at he hd
  -- every path but an element found is a fault
  repeat' split at he
  all_goals first | (simp at he; done) | cases Except.ok.inj he
  · exact absurd ‹[][i]? = some _› (by simp)
  · exact hd.of_mem_parts (List.mem_of_getElem? ‹_›)
  · exact hd.of_mem_parts (List.mem_of_getElem? ‹_›)
  · exact .of_parts_eq_nil rfl rfl

end Value

namespace Env

/-- Bindings whose every value is well-keyed. -/
def WellKeyed (env : Env) : Prop := ∀ e ∈ env.entries, e.2.WellKeyed

theorem WellKeyed.of_find? {env : Env} {name : String} {v : Value} (h : env.WellKeyed)
    (hv : env.find? name = some v) : v.WellKeyed := by
  obtain ⟨e, he, rfl⟩ := Option.map_eq_some_iff.1 hv
  exact h e (List.mem_of_find?_eq_some he)

end Env

namespace Node

variable {c : Catalog}

/-- The literal values of a tree. -/
def literals : Node → List Value
  | view _ n => n.literals
  | param _ => []
  | value _ v => [v]
  | member _ s _ | index _ s _ | not s => s.literals
  | equal l r | and l r | or l r => l.literals ++ r.literals
  | lambda _ _ b => b.literals

/-- Under well-keyed bindings, a tree whose literals are well-keyed
    evaluates to well-keyed data: members and elements are parts of well-keyed
    values, and the operators give booleans. -/
theorem evalAt_wellKeyed {env : Env} (henv : env.WellKeyed) (n : Node)
    (hn : ∀ v ∈ n.literals, v.WellKeyed) (d : Nat) {v : Value}
    (h : (evalAt c env d n).2 = .ok (.data v)) : v.WellKeyed := by
  induction n generalizing d v with
  | view t n ih => exact ih hn d h
  | param p =>
    simp only [evalAt, done_snd] at h
    split at h
    · cases h
      exact henv.of_find? ‹_›
    · cases h
  | value t u =>
    simp only [evalAt, done_snd, Except.ok.injEq, Result.data.injEq] at h
    exact h ▸ hn u (by simp [literals])
  | member t s f ih =>
    simp only [evalAt, done_snd, andThen_snd] at h
    obtain ⟨r, hr, h⟩ := except_bind_eq_ok.1 h
    cases r with
    | data u =>
      cases hm : u.memberOf c f <;> simp [memberOfResult, hm, Except.map] at h
      exact h ▸ (ih hn (d + 1) hr).of_memberOf hm
    | closure => simp [memberOfResult] at h
  | index t s i ih =>
    simp only [evalAt, done_snd, andThen_snd] at h
    obtain ⟨r, hr, h⟩ := except_bind_eq_ok.1 h
    cases r with
    | data u =>
      cases he : u.elementOf i <;> simp [elementOfResult, he, Except.map] at h
      exact h ▸ (ih hn (d + 1) hr).of_elementOf he
    | closure => simp [elementOfResult] at h
  | not o ih =>
    simp only [evalAt, done_snd, andThen_snd] at h
    obtain ⟨r, -, h⟩ := except_bind_eq_ok.1 h
    cases hb : asBool .not r <;> simp [hb, Except.map] at h
    exact h ▸ .ofBool _
  | equal l r ihl ihr =>
    simp only [evalAt, done_snd, andThen_snd] at h
    obtain ⟨a, -, h⟩ := except_bind_eq_ok.1 h
    obtain ⟨b, -, h⟩ := except_bind_eq_ok.1 h
    cases h
    exact .ofBool _
  | and l r | or l r =>
    simp only [evalAt, done_snd, andThen_snd] at h
    obtain ⟨a, -, h⟩ := except_bind_eq_ok.1 h
    -- the left operand decides, or the right operand's boolean is the result
    split at h
    · cases h
    · cases h
      exact .ofBool _
    · simp only [andThen_snd] at h
      obtain ⟨b, -, h⟩ := except_bind_eq_ok.1 h
      simp only [Except.map] at h
      split at h
      · cases h
      · cases h
        exact .ofBool _
  | lambda => simp [evalAt, done_snd] at h

/-- Results of well-keyed data are equal in either order; a closure equals
    nothing. -/
theorem resultEq_comm {a b : Result} (ha : ∀ v, a = .data v → v.WellKeyed)
    (hb : ∀ v, b = .data v → v.WellKeyed) : resultEq c a b = resultEq c b a := by
  cases a with
  | data x =>
    cases b with
    | data y => exact Value.strictEq_comm (ha x rfl) (hb y rfl)
    | closure => rfl
  | closure => cases b <;> rfl

/-- Swapping the operands of an equality whose operands both evaluate does
    not change its result, under well-keyed bindings and literals. -/
theorem evalAt_equal_swap {env : Env} {d : Nat} {l r : Node} (henv : env.WellKeyed)
    (hlit : ∀ v ∈ l.literals ++ r.literals, v.WellKeyed)
    (hl : ∃ a, (evalAt c env (d + 1) l).2 = .ok a) (hr : ∃ b, (evalAt c env (d + 1) r).2 = .ok b) :
    (evalAt c env d (.equal l r)).2 = (evalAt c env d (.equal r l)).2 := by
  obtain ⟨a, ha⟩ := hl
  obtain ⟨b, hb⟩ := hr
  have hwa : ∀ v, a = .data v → v.WellKeyed := fun v hv =>
    evalAt_wellKeyed henv l (fun w hw => hlit w (List.mem_append_left _ hw)) (d + 1) (hv ▸ ha)
  have hwb : ∀ v, b = .data v → v.WellKeyed := fun v hv =>
    evalAt_wellKeyed henv r (fun w hw => hlit w (List.mem_append_right _ hw)) (d + 1) (hv ▸ hb)
  simp only [evalAt, done_snd, andThen_snd, ha, hb]
  simp [bind, Except.bind, resultEq_comm hwa hwb]

end Node

namespace Value

/-- Strict equality is safe and symmetric: where it compares by the host's
    `==` that comparison does not panic and gives its answer; on well-keyed
    values (every host value: a map holds no two keys that are `==`) it does
    not depend on the order of its operands; hence swapping the operands of
    an equality whose operands both evaluate does not change its result. -/
theorem strictEq_safe_symm (c : Catalog) :
    (∀ (l r : Value) (t : Ty), l.ty? = some t → r.ty? = some t → c.isComparable t = true →
      comparableValue c l = true → ifaceEq c l r = some (strictEq c l r)) ∧
    (∀ l r : Value, l.WellKeyed → r.WellKeyed → strictEq c l r = strictEq c r l) ∧
    (∀ (env : Env) (d : Nat) (l r : Node), env.WellKeyed →
      (∀ v ∈ l.literals ++ r.literals, v.WellKeyed) →
      (∃ a, (Node.evalAt c env (d + 1) l).2 = .ok a) →
      (∃ b, (Node.evalAt c env (d + 1) r).2 = .ok b) →
      (Node.evalAt c env d (.equal l r)).2 = (Node.evalAt c env d (.equal r l)).2) :=
  ⟨fun _ _ _ hl hr ht hv => ifaceEq_of_comparableValue hl hr ht hv,
    fun _ _ hl hr => strictEq_comm hl hr,
    fun _ _ _ _ henv hlit ha hb => Node.evalAt_equal_swap henv hlit ha hb⟩

/-- A struct holding an integer against one holding a slice, in an interface
    field: the first compares by a host's `==` that does not panic, either
    order answers false, and so does an equality of the two literals. -/
theorem strictEq_holder_int_slice :
    let c : Catalog := ⟨[{ name := "main.Holder", underlying := .struct [⟨"V", .any, false⟩] }]⟩
    let t : Ty := .named "main.Holder"
    let l : Value := .struct t [.ofInt 1]
    let r : Value := .struct t [.slice (.slice (.int .word)) 0 (some [])]
    ifaceEq c l r = some false ∧ strictEq c r l = false ∧
      (Node.evalAt c {} 1 (.equal (.value t l) (.value t r))).2 =
        (Node.evalAt c {} 1 (.equal (.value t r) (.value t l))).2 := by
  intro c t l r
  have hl : l.WellKeyed :=
    .mk (by simp [l, entries?]) (by simp [l, parts]; exact .of_parts_eq_nil rfl rfl)
  have hr : r.WellKeyed :=
    .mk (by simp [r, entries?]) (by simp [r, parts]; exact .of_parts_eq_nil rfl rfl)
  refine ⟨?_, ?_, ?_⟩
  · rw [(strictEq_safe_symm c).1 l r t rfl rfl (by decide) (by decide)]
    decide
  · rw [← (strictEq_safe_symm c).2.1 l r hl hr]
    decide
  · refine (strictEq_safe_symm c).2.2 {} 0 (.value t l) (.value t r) (by simp [Env.WellKeyed]) ?_
      ⟨_, rfl⟩ ⟨_, rfl⟩
    simpa [Node.literals] using ⟨hl, hr⟩

end Value

end ExprTree
