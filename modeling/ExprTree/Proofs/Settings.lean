import Mathlib
import ExprTree.Cli.Config

/-!
# Configuration settings and the order of a document's entries

A configuration document is read into mappings that hold their entries in
some order, and its settings are written one after another in that order
(`flatten`), a later setting of a flag overwriting an earlier one
(`setting?`). Documents that differ only in that order, at any depth
(`Reordered`), give the same settings, reordered:

* `Reordered.flatten_perm`: reordering a mapping's entries reorders the
  settings they give, and a nested mapping reordered gives its settings,
  reordered, in the same place;
* `setting?_perm`: when no two settings name the same flag, their order
  does not change the value of any flag;
* `settings_reordered`: so the settings of a document are the same
  whatever the order of its mappings, and when no two of them name the same
  flag the command line is resolved the same;
* `setting?_spellings_order`: and not otherwise: of `log_level` and
  `log-level`, both naming the flag `log-level`, the one the mapping holds
  last is taken.
-/

namespace ExprTree.Cli

/-- Two documents that differ at most in the order in which their mappings,
    at any depth, hold their entries. -/
inductive Reordered : Value → Value → Prop
  | refl (v : Value) : Reordered v v
  | trans {u v w : Value} : Reordered u v → Reordered v w → Reordered u w
  /-- The entries of a mapping reordered. -/
  | perm (t : Ty) (r : Nat) {es es' : List (Value × Value)} :
      es.Perm es' → Reordered (.map t r (some es)) (.map t r (some es'))
  /-- The value of an entry of a mapping reordered. -/
  | inside (t : Ty) (r : Nat) (before after : List (Value × Value)) (k : Value) {v v' : Value} :
      Reordered v v' →
        Reordered (.map t r (some (before ++ (k, v) :: after)))
          (.map t r (some (before ++ (k, v') :: after)))

theorem Value.sizeEntries_eq_sum (es : List (Value × Value)) :
    Value.sizeEntries es = (es.map fun e => e.1.size + e.2.size).sum := by
  induction es with
  | nil => rfl
  | cons e es ih =>
    obtain ⟨k, v⟩ := e
    simp [Value.sizeEntries, ih, Nat.add_assoc]

namespace Reordered

/-- Only mappings are reordered: any other value is left as it is. -/
theorem eq_or_map {v v' : Value} (h : Reordered v v') :
    v = v' ∨ ∃ t r es es', v = .map t r (some es) ∧ v' = .map t r (some es') := by
  induction h with
  | refl v => exact .inl rfl
  | trans _ _ ih₁ ih₂ =>
    rcases ih₁ with rfl | ⟨t, r, es, es', rfl, rfl⟩
    · exact ih₂
    · rcases ih₂ with rfl | ⟨t', r', fs, fs', h, rfl⟩
      · exact .inr ⟨t, r, es, es', rfl, rfl⟩
      · cases h
        exact .inr ⟨t, r, es, fs', rfl, rfl⟩
  | perm t r _ => exact .inr ⟨t, r, _, _, rfl, rfl⟩
  | inside t r _ _ _ _ => exact .inr ⟨t, r, _, _, rfl, rfl⟩

/-- Reordering keeps the size of a document, and so the depth to which its
    settings are read. -/
theorem size_eq {v v' : Value} (h : Reordered v v') : v.size = v'.size := by
  induction h with
  | refl v => rfl
  | trans _ _ ih₁ ih₂ => exact ih₁.trans ih₂
  | perm t r hes =>
    simp only [Value.size, Value.sizeEntries_eq_sum]
    rw [(hes.map _).sum_nat]
  | inside t r before after k _ ih =>
    simp [Value.size, Value.sizeEntries_eq_sum, ih]

/-- Reordered documents give the same settings, reordered. -/
theorem flatten_perm {v v' : Value} (h : Reordered v v') (pre : String) (fuel : Nat) :
    (flatten pre fuel v).Perm (flatten pre fuel v') := by
  induction h generalizing pre fuel with
  | refl v => exact .refl _
  | trans _ _ ih₁ ih₂ => exact (ih₁ pre fuel).trans (ih₂ pre fuel)
  | perm t r hes =>
    cases fuel with
    | zero => exact .refl _
    | succ fuel => exact hes.flatMap_right _
  | inside t r before after k hv ih =>
    cases fuel with
    | zero => exact .refl _
    | succ fuel =>
      simp only [flatten, List.flatMap_append, List.flatMap_cons]
      refine List.Perm.append_left _ (List.Perm.append_right _ ?_)
      -- the entry's value is the same, or two mappings, read one level down
      rcases hv.eq_or_map with rfl | ⟨t', r', es, es', rfl, rfl⟩
      · exact .refl _
      · exact ih _ fuel

end Reordered

/-- A flag named by a setting of a list whose names are distinct has the
    value of that setting. -/
theorem lookup_eq_of_mem {l : List (String × Value)} (hk : (l.map (·.1)).Nodup)
    {name : String} {x : Value} (h : (name, x) ∈ l) : l.lookup name = some x := by
  induction l with
  | nil => simp at h
  | cons e l ih =>
    obtain ⟨k, y⟩ := e
    rw [List.map_cons, List.nodup_cons] at hk
    rcases List.mem_cons.mp h with he | hl
    · cases he
      simp
    · -- `name` is named further on, so it is not `k`
      have hne : (name == k) = false := by
        rw [beq_eq_false_iff_ne]
        rintro rfl
        exact hk.1 (List.mem_map.mpr ⟨_, hl, rfl⟩)
      rw [List.lookup_cons, hne]
      exact ih hk.2 hl

/-- When no two settings name the same flag, their order does not change the
    value of any flag. -/
theorem setting?_perm {l l' : List (String × Value)} (h : l.Perm l') (hk : (l.map (·.1)).Nodup)
    (name : String) : setting? l name = setting? l' name := by
  have hk' : (l'.map (·.1)).Nodup := (h.map _).nodup_iff.mp hk
  have hr : (l.reverse.map (·.1)).Nodup := ((List.reverse_perm l).map _).nodup_iff.mpr hk
  have hr' : (l'.reverse.map (·.1)).Nodup := ((List.reverse_perm l').map _).nodup_iff.mpr hk'
  unfold setting?
  -- both find the one setting of `name`, or neither has one
  by_cases hmem : ∃ x, (name, x) ∈ l
  · obtain ⟨x, hx⟩ := hmem
    rw [lookup_eq_of_mem hr (List.mem_reverse.mpr hx),
      lookup_eq_of_mem hr' (List.mem_reverse.mpr (h.subset hx))]
  · have hnone : ∀ m : List (String × Value), m.Perm l → m.lookup name = none := by
      intro m hm
      rw [List.lookup_eq_none_iff]
      rintro ⟨k, y⟩ hky
      simp only [bne_iff_ne, ne_eq]
      rintro rfl
      exact hmem ⟨y, hm.subset hky⟩
    rw [hnone _ (List.reverse_perm l), hnone _ ((List.reverse_perm l').trans h.symm)]

/-- Settings that give every flag the same value resolve the command line
    the same. -/
theorem Spec.resolve_congr {l l' : List (String × Value)}
    (h : ∀ name, setting? l name = setting? l' name) (s : Spec) (pl : Place) (p : Parsed) :
    s.resolve pl l p = s.resolve pl l' p := by
  simp only [Spec.resolve, h]

/-- The settings of a configuration document, read as deep as it goes, are
    the same whatever the order in which its mappings hold their entries, at
    any depth; and when no two of them name the same flag, the command line
    is resolved the same. -/
theorem settings_reordered {v v' : Value} (h : Reordered v v') :
    (flatten "" (v.size + 1) v).Perm (flatten "" (v'.size + 1) v') ∧
      (((flatten "" (v.size + 1) v).map (·.1)).Nodup → ∀ (s : Spec) (pl : Place) (p : Parsed),
        s.resolve pl (flatten "" (v.size + 1) v) p = s.resolve pl (flatten "" (v'.size + 1) v') p) := by
  have hp : (flatten "" (v.size + 1) v).Perm (flatten "" (v'.size + 1) v') := by
    rw [← h.size_eq]
    exact h.flatten_perm "" _
  exact ⟨hp, fun hk s pl p => Spec.resolve_congr (setting?_perm hp hk) s pl p⟩

/-- A document setting `log-level` and `format` in a nested mapping and
    `pretty` beside it, read with both mappings in the other order. -/
theorem settings_reordered_nested :
    (flatten "" (Value.size (.map (.map .string .any) 0 (some [
        (.ofString "log", .map (.map .string .any) 1 (some [
          (.ofString "level", .ofString "debug"), (.ofString "format", .ofString "json")])),
        (.ofString "pretty", .ofBool true)])) + 1)
      (.map (.map .string .any) 0 (some [
        (.ofString "log", .map (.map .string .any) 1 (some [
          (.ofString "level", .ofString "debug"), (.ofString "format", .ofString "json")])),
        (.ofString "pretty", .ofBool true)]))).Perm
    (flatten "" (Value.size (.map (.map .string .any) 0 (some [
        (.ofString "pretty", .ofBool true),
        (.ofString "log", .map (.map .string .any) 1 (some [
          (.ofString "format", .ofString "json"), (.ofString "level", .ofString "debug")]))])) + 1)
      (.map (.map .string .any) 0 (some [
        (.ofString "pretty", .ofBool true),
        (.ofString "log", .map (.map .string .any) 1 (some [
          (.ofString "format", .ofString "json"), (.ofString "level", .ofString "debug")]))]))) :=
  (settings_reordered (.trans (.perm _ _ (List.Perm.swap _ _ []))
    (.inside _ _ [(.ofString "pretty", .ofBool true)] [] _ (.perm _ _ (List.Perm.swap _ _ []))))).1

/-- The keys `log_level` and `log-level` both name the flag `log-level`: of a
    document holding both, the one held last is taken, so the two orders of
    the same mapping give the flag different values. -/
theorem setting?_spellings_order :
    Reordered
        (.map (.map .string .any) 0 (some [(.ofString "log_level", .ofString "debug"),
          (.ofString "log-level", .ofString "info")]))
        (.map (.map .string .any) 0 (some [(.ofString "log-level", .ofString "info"),
          (.ofString "log_level", .ofString "debug")])) ∧
      setting? (flatten "" 6 (.map (.map .string .any) 0 (some [
        (.ofString "log_level", .ofString "debug"), (.ofString "log-level", .ofString "info")])))
        "log-level" = some (.ofString "info") ∧
      setting? (flatten "" 6 (.map (.map .string .any) 0 (some [
        (.ofString "log-level", .ofString "info"), (.ofString "log_level", .ofString "debug")])))
        "log-level" = some (.ofString "debug") :=
  ⟨.perm _ _ (List.Perm.swap _ _ []), rfl, rfl⟩

end ExprTree.Cli
