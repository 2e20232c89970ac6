import Mathlib.Data.List.Sort
import ExprTree.Data.Access

/-!
# Suggestions and the order of the candidates

An unknown member suggests the names closest to the one asked for: the
candidates matching it, ranked by score, highest first, at most three. The
ranking puts each candidate in turn behind those that score higher
(`insertRanked`), so it is an insertion sort of the scored candidates taken
from the last (`foldl_insertRanked`), and among equal scores the later
candidate comes first.

* `rank_perm`: reordering the candidates only reorders their ranking;
* `rank_eq_of_perm`: when no two matching candidates score the same, the
  ranking does not depend on their order at all, as a sorted order of
  distinct scores is unique;
* `memberOf_map_keys_perm`: so the unknown member of a map with text keys,
  suggestions included, depends only on the map's type, the member and the
  keys, in whatever order the map holds them, when no two keys matching the
  member score the same;
* `memberOf_map_key_order`: and not otherwise: the keys `xa` and `ya` score
  the same for `a`, and a map holding both suggests the later first.
-/

namespace ExprTree

namespace Text

/-- The order of the ranking: a score at least as high first. -/
def ScoreGe (x y : Int × String) : Prop := y.1 ≤ x.1

instance : DecidableRel ScoreGe := fun x y => Int.decLe y.1 x.1

instance : Std.Total ScoreGe := ⟨fun x y => le_total y.1 x.1⟩

instance : IsTrans (Int × String) ScoreGe := ⟨fun _ _ _ hxy hyz => le_trans hyz hxy⟩

theorem insertRanked_eq_orderedInsert (x : Int × String) (l : List (Int × String)) :
    insertRanked x l = l.orderedInsert ScoreGe x := by
  induction l with
  | nil => rfl
  | cons y ys ih => simp only [insertRanked, List.orderedInsert_cons, ScoreGe, ge_iff_le, ih]

/-- Ranking inserts the scored candidates one after another: an insertion
    sort of them taken from the last. -/
theorem foldl_insertRanked (xs : List (Int × String)) :
    xs.foldl (fun acc x => insertRanked x acc) [] = xs.reverse.insertionSort ScoreGe := by
  rw [List.foldl_eq_foldr_reverse]
  simp only [insertRanked_eq_orderedInsert]
  rfl

theorem rank_eq (pattern : String) (candidates : List String) :
    rank pattern candidates = if pattern.isEmpty then []
      else ((scored pattern candidates).reverse.insertionSort ScoreGe).map (·.2) := by
  rw [rank, foldl_insertRanked]

theorem scored_perm (pattern : String) {ks ks' : List String} (h : ks.Perm ks') :
    (scored pattern ks).Perm (scored pattern ks') :=
  h.filterMap _

/-- The sorted scored candidates are the scored candidates. -/
theorem sorted_perm (pattern : String) (ks : List String) :
    ((scored pattern ks).reverse.insertionSort ScoreGe).Perm (scored pattern ks) :=
  (List.perm_insertionSort _ _).trans (List.reverse_perm _)

/-- Reordering the candidates reorders their ranking. -/
theorem rank_perm (pattern : String) {ks ks' : List String} (h : ks.Perm ks') :
    (rank pattern ks).Perm (rank pattern ks') := by
  rw [rank_eq, rank_eq]
  split
  · rfl
  · refine List.Perm.map _ ?_
    exact (sorted_perm pattern ks).trans
      ((scored_perm pattern h).trans (sorted_perm pattern ks').symm)

/-- When no two matching candidates score the same, their order does not
    change the ranking. -/
theorem rank_eq_of_perm (pattern : String) {ks ks' : List String} (h : ks.Perm ks')
    (hd : ((scored pattern ks).map (·.1)).Nodup) : rank pattern ks = rank pattern ks' := by
  rw [rank_eq, rank_eq]
  split
  · rfl
  · have h₁ := sorted_perm pattern ks
    have h₂ := sorted_perm pattern ks'
    have hp := scored_perm pattern h
    -- both sort the same scored candidates, and two of them ranked either
    -- way round have one score, so are one candidate
    refine congrArg _ (List.Perm.eq_of_pairwise (fun a b ha hb hab hba => ?_)
      (List.pairwise_insertionSort _ _) (List.pairwise_insertionSort _ _)
      (h₁.trans (hp.trans h₂.symm)))
    exact List.inj_on_of_nodup_map hd (h₁.subset ha) (hp.symm.subset (h₂.subset hb))
      (le_antisymm hba hab)

theorem suggest_eq_of_perm (n : Nat) (pattern : String) {ks ks' : List String}
    (h : ks.Perm ks') (hd : ((scored pattern ks).map (·.1)).Nodup) :
    suggest n pattern ks = suggest n pattern ks' := by
  rw [suggest, suggest, rank_eq_of_perm pattern h hd]

end Text

theorem unknownMember_eq_of_perm (t : Ty) (field : String) {ks ks' : List String}
    (h : ks.Perm ks') (hd : ((Text.scored field ks).map (·.1)).Nodup) :
    unknownMember t field ks = unknownMember t field ks' := by
  simp only [unknownMember, Text.suggest_eq_of_perm 3 field h hd]

namespace Value

/-- No entry of a map passes a test passed only by entries of key `f`, when
    `f` is none of its text keys. -/
theorem find?_eq_none_of_not_mem {es : List (Value × Value)} {f : String}
    {p : Value × Value → Bool} (hp : ∀ e, p e = true → ∃ t, e.1 = .str t (.ofString f))
    (hf : f ∉ stringKeys es) : es.find? p = none := by
  rw [List.find?_eq_none]
  intro e he hpe
  obtain ⟨t, ht⟩ := hp e hpe
  exact hf (List.mem_filterMap.mpr ⟨e, he, by simp [ht]⟩)

/-- The unknown member of a map with text keys, suggestions included,
    depends only on the map's type, the member and its keys, in whatever
    order the map holds them, when no two keys matching the member score
    the same. -/
theorem memberOf_map_keys_perm {c : Catalog} {v v' : Value} {d k e : Ty} {r r' : Nat}
    {es es' : List (Value × Value)} {f : String}
    (hw : v.deref = .map d r (some es)) (hw' : v'.deref = .map d r' (some es'))
    (hu : c.underlying d = .other (.map k e)) (hks : c.kind k = .string)
    (hkeys : (stringKeys es).Perm (stringKeys es')) (hf : f ∉ stringKeys es)
    (hd : ((Text.scored f (stringKeys es)).map (·.1)).Nodup) :
    v.memberOf c f = v'.memberOf c f := by
  have hf' : f ∉ stringKeys es' := fun h => hf (hkeys.symm.subset h)
  simp only [memberOf, hw, hw', hu, hks, beq_self_eq_true, ↓reduceIte]
  -- the lookup's test passes only entries of key `f`, of which there is none
  rw [find?_eq_none_of_not_mem ?hp hf, find?_eq_none_of_not_mem ?hp hf',
    unknownMember_eq_of_perm d f hkeys hd]
  rintro ⟨k, x⟩ hk
  split at hk
  · rename_i t s hs
    exact ⟨t, by rw [hs, eq_of_beq hk]⟩
  · exact absurd hk Bool.false_ne_true

/-- The keys `beta` and `delta` score differently for `ta`: the map fails
    the same whichever order it holds them in. -/
theorem memberOf_map_keys_perm_beta_delta :
    (Value.map (.map .string .any) 0 (some [(.ofString "beta", .nil), (.ofString "delta", .nil)])).memberOf
        {} "ta" =
      (Value.map (.map .string .any) 1
        (some [(.ofString "delta", .nil), (.ofString "beta", .nil)])).memberOf {} "ta" :=
  memberOf_map_keys_perm rfl rfl rfl rfl (by decide) (by decide) (by decide +kernel)

/-- The keys `xa` and `ya` score the same for `a`: a map holding both
    suggests the later first, so two maps of one type and the same keys,
    held in the two orders, fail with different suggestions. -/
theorem memberOf_map_key_order :
    (Value.map (.map .string .any) 0 (some [(.ofString "xa", .nil), (.ofString "ya", .nil)])).memberOf
        {} "a" = .error ((Fault.of .unknownMember).withAttrs [Attr.str "type" "map[string]interface \x7b\x7d",
          Attr.str "field" "a", Attr.strings "did_you_mean" (some ["ya", "xa"])]) ∧
      (Value.map (.map .string .any) 0 (some [(.ofString "ya", .nil), (.ofString "xa", .nil)])).memberOf
        {} "a" = .error ((Fault.of .unknownMember).withAttrs [Attr.str "type" "map[string]interface \x7b\x7d",
          Attr.str "field" "a", Attr.strings "did_you_mean" (some ["xa", "ya"])]) := by
  -- neither map has the key `a`; the suggestions are ranked from its keys
  -- in the order it holds them
  have h₁ : Text.suggest 3 "a" ["xa", "ya"] = ["ya", "xa"] := by decide +kernel
  have h₂ : Text.suggest 3 "a" ["ya", "xa"] = ["xa", "ya"] := by decide +kernel
  refine ⟨?_, ?_⟩
  · show Except.error (unknownMember (.map .string .any) "a" ["xa", "ya"]) = _
    simp only [unknownMember, h₁]
    rfl
  · show Except.error (unknownMember (.map .string .any) "a" ["ya", "xa"]) = _
    simp only [unknownMember, h₂]
    rfl

end Value

end ExprTree
