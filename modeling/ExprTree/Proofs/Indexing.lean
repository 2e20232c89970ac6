import ExprTree.Proofs.Safety

/-!
# Elements through pointers

Reading the element at a position (`Value.elementOf`) looks through the
chain of pointers of a value, however long, to its end. Every value is its
end (`Value.deref`) under the pointers that lead to it (`Value.under`,
`Value.deref_under_ptrs`), and the element read depends on the end alone
(`Value.elementOf_under_eq`). At the end:

* nil, or a nil pointer, is a nil value, which gives the position;
* a slice or an array gives its item at the position, the nil slice having
  none, or is out of range, which gives the position and the length;
* a string gives its rune at the position as a string of its own, or is
  out of range with its length in runes: its bytes are read as runes
  (`HostString.runes`), a valid UTF-8 encoding giving its character and a
  byte that starts none giving U+FFFD, and a position never counts bytes;
* any other value is a type mismatch that names its type.

`Value.elementOf_under` states all of it, through every chain of pointers.
-/

namespace ExprTree

namespace Value

/-- The value `w` under a chain of pointers that are not nil, the outermost
    first, each given by its type and its address. -/
def under (w : Value) : List (Ty × Nat) → Value
  | [] => w
  | (t, a) :: ps => .ptr t (some (a, w.under ps))

/-- The chain of pointers that are not nil leading from a value to its end. -/
def ptrs : Value → List (Ty × Nat)
  | .ptr t (some (a, w)) => (t, a) :: w.ptrs
  | _ => []

/-- A value that is no pointer to a value is its own end. -/
theorem deref_of_ne_ptr {v : Value} (h : ∀ t a w, v ≠ .ptr t (some (a, w))) : v.deref = v := by
  cases v with
  | ptr t o =>
    rcases o with _ | ⟨a, w⟩
    · rfl
    · exact absurd rfl (h t a w)
  | _ => rfl

theorem deref_deref (v : Value) : v.deref.deref = v.deref := by
  induction v using deref.induct with
  | case1 t a w ih => simpa using ih
  | case2 v hv => rw [deref_of_ne_ptr hv, deref_of_ne_ptr hv]

theorem deref_under (w : Value) (ps : List (Ty × Nat)) : (w.under ps).deref = w.deref := by
  induction ps with
  | nil => rfl
  | cons p ps ih => simp [under, ih]

/-- Every value is its end under the pointers that lead to it. -/
theorem deref_under_ptrs (v : Value) : v.deref.under v.ptrs = v := by
  induction v using deref.induct with
  | case1 t a w ih => simp [ptrs, under, ih]
  | case2 v hv =>
    have hp : v.ptrs = [] := by
      cases v with
      | ptr t o => rcases o with _ | ⟨a, w⟩ <;> simp_all [ptrs]
      | _ => rfl
    rw [hp, under, deref_of_ne_ptr hv]

/-! ### Reading at the end of the chain -/

/-- The element read from a value is the one read from its end. -/
theorem elementOf_deref (v : Value) (i : Nat) : v.deref.elementOf i = v.elementOf i := by
  simp only [elementOf, deref_deref]

/-- The element read through a chain of pointers is the one read at its end. -/
theorem elementOf_under_eq (w : Value) (ps : List (Ty × Nat)) (i : Nat) :
    (w.under ps).elementOf i = w.elementOf i := by
  rw [← elementOf_deref, deref_under, elementOf_deref]

/-- The item of a slice or an array at position `i`, or the fault of a
    position past its end. -/
theorem elementOf_items {w : Value} {xs : List Value} (i : Nat)
    (hread : w.elementOf i =
      match xs[i]? with
      | some x => .ok x
      | none => .error (outOfRange i xs.length)) :
    w.elementOf i =
      if h : i < xs.length then .ok xs[i] else .error (outOfRange i xs.length) := by
  rw [hread]
  split
  · rename_i x hx
    obtain ⟨h, rfl⟩ := List.getElem?_eq_some_iff.mp hx
    simp [h]
  · rename_i hx
    simp [List.getElem?_eq_none_iff.mp hx]

theorem elementOf_slice (t : Ty) (r : Nat) (xs : List Value) (i : Nat) :
    (slice t r (some xs)).elementOf i =
      if h : i < xs.length then .ok xs[i] else .error (outOfRange i xs.length) :=
  elementOf_items i rfl

theorem elementOf_array (t : Ty) (xs : List Value) (i : Nat) :
    (array t xs).elementOf i =
      if h : i < xs.length then .ok xs[i] else .error (outOfRange i xs.length) :=
  elementOf_items i rfl

/-- The rune of a string at position `i`, counting runes, or the fault of a
    position past its end, with its length in runes. -/
theorem elementOf_str (t : Ty) (s : HostString) (i : Nat) :
    (str t s).elementOf i =
      if h : i < s.runes.length then .ok (ofString (String.singleton s.runes[i]))
      else .error (outOfRange i s.runes.length) := by
  simp only [elementOf, deref]
  split
  · rename_i ch hch
    obtain ⟨h, rfl⟩ := List.getElem?_eq_some_iff.mp hch
    rw [dif_pos h]
  · rename_i hch
    have h := List.getElem?_eq_none_iff.mp hch
    simp [Nat.not_lt.mpr h]

/-- A value of type `t` that is neither a pointer nor a sequence is a type
    mismatch, which names `t`. -/
theorem elementOf_other {w : Value} {t : Ty} (i : Nat) (ht : w.ty? = some t)
    (hp : ∀ o, w ≠ ptr t o) (hs : ∀ r o, w ≠ slice t r o) (ha : ∀ xs, w ≠ array t xs)
    (hstr : ∀ s, w ≠ str t s) :
    w.elementOf i = .error ((Fault.of .typeMismatch).withAttrs
      [Attr.str "kind" "ArrayIndex", Attr.str "have" t.name]) := by
  cases w with
  | nil => cases ht
  | ptr _ o => cases ht; exact absurd rfl (hp o)
  | slice _ r o => cases ht; exact absurd rfl (hs r o)
  | array _ xs => cases ht; exact absurd rfl (ha xs)
  | str _ s => cases ht; exact absurd rfl (hstr s)
  | _ => cases ht; rfl

/-! ### Reading through every chain of pointers -/

/-- The element at position `i` of a value, through any chain of pointers
    `ps`: a nil value at a nil end; the item of a slice or an array, or out
    of range with its length; the rune of a string, counting runes, or out
    of range with the number of its runes; a type
    mismatch naming the type of any other value. -/
theorem elementOf_under (ps : List (Ty × Nat)) (i : Nat) :
    (nil.under ps).elementOf i = .error ((Fault.of .nilValue).withAttrs [Attr.int "index" i]) ∧
      (∀ t, ((ptr t none).under ps).elementOf i =
        .error ((Fault.of .nilValue).withAttrs [Attr.int "index" i])) ∧
      (∀ t r, ((slice t r none).under ps).elementOf i = .error (outOfRange i 0)) ∧
      (∀ t r xs, ((slice t r (some xs)).under ps).elementOf i =
        if h : i < xs.length then .ok xs[i] else .error (outOfRange i xs.length)) ∧
      (∀ t xs, ((array t xs).under ps).elementOf i =
        if h : i < xs.length then .ok xs[i] else .error (outOfRange i xs.length)) ∧
      (∀ t s, ((str t s).under ps).elementOf i =
        if h : i < s.runes.length then .ok (ofString (String.singleton s.runes[i]))
        else .error (outOfRange i s.runes.length)) ∧
      ∀ w t, w.ty? = some t → (∀ o, w ≠ ptr t o) → (∀ r o, w ≠ slice t r o) →
        (∀ xs, w ≠ array t xs) → (∀ s, w ≠ str t s) →
        (w.under ps).elementOf i = .error ((Fault.of .typeMismatch).withAttrs
          [Attr.str "kind" "ArrayIndex", Attr.str "have" t.name]) := by
  simp only [elementOf_under_eq]
  refine ⟨elementOf_nil i, fun t => rfl, fun t r => rfl, fun t r xs => elementOf_slice t r xs i,
    fun t xs => elementOf_array t xs i, fun t s => elementOf_str t s i, ?_⟩
  intro w t ht hp hs ha hstr
  exact elementOf_other i ht hp hs ha hstr

/-- Under two pointers, the string `"añb"`, whose second character takes
    two bytes, gives that character at position 1 and `b` at position 2; the
    bytes `a`, `0xFF`, `b` give U+FFFD at position 1; a boolean under a
    pointer is a type mismatch. -/
theorem elementOf_under_two_ptrs :
    ((str .string (.ofString "añb")).under [(.ptr (.ptr .string), 8), (.ptr .string, 9)]).elementOf 1 =
        .ok (ofString "ñ") ∧
      ((str .string (.ofString "añb")).under [(.ptr (.ptr .string), 8), (.ptr .string, 9)]).elementOf 2 =
        .ok (ofString "b") ∧
      ((str .string ⟨[0x61, 0xFF, 0x62]⟩).under [(.ptr .string, 9)]).elementOf 1 =
        .ok (ofString "\uFFFD") ∧
      ((bool .bool true).under [(.ptr .bool, 3)]).elementOf 0 =
        .error ((Fault.of .typeMismatch).withAttrs
          [Attr.str "kind" "ArrayIndex", Attr.str "have" "bool"]) := by
  refine ⟨?_, ?_, ?_, ?_⟩
  · rw [(elementOf_under _ 1).2.2.2.2.2.1 .string]
    rfl
  · rw [(elementOf_under _ 2).2.2.2.2.2.1 .string]
    rfl
  · rw [(elementOf_under _ 1).2.2.2.2.2.1 .string]
    rfl
  · exact (elementOf_under _ 0).2.2.2.2.2.2 (bool .bool true) .bool rfl (by simp) (by simp) (by simp)
      (by simp)

end Value

end ExprTree
