import ExprTree.Fault.Heap

/-!
# Error objects: the invariant and the frame

What every heap the program builds satisfies (`Heap.Wf`):

* the base of an error object is an older root, an error object with no base
  (`Heap.IsRoot`), so the root of any object is a root;
* an error wraps only an older error;
* the attributes of an error object are a slice that lies in its array and
  has no room left to grow in place (`Heap.Fits`);
* two objects whose slices use one array hold the same slice: an array is
  shared only by a `Heap.wrap` of an object, never partly.

Every way to make an error keeps the invariant (`Heap.Wf.withAttrs`,
`Heap.Wf.wrap`, …, from `Heap.Wf.alloc_record`), and writes nothing that was
made before (`Heap.Extends`): `Heap.withAttrs` writes only the array it has
just made (`Heap.withAttrs_eq`). So the readers of an older error read the
same in every later heap (`Heap.Extends.text_eq`, `Heap.Extends.attrs_eq`,
`Heap.Extends.logValue_eq`, `Heap.Extends.is_eq`).
-/

namespace ExprTree

namespace Heap

variable {h h' h'' : Heap} {o x : Obj} {r : Record} {s : Slice} {a b c e t i : Nat}

/-! ### Allocation -/

@[simp] theorem alloc_snd : (h.alloc o).2 = h.objs.length := rfl

theorem lt_of_obj? (hx : h.obj? a = some x) : a < h.objs.length :=
  (List.getElem?_eq_some_iff.1 hx).1

theorem record?_eq_some_iff : h.record? a = some r ↔ h.obj? a = some (.record r) := by
  unfold record?
  split <;> simp_all

theorem lt_of_record? (hr : h.record? a = some r) : a < h.objs.length :=
  lt_of_obj? (record?_eq_some_iff.1 hr)

theorem unwrap_of_record (hr : h.record? a = some r) : h.unwrap a = r.err := by
  simp [unwrap, record?_eq_some_iff.1 hr, Obj.inner]

theorem obj?_alloc_of_lt (ha : a < h.objs.length) : (h.alloc o).1.obj? a = h.obj? a := by
  simp [alloc, obj?, List.getElem?_append_left ha]

@[simp] theorem obj?_alloc_self : (h.alloc o).1.obj? h.objs.length = some o := by
  simp [alloc, obj?]

/-- What an object of a heap after an allocation is: an older object, or the
    new one. -/
theorem obj?_alloc_cases (hx : (h.alloc o).1.obj? a = some x) :
    (a < h.objs.length ∧ h.obj? a = some x) ∨ (a = h.objs.length ∧ x = o) := by
  rcases Nat.lt_or_ge a h.objs.length with ha | ha
  · exact .inl ⟨ha, by rwa [obj?_alloc_of_lt ha] at hx⟩
  · have hb : a < h.objs.length + 1 := by simpa [alloc] using lt_of_obj? hx
    obtain rfl : a = h.objs.length := by omega
    exact .inr ⟨rfl, by simpa using hx.symm⟩

theorem record?_alloc_cases (hr : (h.alloc o).1.record? a = some r) :
    (a < h.objs.length ∧ h.record? a = some r) ∨ (a = h.objs.length ∧ o = .record r) := by
  rcases obj?_alloc_cases (record?_eq_some_iff.1 hr) with ⟨ha, hx⟩ | ⟨ha, hx⟩
  · exact .inl ⟨ha, record?_eq_some_iff.2 hx⟩
  · exact .inr ⟨ha, hx.symm⟩

theorem unwrap_alloc_cases (hc : (h.alloc o).1.unwrap a = some c) :
    (a < h.objs.length ∧ h.unwrap a = some c) ∨ (a = h.objs.length ∧ o.inner = some c) := by
  obtain ⟨x, hx, hi⟩ := Option.bind_eq_some_iff.1 hc
  rcases obj?_alloc_cases hx with ⟨ha, hx'⟩ | ⟨ha, rfl⟩
  · exact .inl ⟨ha, by simp [unwrap, hx', hi]⟩
  · exact .inr ⟨ha, hi⟩

/-! ### Heaps that extend -/

/-- `h'` holds the objects and the arrays of `h` unchanged, and perhaps more:
    what a heap becomes when nothing made before is written. -/
structure Extends (h h' : Heap) : Prop where
  objs : h.objs <+: h'.objs
  arrays : h.arrays <+: h'.arrays

theorem Extends.refl (h : Heap) : h.Extends h := ⟨List.prefix_refl _, List.prefix_refl _⟩

theorem Extends.trans (h₁ : h.Extends h') (h₂ : h'.Extends h'') : h.Extends h'' :=
  ⟨h₁.objs.trans h₂.objs, h₁.arrays.trans h₂.arrays⟩

theorem alloc_extends (h : Heap) (o : Obj) : h.Extends (h.alloc o).1 :=
  ⟨List.prefix_append _ _, List.prefix_refl _⟩

theorem push_extends (h : Heap) (arr : List Attr) :
    h.Extends ⟨h.objs, h.arrays ++ [arr]⟩ :=
  ⟨List.prefix_refl _, List.prefix_append _ _⟩

theorem Extends.obj?_eq (hx : h.Extends h') (ha : a < h.objs.length) : h'.obj? a = h.obj? a := by
  obtain ⟨t, ht⟩ := hx.objs
  simp [obj?, ← ht, List.getElem?_append_left ha]

theorem Extends.record?_eq (hx : h.Extends h') (ha : a < h.objs.length) :
    h'.record? a = h.record? a := by
  simp only [record?, hx.obj?_eq ha]

theorem Extends.unwrap_eq (hx : h.Extends h') (ha : a < h.objs.length) :
    h'.unwrap a = h.unwrap a := by
  simp only [unwrap, hx.obj?_eq ha]

theorem Extends.root_eq (hx : h.Extends h') (ha : a < h.objs.length) : h'.root a = h.root a := by
  simp only [root, hx.record?_eq ha]

theorem Extends.array?_eq (hx : h.Extends h') (hi : i < h.arrays.length) :
    h'.arrays[i]? = h.arrays[i]? := by
  obtain ⟨t, ht⟩ := hx.arrays
  rw [← ht, List.getElem?_append_left hi]

/-- A slice of an array of `h` reads the same in a heap that extends it. -/
theorem Extends.read_eq (hx : h.Extends h') (hs : ∀ i, s.array = some i → i < h.arrays.length) :
    h'.read s = h.read s := by
  unfold read
  split
  · next i hi => rw [hx.array?_eq (hs i hi)]
  · rfl

/-! ### The invariant -/

/-- Whether an object is a root: an error object with no base. -/
def IsRoot (h : Heap) (b : Nat) : Prop := ∃ r, h.record? b = some r ∧ r.base = none

/-- A slice that an error object may hold: it lies in its array, and its
    length is its capacity, so an append to it would copy it. -/
structure Fits (h : Heap) (s : Slice) : Prop where
  full : s.len = s.cap
  inside : ∀ i, s.array = some i → ∃ arr, h.arrays[i]? = some arr ∧ s.off + s.cap ≤ arr.length
  nil : s.array = none → s.cap = 0

/-- The invariant of the heaps the program builds (see the module header). -/
structure Wf (h : Heap) : Prop where
  base : ∀ a r b, h.record? a = some r → r.base = some b → b < a ∧ h.IsRoot b
  unwrap : ∀ a c, h.unwrap a = some c → c < a
  slice : ∀ a r, h.record? a = some r → h.Fits r.attrs
  shared : ∀ a b ra rb i, h.record? a = some ra → h.record? b = some rb →
    ra.attrs.array = some i → rb.attrs.array = some i → ra.attrs = rb.attrs

theorem Fits.lt (hf : h.Fits s) (hi : s.array = some i) : i < h.arrays.length := by
  obtain ⟨arr, harr, -⟩ := hf.inside i hi
  exact (List.getElem?_eq_some_iff.1 harr).1

/-- A slice that fits reads as many items as it is long. -/
theorem Fits.length_read (hf : h.Fits s) : (h.read s).length = s.len := by
  unfold read
  split
  · next i hi =>
    obtain ⟨arr, harr, hle⟩ := hf.inside i hi
    simp only [harr, Option.getD_some, List.length_take, List.length_drop]
    have := hf.full
    omega
  · next hi =>
    simp [hf.full, hf.nil hi]

theorem Extends.fits (hx : h.Extends h') (hf : h.Fits s) : h'.Fits s where
  full := hf.full
  inside i hi := by
    rw [hx.array?_eq (hf.lt hi)]
    exact hf.inside i hi
  nil := hf.nil

theorem Extends.isRoot (hx : h.Extends h') (hb : h.IsRoot b) : h'.IsRoot b := by
  obtain ⟨r, hr, hbase⟩ := hb
  exact ⟨r, by rw [hx.record?_eq (lt_of_record? hr)]; exact hr, hbase⟩

theorem IsRoot.root_eq (hb : h.IsRoot b) : h.root b = b := by
  obtain ⟨r, hr, hbase⟩ := hb
  simp [root, hr, hbase]

/-- The root of an error object is an older root, or the object itself. -/
theorem Wf.isRoot_root (hw : h.Wf) (hr : h.record? a = some r) :
    h.IsRoot (h.root a) ∧ h.root a ≤ a := by
  cases hb : r.base with
  | some b =>
    have hroot : h.root a = b := by simp [root, hr, hb]
    obtain ⟨hlt, hroot'⟩ := hw.base a r b hr hb
    rw [hroot]
    exact ⟨hroot', Nat.le_of_lt hlt⟩
  | none =>
    have hroot : h.root a = a := by simp [root, hr, hb]
    rw [hroot]
    exact ⟨⟨r, hr, hb⟩, Nat.le_refl a⟩

theorem Wf.err_lt (hw : h.Wf) (hr : h.record? a = some r) (hc : r.err = some c) : c < a :=
  hw.unwrap a c ((unwrap_of_record hr).trans hc)

/-! ### Making errors keeps the invariant -/

/-- A new error object keeps the invariant when its base is an older root, it
    wraps an older error, and its slice fits and is no part of an older
    object's slice. -/
theorem Wf.alloc_record (hw : h.Wf)
    (hbase : ∀ b, r.base = some b → b < h.objs.length ∧ h.IsRoot b)
    (herr : ∀ c, r.err = some c → c < h.objs.length)
    (hfits : h.Fits r.attrs)
    (hshared : ∀ a ra i, h.record? a = some ra → ra.attrs.array = some i →
      r.attrs.array = some i → ra.attrs = r.attrs) :
    (h.alloc (.record r)).1.Wf := by
  have hx := alloc_extends h (.record r)
  refine ⟨?base, ?unwrap, ?slice, ?shared⟩
  case base =>
    intro a ra b hra hb
    rcases record?_alloc_cases hra with ⟨ha, hra⟩ | ⟨rfl, heq⟩
    · obtain ⟨hlt, hroot⟩ := hw.base a ra b hra hb
      exact ⟨hlt, hx.isRoot hroot⟩
    · cases heq
      obtain ⟨hlt, hroot⟩ := hbase b hb
      exact ⟨hlt, hx.isRoot hroot⟩
  case unwrap =>
    intro a c hc
    rcases unwrap_alloc_cases hc with ⟨_, hold⟩ | ⟨rfl, hnew⟩
    · exact hw.unwrap a c hold
    · exact herr c hnew
  case slice =>
    intro a ra hra
    rcases record?_alloc_cases hra with ⟨_, hra⟩ | ⟨_, heq⟩
    · exact hx.fits (hw.slice a ra hra)
    · cases heq
      exact hx.fits hfits
  case shared =>
    intro a b ra rb i hra hrb hia hib
    rcases record?_alloc_cases hra with ⟨_, hra⟩ | ⟨_, heqa⟩ <;>
      rcases record?_alloc_cases hrb with ⟨_, hrb⟩ | ⟨_, heqb⟩
    · exact hw.shared a b ra rb i hra hrb hia hib
    · cases heqb
      exact hshared a ra i hra hia hib
    · cases heqa
      exact (hshared b rb i hrb hib hia).symm
    · cases heqa
      cases heqb
      rfl

/-- An error of a text keeps the invariant when it wraps an older error. -/
theorem Wf.alloc_plain (hw : h.Wf) {text : String} {inner : Option Nat}
    (hinner : ∀ c, inner = some c → c < h.objs.length) :
    (h.alloc (.plain text inner)).1.Wf := by
  have hx := alloc_extends h (.plain text inner)
  -- the new object is no error object, so only the older ones are checked
  have hold : ∀ {a r}, (h.alloc (.plain text inner)).1.record? a = some r → h.record? a = some r := by
    intro a r hr
    rcases record?_alloc_cases hr with ⟨_, hr⟩ | ⟨_, heq⟩
    · exact hr
    · cases heq
  refine ⟨?base, ?unwrap, ?slice, ?shared⟩
  case base =>
    intro a r b hr hb
    obtain ⟨hlt, hroot⟩ := hw.base a r b (hold hr) hb
    exact ⟨hlt, hx.isRoot hroot⟩
  case unwrap =>
    intro a c hc
    rcases unwrap_alloc_cases hc with ⟨_, hold⟩ | ⟨rfl, hnew⟩
    · exact hw.unwrap a c hold
    · exact hinner c hnew
  case slice => exact fun a r hr => hx.fits (hw.slice a r (hold hr))
  case shared => exact fun a b ra rb i hra hrb => hw.shared a b ra rb i (hold hra) (hold hrb)

/-- A new array keeps the invariant. -/
theorem Wf.push (hw : h.Wf) (arr : List Attr) : (⟨h.objs, h.arrays ++ [arr]⟩ : Heap).Wf where
  base := hw.base
  unwrap := hw.unwrap
  slice a r hr := (push_extends h arr).fits (hw.slice a r hr)
  shared := hw.shared

theorem fits_nil (h : Heap) : h.Fits .nil := ⟨rfl, by simp [Slice.nil], fun _ => rfl⟩

/-- A new root with no attributes keeps the invariant when it wraps an older
    error. -/
theorem Wf.alloc_root (hw : h.Wf) {msg : String} {err : Option Nat}
    (herr : ∀ c, err = some c → c < h.objs.length) :
    (h.alloc (.record ⟨msg, err, none, .nil⟩)).1.Wf :=
  hw.alloc_record (by simp) herr (fits_nil h) (by simp [Slice.nil])

theorem Wf.newError (hw : h.Wf) (msg : String) : (h.newError msg).1.Wf :=
  hw.alloc_root (by simp)

theorem Wf.plainError (hw : h.Wf) (text : String) : (h.plainError text).1.Wf :=
  hw.alloc_plain (by simp)

/-! ### The two derivations -/

theorem wrap_eq (hr : h.record? e = some r) (err : Option Nat) :
    h.wrap e err = h.alloc (.record ⟨r.msg, err, some (h.root e), r.attrs⟩) := by
  simp [wrap, hr]

@[simp] theorem read_alloc : (h.alloc o).1.read s = h.read s := rfl

/-- The slice of all of a new last array reads that array. -/
theorem read_push_all (h : Heap) (arr : List Attr) :
    (⟨h.objs, h.arrays ++ [arr]⟩ : Heap).read ⟨some h.arrays.length, 0, arr.length, arr.length⟩ =
      arr := by
  simp [read]

/-- `(l ++ [x]).modify` at the place of `x` changes `x` alone. -/
private theorem modify_concat_self (l : List (List Attr)) (x : List Attr) (f : List Attr → List Attr) :
    (l ++ [x]).modify l.length f = l ++ [f x] := by
  rw [List.modify_eq_take_cons_drop (by simp)]
  simp

/-- What `Heap.withAttrs` makes: a new array holding the attributes of `e` and
    then the new ones, and an object whose slice is all of that array. No
    older array is written. -/
theorem withAttrs_eq (hw : h.Wf) (hr : h.record? e = some r) (more : List Attr) :
    h.withAttrs e more =
      (⟨h.objs, h.arrays ++ [h.read r.attrs ++ more]⟩ : Heap).alloc
        (.record ⟨r.msg, r.err, some (h.root e),
          ⟨some h.arrays.length, 0, r.attrs.len + more.length, r.attrs.len + more.length⟩⟩) := by
  have hf := hw.slice e r hr
  have hlen := hf.length_read
  have hread : (⟨h.objs, h.arrays ++ [List.replicate (r.attrs.len + more.length) Attr.zero]⟩ :
      Heap).read r.attrs = h.read r.attrs :=
    (push_extends h _).read_eq fun _ hi => hf.lt hi
  -- the first copy puts the attributes of `e` at the start of the zeroed array
  have hfirst : (List.replicate (r.attrs.len + more.length) Attr.zero).take 0 ++
      (h.read r.attrs).take (r.attrs.len + more.length) ++
      (List.replicate (r.attrs.len + more.length) Attr.zero).drop
        (min (r.attrs.len + more.length) (h.read r.attrs).length) =
      h.read r.attrs ++ List.replicate more.length Attr.zero := by
    have htake : (h.read r.attrs).take (r.attrs.len + more.length) = h.read r.attrs :=
      List.take_of_length_le (by omega)
    have hmin : min (r.attrs.len + more.length) (h.read r.attrs).length = r.attrs.len := by
      omega
    rw [htake, hmin, List.drop_replicate, Nat.add_sub_cancel_left, List.take_zero,
      List.nil_append]
  -- the second puts the new ones after them, filling the array
  have hsecond : (h.read r.attrs ++ List.replicate more.length Attr.zero).take r.attrs.len ++
      more.take (r.attrs.len + more.length - r.attrs.len) ++
      (h.read r.attrs ++ List.replicate more.length Attr.zero).drop
        (r.attrs.len + min (r.attrs.len + more.length - r.attrs.len) more.length) =
      h.read r.attrs ++ more := by
    rw [List.take_left' hlen, List.drop_of_length_le (by simp [hlen])]
    simp
  simp only [withAttrs, hr, make, copy, Slice.drop, modify_concat_self, Nat.zero_add, hread,
    hfirst, hsecond]

theorem wrap_extends (hr : h.record? e = some r) (err : Option Nat) :
    h.Extends (h.wrap e err).1 := by
  rw [wrap_eq hr]
  exact alloc_extends _ _

theorem withAttrs_extends (hw : h.Wf) (hr : h.record? e = some r) (more : List Attr) :
    h.Extends (h.withAttrs e more).1 := by
  rw [withAttrs_eq hw hr]
  exact (push_extends h _).trans (alloc_extends _ _)

/-- The base of a derived object is the root of its receiver, an older root. -/
private theorem Wf.base_derived (hw : h.Wf) (he : h.record? e = some r) :
    ∀ b, some (h.root e) = some b → b < h.objs.length ∧ h.IsRoot b := by
  intro b hb
  cases hb
  obtain ⟨hroot, hle⟩ := hw.isRoot_root he
  exact ⟨by have := lt_of_record? he; omega, hroot⟩

theorem Wf.wrap (hw : h.Wf) (he : h.record? e = some r) {err : Option Nat}
    (herr : ∀ c, err = some c → c < h.objs.length) : (h.wrap e err).1.Wf := by
  rw [wrap_eq he]
  refine hw.alloc_record (hw.base_derived he) herr (hw.slice e r he) ?_
  -- the shared slice is that of `e`, so an older object holds all of it or none
  intro a ra i hra hia hi
  exact hw.shared a e ra r i hra he hia hi

theorem Wf.withAttrs (hw : h.Wf) (he : h.record? e = some r) (more : List Attr) :
    (h.withAttrs e more).1.Wf := by
  rw [withAttrs_eq hw he]
  have hx := push_extends h (h.read r.attrs ++ more)
  refine (hw.push _).alloc_record ?_ ?_ ?_ ?_
  · intro b hb
    obtain ⟨hlt, hroot⟩ := hw.base_derived he b hb
    exact ⟨hlt, hx.isRoot hroot⟩
  · intro c hc
    exact Nat.lt_trans (hw.err_lt he hc) (lt_of_record? he)
  · have hlen := (hw.slice e r he).length_read
    refine ⟨rfl, ?_, by simp⟩
    intro i hi
    cases hi
    exact ⟨h.read r.attrs ++ more, by simp, by simp [hlen]⟩
  · -- the array is new: no older slice lies in it
    intro a ra i hra hia hi
    cases hi
    have := (hw.slice a ra hra).lt hia
    omega

theorem Wf.wrapError (hw : h.Wf) {err : Option Nat}
    (herr : ∀ c, err = some c → c < h.objs.length) : (h.wrapError err).1.Wf := by
  unfold Heap.wrapError
  split
  · exact hw
  · exact hw.alloc_root herr

/-- The heap of the sentinels keeps the invariant: each is a root of a
    message, wrapping nothing, with no attributes. -/
theorem wf_init : init.Wf := by
  have hinit : ∀ {a x}, init.obj? a = some x →
      ∃ s : Sentinel, x = .record ⟨s.message, none, none, .nil⟩ := by
    intro a x hx
    simp only [obj?, init, List.getElem?_map] at hx
    obtain ⟨s, -, hs⟩ := Option.map_eq_some_iff.1 hx
    exact ⟨s, hs.symm⟩
  have hrec : ∀ {a r}, init.record? a = some r → r.base = none ∧ r.attrs = .nil := by
    intro a r hr
    obtain ⟨s, hs⟩ := hinit (record?_eq_some_iff.1 hr)
    cases hs
    exact ⟨rfl, rfl⟩
  refine ⟨?base, ?unwrap, ?slice, ?shared⟩
  case base =>
    intro a r b hr hb
    simp [(hrec hr).1] at hb
  case unwrap =>
    intro a c hc
    obtain ⟨x, hx, hi⟩ := Option.bind_eq_some_iff.1 hc
    obtain ⟨s, rfl⟩ := hinit hx
    simp [Obj.inner] at hi
  case slice =>
    intro a r hr
    rw [(hrec hr).2]
    exact fits_nil _
  case shared =>
    intro a b ra rb i hra _ hia _
    simp [(hrec hra).2, Slice.nil] at hia

/-! ### Readers of older errors -/

/-- The text of an older error reads the same in a heap that extends: a text
    follows references only to older errors. -/
theorem Extends.text_eq (hx : h.Extends h') : ∀ a, a < h.objs.length → h'.text a = h.text a := by
  intro a
  induction a using Nat.strongRecOn with
  | ind a ih =>
    intro ha
    rw [text, text, hx.obj?_eq ha]
    split
    · next r _ =>
      -- only the cause's text is read, and only when it is older
      cases r.err with
      | none => rfl
      | some c =>
        by_cases hca : c < a
        · simp only [dif_pos hca, ih c hca (by omega)]
        · simp only [dif_neg hca]
    · rfl
    · rfl

theorem Extends.ownIs_eq (hx : h.Extends h') (ha : a < h.objs.length) (ht : t < h.objs.length) :
    h'.ownIs a t = h.ownIs a t := by
  simp only [ownIs, hx.record?_eq ha, hx.record?_eq ht, hx.root_eq ha, hx.root_eq ht]

/-- The test of an older error against an older target reads the same in a
    heap that extends. -/
theorem Extends.is_eq (hx : h.Extends h') (ht : t < h.objs.length) :
    ∀ a, a < h.objs.length → h'.is a t = h.is a t := by
  intro a
  induction a using Nat.strongRecOn with
  | ind a ih =>
    intro ha
    rw [is, is, hx.ownIs_eq ha ht, hx.unwrap_eq ha]
    split
    · next c _ =>
      split
      · next hca => rw [ih c hca (by omega)]
      · rfl
    · rfl

theorem Extends.attrs_eq (hx : h.Extends h') (hw : h.Wf) (ha : a < h.objs.length) :
    h'.attrs a = h.attrs a := by
  unfold attrs
  rw [hx.record?_eq ha]
  split
  · next r hr => exact hx.read_eq fun _ hi => (hw.slice a r hr).lt hi
  · rfl

theorem Extends.logValue_eq (hx : h.Extends h') (hw : h.Wf) (ha : a < h.objs.length) :
    h'.logValue a = h.logValue a := by
  unfold logValue
  rw [hx.record?_eq ha]
  split
  · next r hr =>
    rw [hx.read_eq fun _ hi => (hw.slice a r hr).lt hi]
    cases hc : r.err with
    | none => rfl
    | some c => simp only [hx.text_eq c (Nat.lt_trans (hw.err_lt hr hc) ha)]
  · rw [hx.text_eq a ha]

/-! ### Reading an error object -/

/-- The text of an error object: its message, joined by `": "` to the text of
    the error it wraps, that text alone for the empty message. -/
theorem Wf.text_of_record (hw : h.Wf) (hr : h.record? a = some r) :
    h.text a =
      (r.err.map fun c => if r.msg.isEmpty then h.text c else r.msg ++ ": " ++ h.text c).getD
        r.msg := by
  rw [text, record?_eq_some_iff.1 hr]
  dsimp only
  by_cases hm : r.msg.isEmpty
  · have hempty : r.msg = "" := String.isEmpty_iff.1 hm
    cases hc : r.err with
    | none => simp [hempty]
    | some c => simp [hm, hw.err_lt hr hc]
  · cases hc : r.err with
    | none => simp [hm]
    | some c => simp [hm, hw.err_lt hr hc]

/-- The test of an error against a target: the error is the target or passes
    its own test of it, or the error it wraps passes the test. -/
theorem Wf.is_chain (hw : h.Wf) (a t : Nat) :
    h.is a t = (a == t || h.ownIs a t || ((h.unwrap a).map (h.is · t)).getD false) := by
  rw [is]
  cases hc : h.unwrap a with
  | none => rfl
  | some c => simp [hw.unwrap a c hc]

end Heap

end ExprTree
