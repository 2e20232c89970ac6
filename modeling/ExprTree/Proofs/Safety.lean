import Mathlib.Data.List.Nodup
import ExprTree.Proofs.Bindings

/-!
# Well-typed trees do not go wrong

The constructors check static types, and evaluation then meets no type it
did not expect. A tree is *typed* (`Node.Typed`) when every node reports a
type that is no interface, and the source of every member is, under its
pointers, a struct with an exported field of that name or a map with string
keys, the member being of a type that is no interface. A value *fits* a type
(`Value.Fits`) when it is a well-formed value of a dynamic type assignable to
it, or the nil interface for a pointer, map, slice or function type.

Evaluating a built, typed tree under bindings that fit its free parameters
then *goes right* (`Node.GoesRight`): it fails only with a nil value met, a
position past the end, a key missing from a map or a call with the wrong
number of arguments (`Fault.Allowed`: never a type mismatch, never an unknown
member of a struct), what it gives fits the tree's type, and a function it
gives, called with arguments that fit its parameters, goes right again at the
type of its body.

What carries the proof is that the value of a node is of a type of the
underlying type of the node's static type: assignability keeps the
underlying type, when neither side is an interface, and a view is no more
than one assignment. From there the canonical forms of `Value.HasTy` (a
value of a pointer type is a pointer, of a struct type a struct, …) give:

* `HasTy.deref`: the pointers under a struct or map type lead to a value of
  it, or to a nil pointer;
* `HasTy.fieldByName`: the path that `Catalog.fieldByName` finds opens a
  value of the field's type, or meets a nil pointer;
* `Value.memberOf_typed`, `Value.elementOf_typed`: members and elements are
  of their types, or the faults above;
* `Checked.goesRight`: evaluation goes right, one case per kind of node;
* `eval_goesRight`: a built, typed tree under bindings that fit its free
  parameters goes right, down every chain of calls.
-/

namespace ExprTree

/-! ### Types -/

namespace Catalog

variable {c : Catalog}

theorem kind_eq_of_underlying_eq {d t : Ty} (h : c.underlying d = c.underlying t) :
    c.kind d = c.kind t := by
  simp only [kind, h]

theorem ne_any_of_kind {t : Ty} (h : c.kind t ≠ .iface) : t ≠ .any := by
  rintro rfl
  exact h rfl

theorem assignable_self (t : Ty) : c.assignable t t := by
  simp [assignable]

/-- A type assignable to one that is not `any` has its underlying type. -/
theorem underlying_eq_of_assignable {d t : Ty} (h : c.assignable d t) (ht : t ≠ .any) :
    c.underlying d = c.underlying t := by
  simp only [assignable, Bool.or_eq_true, beq_iff_eq, Bool.and_eq_true] at h
  rcases h with (rfl | rfl) | ⟨-, hu⟩
  · rfl
  · exact absurd rfl ht
  · exact hu

/-- Only `bool` is assignable to `bool`: neither `bool` nor a declared type
    is a literal. -/
theorem eq_bool_of_assignable {t : Ty} (h : c.assignable t .bool) : t = .bool := by
  cases t <;> simp_all [assignable, Ty.isLiteral, underlying]

/-- A type that is no interface is assignable where it is compatible. -/
theorem assignable_of_compatible {t r : Ty} (h : c.compatible t r) (ht : c.kind t ≠ .iface) :
    c.assignable t r := by
  simpa [compatible, ht] using h

theorem underlying_named_eq_ptr {n : String} {e : Ty} :
    c.underlying (.named n) = .other (.ptr e) ↔
      ∃ d, c.find? n = some d ∧ d.underlying = .other (.ptr e) := by
  simp only [underlying]
  cases c.find? n <;> simp
  split <;> simp

/-- A pointer written into a type is looked through. -/
theorem derefFrom_ptr (seen : List String) (e : Ty) :
    c.derefFrom seen (.ptr e) = c.derefFrom seen e := by
  rw [derefFrom.eq_1 c seen (.ptr e), derefFrom.eq_1 c seen e]
  rfl

/-- A declared pointer type is looked through once: met again, it is where
    the search under pointers stops. -/
theorem derefFrom_named_ptr {n : String} {e : Ty} {seen : List String}
    (h : c.underlying (.named n) = .other (.ptr e)) :
    c.derefFrom seen (.named n) = if n ∈ seen then .named n else c.derefFrom (n :: seen) e := by
  obtain ⟨⟨name, u, labels⟩, hd, rfl⟩ := underlying_named_eq_ptr.mp h
  rw [derefFrom.eq_1 c seen]
  dsimp only [Ty.underPtrs]
  split
  · rename_i hd'
    rw [hd] at hd'
    cases hd'
    by_cases hn : n ∈ seen <;> simp [hn]
  · simp_all

theorem derefFrom_named_seen {n : String} {e : Ty} {seen : List String}
    (h : c.underlying (.named n) = .other (.ptr e)) (hn : n ∈ seen) :
    c.derefFrom seen (.named n) = .named n := by
  rw [derefFrom_named_ptr h, if_pos hn]

theorem derefFrom_named_unseen {n : String} {e : Ty} {seen : List String}
    (h : c.underlying (.named n) = .other (.ptr e)) (hn : n ∉ seen) :
    c.derefFrom seen (.named n) = c.derefFrom (n :: seen) e := by
  rw [derefFrom_named_ptr h, if_neg hn]

/-- A declared type that is no pointer type is where the search stops. -/
theorem derefFrom_named_of_ne_ptr {n : String} {seen : List String}
    (h : ∀ e, c.underlying (.named n) ≠ .other (.ptr e)) :
    c.derefFrom seen (.named n) = .named n := by
  rw [derefFrom.eq_1]
  dsimp only [Ty.underPtrs]
  split
  · rename_i _ e _ hd
    exact absurd (by simp [underlying, hd]) (h e)
  · rfl

/-- A type that is neither a pointer nor declared is where the search
    stops. -/
theorem derefFrom_of_ne {t : Ty} (hp : ∀ e, t ≠ .ptr e) (hn : ∀ n, t ≠ .named n)
    (seen : List String) : c.derefFrom seen t = t := by
  cases t with
  | ptr e => exact absurd rfl (hp e)
  | named n => exact absurd rfl (hn n)
  | _ => rw [derefFrom.eq_1]; rfl

/-- A type that is no pointer is its own type under its pointers. -/
theorem derefFrom_of_kind_ne_ptr {t : Ty} (hk : c.kind t ≠ .ptr) (seen : List String) :
    c.derefFrom seen t = t := by
  cases t with
  | ptr e => simp [kind, underlying] at hk
  | named n =>
    refine derefFrom_named_of_ne_ptr fun e he => ?_
    simp [kind, he] at hk
  | _ => exact derefFrom_of_ne (by simp) (by simp) seen

/-- Induction along `derefFrom`, one case for each way it goes: through a
    pointer written into the type, through a declared pointer type met again
    or for the first time, and at any other declared type or type, where it
    stops. -/
theorem derefFrom_induction (c : Catalog) {motive : List String → Ty → Prop}
    (ptr : ∀ seen e, motive seen e → motive seen (.ptr e))
    (again : ∀ seen n e, c.underlying (.named n) = .other (.ptr e) → n ∈ seen →
      motive seen (.named n))
    (first : ∀ seen n e, c.underlying (.named n) = .other (.ptr e) → n ∉ seen →
      motive (n :: seen) e → motive seen (.named n))
    (named : ∀ seen n, (∀ e, c.underlying (.named n) ≠ .other (.ptr e)) →
      motive seen (.named n))
    (other : ∀ seen t, (∀ e, t ≠ .ptr e) → (∀ n, t ≠ .named n) → motive seen t)
    (seen : List String) (t : Ty) : motive seen t := by
  -- `derefFrom` first strips the pointers written into the type
  have strip : ∀ seen t, motive seen t.underPtrs → motive seen t := by
    intro seen t h
    induction t with
    | ptr e ih => exact ptr seen e (ih h)
    | _ => exact h
  induction seen, t using derefFrom.induct c with
  | case1 seen t n hu name e labels hd hn =>
    exact strip seen t (hu ▸ again seen n e (by simp [underlying, hd]) hn)
  | case2 seen t n hu name e labels hd hn ih =>
    exact strip seen t (hu ▸ first seen n e (by simp [underlying, hd]) hn ih)
  | case3 seen t n hu hd =>
    refine strip seen t (hu ▸ named seen n fun e he => ?_)
    obtain ⟨⟨name, u, labels⟩, hf, rfl⟩ := underlying_named_eq_ptr.mp he
    exact hd name e labels hf
  | case4 seen t hn =>
    exact strip seen t (other seen _ (Ty.underPtrs_ne_ptr t) hn)

/-- A member type is found in a struct or in a map with string keys. -/
theorem memberTy_eq_ok {t T : Ty} {f : String} (h : c.memberTy t f = .ok T) :
    (c.kind t = .struct ∧ ∃ fd path, c.fieldByName t f = some (fd, path) ∧ fd.exported ∧
        T = fd.ty) ∨
      ∃ k, c.underlying t = .other (.map k T) ∧ c.kind k = .string := by
  unfold memberTy at h
  split at h
  · rename_i hk
    split at h
    · rename_i fd path hf
      split at h
      · cases h
        exact .inl ⟨hk, fd, path, hf, ‹_›, rfl⟩
      · cases h
    · cases h
  · split at h
    · split at h
      · rename_i hu hks
        cases h
        exact .inr ⟨_, hu, by simpa using hks⟩
      · cases h
    · cases h
  · cases h

theorem derefTy_of_kind_ne_ptr {t : Ty} (hk : c.kind t ≠ .ptr) : c.derefTy t = t :=
  derefFrom_of_kind_ne_ptr hk []

/-- No member is found under a type of the underlying type of functions: it
    is no pointer, struct or map. -/
theorem memberTy_derefTy_ne_ok_of_func {F T : Ty} {f : String}
    (hu : c.underlying F = .other .func) : c.memberTy (c.derefTy F) f ≠ .ok T := by
  intro hT
  rw [derefTy_of_kind_ne_ptr (by simp [kind, hu])] at hT
  rcases memberTy_eq_ok hT with ⟨hks, -⟩ | ⟨k, hmap, -⟩
  · simp [kind, hu] at hks
  · rw [hu] at hmap
    cases hmap

/-- The member type a member check found, when the source is no interface
    under its pointers. -/
theorem checkMember_eq_ok {F m : Ty} {f : String} (h : c.checkMember F f m = .ok ())
    (hk : c.kind (c.derefTy F) ≠ .iface) :
    ∃ T, c.memberTy (c.derefTy F) f = .ok T ∧ c.compatible T m := by
  simp only [checkMember, hk, beq_iff_eq, ↓reduceIte, except_bind_eq_ok] at h
  obtain ⟨T, hT, hc⟩ := h
  refine ⟨T, hT, ?_⟩
  by_cases hcm : c.compatible T m
  · exact hcm
  · simp [hcm, throw, throwThe, MonadExceptOf.throw] at hc

/-! ### Fields of structs -/

theorem fields_eq_of_underlying_eq {d t : Ty} (h : c.underlying d = c.underlying t) :
    c.fields d = c.fields t := by
  simp only [fields, h]

/-- One level of the search: the fields of that name, and the structs opened
    by embedded fields, of each struct type of the level. -/
theorem fieldsAt_eq (name : String) (level : List (Ty × List Nat)) :
    c.fieldsAt name level =
      (level.flatMap fun tp => ((c.fields tp.1).zipIdx.filter (·.1.name == name)).map
          fun fi => (fi.1, fi.2 :: tp.2),
        level.flatMap fun tp => ((c.fields tp.1).zipIdx.filter fun fi =>
            fi.1.embedded && c.kind (embeddedStruct fi.1.ty) == .struct).map
          fun fi => (embeddedStruct fi.1.ty, fi.2 :: tp.2)) := by
  unfold fieldsAt
  -- the fold appends each entry's finds to what the entries before found
  suffices ∀ acc : List (Field × List Nat) × List (Ty × List Nat), level.foldl (fun acc entry =>
      (acc.1 ++ ((c.fields entry.1).zipIdx.filter (·.1.name == name)).map
          fun fi => (fi.1, fi.2 :: entry.2),
        acc.2 ++ ((c.fields entry.1).zipIdx.filter fun fi =>
            fi.1.embedded && c.kind (embeddedStruct fi.1.ty) == .struct).map
          fun fi => (embeddedStruct fi.1.ty, fi.2 :: entry.2))) acc =
      (acc.1 ++ level.flatMap fun tp => ((c.fields tp.1).zipIdx.filter (·.1.name == name)).map
          fun fi => (fi.1, fi.2 :: tp.2),
        acc.2 ++ level.flatMap fun tp => ((c.fields tp.1).zipIdx.filter fun fi =>
            fi.1.embedded && c.kind (embeddedStruct fi.1.ty) == .struct).map
          fun fi => (embeddedStruct fi.1.ty, fi.2 :: tp.2)) by
    simpa using this ([], [])
  induction level with
  | nil => simp
  | cons tp level ih => intro acc; simp [ih]

/-- Types of one underlying type have the same fields, found the same way. -/
theorem fieldByName_eq_of_underlying_eq {d t : Ty} (h : c.underlying d = c.underlying t)
    (name : String) : c.fieldByName d name = c.fieldByName t name := by
  have hf : c.fieldsAt name [(d, [])] = c.fieldsAt name [(t, [])] := by
    simp [fieldsAt_eq, fields_eq_of_underlying_eq h]
  obtain ⟨n, hn⟩ : ∃ n, c.depth = n + 1 := ⟨_, rfl⟩
  rw [fieldByName, fieldByName, hn, fieldSearch, fieldSearch, hf]
  rfl

/-- The search in `time.Time` finds no exported field: none of its fields is
    exported, and none is embedded to open another struct. -/
theorem fieldByName_time {t : Ty} (h : c.underlying t = .struct timeFields) {name : String}
    {f : Field} {path : List Nat} (hf : c.fieldByName t name = some (f, path)) :
    f.exported = false := by
  have hfields : c.fields t = timeFields := by simp [fields, h]
  obtain ⟨n, hn⟩ : ∃ n, c.depth = n + 1 := ⟨_, rfl⟩
  rw [fieldByName, hn, fieldSearch, fieldsAt_eq] at hf
  simp only [List.isEmpty_cons, Bool.false_eq_true, ↓reduceIte, List.flatMap_cons,
    List.flatMap_nil, List.append_nil, hfields] at hf
  split at hf
  · -- the one field of that name: a field of `time.Time`
    rename_i f' p hfound
    cases hf
    obtain ⟨fi, hfi, he⟩ := List.mem_map.mp (hfound ▸ List.mem_singleton_self _)
    cases he
    have hmem := (List.mem_filter.mp hfi).1
    simp only [timeFields, List.zipIdx_cons, List.zipIdx_nil, List.mem_cons,
      List.not_mem_nil, or_false] at hmem
    rcases hmem with rfl | rfl | rfl <;> rfl
  · -- none: no embedded field opens a level below
    have hnone : ∀ k, c.fieldSearch name k [] = none := by
      intro k; cases k <;> rfl
    simp [timeFields, hnone] at hf
  · cases hf

end Catalog

/-! ### Canonical forms

A well-formed value of a type that is no interface has the shape that the
type's underlying type says. -/

namespace Value

variable {c : Catalog}

theorem HasTy.of_ptr {t e : Ty} {v : Value} (h : HasTy c t v)
    (hu : c.underlying t = .other (.ptr e)) :
    v = .ptr t none ∨ ∃ a w, v = .ptr t (some (a, w)) ∧ HasTy c e w := by
  cases h with
  | ptrNil => exact .inl rfl
  | ptr hu' hw =>
    rw [hu] at hu'
    cases hu'
    exact .inr ⟨_, _, rfl, hw⟩
  | _ => simp_all [Catalog.kind]

theorem HasTy.of_slice {t e : Ty} {v : Value} (h : HasTy c t v)
    (hu : c.underlying t = .other (.slice e)) :
    (∃ r, v = .slice t r none) ∨ ∃ r xs, v = .slice t r (some xs) ∧ ∀ x ∈ xs, HasTy c e x := by
  cases h with
  | sliceNil => exact .inl ⟨_, rfl⟩
  | slice hu' hxs =>
    rw [hu] at hu'
    cases hu'
    exact .inr ⟨_, _, rfl, hxs⟩
  | _ => simp_all [Catalog.kind]

theorem HasTy.of_map {t k e : Ty} {v : Value} (h : HasTy c t v)
    (hu : c.underlying t = .other (.map k e)) :
    (∃ r, v = .map t r none) ∨
      ∃ r es, v = .map t r (some es) ∧ ∀ kv ∈ es, HasTy c e kv.2 := by
  cases h with
  | mapNil => exact .inl ⟨_, rfl⟩
  | map hu' _ hes =>
    rw [hu] at hu'
    cases hu'
    exact .inr ⟨_, _, rfl, hes⟩
  | _ => simp_all [Catalog.kind]

/-- A value of a struct type is a struct of that type, or a moment of
    `time.Time`. -/
theorem HasTy.of_struct {t : Ty} {v : Value} (h : HasTy c t v) (hk : c.kind t = .struct) :
    (∃ fs vs, c.underlying t = .struct fs ∧ v = .struct t vs ∧ fs.length = vs.length ∧
      ∀ fv ∈ fs.zip vs, HasTy c fv.1.ty fv.2) ∨
      t = .named "time.Time" ∧ c.underlying t = .struct Catalog.timeFields ∧ ∃ m, v = .time m := by
  cases h with
  | struct hu hlen hvs => exact .inl ⟨_, _, hu, rfl, hlen, hvs⟩
  | time hu => exact .inr ⟨rfl, hu, _, rfl⟩
  | _ => simp_all [Catalog.kind]

theorem HasTy.of_bool {v : Value} (h : HasTy c .bool v) : ∃ b, v = .bool .bool b := by
  cases h with
  | bool => exact ⟨_, rfl⟩
  | _ => simp_all [Catalog.kind, Catalog.underlying]

@[simp] theorem deref_ptr_some (t : Ty) (a : Nat) (w : Value) :
    (Value.ptr t (some (a, w))).deref = w.deref := by
  rw [deref]

/-- A value of a type that is neither a pointer nor an interface has no
    pointer to look through. -/
theorem HasTy.deref_eq_self {d : Ty} {v : Value} (h : HasTy c d v) (hp : c.kind d ≠ .ptr)
    (hi : c.kind d ≠ .iface) : v.deref = v := by
  cases h with
  | ptr hu | ptrNil hu => simp [Catalog.kind, hu] at hp
  | nil hk | dynamic hk => exact absurd hk hi
  | _ => rfl

/-- Looking through the pointers of a value of a type of the underlying type
    of `F`, as `Catalog.derefFrom` looks through those of `F`, reaches a nil
    pointer or a value of a type of the underlying type of what `F` points
    to, unless that is a pointer still (a declared pointer type met twice) or
    an interface. -/
theorem HasTy.deref {d F : Ty} {v : Value} (h : HasTy c d v)
    (hu : c.underlying d = c.underlying F) (seen : List String)
    (hp : c.kind (c.derefFrom seen F) ≠ .ptr) (hi : c.kind (c.derefFrom seen F) ≠ .iface) :
    (∃ t, v.deref = .ptr t none) ∨
      ∃ d', HasTy c d' v.deref ∧ c.underlying d' = c.underlying (c.derefFrom seen F) := by
  induction seen, F using Catalog.derefFrom_induction c generalizing d v with
  | ptr seen e ih =>
    -- a pointer type: a nil pointer, or one to a value of the element type
    rw [Catalog.derefFrom_ptr] at hp hi ⊢
    rcases h.of_ptr (hu.trans rfl) with rfl | ⟨a, w, rfl, hw⟩
    · exact .inl ⟨d, rfl⟩
    · rw [deref_ptr_some]
      exact ih hw rfl hp hi
  | again seen n e hnu hn =>
    rw [Catalog.derefFrom_named_seen hnu hn] at hp
    simp [Catalog.kind, hnu] at hp
  | first seen n e hnu hn ih =>
    -- a declared pointer type, as a pointer type
    rw [Catalog.derefFrom_named_unseen hnu hn] at hp hi ⊢
    rcases h.of_ptr (hu.trans hnu) with rfl | ⟨a, w, rfl, hw⟩
    · exact .inl ⟨d, rfl⟩
    · rw [deref_ptr_some]
      exact ih hw rfl hp hi
  | named seen n hnp =>
    rw [Catalog.derefFrom_named_of_ne_ptr hnp] at hp hi ⊢
    rw [← Catalog.kind_eq_of_underlying_eq hu] at hp hi
    exact .inr ⟨d, by rwa [h.deref_eq_self hp hi], hu⟩
  | other seen t hp' hn' =>
    rw [Catalog.derefFrom_of_ne hp' hn'] at hp hi ⊢
    rw [← Catalog.kind_eq_of_underlying_eq hu] at hp hi
    exact .inr ⟨d, by rwa [h.deref_eq_self hp hi], hu⟩

/-- `HasTy.deref` through all the pointers of `F`. -/
theorem HasTy.deref_derefTy {d F : Ty} {v : Value} (h : HasTy c d v)
    (hu : c.underlying d = c.underlying F)
    (hp : c.kind (c.derefTy F) ≠ .ptr) (hi : c.kind (c.derefTy F) ≠ .iface) :
    (∃ t, v.deref = .ptr t none) ∨
      ∃ d', HasTy c d' v.deref ∧ c.underlying d' = c.underlying (c.derefTy F) :=
  h.deref hu [] hp hi

/-! ### Paths of embedded fields -/

/-- Through a pointer to the value it points to: a nil pointer leads nowhere,
    any other value is itself. -/
def through : Value → Option Value
  | ptr _ (some (_, w)) => some w
  | ptr _ none => none
  | v => some v

/-- The value reached from `v` down the embedded fields at positions `path`,
    through pointers: the values that the search of `Catalog.fieldByName`
    opens. -/
def openPath : Value → List Nat → Option Value
  | v, [] => some v
  | v, i :: rest => ((v.fieldAt [i]).bind through).bind fun w => openPath w rest

theorem fieldAt_cons (v : Value) (i : Nat) {rest : List Nat} (h : rest ≠ []) :
    v.fieldAt (i :: rest) = ((v.fieldAt [i]).bind through).bind (·.fieldAt rest) := by
  obtain ⟨j, rest, rfl⟩ := List.exists_cons_of_ne_nil h
  cases v with
  | struct t fs =>
    cases hi : fs[i]? with
    | none => simp [fieldAt, hi]
    | some w =>
      cases w with
      | ptr t' o => rcases o with _ | ⟨a, inner⟩ <;> simp [fieldAt, hi, through]
      | _ => simp [fieldAt, hi, through]
  | _ => rfl

/-- The field at the end of a path of embedded fields. -/
theorem fieldAt_append_singleton (v : Value) (p : List Nat) (j : Nat) :
    v.fieldAt (p ++ [j]) = (openPath v p).bind (·.fieldAt [j]) := by
  induction p generalizing v with
  | nil => rfl
  | cons i p ih =>
    rw [List.cons_append, fieldAt_cons v i (by simp), openPath]
    simp only [ih, Option.bind_assoc]

theorem openPath_append_singleton (v : Value) (p : List Nat) (i : Nat) :
    openPath v (p ++ [i]) = (openPath v p).bind fun w => (w.fieldAt [i]).bind through := by
  induction p generalizing v with
  | nil => simp [openPath]
  | cons j p ih => simp only [List.cons_append, openPath, ih, Option.bind_assoc]

/-- The field at position `i` of a value of a struct type is of the type
    declared there. -/
theorem HasTy.field {t : Ty} {y x : Value} {f : Field} {i : Nat} (hy : HasTy c t y)
    (hfi : (f, i) ∈ (c.fields t).zipIdx) (hx : y.fieldAt [i] = some x) : HasTy c f.ty x := by
  -- a type with fields is a struct type
  obtain ⟨fs, hu⟩ : ∃ fs, c.underlying t = .struct fs := by
    cases hu : c.underlying t with
    | struct fs => exact ⟨fs, rfl⟩
    | other u => simp [Catalog.fields, hu] at hfi
  rcases hy.of_struct (by simp [Catalog.kind, hu]) with ⟨fs', vs, hu', rfl, -, hvs⟩ | ⟨-, -, m, rfl⟩
  · rw [hu] at hu'
    cases hu'
    have hf : fs[i]? = some f :=
      List.mem_zipIdx_iff_getElem?.mp (by simpa [Catalog.fields, hu] using hfi)
    have hx' : vs[i]? = some x := by simpa [fieldAt] using hx
    exact hvs (f, x) (List.mem_of_getElem? (List.getElem?_zip_eq_some.mpr ⟨hf, hx'⟩))
  · -- a moment holds no field
    simp [fieldAt] at hx

/-- Through an embedded field that opens a struct, directly or through a
    pointer, to a value of that struct type. -/
theorem HasTy.through {t : Ty} {z x : Value} (hz : HasTy c t z)
    (hk : c.kind (Catalog.embeddedStruct t) = .struct) (hx : z.through = some x) :
    HasTy c (Catalog.embeddedStruct t) x := by
  by_cases ht : ∃ e, t = .ptr e
  · obtain ⟨e, rfl⟩ := ht
    rcases hz.of_ptr rfl with rfl | ⟨a, w, rfl, hw⟩
    · cases hx
    · cases hx
      exact hw
  · simp only [not_exists] at ht
    have he : Catalog.embeddedStruct t = t := by
      cases t <;> simp_all [Catalog.embeddedStruct]
    rw [he] at hk ⊢
    -- a struct or a moment, neither of which is a pointer
    rcases hz.of_struct hk with ⟨fs, vs, -, rfl, -⟩ | ⟨-, -, m, rfl⟩ <;> cases hx <;> exact hz

/-- Each struct type of a level of the search is the type of the value that
    its path (innermost position first) opens in `w`, if it opens one. -/
def LevelTyped (c : Catalog) (w : Value) (level : List (Ty × List Nat)) : Prop :=
  ∀ tp ∈ level, ∀ x, openPath w tp.2.reverse = some x → HasTy c tp.1 x

/-- The search keeps its levels typed, so the field it finds is of its type
    at the end of its path. -/
theorem fieldSearch_typed {w : Value} {name : String} {f : Field} {path : List Nat}
    (fuel : Nat) {level : List (Ty × List Nat)} (hl : LevelTyped c w level)
    (h : c.fieldSearch name fuel level = some (f, path)) (x : Value)
    (hx : w.fieldAt path = some x) : HasTy c f.ty x := by
  induction fuel generalizing level with
  | zero => simp [Catalog.fieldSearch] at h
  | succ fuel ih =>
    rw [Catalog.fieldSearch, Catalog.fieldsAt_eq] at h
    split at h
    · cases h
    · dsimp only at h
      split at h
      · -- the one field of that name at this level
        rename_i f' p hfound
        cases h
        obtain ⟨tp, htp, hfp⟩ := List.mem_flatMap.mp (hfound ▸ List.mem_singleton_self _)
        obtain ⟨fi, hfi, he⟩ := List.mem_map.mp hfp
        cases he
        rw [List.reverse_cons, fieldAt_append_singleton, Option.bind_eq_some_iff] at hx
        obtain ⟨y, hy, hyx⟩ := hx
        exact (hl tp htp y hy).field (List.mem_filter.mp hfi).1 hyx
      · -- none: the structs opened by embedded fields, one level down
        refine ih (fun tq htq z hz => ?_) h
        obtain ⟨tp, htp, htq⟩ := List.mem_flatMap.mp htq
        obtain ⟨fi, hfi, rfl⟩ := List.mem_map.mp htq
        obtain ⟨hfi, hemb⟩ := List.mem_filter.mp hfi
        simp only [Bool.and_eq_true, beq_iff_eq] at hemb
        rw [List.reverse_cons, openPath_append_singleton, Option.bind_eq_some_iff] at hz
        obtain ⟨y, hy, hyz⟩ := hz
        obtain ⟨u, hu, huz⟩ := Option.bind_eq_some_iff.mp hyz
        exact ((hl tp htp y hy).field hfi hu).through hemb.2 huz
      · cases h

/-- The path found for a field opens, in a value of the struct type searched,
    a value of the field's type, unless a nil pointer is on the way. -/
theorem HasTy.fieldByName {t : Ty} {w x : Value} {name : String} {f : Field}
    {path : List Nat} (hw : HasTy c t w) (h : c.fieldByName t name = some (f, path))
    (hx : w.fieldAt path = some x) : HasTy c f.ty x := by
  refine fieldSearch_typed _ (fun tp htp y hy => ?_) h x hx
  rw [List.mem_singleton] at htp
  subst htp
  cases hy
  exact hw

end Value

/-! ### Members and elements -/

namespace Fault

/-- The faults left to a typed tree under bindings that fit: a nil value met
    on the way to a member or an element, a position past the end, a key
    missing from a map, and a call with the wrong number of arguments. -/
inductive Allowed (c : Catalog) : Fault → Prop where
  | nilValue (attrs : List Attr) : Allowed c ((Fault.of .nilValue).withAttrs attrs)
  | outOfRange (i n : Nat) : Allowed c (Value.outOfRange i n)
  | missingKey {t : Ty} (f : String) (keys : List String) : c.kind t = .map →
      Allowed c (unknownMember t f keys)
  | arity (attrs : List Attr) : Allowed c ((Fault.of .arityMismatch).withAttrs attrs)

variable {c : Catalog} {e : Fault}

/-- None of them is a type mismatch. -/
theorem Allowed.is_typeMismatch (h : e.Allowed c) : e.is .typeMismatch = false := by
  cases h <;> simp [Value.outOfRange, unknownMember]

/-- An unknown member among them is a key missing from a map, never a field
    missing from a struct. -/
theorem Allowed.unknownMember_of_map (h : e.Allowed c) (hu : e.is .unknownMember = true) :
    ∃ t f keys, c.kind t = .map ∧ e = unknownMember t f keys := by
  cases h with
  | missingKey f keys hk => exact ⟨_, f, keys, hk, rfl⟩
  | _ => simp [Value.outOfRange] at hu

end Fault

namespace Value

variable {c : Catalog}

/-- A value fits a slot of type `t`: the nil interface where `t` is a
    pointer, map, slice or function type, or else a well-formed value of a
    dynamic type assignable to `t`. -/
inductive Fits (c : Catalog) (t : Ty) : Value → Prop where
  | nil : c.kind t ∈ [.ptr, .map, .slice, .func] → Fits c t .nil
  | typed {d : Ty} {v : Value} : v.ty? = some d → HasTy c d v → c.assignable d t → Fits c t v

/-- A value of a type that is no interface fits the types that type is
    assignable to. -/
theorem HasTy.fits {t r : Ty} {v : Value} (h : HasTy c t v) (ht : c.kind t ≠ .iface)
    (hr : c.assignable t r) : v.Fits c r :=
  .typed (h.ty?_eq ht) h hr

theorem fits_ofBool (b : Bool) : (ofBool b).Fits c .bool :=
  HasTy.fits (.bool rfl) (by simp [Catalog.kind, Catalog.underlying]) (Catalog.assignable_self _)

theorem deref_nil : Value.nil.deref = .nil := rfl

theorem memberOf_nil (f : String) :
    Value.nil.memberOf c f = .error ((Fault.of .nilValue).withAttrs [Attr.str "field" f]) := by
  simp only [memberOf, deref_nil]

theorem elementOf_nil (i : Nat) :
    Value.nil.elementOf i = .error ((Fault.of .nilValue).withAttrs [Attr.int "index" i]) := by
  simp only [elementOf, deref_nil]

/-- The member `f` of a value of a type of the underlying type of `F`, where
    the member of `F` under its pointers is of type `T`: a value of type `T`,
    or a nil value met, or a key missing from a map. -/
theorem memberOf_typed {d F T : Ty} {v : Value} {f : String} (hv : HasTy c d v)
    (hu : c.underlying d = c.underlying F) (hT : c.memberTy (c.derefTy F) f = .ok T) :
    (∀ e, v.memberOf c f = .error e → e.Allowed c) ∧
      ∀ x, v.memberOf c f = .ok x → HasTy c T x := by
  -- under its pointers `F` is a struct with the field, or a map with string keys
  have hk : c.kind (c.derefTy F) = .struct ∨ c.kind (c.derefTy F) = .map := by
    rcases Catalog.memberTy_eq_ok hT with ⟨hk, -⟩ | ⟨k, hmap, -⟩
    · exact .inl hk
    · exact .inr (by simp [Catalog.kind, hmap])
  have hp : c.kind (c.derefTy F) ≠ .ptr := by rcases hk with hk | hk <;> simp [hk]
  have hi : c.kind (c.derefTy F) ≠ .iface := by rcases hk with hk | hk <;> simp [hk]
  rcases hv.deref_derefTy hu hp hi with ⟨t, hnil⟩ | ⟨d', hw, hu'⟩
  · -- a nil pointer on the way
    simp only [memberOf, hnil]
    exact ⟨fun e he => by cases he; exact .nilValue _, fun x hx => by cases hx⟩
  rcases Catalog.memberTy_eq_ok hT with ⟨hks, fd, path, hf, hexp, rfl⟩ | ⟨k, hmap, hks⟩
  · -- a struct: the field found for `F` is found for the value's type
    obtain ⟨fs, vs, -, hwv, -⟩ | ⟨-, htime, -⟩ :=
      hw.of_struct (by rw [Catalog.kind_eq_of_underlying_eq hu', hks])
    swap
    · -- `time.Time` has no exported field to find
      rw [hu'] at htime
      rw [Catalog.fieldByName_time htime hf] at hexp
      cases hexp
    have hf' : c.fieldByName d' f = some (fd, path) := by
      rw [Catalog.fieldByName_eq_of_underlying_eq hu', hf]
    simp only [memberOf, hwv, hf', hexp, ↓reduceIte]
    constructor
    · intro e he
      split at he
      · cases he
      · cases he
        exact .nilValue _
    · intro x hx
      split at hx
      · rename_i m hm
        cases hx
        exact hw.fieldByName hf' (by rw [hwv]; exact hm)
      · cases hx
  · -- a map with string keys
    rw [hmap] at hu'
    rcases hw.of_map hu' with ⟨r, hwv⟩ | ⟨r, es, hwv, hes⟩
    · simp only [memberOf, hwv]
      exact ⟨fun e he => by cases he; exact .nilValue _, fun x hx => by cases hx⟩
    · simp only [memberOf, hwv, hu', hks, beq_self_eq_true, ↓reduceIte]
      constructor
      · intro e he
        split at he
        · cases he
        · cases he
          exact .missingKey _ _ (by simp [Catalog.kind, hu'])
      · intro x hx
        split at hx
        · rename_i key m hkv
          cases hx
          exact hes _ (List.mem_of_find?_eq_some hkv)
        · cases hx

/-- The element at position `i` of a value of a slice type: a value of the
    element type, or a position past the end. -/
theorem elementOf_typed {d e : Ty} {v : Value} (hv : HasTy c d v)
    (hu : c.underlying d = .other (.slice e)) (i : Nat) :
    (∀ err, v.elementOf i = .error err → err.Allowed c) ∧
      ∀ x, v.elementOf i = .ok x → HasTy c e x := by
  have hself := hv.deref_eq_self (by simp [Catalog.kind, hu]) (by simp [Catalog.kind, hu])
  rcases hv.of_slice hu with ⟨r, rfl⟩ | ⟨r, xs, rfl, hxs⟩
  · simp only [elementOf, hself, List.getElem?_nil]
    exact ⟨fun err he => by cases he; exact .outOfRange _ _, fun x hx => by cases hx⟩
  · simp only [elementOf, hself]
    constructor
    · intro err he
      split at he
      · cases he
      · cases he
        exact .outOfRange _ _
    · intro x hx
      split at hx
      · rename_i y hy
        cases hx
        exact hxs _ (List.mem_of_getElem? hy)
      · cases hx

end Value

/-! ### Typed trees -/

namespace Result

/-- A result fits type `t`: a value that fits it, or a function where `t` is
    the type of functions. -/
def Fits (c : Catalog) (t : Ty) : Result → Prop
  | data v => v.Fits c t
  | closure .. => t = .func

end Result

namespace Env

/-- Bindings give each of the parameters `ps` a value that fits its type. -/
def Typed (c : Catalog) (env : Env) (ps : List Param) : Prop :=
  ∀ p ∈ ps, ∃ v, env.find? p.name = some v ∧ v.Fits c p.ty

theorem typed_append {c : Catalog} {env : Env} {ps qs : List Param} :
    env.Typed c (ps ++ qs) ↔ env.Typed c ps ∧ env.Typed c qs := by
  simp only [Typed, List.mem_append]
  exact ⟨fun h => ⟨fun p hp => h p (.inl hp), fun p hp => h p (.inr hp)⟩,
    fun ⟨h₁, h₂⟩ p hp => hp.elim (h₁ p) (h₂ p)⟩

end Env

namespace Node

/-- A typed tree (see the module header): every node reports a type that is
    no interface, a lambda's parameters included, and the source of every
    member has, under its pointers, a member of that name of a type that is
    no interface. -/
def Typed (c : Catalog) : Node → Prop
  | param p => c.kind p.ty ≠ .iface
  | value t _ => c.kind t ≠ .iface
  | member t s f => c.kind t ≠ .iface ∧
      (∃ T, c.memberTy (c.derefTy s.staticTy) f = .ok T ∧ c.kind T ≠ .iface) ∧ Typed c s
  | index t s _ => c.kind t ≠ .iface ∧ Typed c s
  | not o => Typed c o
  | equal l r | and l r | or l r => Typed c l ∧ Typed c r
  | lambda _ ps b => (∀ p ∈ ps, c.kind p.ty ≠ .iface) ∧ Typed c b
  | view _ n => Typed c n

/-- Arguments that fit the parameters they are bound to, in order. -/
def ArgsFit (c : Catalog) (ps : List Param) (args : List Value) : Prop :=
  ∀ pa ∈ ps.zip args, pa.2.Fits c pa.1.ty

/-- An evaluation goes right at type `t`, down a chain of calls: it fails
    only with an allowed fault, what it gives fits `t`, and a function it
    gives, called with arguments that fit its parameters, goes right at the
    type of its body down the rest of the chain. -/
def GoesRight (c : Catalog) : Ty → Except Fault Result → List (List Value) → Prop
  | _, .error e, _ => e.Allowed c
  | t, .ok r, [] => r.Fits c t
  | t, .ok (.data v), _ :: _ => v.Fits c t
  | t, .ok (.closure ps b env d), args :: rest => t = .func ∧
      (ArgsFit c ps args → GoesRight c b.ty ((Result.closure ps b env d).call c args).2 rest)

variable {c : Catalog} {inst : Nat → Param}

theorem Typed.kind_ne_iface {n : Node} (h : n.Typed c) : c.kind n.ty ≠ .iface := by
  induction n with
  | param | value => exact h
  | member _ _ _ _ | index _ _ _ _ => exact h.1
  | view t n ih => exact ih h
  | _ => simp [ty, staticTy, Catalog.kind, Catalog.underlying]

@[simp] theorem typed_unwrap (n : Node) : n.unwrap.Typed c ↔ n.Typed c := by
  induction n <;> simp_all [unwrap, Typed]

@[simp] theorem evalAt_unwrap (env : Env) (d : Nat) (n : Node) :
    evalAt c env d n.unwrap = evalAt c env d n := by
  induction n <;> simp_all [unwrap, evalAt]

theorem done_snd (k : Kind) (d : Nat) (o : Outcome Result) : (done k d o).2 = o.2 := rfl

theorem andThen_snd {α β : Type} (o : Outcome α) (f : α → Outcome β) :
    (andThen o f).2 = o.2 >>= fun a => (f a).2 := by
  obtain ⟨rs, r⟩ := o
  cases r <;> rfl

theorem goesRight_error {t : Ty} {e : Fault} {calls : List (List Value)} :
    GoesRight c t (.error e) calls ↔ e.Allowed c := by
  cases calls <;> rfl

theorem goesRight_data {t : Ty} {v : Value} {calls : List (List Value)} :
    GoesRight c t (.ok (.data v)) calls ↔ v.Fits c t := by
  cases calls <;> rfl

/-- A host step goes right when its faults are allowed and its values fit. -/
theorem goesRight_map_data {t : Ty} {x : Except Fault Value}
    (herr : ∀ e, x = .error e → e.Allowed c) (hok : ∀ y, x = .ok y → y.Fits c t)
    (calls : List (List Value)) : GoesRight c t (x.map .data) calls := by
  cases x with
  | error e => exact goesRight_error.mpr (herr e rfl)
  | ok y => exact goesRight_data.mpr (hok y rfl)

/-- A step after an operand that goes right goes right, when it goes right
    on every result that fits the operand's type. -/
theorem goesRight_bind {s t : Ty} {x : Except Fault Result} {g : Result → Except Fault Result}
    {calls : List (List Value)} (hx : GoesRight c s x [])
    (hg : ∀ r, r.Fits c s → GoesRight c t (g r) calls) : GoesRight c t (x >>= g) calls := by
  cases x with
  | error e => exact goesRight_error.mpr hx
  | ok r => exact hg r hx

/-! ### Operands -/

/-- The type a typed node reports has the underlying type of its static
    type, unless that is `any`: a view is one assignment. -/
theorem Checked.underlying_ty {s : Node} (h : s.Checked c inst) (ht : s.Typed c)
    (hF : s.staticTy ≠ .any) : c.underlying s.ty = c.underlying s.staticTy := by
  rcases h.ty_fits with he | hc
  · rw [he]
  · exact Catalog.underlying_eq_of_assignable
      (Catalog.assignable_of_compatible hc ht.kind_ne_iface) hF

/-- A value that fits a typed node's type is nil, or a value of a type of the
    underlying type of the node's static type. -/
theorem Checked.hasTy_of_fits {s : Node} (h : s.Checked c inst) (ht : s.Typed c)
    (hF : s.staticTy ≠ .any) {v : Value} (hv : v.Fits c s.ty) :
    v = .nil ∨ ∃ d, Value.HasTy c d v ∧ c.underlying d = c.underlying s.staticTy := by
  cases hv with
  | nil => exact .inl rfl
  | typed _ hd ha =>
    exact .inr ⟨_, hd, (Catalog.underlying_eq_of_assignable ha
      (Catalog.ne_any_of_kind ht.kind_ne_iface)).trans (h.underlying_ty ht hF)⟩

/-- An operand of static type `bool` reports `bool`. -/
theorem Checked.ty_eq_bool {s : Node} (h : s.Checked c inst) (ht : s.Typed c)
    (hb : s.staticTy = .bool) : s.ty = .bool := by
  rcases h.ty_fits with he | hc
  · rw [he, hb]
  · rw [hb] at hc
    exact Catalog.eq_bool_of_assignable (Catalog.assignable_of_compatible hc ht.kind_ne_iface)

/-- An operand of static type `bool` gives a boolean, which `!`, `&&` and
    `||` take. -/
theorem Checked.asBool_ok {s : Node} (h : s.Checked c inst) (ht : s.Typed c)
    (hb : s.staticTy = .bool) {r : Result} (hr : r.Fits c s.ty) (k : Kind) :
    ∃ b, asBool k r = .ok b := by
  rw [h.ty_eq_bool ht hb] at hr
  cases r with
  | closure => simp [Result.Fits] at hr
  | data v =>
    cases hr with
    | nil hk => simp [Catalog.kind, Catalog.underlying] at hk
    | typed _ hd ha =>
      rw [Catalog.eq_bool_of_assignable ha] at hd
      obtain ⟨b, rfl⟩ := hd.of_bool
      exact ⟨b, rfl⟩

/-- A boolean step after an operand of static type `bool` that goes right
    goes right: `!`, and `&&` or `||` once the right operand runs. -/
theorem goesRight_asBool {s : Node} (h : s.Checked c inst) (ht : s.Typed c)
    (hb : s.staticTy = .bool) {x : Except Fault Result} (hx : GoesRight c s.ty x [])
    (k : Kind) (g : Bool → Bool) (calls : List (List Value)) :
    GoesRight c .bool (x >>= fun r => (asBool k r).map fun b => .data (.ofBool (g b))) calls := by
  refine goesRight_bind hx fun r hr => ?_
  obtain ⟨b, hb'⟩ := h.asBool_ok ht hb hr k
  rw [hb']
  exact goesRight_data.mpr (Value.fits_ofBool _)

/-- The member of a typed source goes right: the source gives no function,
    since a function is no struct or map, under pointers or not. -/
theorem memberOfResult_goesRight {m T : Ty} {s : Node} {f : String} (h : s.Checked c inst)
    (ht : s.Typed c) (hcm : c.checkMember s.staticTy f m = .ok ())
    (hT : c.memberTy (c.derefTy s.staticTy) f = .ok T) (hTi : c.kind T ≠ .iface)
    {r : Result} (hr : r.Fits c s.ty) (calls : List (List Value)) :
    GoesRight c m (memberOfResult c r f) calls := by
  -- under its pointers the source type is a struct or a map, so no interface
  have hk : c.kind (c.derefTy s.staticTy) ≠ .iface := by
    rcases Catalog.memberTy_eq_ok hT with ⟨hk, -⟩ | ⟨k, hmap, -⟩
    · simp [hk]
    · simp [Catalog.kind, hmap]
  have hF : s.staticTy ≠ .any := by
    intro hany
    rw [hany, Catalog.derefTy_of_kind_ne_ptr (by simp [Catalog.kind, Catalog.underlying])] at hk
    exact hk rfl
  -- the check found the member type `T` and took it for the wanted type
  obtain ⟨T', hT', hc⟩ := Catalog.checkMember_eq_ok hcm hk
  rw [hT] at hT'
  cases hT'
  cases r with
  | closure =>
    have hu := h.underlying_ty ht hF
    rw [show s.ty = .func from hr] at hu
    exact absurd hT (Catalog.memberTy_derefTy_ne_ok_of_func hu.symm)
  | data v =>
    rcases h.hasTy_of_fits ht hF hr with rfl | ⟨d, hd, hu⟩
    · rw [memberOfResult, Value.memberOf_nil]
      exact goesRight_error.mpr (.nilValue _)
    · obtain ⟨herr, hok⟩ := Value.memberOf_typed hd hu hT
      exact goesRight_map_data herr
        (fun y hy => (hok y hy).fits hTi (Catalog.assignable_of_compatible hc hTi)) calls

/-- The element of a typed source of a slice type goes right. -/
theorem elementOfResult_goesRight {e : Ty} {s : Node} (h : s.Checked c inst) (ht : s.Typed c)
    (hs : s.staticTy = .slice e) (he : c.kind e ≠ .iface) {r : Result} (hr : r.Fits c s.ty)
    (i : Nat) (calls : List (List Value)) : GoesRight c e (elementOfResult r i) calls := by
  have hF : s.staticTy ≠ .any := by
    rw [hs]
    simp
  have hu := h.underlying_ty ht hF
  cases r with
  | closure =>
    rw [show s.ty = .func from hr, hs] at hu
    cases hu
  | data v =>
    rcases h.hasTy_of_fits ht hF hr with rfl | ⟨d, hd, hdu⟩
    · rw [elementOfResult, Value.elementOf_nil]
      exact goesRight_error.mpr (.nilValue _)
    · rw [hs] at hdu
      obtain ⟨herr, hok⟩ := Value.elementOf_typed hd hdu i
      exact goesRight_map_data herr
        (fun y hy => (hok y hy).fits he (Catalog.assignable_self e)) calls

end Node

/-! ### Evaluation -/

namespace Env

variable {c : Catalog}

/-- Calling a closure with as many arguments as parameters, each fitting its
    parameter, binds the body's free parameters to values that fit them: the
    lambda's own to the arguments, each name declared once and every
    occurrence of it the declared instance, and the others as the lambda
    found them. -/
theorem Typed.bindAll {env : Env} {ret : Ty} {ps : List Param} {b : Node} {args : List Value}
    (h : env.Typed c (Node.lambda ret ps b).freeOccurrences) (hargs : Node.ArgsFit c ps args)
    (hlen : args.length = ps.length) (hnd : (ps.map (·.name)).Nodup)
    (hs : b.Scoped ps.reverse) :
    ((ps.zip args).foldl (fun e (p, a) => e.bind p.name a) env).Typed c b.freeOccurrences := by
  intro q hq
  rw [find?_foldl_bind]
  by_cases hp : q.name ∈ ps.map (·.name)
  · obtain ⟨pa, hpa, hfind, hname⟩ := find?_zip_of_mem hp hlen
    -- the lambda declares `q` itself under its name
    have hq' : q = pa.1 := by
      cases hd : Node.declared? ps.reverse q.name with
      | none => exact absurd (Node.declared?_eq_none_iff.mp hd) (by simpa using hp)
      | some d =>
        have hdq : d = q := (Node.scoped_iff.mp hs).2 q hq d hd
        have hdps : d ∈ ps := List.mem_reverse.mp (List.mem_of_find?_eq_some hd)
        have hdname : d.name = q.name := by simpa using List.find?_some hd
        rw [← hdq]
        exact List.inj_on_of_nodup_map hnd hdps (List.of_mem_zip hpa).1 (hdname.trans hname.symm)
    exact ⟨pa.2, by simp [hfind], hq' ▸ hargs pa hpa⟩
  · -- any other name is free in the lambda
    obtain ⟨v, hv, hfit⟩ := h q (Node.mem_freeOccurrences_lambda.mpr ⟨hq, hp⟩)
    rw [find?_zip_of_not_mem hp]
    exact ⟨v, by simp [hv], hfit⟩

end Env

namespace Node

variable {c : Catalog} {inst : Nat → Param}

/-- Evaluating a typed tree under bindings that fit its free occurrences goes
    right at the tree's type, down every chain of calls: one case per kind of
    node, the body of a lambda under the bindings of each call. -/
theorem Checked.goesRight {n : Node} (h : n.Checked c inst) (ht : n.Typed c) {env : Env}
    (henv : env.Typed c n.freeOccurrences) (d : Nat) (calls : List (List Value)) :
    GoesRight c n.ty (evalAt c env d n).2 calls := by
  induction h generalizing env d calls with
  | @param p _ _ =>
    obtain ⟨v, hv, hfit⟩ := henv p (by simp [freeOccurrences])
    simp only [evalAt, done_snd, hv]
    exact goesRight_data.mpr hfit
  | value hv => exact goesRight_data.mpr (hv.fits ht (Catalog.assignable_self _))
  | member hs _ hcm ih =>
    obtain ⟨-, ⟨T, hT, hTi⟩, hst⟩ := ht
    simp only [evalAt, done_snd, andThen_snd]
    exact goesRight_bind (ih hst henv (d + 1) []) fun r hr =>
      memberOfResult_goesRight hs hst hcm hT hTi hr calls
  | index hs he ih =>
    obtain ⟨hei, hst⟩ := ht
    simp only [evalAt, done_snd, andThen_snd]
    exact goesRight_bind (ih hst henv (d + 1) []) fun r hr =>
      elementOfResult_goesRight hs hst he hei hr _ calls
  | not ho hb ih =>
    simp only [evalAt, done_snd, andThen_snd]
    exact goesRight_asBool ho ht hb (ih ht henv (d + 1) []) .not (!·) calls
  | equal _ _ _ _ ihl ihr =>
    rw [freeOccurrences, Env.typed_append] at henv
    simp only [evalAt, done_snd, andThen_snd]
    exact goesRight_bind (ihl ht.1 henv.1 (d + 1) []) fun _ _ =>
      goesRight_bind (ihr ht.2 henv.2 (d + 1) []) fun _ _ =>
        goesRight_data.mpr (Value.fits_ofBool _)
  | and hl hr hbl hbr ihl ihr =>
    rw [freeOccurrences, Env.typed_append] at henv
    simp only [evalAt, done_snd, andThen_snd]
    refine goesRight_bind (ihl ht.1 henv.1 (d + 1) []) fun a ha => ?_
    obtain ⟨b, hb⟩ := hl.asBool_ok ht.1 hbl ha .and
    -- `false` decides; after `true` the right operand does
    rw [hb]
    cases b
    · exact goesRight_data.mpr (Value.fits_ofBool _)
    · simp only [andThen_snd]
      exact goesRight_asBool hr ht.2 hbr (ihr ht.2 henv.2 (d + 1) []) .and id calls
  | or hl hr hbl hbr ihl ihr =>
    rw [freeOccurrences, Env.typed_append] at henv
    simp only [evalAt, done_snd, andThen_snd]
    refine goesRight_bind (ihl ht.1 henv.1 (d + 1) []) fun a ha => ?_
    obtain ⟨b, hb⟩ := hl.asBool_ok ht.1 hbl ha .or
    -- `true` decides; after `false` the right operand does
    rw [hb]
    cases b
    · simp only [andThen_snd]
      exact goesRight_asBool hr ht.2 hbr (ihr ht.2 henv.2 (d + 1) []) .or id calls
    · exact goesRight_data.mpr (Value.fits_ofBool _)
  | @lambda ret ps b _ _ _ _ hnd hres ih =>
    simp only [evalAt, done_snd]
    cases calls with
    | nil => rfl
    | cons args rest =>
      refine ⟨rfl, fun hargs => ?_⟩
      by_cases hlen : args.length = ps.length
      · simp only [Result.call, hlen, bne_self_eq_false, Bool.false_eq_true, ↓reduceIte]
        have hs : b.Scoped ps.reverse := ((resolve_snd_eq_none_iff false _ _).mp hres).1
        exact ih ht.2 (henv.bindAll hargs hlen hnd hs) (d + 1) rest
      · simp only [Result.call, bne_iff_ne, ne_eq, hlen, not_false_eq_true, ↓reduceIte]
        exact goesRight_error.mpr (.arity _)
  | view _ _ _ ih =>
    simpa [evalAt, ty, freeOccurrences] using
      ih (by simpa [Typed] using ht) (by simpa [freeOccurrences] using henv) d calls

/-- Well-typed trees do not go wrong: a built, typed tree, under bindings
    that give each of its free parameters a value that fits its type, fails
    only with a nil value met, a position past the end, a key missing from a
    map or a call with the wrong number of arguments; what it gives fits its
    type; and so, recursively, does every call of a function it gives, with
    arguments that fit the function's parameters. -/
theorem eval_goesRight {n : Node} (h : n.Built c inst) (ht : n.Typed c) {env : Env}
    (henv : env.Typed c n.freeParams) (calls : List (List Value)) :
    GoesRight c n.ty (eval c env n).2 calls :=
  h.checked.goesRight ht (fun p hp => henv p (h.mem_freeParams hp)) 1 calls

/-- A lambda that reads the key `k` of its map argument: closed, so it needs
    no bindings, and it goes right down every chain of calls, failing at
    most with the key missing or the wrong number of arguments. -/
theorem eval_goesRight_lookup :
    (lambda (.int .word) [⟨"m", .map .string (.int .word), 0⟩]
        (member (.int .word) (param ⟨"m", .map .string (.int .word), 0⟩) "k")).Built {}
        (fun _ => ⟨"m", .map .string (.int .word), 0⟩) ∧
      (lambda (.int .word) [⟨"m", .map .string (.int .word), 0⟩]
        (member (.int .word) (param ⟨"m", .map .string (.int .word), 0⟩) "k")).Typed {} ∧
      Env.Typed {} {} (lambda (.int .word) [⟨"m", .map .string (.int .word), 0⟩]
        (member (.int .word) (param ⟨"m", .map .string (.int .word), 0⟩) "k")).freeParams ∧
      ∀ calls, GoesRight {} (lambda (.int .word) [⟨"m", .map .string (.int .word), 0⟩]
        (member (.int .word) (param ⟨"m", .map .string (.int .word), 0⟩) "k")).ty
        (eval {} {} (lambda (.int .word) [⟨"m", .map .string (.int .word), 0⟩]
          (member (.int .word) (param ⟨"m", .map .string (.int .word), 0⟩) "k"))).2 calls :=
  have hm : (param ⟨"m", .map .string (.int .word), 0⟩).Built {}
      (fun _ => ⟨"m", .map .string (.int .word), 0⟩) :=
    .param rfl (Build.parameter_eq_ok.mpr ⟨by decide +kernel, rfl⟩)
  have hk : (member (.int .word) (param ⟨"m", .map .string (.int .word), 0⟩) "k").Built {}
      (fun _ => ⟨"m", .map .string (.int .word), 0⟩) :=
    .member hm (Build.member_eq_ok.mpr ⟨by decide +kernel, rfl, rfl⟩)
  have hl : (lambda (.int .word) [⟨"m", .map .string (.int .word), 0⟩]
      (member (.int .word) (param ⟨"m", .map .string (.int .word), 0⟩) "k")).Built {}
      (fun _ => ⟨"m", .map .string (.int .word), 0⟩) :=
    .lambda hk rfl (fun p hp => by rw [List.mem_singleton.mp hp]; exact hm)
      (Build.lambda_eq_ok.mpr ⟨by simp, by simp, rfl, rfl⟩)
  have ht : (lambda (.int .word) [⟨"m", .map .string (.int .word), 0⟩]
      (member (.int .word) (param ⟨"m", .map .string (.int .word), 0⟩) "k")).Typed {} :=
    ⟨fun p hp => by rw [List.mem_singleton.mp hp]; decide, by decide,
      ⟨.int .word, rfl, by decide⟩,
      show Catalog.kind {} (.map .string (.int .word)) ≠ .iface by decide⟩
  have henv : Env.Typed {} {} (lambda (.int .word) [⟨"m", .map .string (.int .word), 0⟩]
      (member (.int .word) (param ⟨"m", .map .string (.int .word), 0⟩) "k")).freeParams := by
    rw [hl.freeParams_eq]
    simp [Env.Typed, freeOccurrences, dedup]
  ⟨hl, ht, henv, fun calls => eval_goesRight hl ht henv calls⟩

end Node

end ExprTree
