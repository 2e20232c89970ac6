import ExprTree.Proofs.Safety

/-!
# Member lookup before and after values exist

A member is looked up twice: when the tree is built, in the static type of
its source (`Catalog.checkMember`), and when it is evaluated, in the value
its source gives (`Value.memberOf`). Both look under all pointers first, the
one through pointer types, the other through pointers, and the two agree.

A type *reaches* a type through `k` pointer types (`Catalog.Reaches`) when
it is, through `k` written or declared pointer types, a pointer to that
type, which is itself no pointer type. The index makes the chain
deterministic in length too (`Catalog.Reaches.unique`), so a declared
pointer type never comes back on a chain that ends: looking through pointer
types from a type that reaches `x` ends at `x` (`Catalog.derefTy_of_reaches`).
A value whose pointers end in no nil one shows that its type reaches a type,
of which the value under its pointers is (`Value.HasTy.derefTy`): a type
whose pointers never end has only values that end in a nil pointer.

Under the pointers, the check and the lookup then read the same type: a
struct, whose fields are found by the same search, a moment of `time.Time`,
a struct none of whose fields is exported, a map, or a type with no
members. They fail with the same unknown member, suggestions included
(`Value.memberOf_error_iff`), except on a map with string keys, where the
check accepts every name and the lookup fails on a name that is no key.

* `Node.member_lookup_agrees`: building a member over a source of static
  type `T` fails with an unknown member exactly when evaluating it over a
  source bound to a value of type `T` does, with the same fault; over a map
  with string keys, building it accepts every name that the map's values
  fit, and evaluating it fails exactly on a name that is no key.
-/

namespace ExprTree

namespace Catalog

variable {c : Catalog}

/-- `t` reaches `x` through `k` pointer types: `x` is no pointer type, and
    `t` is, through `k` written or declared pointer types, a pointer to it. -/
inductive Reaches (c : Catalog) : Nat → Ty → Ty → Prop where
  | here {t : Ty} : c.kind t ≠ .ptr → Reaches c 0 t t
  | step {k : Nat} {t e x : Ty} : c.underlying t = .other (.ptr e) → Reaches c k e x →
      Reaches c (k + 1) t x

theorem kind_eq_ptr {t : Ty} (h : c.kind t = .ptr) : ∃ e, c.underlying t = .other (.ptr e) := by
  unfold kind at h
  split at h
  · cases h
  · rename_i u hu
    cases u <;> simp_all

theorem kind_eq_map {t : Ty} (h : c.kind t = .map) :
    ∃ k e, c.underlying t = .other (.map k e) := by
  unfold kind at h
  split at h
  · cases h
  · rename_i u hu
    cases u <;> simp_all

/-- A type whose underlying type is a pointer type is one, written or
    declared. -/
theorem eq_of_underlying_eq_ptr {t e : Ty} (h : c.underlying t = .other (.ptr e)) :
    t = .ptr e ∨ ∃ n, t = .named n := by
  cases t <;> simp_all [underlying]

namespace Reaches

theorem kind_ne_ptr {k : Nat} {t x : Ty} (h : c.Reaches k t x) : c.kind x ≠ .ptr := by
  induction h with
  | here hk => exact hk
  | step _ _ ih => exact ih

/-- A type reaches one type, through one number of pointer types. -/
theorem unique {k k' : Nat} {t x x' : Ty} (h : c.Reaches k t x) (h' : c.Reaches k' t x') :
    k = k' ∧ x = x' := by
  induction h generalizing k' with
  | here hk =>
    cases h' with
    | here => exact ⟨rfl, rfl⟩
    | step hu _ => simp [kind, hu] at hk
  | step hu _ ih =>
    cases h' with
    | here hk => simp [kind, hu] at hk
    | step hu' h'' =>
      rw [hu] at hu'
      cases hu'
      obtain ⟨rfl, rfl⟩ := ih h''
      exact ⟨rfl, rfl⟩

end Reaches

/-- Looking through pointer types from a type that reaches `x` ends at `x`,
    when every declared pointer type already looked through is farther from
    `x`: by `Reaches.unique` it is then not met again. -/
theorem derefFrom_of_reaches {k : Nat} {t x : Ty} (h : c.Reaches k t x) {seen : List String}
    (hseen : ∀ n ∈ seen, ∃ j, k < j ∧ c.Reaches j (.named n) x) : c.derefFrom seen t = x := by
  induction h generalizing seen with
  | here hk => exact derefFrom_of_kind_ne_ptr hk seen
  | @step k t e x hu he ih =>
    rcases eq_of_underlying_eq_ptr hu with rfl | ⟨n, rfl⟩
    · -- a written pointer
      rw [derefFrom_ptr]
      exact ih fun n hn => (hseen n hn).imp fun j ⟨hj, hr⟩ => ⟨by omega, hr⟩
    · -- a declared pointer type, met for the first time
      have hn : n ∉ seen := by
        intro hn
        obtain ⟨j, hj, hr⟩ := hseen n hn
        have := (hr.unique (.step hu he)).1
        omega
      rw [derefFrom_named_unseen hu hn]
      refine ih fun m hm => ?_
      rcases List.mem_cons.mp hm with rfl | hm
      · exact ⟨k + 1, by omega, .step hu he⟩
      · exact (hseen m hm).imp fun j ⟨hj, hr⟩ => ⟨by omega, hr⟩

theorem derefTy_of_reaches {k : Nat} {t x : Ty} (h : c.Reaches k t x) : c.derefTy t = x :=
  derefFrom_of_reaches h (by simp)

end Catalog

namespace Value

variable {c : Catalog}

/-- A value whose pointers end in no nil one: its type reaches a type, of
    which the value under its pointers is, unless that type is an
    interface. -/
theorem HasTy.reaches {t : Ty} {v : Value} (h : HasTy c t v)
    (hnil : ∀ u, v.deref ≠ .ptr u none) :
    ∃ k x, c.Reaches k t x ∧ (c.kind x = .iface ∨ HasTy c x v.deref) := by
  by_cases hk : c.kind t = .ptr
  · obtain ⟨e, hu⟩ := Catalog.kind_eq_ptr hk
    rcases h.of_ptr hu with rfl | ⟨a, w, rfl, hw⟩
    · exact absurd rfl (hnil t)
    · -- the pointer leads to a value of the element type
      obtain ⟨k, x, hr, hx⟩ := hw.reaches (by simpa using hnil)
      exact ⟨k + 1, x, .step hu hr, by simpa using hx⟩
  · by_cases hi : c.kind t = .iface
    · exact ⟨0, t, .here hk, .inl hi⟩
    · exact ⟨0, t, .here hk, .inr (by rwa [h.deref_eq_self hk hi])⟩
termination_by sizeOf v

/-- The value under the pointers of a value of type `t` that end in no nil
    one is of the type under the pointer types of `t`, when that is no
    interface; and that type is no pointer type. -/
theorem HasTy.derefTy {t : Ty} {v : Value} (h : HasTy c t v)
    (hnil : ∀ u, v.deref ≠ .ptr u none) (hi : c.kind (c.derefTy t) ≠ .iface) :
    HasTy c (c.derefTy t) v.deref ∧ c.kind (c.derefTy t) ≠ .ptr := by
  obtain ⟨k, x, hr, hx⟩ := h.reaches hnil
  rw [Catalog.derefTy_of_reaches hr] at hi ⊢
  exact ⟨hx.resolve_left hi, hr.kind_ne_ptr⟩

/-! ### The lookup in a value and in its type -/

section Lookup

variable {d : Ty} {v : Value} {f : String}

/-- In a struct, the lookup and the check search the same fields. -/
theorem memberOf_struct_error_iff {vs : List Value} (hw : v.deref = .struct d vs)
    (hk : c.kind d = .struct)
    (hpath : ∀ fd path, c.fieldByName d f = some (fd, path) → fd.exported →
      (v.deref.fieldAt path).isSome) (e : Fault) :
    v.memberOf c f = .error e ↔ c.memberTy d f = .error e := by
  simp only [memberOf, Catalog.memberTy, hw, hk]
  split
  · rename_i fd path hf
    by_cases hx : fd.exported
    · obtain ⟨m, hm⟩ := Option.isSome_iff_exists.mp (hpath fd path hf hx)
      rw [hw] at hm
      simp [hx, hm]
    · simp [hx]
  · simp

/-- In a moment, the lookup fails as the check in `time.Time` does, with no
    suggestion, whether or not the name is one of its unexported fields. -/
theorem memberOf_time_error_iff {m : Text.Moment} (hw : v.deref = .time m)
    (hu : c.underlying (.named "time.Time") = .struct Catalog.timeFields) (e : Fault) :
    v.memberOf c f = .error e ↔ c.memberTy (.named "time.Time") f = .error e := by
  have hk : c.kind (.named "time.Time") = .struct := by simp [Catalog.kind, hu]
  have hexp : c.exportedFields (.named "time.Time") = [] := by
    simp only [Catalog.exportedFields, Catalog.fields, hu]
    rfl
  have hty : c.memberTy (.named "time.Time") f =
      .error (unknownMember (.named "time.Time") f []) := by
    simp only [Catalog.memberTy, hk]
    split
    · rename_i fd path hf
      rw [Catalog.fieldByName_time hu hf, hexp]
      rfl
    · rw [hexp]
  rw [hty]
  simp [memberOf, hw, ty?]

/-- In a map whose keys are no strings, both fail with no suggestion. -/
theorem memberOf_map_error_iff {r : Nat} {es : List (Value × Value)} {k e' : Ty}
    (hw : v.deref = .map d r (some es)) (hu : c.underlying d = .other (.map k e'))
    (hks : c.kind k ≠ .string) (e : Fault) :
    v.memberOf c f = .error e ↔ c.memberTy d f = .error e := by
  have hkd : c.kind d = .map := by simp [Catalog.kind, hu]
  simp [memberOf, Catalog.memberTy, hw, hu, hks, hkd]

/-- A value of a type with no members, neither a pointer, a struct, a map
    nor an interface: both fail with no suggestion. -/
theorem memberOf_other_error_iff (hv : HasTy c d v.deref) (hi : c.kind d ≠ .iface)
    (hp : c.kind d ≠ .ptr) (hks : c.kind d ≠ .struct) (hkm : c.kind d ≠ .map) (e : Fault) :
    v.memberOf c f = .error e ↔ c.memberTy d f = .error e := by
  have hty : c.memberTy d f = .error (unknownMember d f []) := by
    unfold Catalog.memberTy
    split <;> simp_all
  rw [hty]
  unfold memberOf
  generalize v.deref = w at hv ⊢
  -- the value has the shape its type says
  cases hv with
  | nil hk | dynamic hk => exact absurd hk hi
  | time hu => simp [Catalog.kind, hu] at hks
  | ptrNil hu | ptr hu => simp [Catalog.kind, hu] at hp
  | struct hu => simp [Catalog.kind, hu] at hks
  | mapNil hu | map hu => simp [Catalog.kind, hu] at hkm
  | _ => simp [ty?]

/-- Where the type `d` of the value under the pointers of `v` is no map with
    string keys, looking up a member in `v` fails exactly as looking it up
    in `d` does: the same unknown member, suggestions included. Nothing
    found is nil: not a map, not an embedded pointer on the way to the
    field. -/
theorem memberOf_error_iff (hv : HasTy c d v.deref)
    (hp : c.kind d ≠ .ptr) (hi : c.kind d ≠ .iface) (hmap : ∀ t r, v.deref ≠ .map t r none)
    (hpath : ∀ fd path, c.fieldByName d f = some (fd, path) → fd.exported →
      (v.deref.fieldAt path).isSome)
    (hkeys : ∀ k e, c.underlying d = .other (.map k e) → c.kind k ≠ .string) (e : Fault) :
    v.memberOf c f = .error e ↔ c.memberTy d f = .error e := by
  by_cases hks : c.kind d = .struct
  · rcases hv.of_struct hks with ⟨fs, vs, -, hw, -, -⟩ | ⟨rfl, hu, m, hw⟩
    · exact memberOf_struct_error_iff hw hks hpath e
    · exact memberOf_time_error_iff hw hu e
  by_cases hkm : c.kind d = .map
  · obtain ⟨k, e', hu⟩ := Catalog.kind_eq_map hkm
    rcases hv.of_map hu with ⟨r, hr⟩ | ⟨r, es, hw, -⟩
    · exact absurd hr (hmap d r)
    · exact memberOf_map_error_iff hw hu (hkeys k e' hu) e
  exact memberOf_other_error_iff hv hi hp hks hkm e

/-- In a map with string keys, the lookup fails exactly on a name that is
    no key, with an unknown member. -/
theorem memberOf_stringMap {r : Nat} {es : List (Value × Value)} {k e' : Ty}
    (hw : v.deref = .map d r (some es)) (hu : c.underlying d = .other (.map k e'))
    (hks : c.kind k = .string) :
    (∀ e, v.memberOf c f = .error e → e.is .unknownMember) ∧
      ((∃ e, v.memberOf c f = .error e) ↔ ∀ t x, (.str t (.ofString f), x) ∉ es) := by
  simp only [memberOf, hw, hu, hks, beq_self_eq_true, ↓reduceIte]
  split
  · -- a key found
    rename_i kv m hfind
    refine ⟨?_, ?_, fun hno => ?_⟩
    · rintro e ⟨⟩
    · rintro ⟨e, ⟨⟩⟩
    have hkey := List.find?_some hfind
    have hmem := List.mem_of_find?_eq_some hfind
    split at hkey
    · rename_i t s' hs
      simp only [beq_iff_eq] at hkey
      subst hkey
      exact absurd (hs ▸ hmem) (hno t m)
    · cases hkey
  · -- no key of that name
    rename_i hfind
    refine ⟨?_, fun _ t x hx => ?_, fun _ => ⟨_, rfl⟩⟩
    · rintro e ⟨⟩
      simp [unknownMember, Fault.of, Fault.withAttrs, Fault.is]
    · have := List.find?_eq_none.mp hfind _ hx
      simp at this

end Lookup

end Value

namespace Build

theorem member_eq_error {c : Catalog} {m : Ty} {s : Node} {f : String} (hf : isIdentifier f)
    (e : Fault) : member c m (some s) f = .error e ↔ c.checkMember s.staticTy f m = .error e := by
  simp only [member, hf, Bool.not_true, Bool.false_eq_true, ↓reduceIte]
  cases c.checkMember s.staticTy f m <;> simp [bind, Except.bind, pure, Except.pure]

end Build

namespace Catalog

variable {c : Catalog}

/-- The check fails with an unknown member exactly when no member type is
    found under the pointers: a member type found and not fitting is a type
    mismatch. -/
theorem checkMember_error_iff {T M : Ty} {f : String} (hi : c.kind (c.derefTy T) ≠ .iface)
    {e : Fault} (he : e.is .unknownMember) :
    c.checkMember T f M = .error e ↔ c.memberTy (c.derefTy T) f = .error e := by
  simp only [checkMember, hi, beq_iff_eq, ↓reduceIte]
  cases c.memberTy (c.derefTy T) f with
  | error e' => simp [bind, Except.bind]
  | ok found =>
    by_cases hc : c.compatible found M
    · simp [bind, Except.bind, pure, Except.pure, hc]
    · simp only [bind, Except.bind, hc, Bool.false_eq_true, ↓reduceIte, reduceCtorEq,
        iff_false]
      rintro ⟨⟩
      simp [Fault.of, Fault.withAttrs, Fault.is] at he

/-- Where a member type is found, the check passes exactly when it fits. -/
theorem checkMember_eq_ok_iff {T M V : Ty} {f : String} (hi : c.kind (c.derefTy T) ≠ .iface)
    (hV : c.memberTy (c.derefTy T) f = .ok V) :
    c.checkMember T f M = .ok () ↔ c.compatible V M := by
  simp only [checkMember, hi, beq_iff_eq, ↓reduceIte, hV]
  by_cases hc : c.compatible V M <;> simp [bind, Except.bind, pure, Except.pure, hc]

/-- A map with string keys has a member type for every name. -/
theorem memberTy_stringMap {d k V : Ty} (hu : c.underlying d = .other (.map k V))
    (hks : c.kind k = .string) (f : String) : c.memberTy d f = .ok V := by
  have hkd : c.kind d = .map := by simp [kind, hu]
  simp [memberTy, hkd, hu, hks]

end Catalog

namespace Node

variable {c : Catalog}

/-- A member over a parameter bound to `v` evaluates to the member of `v`. -/
theorem eval_member_param {env : Env} {p : Param} {v : Value} (hp : env.find? p.name = some v)
    (m : Ty) (f : String) :
    (eval c env (.member m (.param p) f)).2 = (v.memberOf c f).map .data := by
  simp [eval, evalAt, done, andThen, hp, memberOfResult]

theorem map_data_eq_error {x : Except Fault Value} {e : Fault} :
    x.map Result.data = .error e ↔ x = .error e := by
  cases x <;> simp [Except.map]

/-- Member lookup when the tree is built and when it is evaluated. Building
    the member `f` over a source of static type `T`, and evaluating it over
    a source bound to a value `v` of type `T` whose pointers, map and
    embedded pointers on the way to `f` are not nil, where `T` under its
    pointers is no interface:

    * unless `T` under its pointers is a map with string keys, both fail
      with an unknown member exactly alike, with the same fault;
    * where it is one, building accepts every name the map's values fit,
      and evaluating fails, only with an unknown member, exactly on a name
      that is no key. -/
theorem member_lookup_agrees {T M : Ty} {s : Node} {p : Param} {env : Env} {v : Value}
    {f : String} (hs : s.staticTy = T) (hf : isIdentifier f) (hp : env.find? p.name = some v)
    (hv : Value.HasTy c T v) (hi : c.kind (c.derefTy T) ≠ .iface)
    (hnil : ∀ t, v.deref ≠ .ptr t none) (hmap : ∀ t r, v.deref ≠ .map t r none)
    (hpath : ∀ fd path, c.fieldByName (c.derefTy T) f = some (fd, path) → fd.exported →
      (v.deref.fieldAt path).isSome) :
    ((∀ k V, c.underlying (c.derefTy T) = .other (.map k V) → c.kind k ≠ .string) →
        ∀ e, e.is .unknownMember →
          (Build.member c M (some s) f = .error e ↔
            (eval c env (.member M (.param p) f)).2 = .error e)) ∧
      ∀ k V, c.underlying (c.derefTy T) = .other (.map k V) → c.kind k = .string →
        ((∃ n, Build.member c M (some s) f = .ok n) ↔ c.compatible V M) ∧
        (∀ e, (eval c env (.member M (.param p) f)).2 = .error e → e.is .unknownMember) ∧
        ∀ t r es, v.deref = .map t r (some es) →
          ((∃ e, (eval c env (.member M (.param p) f)).2 = .error e) ↔
            ∀ t' x, (.str t' (.ofString f), x) ∉ es) := by
  -- under its pointers the value is of the type under the pointer types
  obtain ⟨hd, hpd⟩ := hv.derefTy hnil hi
  subst hs
  refine ⟨fun hkeys e he => ?_, fun k V hu hks => ?_⟩
  · rw [Build.member_eq_error hf, Catalog.checkMember_error_iff hi he, eval_member_param hp,
      map_data_eq_error, Value.memberOf_error_iff hd hpd hi hmap hpath hkeys]
  · -- a map with string keys: the value is a map of that type
    rcases hd.of_map hu with ⟨r, hr⟩ | ⟨r, es, hw, -⟩
    · exact absurd hr (hmap _ r)
    obtain ⟨hunk, hkey⟩ := Value.memberOf_stringMap (f := f) hw hu hks
    refine ⟨?_, fun e he => ?_, fun t r' es' hw' => ?_⟩
    · simp only [Build.member_eq_ok, hf, true_and, exists_eq_right]
      exact Catalog.checkMember_eq_ok_iff hi (Catalog.memberTy_stringMap hu hks f)
    · rw [eval_member_param hp, map_data_eq_error] at he
      exact hunk e he
    · rw [hw] at hw'
      cases hw'
      simp only [eval_member_param hp, map_data_eq_error]
      exact hkey

set_option maxRecDepth 10000 in
/-- A pointer to a point has no member `Z`: building the member over a
    source of type `*main.Point` and evaluating it over a source bound to a
    pointer to a point fail with the same fault. -/
theorem member_lookup_agrees_point :
    Build.member { decls := [⟨"main.Point", .struct [⟨"X", .int .word, false⟩,
        ⟨"Y", .int .word, false⟩], none⟩] } .any
        (some (.param ⟨"q", .ptr (.named "main.Point"), 0⟩)) "Z" =
        .error (unknownMember (.named "main.Point") "Z" ["X", "Y"]) ∧
      (eval { decls := [⟨"main.Point", .struct [⟨"X", .int .word, false⟩,
        ⟨"Y", .int .word, false⟩], none⟩] }
        (Env.ofList [("p", .ptr (.ptr (.named "main.Point")) (some (1, .struct (.named "main.Point")
          [.int (.int .word) 3, .int (.int .word) 4])))])
        (.member .any (.param ⟨"p", .any, 1⟩) "Z")).2 =
        .error (unknownMember (.named "main.Point") "Z" ["X", "Y"]) := by
  have hv : Value.HasTy { decls := [⟨"main.Point", .struct [⟨"X", .int .word, false⟩,
        ⟨"Y", .int .word, false⟩], none⟩] } (.ptr (.named "main.Point"))
      (.ptr (.ptr (.named "main.Point")) (some (1, .struct (.named "main.Point")
        [.int (.int .word) 3, .int (.int .word) 4]))) := by
    refine .ptr rfl (.struct rfl rfl fun fv hfv => ?_)
    simp only [List.zip_cons_cons, List.zip_nil_right, List.mem_cons, List.not_mem_nil,
      or_false] at hfv
    rcases hfv with rfl | rfl <;> exact .int (.inl rfl)
  have hb : Build.member { decls := [⟨"main.Point", .struct [⟨"X", .int .word, false⟩,
        ⟨"Y", .int .word, false⟩], none⟩] } .any
        (some (.param ⟨"q", .ptr (.named "main.Point"), 0⟩)) "Z" =
        .error (unknownMember (.named "main.Point") "Z" ["X", "Y"]) := rfl
  refine ⟨hb, ((member_lookup_agrees (s := .param ⟨"q", .ptr (.named "main.Point"), 0⟩)
    (p := ⟨"p", .any, 1⟩) rfl rfl rfl hv (by decide) (fun t h => by cases h)
    (fun t r h => by cases h) (fun fd path h => by cases h)).1
    (fun k V h => by cases h) _ rfl).mp hb⟩

end Node

end ExprTree
