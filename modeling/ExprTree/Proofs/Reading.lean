import Mathlib
import ExprTree.Proofs.Scope
import ExprTree.Proofs.Erasure

/-!
# Reading tree documents

The documents `Node.fromDoc` reads are exactly the node documents of a
grammar (`DocOf`): a mapping of one key naming a kind, whose argument is
given by the kind (`ArgOf`): a parameter's identifier, any value, a member's
source and identifier field, an element's source and index, the operand of
`!`, the two operands of `===`, `&&` and `||`, a lambda's distinct
identifiers and body. The grammar asks of operands what the types they are
read at allow: the source of an element is no operator and no lambda, no
operand of `!`, `&&` and `||` is a lambda, and `===` never compares a lambda
with an operator. A document denotes one tree, untyped (types `any`,
instances `0`, no views): the tree read, erased.

* `readNode_sound`: what the reader returns is the tree the document
  denotes, at the type of its kind, its parameters resolved in the enclosing
  lambdas;
* `ArgOf.readKind_ok`: the reader, given fuel beyond the size of the
  document, accepts every node document;
* `ArgOf.unique`, `DocOf.unique`: a document denotes at most one tree.
-/

namespace ExprTree

namespace Number

/-- A double whose exact value is `v / 2^k` is whole exactly when `2^k`
    divides `v`. -/
theorem isIntegral_iff_dvd {b : UInt64} {v : Int} {k : Nat} (h : exactValue b = some (v, k)) :
    isIntegral b = true ↔ (2 : Int) ^ k ∣ v := by
  unfold exactValue at h
  unfold isIntegral
  cases hm : (unpack b).mag with
  | nan => simp [hm] at h
  | infinite => simp [hm] at h
  | finite m e =>
    simp only [hm] at h ⊢
    by_cases he : 0 ≤ e
    · simp only [he, ↓reduceIte, Option.some.injEq, Prod.mk.injEq] at h
      obtain ⟨rfl, rfl⟩ := h
      simp [he]
    · simp only [he, ↓reduceIte, Option.some.injEq, Prod.mk.injEq] at h
      obtain ⟨rfl, rfl⟩ := h
      have hdvd : (2 : Int) ^ (-e).toNat ∣ (m : Int) ↔ m % 2 ^ (-e).toNat = 0 := by
        rw [← Nat.dvd_iff_mod_eq_zero]; exact_mod_cast Int.natCast_dvd_natCast
      split <;> simp [he, hdvd]

/-- The truncation of a double of exact value `v / 2^k`. -/
theorem truncToInt64_of_exactValue {b : UInt64} {v : Int} {k : Nat}
    (h : exactValue b = some (v, k)) :
    truncToInt64 b =
      if -(2 ^ 63 : Int) ≤ v.tdiv (2 ^ k) ∧ v.tdiv (2 ^ k) < 2 ^ 63 then v.tdiv (2 ^ k)
      else -(2 ^ 63) := by
  simp [truncToInt64, h]

end Number

namespace Node

/-! ### The grammar of node documents -/

/-- The kind and argument of a node document: a mapping of exactly one key,
    which names a kind in any case. -/
def kindArg? (d : Value) : Option (Kind × Value) :=
  match asMap d with
  | some [(key, arg)] => (Kind.parse? key).map (·, arg)
  | _ => none

/-- The position the index of an element document denotes: an `int` or an
    `int64` that is not negative, a `uint64` below `2^63`, or a `float64`
    whose exact value is a whole number below `2^63`. -/
inductive IndexDoc : Value → Nat → Prop where
  | int {i : Nat} : IndexDoc (.int (.int .word) i) i
  | int64 {i : Nat} : IndexDoc (.int (.int .size64) i) i
  | uint64 {i : Nat} : i < 2 ^ 63 → IndexDoc (.int (.uint .size64) i) i
  | float {bits : UInt64} {i k : Nat} : Number.exactValue bits = some ((i : Int) * 2 ^ k, k) →
      i < 2 ^ 63 → IndexDoc (.float (.float false) bits) i

/-- `ArgOf k a e`: `a` is the argument of a node document of kind `k` that
    denotes the untyped tree `e`. Each operand is a node document in turn,
    given by its kind and argument. -/
inductive ArgOf : Kind → Value → Node → Prop where
  | param {name : String} : isIdentifier name →
      ArgOf .parameter (.ofString name) (.param ⟨name, .any, 0⟩)
  | value {v : Value} : ArgOf .value v (.value .any v)
  | member {a m f k b s} : asMap a = some m → entry m "field" = .ofString f → isIdentifier f →
      kindArg? (entry m "source") = some (k, b) → ArgOf k b s →
      ArgOf .member a (.member .any s f)
  | arrayIndex {a m i k b s} : asMap a = some m → IndexDoc (entry m "index") i →
      kindArg? (entry m "source") = some (k, b) → ArgOf k b s →
      k ∈ [.parameter, .value, .member, .arrayIndex] → ArgOf .arrayIndex a (.index .any s i)
  | not {a k b o} : kindArg? a = some (k, b) → ArgOf k b o → k ≠ .lambda → ArgOf .not a (.not o)
  | equal {a dl dr kl kr bl br l r} : asList a = some [dl, dr] →
      kindArg? dl = some (kl, bl) → ArgOf kl bl l → kindArg? dr = some (kr, br) → ArgOf kr br r →
      ¬ (kl = .lambda ∧ kr ∈ [.not, .equal, .and, .or]) →
      ¬ (kr = .lambda ∧ kl ∈ [.not, .equal, .and, .or]) → ArgOf .equal a (.equal l r)
  | and {a dl dr kl kr bl br l r} : asList a = some [dl, dr] →
      kindArg? dl = some (kl, bl) → ArgOf kl bl l → kindArg? dr = some (kr, br) → ArgOf kr br r →
      kl ≠ .lambda → kr ≠ .lambda → ArgOf .and a (.and l r)
  | or {a dl dr kl kr bl br l r} : asList a = some [dl, dr] →
      kindArg? dl = some (kl, bl) → ArgOf kl bl l → kindArg? dr = some (kr, br) → ArgOf kr br r →
      kl ≠ .lambda → kr ≠ .lambda → ArgOf .or a (.or l r)
  | lambda {a m names k b body} : asMap a = some m →
      asList (entry m "params") = some (names.map .ofString) → names ≠ [] → names.Nodup →
      (∀ x ∈ names, isIdentifier x) → kindArg? (entry m "body") = some (k, b) → ArgOf k b body →
      ArgOf .lambda a (.lambda .any (names.map fun x => ⟨x, .any, 0⟩) body)

/-- A node document and the untyped tree it denotes. -/
def DocOf (d : Value) (e : Node) : Prop :=
  ∃ k a, kindArg? d = some (k, a) ∧ ArgOf k a e

/-- The type a node of kind `k` is read at: functions for a lambda, `bool`
    for `!`, `===`, `&&` and `||`, `any` for the others. -/
def readTy : Kind → Ty
  | .lambda => .func
  | .not | .equal | .and | .or => .bool
  | _ => .any

/-- The tree an argument denotes is of its kind. -/
theorem ArgOf.kind_eq {k : Kind} {a : Value} {e : Node} (h : ArgOf k a e) : e.kind = k := by
  cases h <;> rfl

/-! ### Indices -/

/-- An integer read from an index document, when it is not negative, is the
    position the document denotes. -/
theorem indexDoc_of_asInt {v : Value} {j : Int} (h : asInt v = some j) (hj : 0 ≤ j) :
    IndexDoc v j.toNat := by
  obtain ⟨i, rfl⟩ := Int.eq_ofNat_of_zero_le hj
  rw [Int.toNat_natCast]
  unfold asInt at h
  split at h
  · cases h; exact .int
  · cases h; exact .int64
  · split at h
    · cases h; exact .uint64 (by omega)
    · cases h
  next bits =>
    split at h
    next hint =>
      have ht := Option.some.inj h
      cases hx : Number.exactValue bits with
      | none => simp [Number.truncToInt64, hx] at ht
      | some p =>
        obtain ⟨v, k⟩ := p
        rw [Number.truncToInt64_of_exactValue hx] at ht
        split at ht
        next hr =>
          have hv := Int.tdiv_mul_cancel ((Number.isIntegral_iff_dvd hx).mp hint)
          rw [ht] at hv hr
          exact .float (by rw [hx, hv]) (by omega)
        next => omega
    next => cases h
  · cases h

/-- The index document of a position reads as that position. -/
theorem IndexDoc.asInt_eq {v : Value} {i : Nat} (h : IndexDoc v i) : asInt v = some (i : Int) := by
  cases h with
  | int | int64 => rfl
  | uint64 hi => simp only [asInt]; rw [if_pos (by exact_mod_cast hi)]
  | float hx hi =>
    have hint := (Number.isIntegral_iff_dvd hx).mpr (Int.dvd_mul_left _ _)
    rw [asInt, if_pos hint, Number.truncToInt64_of_exactValue hx,
      Int.mul_tdiv_cancel _ (Int.pow_ne_zero (by decide))]
    rw [if_pos (by omega)]

/-! ### Sizes of parts -/

theorem size_pos (v : Value) : 0 < v.size := by
  unfold Value.size
  split <;> omega

theorem size_lt_sizeEntries {es : List (Value × Value)} {e : Value × Value} (h : e ∈ es) :
    e.2.size < Value.sizeEntries es := by
  induction es with
  | nil => cases h
  | cons x es ih =>
    rw [Value.sizeEntries]
    rcases List.mem_cons.mp h with rfl | h
    · have := size_pos e.1; omega
    · have := ih h; omega

theorem size_lt_sizeAll {xs : List Value} {x : Value} (h : x ∈ xs) : x.size ≤ Value.sizeAll xs := by
  induction xs with
  | nil => cases h
  | cons y xs ih =>
    rw [Value.sizeAll]
    rcases List.mem_cons.mp h with rfl | h
    · omega
    · have := ih h; omega

/-- The entries read from a map of type `map[any]any` are its own entries. -/
theorem exists_of_mem_foldr {es : List (Value × Value)} {rest : List (String × Value)}
    (h : es.foldr (fun (k, v) acc => match k, acc with
      | .str .string s, some rest => some ((s.text, v) :: rest)
      | _, _ => none) (some []) = some rest) {p : String × Value} (hp : p ∈ rest) :
    ∃ e ∈ es, e.2 = p.2 := by
  induction es generalizing rest with
  | nil => cases h; cases hp
  | cons e es ih =>
    obtain ⟨k, v⟩ := e
    simp only [List.foldr_cons] at h
    split at h
    next _ _ s rest' hr =>
      cases h
      rcases List.mem_cons.mp hp with rfl | hp
      · exact ⟨_, List.mem_cons_self, rfl⟩
      · obtain ⟨e', he', hv⟩ := ih hr hp
        exact ⟨e', List.mem_cons_of_mem _ he', hv⟩
    next => cases h

/-- The entries of a mapping document are smaller than it. -/
theorem size_lt_of_asMap {d : Value} {es : List (String × Value)} (h : asMap d = some es)
    {p : String × Value} (hp : p ∈ es) : p.2.size < d.size := by
  cases d with
  | map t n es₀ =>
    have key : ∃ e ∈ es₀.getD [], e.2 = p.2 := by
      simp only [asMap] at h
      by_cases h₁ : (t == docMapTy) = true
      · rw [if_pos h₁] at h
        cases h
        obtain ⟨e, he, hf⟩ := List.mem_filterMap.mp hp
        refine ⟨e, he, ?_⟩
        split at hf <;> cases hf
        rfl
      · rw [if_neg h₁] at h
        by_cases h₂ : (t == .map .any .any) = true
        · rw [if_pos h₂] at h
          exact exists_of_mem_foldr h hp
        · rw [if_neg h₂] at h
          cases h
    obtain ⟨e, he, hv⟩ := key
    cases es₀ with
    | none => cases he
    | some es₀ =>
      rw [Value.size, ← hv]
      have := size_lt_sizeEntries (by simpa using he)
      omega
  | _ => cases h

/-- An entry of a mapping document is no larger than it, a missing one
    being `nil`. -/
theorem size_entry_le {d : Value} {es : List (String × Value)} (h : asMap d = some es)
    (key : String) : (entry es key).size ≤ d.size := by
  unfold entry
  cases hf : es.find? (·.1 == key) with
  | none => simpa [Value.size] using Nat.succ_le_of_lt (size_pos d)
  | some p => simpa using Nat.le_of_lt (size_lt_of_asMap h (List.mem_of_find?_eq_some hf))

/-- The items of a list document are smaller than it. -/
theorem size_lt_of_asList {d : Value} {xs : List Value} (h : asList d = some xs) {x : Value}
    (hx : x ∈ xs) : x.size < d.size := by
  cases d with
  | slice t n xs₀ =>
    simp only [asList] at h
    by_cases ht : (t == .slice .any) = true
    · rw [if_pos ht] at h
      cases h
      cases xs₀ with
      | none => cases hx
      | some xs₀ => rw [Value.size]; have := size_lt_sizeAll (by simpa using hx); omega
    · rw [if_neg ht] at h
      cases h
  | _ => cases h

/-- The argument of a node document is smaller than it. -/
theorem size_lt_of_kindArg {d a : Value} {k : Kind} (h : kindArg? d = some (k, a)) :
    a.size < d.size := by
  unfold kindArg? at h
  split at h
  next key arg hm =>
    obtain ⟨k', -, he⟩ := Option.map_eq_some_iff.mp h
    cases he
    exact size_lt_of_asMap hm List.mem_cons_self
  next => cases h

/-! ### Reading, step by step -/

section Steps

variable {α β : Type} {st st' : Reader}

theorem readM_bind_eq_ok {x : ReadM α} {f : α → ReadM β} {b : β} :
    (x >>= f) st = .ok (b, st') ↔ ∃ a st₁, x st = .ok (a, st₁) ∧ f a st₁ = .ok (b, st') := by
  simp only [bind, StateT.bind]
  cases x st with
  | error e => simp [Except.bind]
  | ok p =>
    simp only [Except.bind, Except.ok.injEq]
    exact ⟨fun h => ⟨p.1, p.2, rfl, h⟩, fun ⟨_, _, he, h⟩ => by rw [he]; exact h⟩

theorem readM_pure_eq_ok {a b : α} : (pure a : ReadM α) st = .ok (b, st') ↔ b = a ∧ st' = st := by
  simp only [pure, StateT.pure, Except.pure, Except.ok.injEq, Prod.mk.injEq]
  constructor <;> rintro ⟨rfl, rfl⟩ <;> exact ⟨rfl, rfl⟩

theorem lift_eq_ok {r : Except Fault α} {a : α} :
    lift r st = .ok (a, st') ↔ r = .ok a ∧ st' = st := by
  cases r <;> simp [lift, Except.map, eq_comm]

theorem failWith_ne_ok {e : Fault} {r : α × Reader} : failWith e st ≠ .ok r := by
  simp [failWith]

theorem get_eq : (get : ReadM Reader) st = .ok (st, st) := rfl

theorem set_eq {s : Reader} : (set s : ReadM PUnit) st = .ok (⟨⟩, s) := rfl

theorem modify_eq {f : Reader → Reader} : (modify f : ReadM Unit) st = .ok ((), f st) := rfl

theorem tryCatch_eq_ok {x : ReadM α} {h : Fault → ReadM α} {r : α × Reader}
    (hh : ∀ e s r, h e s ≠ .ok r) : tryCatch x h st = .ok r ↔ x st = .ok r := by
  simp only [tryCatch, tryCatchThe, MonadExceptOf.tryCatch]
  cases x st with
  | error e => simp [Except.tryCatch, hh]
  | ok p => simp [Except.tryCatch]

theorem readNode_succ_eq_ok {fuel : Nat} {d : Value} {path : String} {r : Node × Reader} :
    readNode (fuel + 1) d path st = .ok r ↔
      ∃ k a, kindArg? d = some (k, a) ∧
        readKind (readNode fuel) k a (path ++ "." ++ k.key) st = .ok r := by
  unfold kindArg?
  rw [readNode]
  rcases hm : asMap d with _ | _ | ⟨⟨key, arg⟩, _ | ⟨_, _⟩⟩
  case some.cons.nil =>
    cases hk : Kind.parse? key with
    | none => simp [hk, failWith]
    | some k =>
      simp only [hk, Option.map_some, Option.some.injEq, Prod.mk.injEq]
      rw [tryCatch_eq_ok (fun e s r => by split <;> exact failWith_ne_ok)]
      exact ⟨fun h => ⟨k, arg, ⟨rfl, rfl⟩, h⟩, fun ⟨_, _, ⟨rfl, rfl⟩, h⟩ => h⟩
  all_goals simp [failWith]

theorem asText_eq_some {v : Value} {s : String} :
    asText v = some s ↔ ∃ b, v = .str .string b ∧ b.text = s := by
  constructor
  · intro h
    unfold asText at h
    split at h
    · cases h; exact ⟨_, rfl, rfl⟩
    · cases h
  · rintro ⟨b, rfl, rfl⟩; rfl

@[simp] theorem asText_ofString (s : String) : asText (.ofString s) = some s := by
  simp [Value.ofString, asText]

theorem ofString_injective : Function.Injective Value.ofString := fun x y h => by
  simpa [Value.ofString, HostString.ofString_inj] using h

/-- No identifier holds U+FFFD, which is no letter and no digit. -/
theorem replacement_not_mem_of_isIdentifier {s : String} (h : isIdentifier s) :
    '\uFFFD' ∉ s.toList := by
  have hletter : Text.isLetter '\uFFFD' = false := by
    set_option maxRecDepth 20000 in decide +kernel
  have hdigit : Text.isDigit '\uFFFD' = false := by
    set_option maxRecDepth 20000 in decide +kernel
  unfold isIdentifier at h
  split at h
  · cases h
  · rename_i c cs hs
    simp only [Bool.and_eq_true, List.all_eq_true] at h
    rw [hs]
    intro hmem
    rcases List.mem_cons.mp hmem with rfl | hmem
    · simp [hletter] at h
    · simpa [hletter, hdigit] using h.2 _ hmem

/-- A text document whose text is an identifier is the encoding of that
    identifier: the reader takes no other bytes for it. -/
theorem eq_ofString_of_asText {v : Value} {s : String} (h : asText v = some s)
    (hid : isIdentifier s) : v = .ofString s := by
  obtain ⟨b, rfl, hb⟩ := asText_eq_some.mp h
  rw [Value.ofString, HostString.eq_ofString_of_text hb (replacement_not_mem_of_isIdentifier hid)]

theorem readAny_eq_ok {read : Value → String → ReadM Node} {d : Value} {p : String} {n : Node} :
    readAny read d p st = .ok (n, st') ↔
      ∃ m, read d p st = .ok (m, st') ∧ Build.cast {} .any (some m) = .ok n := by
  simp only [readAny, readM_bind_eq_ok, lift_eq_ok]
  constructor
  · rintro ⟨m, st₁, hm, hc, rfl⟩; exact ⟨m, hm, hc⟩
  · rintro ⟨m, hm, hc⟩; exact ⟨m, st', hm, hc, rfl⟩

theorem readBool_eq_ok {read : Value → String → ReadM Node} {d : Value} {p : String} {n : Node} :
    readBool read d p st = .ok (n, st') ↔
      ∃ m, read d p st = .ok (m, st') ∧ Build.cast {} .bool (some m) = .ok n := by
  simp only [readBool, readM_bind_eq_ok]
  constructor
  · rintro ⟨m, st₁, hm, h⟩
    revert h
    cases hc : Build.cast {} .bool (some m) with
    | ok b => rw [readM_pure_eq_ok]; rintro ⟨rfl, rfl⟩; exact ⟨m, hm, hc⟩
    | error e => exact fun h => absurd h failWith_ne_ok
  · rintro ⟨m, hm, hc⟩
    exact ⟨m, st', hm, by rw [hc]; exact readM_pure_eq_ok.mpr ⟨rfl, rfl⟩⟩

theorem freshParam_eq_ok {name : String} {p : Param} :
    freshParam name st = .ok (p, st') ↔
      isIdentifier name ∧ p = ⟨name, .any, st.next⟩ ∧ st' = { st with next := st.next + 1 } := by
  simp only [freshParam, readM_bind_eq_ok, get_eq, lift_eq_ok, Build.parameter_eq_ok]
  constructor
  · rintro ⟨_, _, hget, n, _, ⟨⟨hid, rfl⟩, rfl⟩, u, _, hset, h⟩
    cases hget
    rw [set_eq] at hset
    cases hset
    exact ⟨hid, (readM_pure_eq_ok.mp h).1, (readM_pure_eq_ok.mp h).2⟩
  · rintro ⟨hid, rfl, rfl⟩
    exact ⟨_, _, rfl, _, _, ⟨⟨hid, rfl⟩, rfl⟩, ⟨⟩, _, set_eq, readM_pure_eq_ok.mpr ⟨rfl, rfl⟩⟩

/-- What reading keeps of the parameters it knows, in scope or free: each is
    named by an identifier and of type `any`. -/
def Reader.Valid (st : Reader) : Prop :=
  ∀ p ∈ st.scopes.flatten ++ st.free, isIdentifier p.name ∧ p.ty = .any

theorem Reader.Valid.of_eq {st st' : Reader} (hv : st.Valid) (hsc : st'.scopes = st.scopes)
    (hfr : st'.free = st.free) : st'.Valid := by
  intro q hq
  rw [hsc, hfr] at hq
  exact hv q hq

/-- A scope of parameters named by identifiers, of type `any`, keeps the
    reader valid. -/
theorem Reader.Valid.push {st : Reader} {ps : List Param} (hv : st.Valid)
    (hps : ∀ p ∈ ps, isIdentifier p.name ∧ p.ty = .any) :
    Reader.Valid { st with scopes := ps :: st.scopes } := by
  intro q hq
  simp only [List.flatten_cons, List.mem_append] at hq
  rcases hq with (hq | hq) | hq
  · exact hps q hq
  · exact hv q (List.mem_append_left _ hq)
  · exact hv q (List.mem_append_right _ hq)

/-- Dropping the innermost scope keeps the reader valid. -/
theorem Reader.Valid.pop {st : Reader} (hv : st.Valid) :
    Reader.Valid { st with scopes := st.scopes.drop 1 } := by
  intro q hq
  apply hv q
  simp only [List.mem_append] at hq ⊢
  rcases hq with hq | hq
  · obtain ⟨l, hl, hq⟩ := List.mem_flatten.mp hq
    exact .inl (List.mem_flatten.mpr ⟨l, List.mem_of_mem_drop hl, hq⟩)
  · exact .inr hq

theorem resolves_of_declared {s : List Param} {p : Param}
    (h : declared? s p.name = some p ∨ declared? s p.name = none) : Resolves s p := by
  intro d hd
  rcases h with h | h <;> rw [h] at hd <;> cases hd
  rfl

/-- The parameter a name refers to: one in scope or free, or else a new one,
    which joins the free parameters. -/
theorem lookupParam_sound {name : String} {p : Param} (h : lookupParam name st = .ok (p, st'))
    (hv : st.Valid) :
    p.name = name ∧ isIdentifier p.name ∧ p.ty = .any ∧ Resolves st.scopes.flatten p ∧
      st'.scopes = st.scopes ∧ st'.Valid := by
  simp only [lookupParam, readM_bind_eq_ok, get_eq] at h
  obtain ⟨_, _, hget, h⟩ := h
  cases hget
  have hdecl : declared? st.scopes.flatten name =
      st.scopes.findSome? fun sc => sc.find? (·.name == name) := List.find?_flatten
  cases hs : st.scopes.findSome? fun sc => sc.find? (·.name == name) with
  | some q =>
    rw [hs] at h hdecl
    obtain ⟨rfl, rfl⟩ := readM_pure_eq_ok.mp h
    have hname : p.name = name := by simpa using List.find?_some hdecl
    have hmem : p ∈ st'.scopes.flatten ++ st'.free :=
      List.mem_append_left _ (List.mem_of_find?_eq_some hdecl)
    exact ⟨hname, (hv p hmem).1, (hv p hmem).2, resolves_of_declared (.inl (hname ▸ hdecl)), rfl, hv⟩
  | none =>
    rw [hs] at h hdecl
    cases hf : st.free.find? (·.name == name) with
    | some q =>
      rw [hf] at h
      obtain ⟨rfl, rfl⟩ := readM_pure_eq_ok.mp h
      have hname : p.name = name := by simpa using List.find?_some hf
      have hmem : p ∈ st'.scopes.flatten ++ st'.free :=
        List.mem_append_right _ (List.mem_of_find?_eq_some hf)
      exact ⟨hname, (hv p hmem).1, (hv p hmem).2, resolves_of_declared (.inr (hname ▸ hdecl)),
        rfl, hv⟩
    | none =>
      rw [hf] at h
      simp only [readM_bind_eq_ok, modify_eq] at h
      obtain ⟨q, st₁, hq, _, _, hm, h⟩ := h
      cases hm
      obtain ⟨rfl, rfl⟩ := readM_pure_eq_ok.mp h
      obtain ⟨hid, rfl, rfl⟩ := freshParam_eq_ok.mp hq
      refine ⟨rfl, hid, rfl, resolves_of_declared (.inr hdecl), rfl, ?_⟩
      intro p hp
      simp only [List.mem_append, List.mem_singleton] at hp
      rcases hp with hp | hp | rfl
      · exact hv p (List.mem_append_left _ hp)
      · exact hv p (List.mem_append_right _ hp)
      · exact ⟨hid, rfl⟩

/-- A name that is an identifier always refers to a parameter. -/
theorem lookupParam_ok {name : String} (hid : isIdentifier name) :
    ∃ p st', lookupParam name st = .ok (p, st') := by
  simp only [lookupParam, readM_bind_eq_ok, get_eq]
  cases hs : st.scopes.findSome? fun sc => sc.find? (·.name == name) with
  | some q => exact ⟨q, st, st, st, rfl, by simp only [hs]; rfl⟩
  | none =>
    cases hf : st.free.find? (·.name == name) with
    | some q => exact ⟨q, st, st, st, rfl, by simp only [hs, hf]; rfl⟩
    | none =>
      refine ⟨⟨name, .any, st.next⟩,
        { st with next := st.next + 1, free := st.free ++ [⟨name, .any, st.next⟩] }, st, st, rfl, ?_⟩
      simp only [hs, hf, readM_bind_eq_ok, modify_eq]
      exact ⟨_, _, freshParam_eq_ok.mpr ⟨hid, rfl, rfl⟩, (), _, rfl, rfl⟩

/-- The parameters of a lambda document are new instances of its names,
    each an identifier of type `any`; the scopes and free parameters stay. -/
theorem readParams_sound {path : String} {i : Nat} {items : List Value} {ps : List Param}
    (h : readParams path i items st = .ok (ps, st')) :
    items = ps.map (fun p => .ofString p.name) ∧ (∀ p ∈ ps, isIdentifier p.name ∧ p.ty = .any) ∧
      st'.scopes = st.scopes ∧ st'.free = st.free := by
  induction items generalizing i st ps with
  | nil =>
    obtain ⟨rfl, rfl⟩ := readM_pure_eq_ok.mp h
    simp
  | cons v vs ih =>
    simp only [readParams] at h
    cases hv : asText v with
    | none => rw [hv] at h; exact absurd h failWith_ne_ok
    | some name =>
      simp only [hv, readM_bind_eq_ok] at h
      obtain ⟨p, st₁, hp, rest, st₂, hrest, h⟩ := h
      obtain ⟨rfl, rfl⟩ := readM_pure_eq_ok.mp h
      obtain ⟨hid, rfl, rfl⟩ := freshParam_eq_ok.mp hp
      obtain ⟨hitems, hps, hsc, hfr⟩ := ih hrest
      refine ⟨by rw [eq_ofString_of_asText hv hid, hitems]; rfl, ?_, hsc, hfr⟩
      intro q hq
      rcases List.mem_cons.mp hq with rfl | hq
      · exact ⟨hid, rfl⟩
      · exact hps q hq

/-- A list of identifiers always reads as parameters. -/
theorem readParams_ok {path : String} {i : Nat} {names : List String}
    (h : ∀ x ∈ names, isIdentifier x) :
    ∃ ps st', readParams path i (names.map .ofString) st = .ok (ps, st') := by
  induction names generalizing i st with
  | nil => exact ⟨[], st, rfl⟩
  | cons x xs ih =>
    obtain ⟨rest, st₂, hrest⟩ :=
      @ih { st with next := st.next + 1 } (i + 1) fun y hy => h y (List.mem_cons_of_mem _ hy)
    refine ⟨⟨x, .any, st.next⟩ :: rest, st₂, ?_⟩
    simp only [List.map_cons, readParams, asText_ofString, readM_bind_eq_ok]
    exact ⟨_, _, freshParam_eq_ok.mpr ⟨h x List.mem_cons_self, rfl, rfl⟩, rest, st₂, hrest, rfl⟩

end Steps

/-! ### Views of what was read -/

section Views

variable {n m : Node} {s : List Param}

theorem erase_eq_of_unwrap (h : n.unwrap = m.unwrap) : n.erase = m.erase := by
  rw [← erase_unwrap n, h, erase_unwrap]

theorem scoped_iff_of_unwrap (h : n.unwrap = m.unwrap) : n.Scoped s ↔ m.Scoped s := by
  rw [← scoped_unwrap n, h, scoped_unwrap]

theorem ty_eq_of_unwrap (h : n.unwrap = m.unwrap) : n.ty = m.ty := by
  rw [← ty_unwrap n, h, ty_unwrap]

theorem kind_eq_of_unwrap (h : n.unwrap = m.unwrap) : n.kind = m.kind := by
  rw [← kind_unwrap n, h, kind_unwrap]

/-- A node read at the type of its kind can be seen at type `r` exactly when
    that type is `r` or fits it. -/
theorem cast_ok_iff_readTy (hs : n.staticTy = readTy n.kind) (ht : n.ty = readTy n.kind)
    {r : Ty} : (∃ m, Build.cast {} r (some n) = .ok m) ↔
      readTy n.kind = r ∨ ({} : Catalog).compatible (readTy n.kind) r := by
  constructor
  · rintro ⟨m, h⟩
    rcases Build.cast_eq_ok.mp h with ⟨h, -⟩ | ⟨-, hc, -⟩
    · exact .inl (hs ▸ h)
    · exact .inr (ht ▸ hc)
  · intro h
    by_cases he : n.staticTy = r
    · exact ⟨n, Build.cast_eq_ok.mpr (.inl ⟨he, rfl⟩)⟩
    · have hc : ({} : Catalog).compatible n.ty r := by
        rw [ht]; exact h.resolve_left (hs ▸ he)
      exact ⟨_, Build.cast_eq_ok.mpr (.inr ⟨he, hc, rfl⟩)⟩

/-- Only a lambda cannot be seen at type `bool`. -/
theorem readTy_bool_iff (k : Kind) :
    (readTy k = .bool ∨ ({} : Catalog).compatible (readTy k) .bool) ↔ k ≠ .lambda := by
  cases k <;> decide

/-- Only parameters, literals, members and elements can be seen at type
    `[]any`. -/
theorem readTy_slice_iff (k : Kind) :
    (readTy k = .slice .any ∨ ({} : Catalog).compatible (readTy k) (.slice .any)) ↔
      k ∈ [.parameter, .value, .member, .arrayIndex] := by
  cases k <;> decide

/-- `===` accepts operands read at the types of their kinds unless it would
    compare a lambda with an operator. -/
theorem readTy_equal_iff (kl kr : Kind) :
    (({} : Catalog).kind (readTy kl) = .iface ∨ ({} : Catalog).kind (readTy kr) = .iface ∨
        readTy kl = readTy kr) ↔
      ¬ (kl = .lambda ∧ kr ∈ [.not, .equal, .and, .or]) ∧
        ¬ (kr = .lambda ∧ kl ∈ [.not, .equal, .and, .or]) := by
  cases kl <;> cases kr <;> decide

end Views

/-- The kind of a node document is the kind of the tree it denotes. -/
theorem DocOf.kind_eq {d : Value} {e : Node} {k : Kind} {a : Value} (h : DocOf d e)
    (hk : kindArg? d = some (k, a)) : e.kind = k := by
  obtain ⟨k', a', hk', ha⟩ := h
  rw [hk] at hk'
  cases hk'
  exact ha.kind_eq

/-! ### What the reader returns -/

/-- What reading a node from state `st` to `st'` gives beside its tree: the
    node reports the type of its kind, its parameters resolve in the
    enclosing lambdas, and the state keeps its scopes and stays valid. -/
structure Decoded (n : Node) (st st' : Reader) : Prop where
  ty : n.ty = readTy n.kind
  resolved : n.Scoped st.scopes.flatten
  scopes : st'.scopes = st.scopes
  valid : st'.Valid

theorem Decoded.of_unwrap {n m : Node} {st st₁ : Reader} (h : Decoded m st st₁)
    (hu : n.unwrap = m.unwrap) : Decoded n st st₁ :=
  ⟨by rw [ty_eq_of_unwrap hu, kind_eq_of_unwrap hu, h.ty], (scoped_iff_of_unwrap hu).mpr h.resolved,
    h.scopes, h.valid⟩

/-- A node of two operands read one after the other is decoded when they
    are: it reports the type of its kind and is scoped where both are. -/
theorem Decoded.pair {l r n : Node} {st st₁ st₂ : Reader} (hl : Decoded l st st₁)
    (hr : Decoded r st₁ st₂) (hty : n.ty = readTy n.kind)
    (hsc : n.Scoped st.scopes.flatten ↔ l.Scoped st.scopes.flatten ∧ r.Scoped st.scopes.flatten) :
    Decoded n st st₂ :=
  ⟨hty, hsc.mpr ⟨hl.resolved, hl.scopes ▸ hr.resolved⟩, hr.scopes.trans hl.scopes, hr.valid⟩

/-- A reader of operands is sound when what it reads is the tree the
    document denotes, no view, decoded. -/
def ReadsSound (read : Value → String → ReadM Node) : Prop :=
  ∀ d p st n st', read d p st = .ok (n, st') → st.Valid →
    DocOf d n.erase ∧ n.staticTy = n.ty ∧ Decoded n st st'

section Sound

variable {read : Value → String → ReadM Node} {d a : Value} {p path : String} {st st' : Reader}
  {n : Node}

theorem readAny_sound (hs : ReadsSound read) (h : readAny read d p st = .ok (n, st')) (hv : st.Valid) :
    DocOf d n.erase ∧ Decoded n st st' := by
  obtain ⟨m, hm, hc⟩ := readAny_eq_ok.mp h
  obtain ⟨hdoc, -, hdec⟩ := hs _ _ _ _ _ hm hv
  have hu := (cast_eq_ok_unwrap hc).1
  exact ⟨erase_eq_of_unwrap hu ▸ hdoc, hdec.of_unwrap hu⟩

theorem readBool_sound (hs : ReadsSound read) (h : readBool read d p st = .ok (n, st')) (hv : st.Valid) :
    DocOf d n.erase ∧ n.kind ≠ .lambda ∧ Decoded n st st' := by
  obtain ⟨m, hm, hc⟩ := readBool_eq_ok.mp h
  obtain ⟨hdoc, hst, hdec⟩ := hs _ _ _ _ _ hm hv
  have hu := (cast_eq_ok_unwrap hc).1
  have hk : m.kind ≠ .lambda :=
    (readTy_bool_iff _).mp ((cast_ok_iff_readTy (hst.trans hdec.ty) hdec.ty).mp ⟨n, hc⟩)
  exact ⟨erase_eq_of_unwrap hu ▸ hdoc, kind_eq_of_unwrap hu ▸ hk, hdec.of_unwrap hu⟩

theorem readKind_param_sound (h : readKind read .parameter a path st = .ok (n, st'))
    (hv : st.Valid) : ArgOf .parameter a n.erase ∧ n.staticTy = n.ty ∧ Decoded n st st' := by
  simp only [readKind] at h
  cases ha : asText a with
  | none => rw [ha] at h; exact absurd h failWith_ne_ok
  | some name =>
    simp only [ha, readM_bind_eq_ok] at h
    obtain ⟨q, st₁, hq, h⟩ := h
    obtain ⟨rfl, rfl⟩ := readM_pure_eq_ok.mp h
    obtain ⟨rfl, hid, hty, hres, hsc, hv'⟩ := lookupParam_sound hq hv
    rw [eq_ofString_of_asText ha hid]
    exact ⟨.param hid, rfl, ⟨hty, hres, hsc, hv'⟩⟩

theorem readKind_value_sound (h : readKind read .value a path st = .ok (n, st'))
    (hv : st.Valid) : ArgOf .value a n.erase ∧ n.staticTy = n.ty ∧ Decoded n st st' := by
  obtain ⟨rfl, rfl⟩ := readM_pure_eq_ok.mp h
  exact ⟨.value, rfl, ⟨rfl, trivial, rfl, hv⟩⟩

theorem readKind_member_sound (hs : ReadsSound read) (h : readKind read .member a path st = .ok (n, st'))
    (hv : st.Valid) : ArgOf .member a n.erase ∧ n.staticTy = n.ty ∧ Decoded n st st' := by
  simp only [readKind] at h
  cases hm : asMap a with
  | none => rw [hm] at h; exact absurd h failWith_ne_ok
  | some m =>
    cases hf : asText (entry m "field") with
    | none => simp only [hm, hf] at h; exact absurd h failWith_ne_ok
    | some f =>
      simp only [hm, hf, readM_bind_eq_ok, lift_eq_ok] at h
      obtain ⟨src, st₁, hsrc, hb, rfl⟩ := h
      obtain ⟨⟨k, b, hk, hb'⟩, hdec⟩ := readAny_sound hs hsrc hv
      obtain ⟨hid, -, rfl⟩ := Build.member_eq_ok.mp hb
      exact ⟨.member hm (eq_ofString_of_asText hf hid) hid hk hb', rfl,
        ⟨rfl, hdec.resolved, hdec.scopes, hdec.valid⟩⟩

theorem readKind_arrayIndex_sound (hs : ReadsSound read) (h : readKind read .arrayIndex a path st = .ok (n, st'))
    (hv : st.Valid) : ArgOf .arrayIndex a n.erase ∧ n.staticTy = n.ty ∧ Decoded n st st' := by
  simp only [readKind] at h
  cases hm : asMap a with
  | none => rw [hm] at h; exact absurd h failWith_ne_ok
  | some m =>
    cases hi : asInt (entry m "index") with
    | none => simp only [hm, hi] at h; exact absurd h failWith_ne_ok
    | some i =>
      simp only [hm, hi, readM_bind_eq_ok, lift_eq_ok] at h
      obtain ⟨src, st₁, hsrc, seq, _, ⟨hc, rfl⟩, hb, rfl⟩ := h
      obtain ⟨⟨k, b, hk, hb'⟩, hst, hdec⟩ := hs _ _ _ _ _ hsrc hv
      -- the source was seen at type `[]any`, so it is no operator and no lambda
      have hkind : k ∈ [.parameter, .value, .member, .arrayIndex] := by
        rw [← hb'.kind_eq, kind_erase]
        exact (readTy_slice_iff _).mp ((cast_ok_iff_readTy (hst.trans hdec.ty) hdec.ty).mp ⟨seq, hc⟩)
      obtain ⟨hu, hseq⟩ := cast_eq_ok_unwrap hc
      obtain ⟨h0, rfl⟩ := Build.arrayIndex_eq_ok.mp hb
      rw [hseq]
      refine ⟨?_, rfl, ⟨rfl, (scoped_iff_of_unwrap hu).mpr hdec.resolved, hdec.scopes, hdec.valid⟩⟩
      show ArgOf _ _ (.index .any seq.erase _)
      rw [erase_eq_of_unwrap hu]
      exact .arrayIndex hm (indexDoc_of_asInt hi h0) hk hb' hkind

theorem readKind_not_sound (hs : ReadsSound read) (h : readKind read .not a path st = .ok (n, st'))
    (hv : st.Valid) : ArgOf .not a n.erase ∧ n.staticTy = n.ty ∧ Decoded n st st' := by
  simp only [readKind, readM_bind_eq_ok, lift_eq_ok] at h
  obtain ⟨o, st₁, ho, hb, rfl⟩ := h
  obtain ⟨⟨k, b, hk, hb'⟩, hlam, hdec⟩ := readBool_sound hs ho hv
  rw [Build.not_eq_ok.mp hb]
  refine ⟨.not hk hb' (by rwa [← hb'.kind_eq, kind_erase]), rfl,
    ⟨rfl, hdec.resolved, hdec.scopes, hdec.valid⟩⟩

theorem readKind_equal_sound (hs : ReadsSound read) (h : readKind read .equal a path st = .ok (n, st'))
    (hv : st.Valid) : ArgOf .equal a n.erase ∧ n.staticTy = n.ty ∧ Decoded n st st' := by
  simp only [readKind] at h
  rcases hl : asList a with _ | _ | ⟨dl, _ | ⟨dr, _ | _⟩⟩
  all_goals simp only [hl] at h
  all_goals try exact absurd h failWith_ne_ok
  simp only [if_pos (show (Kind.equal == Kind.equal) = true from rfl), readM_bind_eq_ok,
    lift_eq_ok] at h
  obtain ⟨l, st₁, hl', r, st₂, hr', hb, rfl⟩ := h
  obtain ⟨⟨kl, bl, hkl, hbl⟩, hdl⟩ := readAny_sound hs hl' hv
  obtain ⟨⟨kr, br, hkr, hbr⟩, hdr⟩ := readAny_sound hs hr' hdl.valid
  obtain ⟨hcmp, rfl⟩ := Build.equal_eq_ok.mp hb
  -- the operands are read at the types of their kinds, which `===` compared
  rw [hdl.ty, hdr.ty, ← kind_erase l, ← kind_erase r, hbl.kind_eq, hbr.kind_eq] at hcmp
  obtain ⟨h₁, h₂⟩ := (readTy_equal_iff kl kr).mp hcmp
  exact ⟨.equal hl hkl hbl hkr hbr h₁ h₂, rfl, hdl.pair hdr rfl Iff.rfl⟩

theorem readKind_and_sound (hs : ReadsSound read) (h : readKind read .and a path st = .ok (n, st'))
    (hv : st.Valid) : ArgOf .and a n.erase ∧ n.staticTy = n.ty ∧ Decoded n st st' := by
  simp only [readKind] at h
  rcases hl : asList a with _ | _ | ⟨dl, _ | ⟨dr, _ | _⟩⟩
  all_goals simp only [hl] at h
  all_goals try exact absurd h failWith_ne_ok
  simp only [if_neg (show ¬ (Kind.and == Kind.equal) = true by decide),
    if_pos (show (Kind.and == Kind.and) = true from rfl), readM_bind_eq_ok, lift_eq_ok] at h
  obtain ⟨l, st₁, hl', r, st₂, hr', hb, rfl⟩ := h
  obtain ⟨⟨kl, bl, hkl, hbl⟩, hll, hdl⟩ := readBool_sound hs hl' hv
  obtain ⟨⟨kr, br, hkr, hbr⟩, hlr, hdr⟩ := readBool_sound hs hr' hdl.valid
  rw [Build.and_eq_ok.mp hb]
  rw [← kind_erase, hbl.kind_eq] at hll
  rw [← kind_erase, hbr.kind_eq] at hlr
  exact ⟨.and hl hkl hbl hkr hbr hll hlr, rfl, hdl.pair hdr rfl Iff.rfl⟩

theorem readKind_or_sound (hs : ReadsSound read) (h : readKind read .or a path st = .ok (n, st'))
    (hv : st.Valid) : ArgOf .or a n.erase ∧ n.staticTy = n.ty ∧ Decoded n st st' := by
  simp only [readKind] at h
  rcases hl : asList a with _ | _ | ⟨dl, _ | ⟨dr, _ | _⟩⟩
  all_goals simp only [hl] at h
  all_goals try exact absurd h failWith_ne_ok
  simp only [if_neg (show ¬ (Kind.or == Kind.equal) = true by decide),
    if_neg (show ¬ (Kind.or == Kind.and) = true by decide), readM_bind_eq_ok, lift_eq_ok] at h
  obtain ⟨l, st₁, hl', r, st₂, hr', hb, rfl⟩ := h
  obtain ⟨⟨kl, bl, hkl, hbl⟩, hll, hdl⟩ := readBool_sound hs hl' hv
  obtain ⟨⟨kr, br, hkr, hbr⟩, hlr, hdr⟩ := readBool_sound hs hr' hdl.valid
  rw [Build.or_eq_ok.mp hb]
  rw [← kind_erase, hbl.kind_eq] at hll
  rw [← kind_erase, hbr.kind_eq] at hlr
  exact ⟨.or hl hkl hbl hkr hbr hll hlr, rfl, hdl.pair hdr rfl Iff.rfl⟩

theorem readKind_lambda_sound (hs : ReadsSound read)
    (h : readKind read .lambda a path st = .ok (n, st')) (hv : st.Valid) :
    ArgOf .lambda a n.erase ∧ n.staticTy = n.ty ∧ Decoded n st st' := by
  simp only [readKind] at h
  cases hm : asMap a with
  | none => rw [hm] at h; exact absurd h failWith_ne_ok
  | some m =>
    cases hi : asList (entry m "params") with
    | none => simp only [hm, hi] at h; exact absurd h failWith_ne_ok
    | some items =>
      simp only [hm, hi, readM_bind_eq_ok, modify_eq, lift_eq_ok] at h
      obtain ⟨ps, st₁, hps, _, _, hm₁, b, st₃, hb, _, _, hm₂, hl, rfl⟩ := h
      cases hm₁
      cases hm₂
      obtain ⟨rfl, hpsv, hsc₁, hfr₁⟩ := readParams_sound hps
      -- the body is read with the new parameters as the innermost scope
      have hv₂ : Reader.Valid { st₁ with scopes := ps.reverse :: st₁.scopes } :=
        (hv.of_eq hsc₁ hfr₁).push fun q hq => hpsv q (List.mem_reverse.mp hq)
      obtain ⟨⟨k, bb, hk, hbb⟩, hdb⟩ := readAny_sound hs hb hv₂
      have hbs : b.Scoped (ps.reverse ++ st.scopes.flatten) := by
        simpa [hsc₁] using hdb.resolved
      obtain ⟨hne, hnd, -, rfl⟩ := Build.lambda_eq_ok.mp hl
      have hsc₃ : st₃.scopes.drop 1 = st.scopes := by rw [hdb.scopes, hsc₁]; rfl
      refine ⟨?_, rfl, ⟨rfl, hbs, hsc₃, hdb.valid.pop⟩⟩
      have hnames : ps.map Param.erase = (ps.map (·.name)).map fun x => ⟨x, .any, 0⟩ := by
        simp [Function.comp_def, Param.erase]
      show ArgOf _ _ (.lambda .any (ps.map Param.erase) b.erase)
      rw [hnames]
      exact .lambda hm (by rw [hi, List.map_map]; rfl) (by simpa using hne) hnd
        (fun x hx => by obtain ⟨q, hq, rfl⟩ := List.mem_map.mp hx; exact (hpsv q hq).1) hk hbb

/-- What a node reads as, kind by kind. -/
theorem readKind_sound (hs : ReadsSound read) {k : Kind}
    (h : readKind read k a path st = .ok (n, st')) (hv : st.Valid) :
    ArgOf k a n.erase ∧ n.staticTy = n.ty ∧ Decoded n st st' := by
  cases k with
  | parameter => exact readKind_param_sound h hv
  | value => exact readKind_value_sound h hv
  | member => exact readKind_member_sound hs h hv
  | arrayIndex => exact readKind_arrayIndex_sound hs h hv
  | not => exact readKind_not_sound hs h hv
  | equal => exact readKind_equal_sound hs h hv
  | and => exact readKind_and_sound hs h hv
  | or => exact readKind_or_sound hs h hv
  | lambda => exact readKind_lambda_sound hs h hv

end Sound

/-- Reading is sound at every depth: it returns the tree the document
    denotes, decoded. -/
theorem readNode_sound (fuel : Nat) : ReadsSound (readNode fuel) := by
  induction fuel with
  | zero => intro d p st n st' h; simp only [readNode] at h; exact absurd h failWith_ne_ok
  | succ fuel ih =>
    intro d p st n st' h hv
    obtain ⟨k, a, hk, h⟩ := readNode_succ_eq_ok.mp h
    obtain ⟨ha, hst, hdec⟩ := readKind_sound ih h hv
    exact ⟨⟨k, a, hk, ha⟩, hst, hdec⟩

/-! ### What the reader accepts -/

theorem checkMember_any (c : Catalog) (f : String) (m : Ty) : c.checkMember .any f m = .ok () := by
  rw [Catalog.checkMember, Catalog.derefTy, Catalog.derefFrom.eq_1]
  simp [Ty.underPtrs, Catalog.kind, Catalog.underlying]

/-- A document a reader accepts at every path, from every valid state. -/
def ReadsAll (read : Value → String → ReadM Node) (d : Value) : Prop :=
  ∀ p st, st.Valid → ∃ n st', read d p st = .ok (n, st')

section Complete

variable {read : Value → String → ReadM Node} {d a : Value} {p path : String} {st : Reader}

theorem readAny_ok (hd : ReadsAll read d) (hv : st.Valid) :
    ∃ n st', readAny read d p st = .ok (n, st') := by
  obtain ⟨m, st', hm⟩ := hd p st hv
  obtain ⟨n, hc⟩ := cast_any_ok {} m
  exact ⟨n, st', readAny_eq_ok.mpr ⟨m, hm, hc⟩⟩

theorem readBool_ok (hs : ReadsSound read) (hd : ReadsAll read d) {k : Kind} {b : Value}
    (hk : kindArg? d = some (k, b)) (hl : k ≠ .lambda) (hv : st.Valid) :
    ∃ n st', readBool read d p st = .ok (n, st') := by
  obtain ⟨m, st', hm⟩ := hd p st hv
  obtain ⟨hdoc, hst, hdec⟩ := hs _ _ _ _ _ hm hv
  have hkind : m.kind = k := by rw [← kind_erase]; exact hdoc.kind_eq hk
  obtain ⟨n, hc⟩ := (cast_ok_iff_readTy (hst.trans hdec.ty) hdec.ty).mpr
    ((readTy_bool_iff _).mpr (hkind ▸ hl))
  exact ⟨n, st', readBool_eq_ok.mpr ⟨m, hm, hc⟩⟩

theorem readKind_param_ok {name : String} (hid : isIdentifier name) :
    ∃ n st', readKind read .parameter (.ofString name) path st = .ok (n, st') := by
  obtain ⟨q, st', hq⟩ : ∃ q st', lookupParam name st = .ok (q, st') := lookupParam_ok hid
  refine ⟨.param q, st', ?_⟩
  simp only [readKind, asText_ofString, readM_bind_eq_ok]
  exact ⟨q, st', hq, rfl⟩

theorem readKind_member_ok {m : List (String × Value)} {f : String} (hm : asMap a = some m)
    (hf : entry m "field" = .ofString f) (hid : isIdentifier f)
    (hsrc : ReadsAll read (entry m "source")) (hv : st.Valid) :
    ∃ n st', readKind read .member a path st = .ok (n, st') := by
  obtain ⟨src, st', hsrc'⟩ := readAny_ok (p := path ++ ".source") hsrc hv
  obtain ⟨m₀, -, hc⟩ := readAny_eq_ok.mp hsrc'
  refine ⟨.member .any src f, st', ?_⟩
  simp only [readKind, hm, hf, asText_ofString, readM_bind_eq_ok, lift_eq_ok]
  refine ⟨src, st', hsrc', Build.member_eq_ok.mpr ⟨hid, ?_, rfl⟩, rfl⟩
  rw [(cast_eq_ok_unwrap hc).2]
  exact checkMember_any _ _ _

theorem readKind_arrayIndex_ok (hs : ReadsSound read) {m : List (String × Value)} {i : Nat}
    {k : Kind} {b : Value} (hm : asMap a = some m) (hi : IndexDoc (entry m "index") i)
    (hk : kindArg? (entry m "source") = some (k, b))
    (hkl : k ∈ [.parameter, .value, .member, .arrayIndex])
    (hsrc : ReadsAll read (entry m "source")) (hv : st.Valid) :
    ∃ n st', readKind read .arrayIndex a path st = .ok (n, st') := by
  obtain ⟨src, st', hsrc'⟩ := hsrc (path ++ ".source") st hv
  obtain ⟨hdoc, hst, hdec⟩ := hs _ _ _ _ _ hsrc' hv
  have hkind : src.kind = k := by rw [← kind_erase]; exact hdoc.kind_eq hk
  obtain ⟨seq, hc⟩ := (cast_ok_iff_readTy (hst.trans hdec.ty) hdec.ty).mpr
    ((readTy_slice_iff _).mpr (hkind ▸ hkl))
  refine ⟨.index (Build.elemTy seq.staticTy) seq i, st', ?_⟩
  simp only [readKind, hm, hi.asInt_eq, readM_bind_eq_ok, lift_eq_ok]
  exact ⟨src, st', hsrc', seq, st', ⟨hc, rfl⟩, Build.arrayIndex_eq_ok.mpr ⟨by omega, rfl⟩, rfl⟩

theorem readKind_not_ok (hs : ReadsSound read) {k : Kind} {b : Value}
    (hk : kindArg? a = some (k, b)) (hl : k ≠ .lambda) (ha : ReadsAll read a) (hv : st.Valid) :
    ∃ n st', readKind read .not a path st = .ok (n, st') := by
  obtain ⟨o, st', ho⟩ := readBool_ok (p := path) hs ha hk hl hv
  refine ⟨.not o, st', ?_⟩
  simp only [readKind, readM_bind_eq_ok, lift_eq_ok]
  exact ⟨o, st', ho, Build.not_eq_ok.mpr rfl, rfl⟩

theorem readKind_equal_ok (hs : ReadsSound read) {dl dr bl br : Value} {kl kr : Kind}
    (hl : asList a = some [dl, dr]) (hkl : kindArg? dl = some (kl, bl))
    (hkr : kindArg? dr = some (kr, br)) (h₁ : ¬ (kl = .lambda ∧ kr ∈ [.not, .equal, .and, .or]))
    (h₂ : ¬ (kr = .lambda ∧ kl ∈ [.not, .equal, .and, .or])) (hdl : ReadsAll read dl)
    (hdr : ReadsAll read dr) (hv : st.Valid) :
    ∃ n st', readKind read .equal a path st = .ok (n, st') := by
  obtain ⟨l, st₁, hl'⟩ := readAny_ok (p := path ++ "[0]") hdl hv
  obtain ⟨hdocl, hdecl⟩ := readAny_sound hs hl' hv
  obtain ⟨r, st₂, hr'⟩ := readAny_ok (p := path ++ "[1]") hdr hdecl.valid
  obtain ⟨hdocr, hdecr⟩ := readAny_sound hs hr' hdecl.valid
  -- the operands report the types of their kinds, which `===` accepts
  have hcmp := (readTy_equal_iff kl kr).mpr ⟨h₁, h₂⟩
  rw [← hdocl.kind_eq hkl, ← hdocr.kind_eq hkr, kind_erase, kind_erase, ← hdecl.ty,
    ← hdecr.ty] at hcmp
  refine ⟨.equal l r, st₂, ?_⟩
  simp only [readKind, hl, if_pos (show (Kind.equal == Kind.equal) = true from rfl),
    readM_bind_eq_ok, lift_eq_ok]
  exact ⟨l, st₁, hl', r, st₂, hr', Build.equal_eq_ok.mpr ⟨hcmp, rfl⟩, rfl⟩

theorem readKind_and_ok (hs : ReadsSound read) {dl dr bl br : Value} {kl kr : Kind}
    (hl : asList a = some [dl, dr]) (hkl : kindArg? dl = some (kl, bl))
    (hkr : kindArg? dr = some (kr, br)) (h₁ : kl ≠ .lambda) (h₂ : kr ≠ .lambda)
    (hdl : ReadsAll read dl) (hdr : ReadsAll read dr) (hv : st.Valid) :
    ∃ n st', readKind read .and a path st = .ok (n, st') := by
  obtain ⟨l, st₁, hl'⟩ := readBool_ok (p := path ++ "[0]") hs hdl hkl h₁ hv
  obtain ⟨r, st₂, hr'⟩ := readBool_ok (p := path ++ "[1]") hs hdr hkr h₂
    (readBool_sound hs hl' hv).2.2.valid
  refine ⟨.and l r, st₂, ?_⟩
  simp only [readKind, hl, if_neg (show ¬ (Kind.and == Kind.equal) = true by decide),
    if_pos (show (Kind.and == Kind.and) = true from rfl), readM_bind_eq_ok, lift_eq_ok]
  exact ⟨l, st₁, hl', r, st₂, hr', Build.and_eq_ok.mpr rfl, rfl⟩

theorem readKind_or_ok (hs : ReadsSound read) {dl dr bl br : Value} {kl kr : Kind}
    (hl : asList a = some [dl, dr]) (hkl : kindArg? dl = some (kl, bl))
    (hkr : kindArg? dr = some (kr, br)) (h₁ : kl ≠ .lambda) (h₂ : kr ≠ .lambda)
    (hdl : ReadsAll read dl) (hdr : ReadsAll read dr) (hv : st.Valid) :
    ∃ n st', readKind read .or a path st = .ok (n, st') := by
  obtain ⟨l, st₁, hl'⟩ := readBool_ok (p := path ++ "[0]") hs hdl hkl h₁ hv
  obtain ⟨r, st₂, hr'⟩ := readBool_ok (p := path ++ "[1]") hs hdr hkr h₂
    (readBool_sound hs hl' hv).2.2.valid
  refine ⟨.or l r, st₂, ?_⟩
  simp only [readKind, hl, if_neg (show ¬ (Kind.or == Kind.equal) = true by decide),
    if_neg (show ¬ (Kind.or == Kind.and) = true by decide), readM_bind_eq_ok, lift_eq_ok]
  exact ⟨l, st₁, hl', r, st₂, hr', Build.or_eq_ok.mpr rfl, rfl⟩

theorem readKind_lambda_ok (hs : ReadsSound read) {m : List (String × Value)}
    {names : List String} (hm : asMap a = some m)
    (hi : asList (entry m "params") = some (names.map .ofString)) (hne : names ≠ [])
    (hnd : names.Nodup) (hids : ∀ x ∈ names, isIdentifier x)
    (hbody : ReadsAll read (entry m "body")) (hv : st.Valid) :
    ∃ n st', readKind read .lambda a path st = .ok (n, st') := by
  obtain ⟨ps, st₁, hps⟩ : ∃ ps st₁, readParams path 0 (names.map .ofString) st = .ok (ps, st₁) :=
    readParams_ok hids
  obtain ⟨hitems, hpsv, hsc₁, hfr₁⟩ := readParams_sound hps
  have hnames : names = ps.map (·.name) := by
    rw [← List.map_inj_right fun _ _ => @ofString_injective _ _, hitems,
      List.map_map]
    rfl
  subst hnames
  have hv₂ : Reader.Valid { st₁ with scopes := ps.reverse :: st₁.scopes } :=
    (hv.of_eq hsc₁ hfr₁).push fun q hq => hpsv q (List.mem_reverse.mp hq)
  obtain ⟨b, st₃, hb⟩ := readAny_ok (p := path ++ ".body") hbody hv₂
  have hbs : b.Scoped (ps.reverse ++ st.scopes.flatten) := by
    simpa [hsc₁] using (readAny_sound hs hb hv₂).2.resolved
  -- the body resolves its parameters in the enclosing scopes, the lambda's first
  have hres : (resolve false ps.reverse b).2 = none := by
    refine (resolve_snd_eq_none_iff false _ _).mpr ⟨hbs.mono fun x q hq => ?_, nofun⟩
    rw [declared?_append, hq]
    rfl
  refine ⟨.lambda .any ps b, { st₃ with scopes := st₃.scopes.drop 1 }, ?_⟩
  simp only [readKind, hm, hi, readM_bind_eq_ok, modify_eq, lift_eq_ok]
  exact ⟨ps, st₁, hps, (), _, rfl, b, st₃, hb, (), _, rfl,
    Build.lambda_eq_ok.mpr ⟨by simpa using hne, hnd, hres, rfl⟩, rfl⟩

end Complete


/-- A node document is read one level up when its argument is read at every
    depth beyond its size. -/
theorem readNode_ok_of_kindArg {d b : Value} {k : Kind} {fuel : Nat}
    (hk : kindArg? d = some (k, b))
    (ih : ∀ {fuel}, b.size < fuel → ∀ path {st : Reader}, st.Valid →
      ∃ n st', readKind (readNode fuel) k b path st = .ok (n, st'))
    (hsz : d.size < fuel) : ReadsAll (readNode fuel) d := by
  intro p st hv
  obtain ⟨f, rfl⟩ : ∃ f, fuel = f + 1 := ⟨fuel - 1, by have := size_pos d; omega⟩
  obtain ⟨n, st', h⟩ := @ih f (by have := size_lt_of_kindArg hk; omega) (p ++ "." ++ k.key) st hv
  exact ⟨n, st', readNode_succ_eq_ok.mpr ⟨k, b, hk, h⟩⟩

/-- The reader accepts every node document, given fuel beyond its size. -/
theorem ArgOf.readKind_ok {k : Kind} {a : Value} {e : Node} (h : ArgOf k a e) {fuel : Nat}
    (hsz : a.size < fuel) (path : String) {st : Reader} (hv : st.Valid) :
    ∃ n st', readKind (readNode fuel) k a path st = .ok (n, st') := by
  -- each operand is smaller than the argument, so the fuel left reads it
  induction h generalizing fuel path st with
  | param hid => exact readKind_param_ok hid
  | value => exact ⟨_, _, rfl⟩
  | member hm hf hid hk _ ih =>
    have := size_entry_le hm "source"
    exact readKind_member_ok hm hf hid (readNode_ok_of_kindArg hk ih (by omega)) hv
  | arrayIndex hm hi hk _ hkl ih =>
    have := size_entry_le hm "source"
    exact readKind_arrayIndex_ok (readNode_sound _) hm hi hk hkl
      (readNode_ok_of_kindArg hk ih (by omega)) hv
  | not hk _ hl ih =>
    exact readKind_not_ok (readNode_sound _) hk hl (readNode_ok_of_kindArg hk ih hsz) hv
  | equal hl hkl _ hkr _ h₁ h₂ ihl ihr =>
    have := size_lt_of_asList hl (List.mem_cons_self)
    have := size_lt_of_asList hl (List.mem_cons_of_mem _ List.mem_cons_self)
    exact readKind_equal_ok (readNode_sound _) hl hkl hkr h₁ h₂
      (readNode_ok_of_kindArg hkl ihl (by omega)) (readNode_ok_of_kindArg hkr ihr (by omega)) hv
  | and hl hkl _ hkr _ h₁ h₂ ihl ihr =>
    have := size_lt_of_asList hl (List.mem_cons_self)
    have := size_lt_of_asList hl (List.mem_cons_of_mem _ List.mem_cons_self)
    exact readKind_and_ok (readNode_sound _) hl hkl hkr h₁ h₂
      (readNode_ok_of_kindArg hkl ihl (by omega)) (readNode_ok_of_kindArg hkr ihr (by omega)) hv
  | or hl hkl _ hkr _ h₁ h₂ ihl ihr =>
    have := size_lt_of_asList hl (List.mem_cons_self)
    have := size_lt_of_asList hl (List.mem_cons_of_mem _ List.mem_cons_self)
    exact readKind_or_ok (readNode_sound _) hl hkl hkr h₁ h₂
      (readNode_ok_of_kindArg hkl ihl (by omega)) (readNode_ok_of_kindArg hkr ihr (by omega)) hv
  | lambda hm hi hne hnd hids hk _ ih =>
    have := size_entry_le hm "body"
    exact readKind_lambda_ok (readNode_sound _) hm hi hne hnd hids
      (readNode_ok_of_kindArg hk ih (by omega)) hv

/-! ### One tree per document -/

/-- An argument of a kind denotes at most one tree. -/
theorem ArgOf.unique {k : Kind} {a : Value} {e e' : Node} (h : ArgOf k a e) (h' : ArgOf k a e') :
    e = e' := by
  induction h generalizing e' with
  | @param name _ =>
    -- the index is a string's bytes, which `cases` cannot match against each other
    generalize hv : Value.ofString name = v at h'
    cases h' with
    | param => rw [ofString_injective hv]
  | value => cases h'; rfl
  | member hm hf _ hk _ ih =>
    cases h' with
    | member hm' hf' _ hk' hb' =>
      rw [hm] at hm'; cases hm'
      rw [hf] at hf'; obtain rfl := ofString_injective hf'
      rw [hk] at hk'; cases hk'
      rw [ih hb']
  | arrayIndex hm hi hk _ _ ih =>
    cases h' with
    | arrayIndex hm' hi' hk' hb' =>
      rw [hm] at hm'; cases hm'
      rw [hk] at hk'; cases hk'
      have hii := hi.asInt_eq.symm.trans hi'.asInt_eq
      simp only [Option.some.injEq, Int.natCast_inj] at hii
      rw [ih hb', hii]
  | not hk _ _ ih =>
    cases h' with
    | not hk' hb' =>
      rw [hk] at hk'; cases hk'
      rw [ih hb']
  | equal hl hkl _ hkr _ _ _ ihl ihr =>
    cases h' with
    | equal hl' hkl' hbl' hkr' hbr' =>
      rw [hl] at hl'; cases hl'
      rw [hkl] at hkl'; cases hkl'
      rw [hkr] at hkr'; cases hkr'
      rw [ihl hbl', ihr hbr']
  | and hl hkl _ hkr _ _ _ ihl ihr =>
    cases h' with
    | and hl' hkl' hbl' hkr' hbr' =>
      rw [hl] at hl'; cases hl'
      rw [hkl] at hkl'; cases hkl'
      rw [hkr] at hkr'; cases hkr'
      rw [ihl hbl', ihr hbr']
  | or hl hkl _ hkr _ _ _ ihl ihr =>
    cases h' with
    | or hl' hkl' hbl' hkr' hbr' =>
      rw [hl] at hl'; cases hl'
      rw [hkl] at hkl'; cases hkl'
      rw [hkr] at hkr'; cases hkr'
      rw [ihl hbl', ihr hbr']
  | lambda hm hi _ _ _ hk _ ih =>
    cases h' with
    | lambda hm' hi' _ _ _ hk' hb' =>
      rw [hm] at hm'; cases hm'
      rw [hk] at hk'; cases hk'
      rw [hi, Option.some.injEq, List.map_inj_right fun _ _ => @ofString_injective _ _] at hi'
      rw [hi', ih hb']

/-- A document denotes at most one tree. -/
theorem DocOf.unique {d : Value} {e e' : Node} (h : DocOf d e) (h' : DocOf d e') : e = e' := by
  obtain ⟨k, a, hk, ha⟩ := h
  obtain ⟨k', a', hk', ha'⟩ := h'
  rw [hk] at hk'
  cases hk'
  exact ha.unique ha'

/-! ### Documents the reader accepts -/

theorem Reader.valid_empty : Reader.Valid {} := by
  intro p hp
  simp at hp

/-- A tree read from a document is, erased, the tree the document denotes. -/
theorem fromDoc_sound {d : Value} {m : Node} (h : fromDoc d = .ok m) : DocOf d m.erase := by
  cases hr : readNode (d.size + 1) d "$" {} with
  | error f => simp [fromDoc, StateT.run, hr, Except.map] at h
  | ok r =>
    simp only [fromDoc, StateT.run, hr, Except.map, Except.ok.injEq] at h
    exact h ▸ (readNode_sound _ d "$" {} r.1 r.2 hr Reader.valid_empty).1

/-- Every node document is read. -/
theorem fromDoc_complete {d : Value} {e : Node} (h : DocOf d e) : ∃ m, fromDoc d = .ok m := by
  obtain ⟨k, a, hk, ha⟩ := h
  obtain ⟨n, st', hr⟩ := readNode_ok_of_kindArg hk ha.readKind_ok (Nat.lt_succ_self _) "$" {}
    Reader.valid_empty
  exact ⟨n, by simp [fromDoc, StateT.run, hr, Except.map]⟩

/-- The reader accepts exactly the node documents: a mapping of one key
    naming a kind in any case, with the argument that kind asks for, down to
    every operand. -/
theorem fromDoc_ok_iff (d : Value) : (∃ m, fromDoc d = .ok m) ↔ ∃ e, DocOf d e :=
  ⟨fun ⟨_, h⟩ => ⟨_, fromDoc_sound h⟩, fun ⟨_, h⟩ => fromDoc_complete h⟩

end Node

end ExprTree
