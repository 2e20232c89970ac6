import ExprTree.Proofs.ErrorObjects

/-!
# Errors derived from a root

An error object is derived from another by a sequence of calls
(`Heap.Call`), each made on the error the one before it made: one adds
attributes after the object's own (`Heap.withAttrs`), the other gives it a
new cause, or none (`Heap.wrap`). `Heap.derive` makes the calls in turn.

A call makes one object, whose base is the root of its receiver: so every
object a derivation makes points at the root of the error it started from,
never at an error made on the way, and the derived error keeps the message,
takes the cause of the last call that gave one and the attributes of all
calls in order (`Heap.Derived`, from the step lemma `Heap.Wf.call_derived`).
No call writes what was made before it, so each error made on the way reads
the same ever after.

* `Heap.derive_newError`: all of this for a derivation from a new root `S`
  of a message: its root is `S`, it passes its own test of exactly the
  objects of root `S`, the test against `S` holds and the test against any
  other root holds only through its cause; its text, attributes and log
  value; and the frame of every error made on the way.
* `Heap.text_wrap_empty_message`: a root of the empty message, given a
  cause, reads as the cause's text alone, with no separator before it.
-/

namespace ExprTree

namespace Heap

/-- A call that derives an error object from another. -/
inductive Call where
  /-- More attributes, after the object's own. -/
  | withAttrs (more : List Attr)
  /-- A new cause, none for a nil one. -/
  | wrap (cause : Option Nat)

namespace Call

/-- The attributes that calls add, in order. -/
def added : List Call → List Attr
  | [] => []
  | withAttrs more :: ks => more ++ added ks
  | wrap _ :: ks => added ks

/-- The cause after calls, from the cause `c` before them: the one given by
    the last call that gives one. -/
def lastCause (c : Option Nat) : List Call → Option Nat
  | [] => c
  | withAttrs _ :: ks => lastCause c ks
  | wrap c' :: ks => lastCause c' ks

/-- Whether a call can be made on a heap: a cause it gives is an error of
    the heap. -/
def fits (h : Heap) : Call → Bool
  | withAttrs _ => true
  | wrap c => c.all (· < h.objs.length)

theorem added_cons (k : Call) (ks : List Call) : added (k :: ks) = added [k] ++ added ks := by
  cases k <;> simp [added]

theorem lastCause_cons (c : Option Nat) (k : Call) (ks : List Call) :
    lastCause c (k :: ks) = lastCause (lastCause c [k]) ks := by
  cases k <;> rfl

end Call

/-- The error object a call makes from `e`. -/
def call (h : Heap) (e : Nat) : Call → Heap × Nat
  | .withAttrs more => h.withAttrs e more
  | .wrap c => h.wrap e c

/-- The error objects calls make, each from the one before, from `e`. -/
def derive (h : Heap) (e : Nat) : List Call → Heap × Nat
  | [] => (h, e)
  | k :: ks => (h.call e k).1.derive (h.call e k).2 ks

/-- Whether each call can be made on the heap of its turn. -/
def admits (h : Heap) (e : Nat) : List Call → Bool
  | [] => true
  | k :: ks => k.fits h && (h.call e k).1.admits (h.call e k).2 ks

theorem derive_append (h : Heap) (e : Nat) (xs ys : List Call) :
    h.derive e (xs ++ ys) = (h.derive e xs).1.derive (h.derive e xs).2 ys := by
  induction xs generalizing h e with
  | nil => rfl
  | cons k ks ih => exact ih _ _

theorem admits_append (h : Heap) (e : Nat) (xs ys : List Call) :
    h.admits e (xs ++ ys) = (h.admits e xs && (h.derive e xs).1.admits (h.derive e xs).2 ys) := by
  induction xs generalizing h e with
  | nil => simp [admits, derive]
  | cons k ks ih => simp [admits, derive, ih, Bool.and_assoc]

variable {h h' h₁ : Heap} {e e' e₁ : Nat} {r r₁ : Record} {k : Call} {ks : List Call}

/-- What calls `ks` made from the error object `e` of `h`, of record `r`,
    leave: a heap `h'` that keeps the invariant and extends `h`, whose new
    objects are all error objects based at the root of `e`, and an error
    `e'` of that root, of the message of `e`, of the last cause given and of
    the attributes of `e` followed by those the calls added. -/
structure Derived (h : Heap) (e : Nat) (r : Record) (ks : List Call) (h' : Heap) (e' : Nat) :
    Prop where
  wf : h'.Wf
  ext : h.Extends h'
  based : ∀ a, h.objs.length ≤ a → a < h'.objs.length →
    ∃ r', h'.record? a = some r' ∧ r'.base = some (h.root e)
  record : ∃ r', h'.record? e' = some r' ∧ r'.msg = r.msg ∧
    r'.err = Call.lastCause r.err ks ∧ h'.read r'.attrs = h.read r.attrs ++ Call.added ks
  root : h'.root e' = h.root e

/-- No call is a derivation of nothing. -/
theorem Wf.derived_nil (hw : h.Wf) (he : h.record? e = some r) : Derived h e r [] h e where
  wf := hw
  ext := Extends.refl h
  based _ hle hlt := absurd hlt (Nat.not_lt.2 hle)
  record := ⟨r, he, rfl, rfl, by simp [Call.added]⟩
  root := rfl

/-- One call makes one object, at the first free address: the derived error. -/
theorem Wf.call_derived (hw : h.Wf) (he : h.record? e = some r) (hk : k.fits h = true) :
    Derived h e r [k] (h.call e k).1 (h.call e k).2 := by
  -- the new object, of base the root of `e`, and the heap around it
  have hnew : ∀ {h₀ : Heap} {r' : Record}, h.objs.length = h₀.objs.length →
      h.Extends h₀ → h₀.Wf → r'.base = some (h.root e) → r'.msg = r.msg →
      r'.err = Call.lastCause r.err [k] →
      (h₀.alloc (.record r')).1.read r'.attrs = h.read r.attrs ++ Call.added [k] →
      (h₀.alloc (.record r')).1.Wf →
      Derived h e r [k] (h₀.alloc (.record r')).1 (h₀.alloc (.record r')).2 := by
    intro h₀ r' hlen hx₀ _ hbase hmsg herr hread hw'
    have hself : (h₀.alloc (.record r')).1.record? h₀.objs.length = some r' := by
      simp [record?]
    refine ⟨hw', hx₀.trans (alloc_extends _ _), ?_, ⟨r', hself, hmsg, herr, hread⟩, ?_⟩
    · intro a hle hlt
      have ha : a = h₀.objs.length := by simp [alloc] at hlt; omega
      exact ⟨r', ha ▸ hself, hbase⟩
    · simp [root, hself, hbase, alloc_snd]
  cases k with
  | withAttrs more =>
    simp only [call]
    rw [withAttrs_eq hw he]
    have hx := push_extends h (h.read r.attrs ++ more)
    refine hnew rfl hx (hw.push _) rfl rfl rfl ?_
      (by rw [← withAttrs_eq hw he]; exact hw.withAttrs he more)
    -- the new slice is all of the new array
    have hall := read_push_all h (h.read r.attrs ++ more)
    rw [List.length_append, (hw.slice e r he).length_read] at hall
    rw [read_alloc, hall]
    simp [Call.added]
  | wrap c =>
    simp only [call]
    have hc : ∀ a, c = some a → a < h.objs.length := by
      intro a hca
      simpa [Call.fits, hca] using hk
    rw [wrap_eq he]
    refine hnew rfl (Extends.refl h) hw rfl rfl rfl ?_ (by rw [← wrap_eq he]; exact hw.wrap he hc)
    rw [(alloc_extends h _).read_eq fun _ hi => (hw.slice e r he).lt hi]
    simp [Call.added]

/-- A derivation followed by more calls from the error it made. -/
theorem Derived.append (hd : Derived h e r [k] h₁ e₁)
    (hmsg : r₁.msg = r.msg) (herr : r₁.err = Call.lastCause r.err [k])
    (hread : h₁.read r₁.attrs = h.read r.attrs ++ Call.added [k])
    (hrest : Derived h₁ e₁ r₁ ks h' e') : Derived h e r (k :: ks) h' e' where
  wf := hrest.wf
  ext := hd.ext.trans hrest.ext
  based a hle hlt := by
    rcases Nat.lt_or_ge a h₁.objs.length with ha | ha
    · obtain ⟨r', hr', hbase⟩ := hd.based a hle ha
      exact ⟨r', by rw [hrest.ext.record?_eq ha]; exact hr', hbase⟩
    · rw [← hd.root]
      exact hrest.based a ha hlt
  record := by
    obtain ⟨r', hr', hmsg', herr', hread'⟩ := hrest.record
    refine ⟨r', hr', hmsg'.trans hmsg, ?_, ?_⟩
    · rw [herr', herr, ← Call.lastCause_cons]
    · rw [hread', hread, List.append_assoc, ← Call.added_cons]
  root := hrest.root.trans hd.root

/-- The run lemma: calls that can each be made derive an error as
    `Heap.Derived` says. -/
theorem Wf.derive_derived (hw : h.Wf) (he : h.record? e = some r) (hk : h.admits e ks = true) :
    Derived h e r ks (h.derive e ks).1 (h.derive e ks).2 := by
  induction ks generalizing h e r with
  | nil => exact hw.derived_nil he
  | cons k ks ih =>
    simp only [admits, Bool.and_eq_true] at hk
    have hstep := hw.call_derived he hk.1
    obtain ⟨r₁, hr₁, hmsg, herr, hread⟩ := hstep.record
    exact hstep.append hmsg herr hread (ih hstep.wf hr₁ hk.2)

/-! ### The derived error, read -/

section Read

variable {S t : Nat}

/-- An object passes its own test of a target only when the two share their
    root. -/
theorem root_eq_of_ownIs (ht : h.ownIs e t = true) : h.root t = h.root e := by
  unfold ownIs at ht
  split at ht
  · simp only [Bool.or_eq_true, beq_iff_eq] at ht
    rcases ht with rfl | hroots
    · rfl
    · exact hroots.symm
  · simp at ht

/-- An error object of root `S` passes its own test of exactly the objects of
    root `S`. -/
theorem ownIs_iff (he : h.record? e = some r) (hS : h.IsRoot S) (hroot : h.root e = S) (t : Nat) :
    h.ownIs e t = true ↔ h.root t = S := by
  refine ⟨fun ht => (root_eq_of_ownIs ht).trans hroot, fun ht => ?_⟩
  -- the target is `S` or based at it: an error object either way
  obtain ⟨rt, hrt⟩ : ∃ rt, h.record? t = some rt := by
    cases hrt : h.record? t with
    | some rt => exact ⟨rt, rfl⟩
    | none =>
      obtain ⟨rS, hrS, -⟩ := hS
      have htS : t = S := by simpa [root, hrt] using ht
      rw [htS, hrS] at hrt
      cases hrt
  simp [ownIs, he, hrt, hroot, ht]

/-- An error object of root `S` passes the test against `S`. -/
theorem is_root (hw : h.Wf) (he : h.record? e = some r) (hS : h.IsRoot S) (hroot : h.root e = S) :
    h.is e S = true := by
  rw [hw.is_chain]
  simp [(ownIs_iff he hS hroot S).2 hS.root_eq]

/-- An error object of root `S` passes the test against another root only
    through the error it wraps. -/
theorem is_other_root (hw : h.Wf) (he : h.record? e = some r) (hroot : h.root e = S)
    (ht : h.IsRoot t) (htS : t ≠ S) :
    h.is e t = (r.err.map (h.is · t)).getD false := by
  -- `e` is not `t` and shares no root with it: only its cause can pass
  have hne : (e == t) = false := by
    rw [beq_eq_false_iff_ne]
    rintro rfl
    exact htS (ht.root_eq.symm.trans hroot)
  have hown : h.ownIs e t = false := Bool.eq_false_iff.2 fun hb =>
    htS (ht.root_eq.symm.trans ((root_eq_of_ownIs hb).trans hroot))
  rw [hw.is_chain, hne, hown, unwrap_of_record he]
  simp

end Read

/-- The text of a derived error: the message, joined by `": "` to the text of
    the last cause given, that text alone for the empty message. -/
theorem Derived.text_eq (hd : Derived h e r ks h' e') :
    h'.text e' =
      ((Call.lastCause r.err ks).map fun c =>
        if r.msg.isEmpty then h'.text c else r.msg ++ ": " ++ h'.text c).getD r.msg := by
  obtain ⟨r', hr', hmsg, herr, -⟩ := hd.record
  rw [hd.wf.text_of_record hr', hmsg, herr]

theorem Derived.attrs_eq (hd : Derived h e r ks h' e') :
    h'.attrs e' = h.read r.attrs ++ Call.added ks := by
  obtain ⟨r', hr', -, -, hread⟩ := hd.record
  simp [attrs, hr', hread]

theorem Derived.logValue_eq (hd : Derived h e r ks h' e') :
    h'.logValue e' = .group ((if r.msg.isEmpty then [] else [Attr.str "error" r.msg]) ++
      ((Call.lastCause r.err ks).map fun c => [Attr.str "cause" (h'.text c)]).getD [] ++
      (h.read r.attrs ++ Call.added ks)) := by
  obtain ⟨r', hr', hmsg, herr, hread⟩ := hd.record
  simp only [logValue, hr', hmsg, hread, herr]
  cases Call.lastCause r.err ks <;> simp

/-- The frame of a derivation: each error made on the way, and the heap it
    was made in, read the same in the heap the derivation ends with. -/
theorem Wf.derive_frame (hw : h.Wf) (he : h.record? e = some r) (hk : h.admits e ks = true)
    (i : Nat) :
    (h.derive e (ks.take i)).1.Extends (h.derive e ks).1 ∧
      (h.derive e ks).1.text (h.derive e (ks.take i)).2 =
        (h.derive e (ks.take i)).1.text (h.derive e (ks.take i)).2 ∧
      (h.derive e ks).1.attrs (h.derive e (ks.take i)).2 =
        (h.derive e (ks.take i)).1.attrs (h.derive e (ks.take i)).2 ∧
      (h.derive e ks).1.logValue (h.derive e (ks.take i)).2 =
        (h.derive e (ks.take i)).1.logValue (h.derive e (ks.take i)).2 := by
  -- the derivation is the one up to the `i`th call, then the rest from there
  have hsplit := derive_append h e (ks.take i) (ks.drop i)
  have hadm := admits_append h e (ks.take i) (ks.drop i)
  rw [List.take_append_drop] at hsplit hadm
  rw [hk, eq_comm, Bool.and_eq_true] at hadm
  have hd₁ := hw.derive_derived he hadm.1
  obtain ⟨r₁, hr₁, -⟩ := hd₁.record
  have hx := (hd₁.wf.derive_derived hr₁ hadm.2).ext
  rw [← hsplit] at hx
  have hlt := lt_of_record? hr₁
  exact ⟨hx, hx.text_eq _ hlt, hx.attrs_eq hd₁.wf hlt, hx.logValue_eq hd₁.wf hlt⟩

/-- An error derived from a new root `S` of message `msg` by calls that can
    each be made. The heap keeps the invariant; `S` stays a root, and every
    object the calls made is based at `S`. The error passes its own test of
    exactly the objects of root `S`, the test against `S`, and the test
    against any other root only as the last cause given does. Its text is
    `msg`, joined by `": "` to the text of that cause, the cause's text alone
    for the empty message; its attributes are those of the calls in order;
    its log value is `msg` as `error` (unless empty), the cause's text as
    `cause` and those attributes. Each error made on the way reads the same
    at the end as when it was made. -/
theorem derive_newError {h₀ h' : Heap} {S e : Nat} (hw : h.Wf) (msg : String) (ks : List Call)
    (hS : h.newError msg = (h₀, S)) (hk : h₀.admits S ks = true) (hd : h₀.derive S ks = (h', e)) :
    h'.Wf ∧ h'.IsRoot S ∧
      (∀ a, S < a → a < h'.objs.length → ∃ r, h'.record? a = some r ∧ r.base = some S) ∧
      (∀ t, h'.ownIs e t = true ↔ h'.root t = S) ∧
      h'.is e S = true ∧
      (∀ t, h'.IsRoot t → t ≠ S →
        h'.is e t = ((Call.lastCause none ks).map (h'.is · t)).getD false) ∧
      h'.text e =
        ((Call.lastCause none ks).map fun c =>
          if msg.isEmpty then h'.text c else msg ++ ": " ++ h'.text c).getD msg ∧
      h'.attrs e = Call.added ks ∧
      h'.logValue e = .group ((if msg.isEmpty then [] else [Attr.str "error" msg]) ++
        ((Call.lastCause none ks).map fun c => [Attr.str "cause" (h'.text c)]).getD [] ++
        Call.added ks) ∧
      ∀ i, (h₀.derive S (ks.take i)).1.Extends h' ∧
        h'.text (h₀.derive S (ks.take i)).2 =
          (h₀.derive S (ks.take i)).1.text (h₀.derive S (ks.take i)).2 ∧
        h'.attrs (h₀.derive S (ks.take i)).2 =
          (h₀.derive S (ks.take i)).1.attrs (h₀.derive S (ks.take i)).2 ∧
        h'.logValue (h₀.derive S (ks.take i)).2 =
          (h₀.derive S (ks.take i)).1.logValue (h₀.derive S (ks.take i)).2 := by
  -- the root, the first free object of `h`
  have hh₀ : (h.newError msg).1 = h₀ := congrArg Prod.fst hS
  have hS' : h.objs.length = S := congrArg Prod.snd hS
  subst hh₀ hS'
  have hw₀ := hw.newError msg
  have hrS : (h.newError msg).1.record? h.objs.length = some ⟨msg, none, none, .nil⟩ := by
    simp [newError, record?]
  have hroot₀ : (h.newError msg).1.root h.objs.length = h.objs.length := by simp [root, hrS]
  have hnil : (h.newError msg).1.read .nil = [] := rfl
  have hder := hw₀.derive_derived hrS hk
  rw [hd] at hder
  obtain ⟨r', hr', -, herr, -⟩ := hder.record
  have hSroot : h'.IsRoot h.objs.length := hder.ext.isRoot ⟨_, hrS, rfl⟩
  have hroot : h'.root e = h.objs.length := hder.root.trans hroot₀
  refine ⟨hder.wf, hSroot, ?based, ownIs_iff hr' hSroot hroot, is_root hder.wf hr' hSroot hroot,
    ?other, hder.text_eq, ?attrs, ?logValue, ?frame⟩
  case based =>
    intro a hSa ha
    rw [← hroot₀]
    exact hder.based a (by simp [newError, alloc]; omega) ha
  case other =>
    intro t ht htS
    rw [is_other_root hder.wf hr' hroot ht htS, herr]
  case attrs => rw [hder.attrs_eq, hnil, List.nil_append]
  case logValue => rw [hder.logValue_eq, hnil, List.nil_append]
  case frame =>
    intro i
    have hframe := hw₀.derive_frame hrS hk i
    rw [hd] at hframe
    exact hframe

/-- After the sentinels, a new root of message `m`, the attribute `k = v` and
    then a wrap of the sentinel `decode` derive an error that passes the test
    against the root and holds that attribute alone. -/
theorem derive_newError_decode :
    let made := init.newError "m"
    let ks := [Call.withAttrs [Attr.str "k" "v"], .wrap (some Sentinel.decode.addr)]
    init.Wf ∧ made.1.admits made.2 ks = true ∧
      (made.1.derive made.2 ks).1.is (made.1.derive made.2 ks).2 made.2 = true ∧
      (made.1.derive made.2 ks).1.attrs (made.1.derive made.2 ks).2 = [Attr.str "k" "v"] := by
  intro made ks
  have hk : made.1.admits made.2 ks = true := by decide
  have hmain := derive_newError wf_init "m" ks rfl hk rfl
  exact ⟨wf_init, hk, hmain.2.2.2.2.1, hmain.2.2.2.2.2.2.2.1⟩

/-- A root of the empty message, given a cause, reads as the cause's text
    alone: not as the message, `": "` and the cause's text. -/
theorem text_wrap_empty_message :
    let made := init.newError ""
    let boom := made.1.plainError "boom"
    let e := boom.1.derive made.2 [.wrap (some boom.2)]
    e.1.text e.2 = "boom" ∧ e.1.text e.2 ≠ "" ++ ": " ++ e.1.text boom.2 := by
  simp [init, Sentinel.all, newError, plainError, derive, call, wrap, alloc, record?, obj?, root, text]

end Heap

end ExprTree
