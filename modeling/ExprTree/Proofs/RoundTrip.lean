import ExprTree.Proofs.Reading

/-!
# Documents of built trees

Writing a built tree as a document and reading it back gives a tree of the
same erasure. The document of a built tree is a node document that denotes
the tree's erasure (`Checked.docOf`): each constructor's checks are what the
grammar asks of that kind, and the static types the constructors demand
keep lambdas and operators out of the places the reader refuses them. The
reader accepts every node document and a document denotes one tree, so the
tree read back erases to the same tree. Everything that sees a tree only
through its erasure then agrees on the two trees.

* `fromDoc_toDoc`: reading back the document of a built tree succeeds, and
  the tree read has the same document, text and fingerprint, and evaluates
  alike under every catalog and bindings, down any chain of calls of what it
  gives.
-/

namespace ExprTree

namespace Node

/-! ### Documents written -/

theorem asMap_docMap (es : List (String × Value)) : asMap (docMap es) = some es := by
  simp only [asMap, docMap, beq_self_eq_true, ↓reduceIte, Option.getD_some, Option.some.injEq]
  induction es with
  | nil => rfl
  | cons kv es ih =>
    simp only [List.map_cons, List.filterMap_cons, Value.ofString] at ih ⊢
    rw [ih, HostString.text_ofString]

theorem asList_docList (xs : List Value) : asList (docList xs) = some xs := by
  simp [asList, docList]

theorem kindArg?_docMap {key : String} {k : Kind} (hk : Kind.parse? key = some k) (v : Value) :
    kindArg? (docMap [(key, v)]) = some (k, v) := by
  simp [kindArg?, asMap_docMap, hk]

@[simp] theorem toDoc_view (t : Ty) (n : Node) : (view t n).toDoc = n.toDoc := rfl

@[simp] theorem toDoc_unwrap (n : Node) : n.unwrap.toDoc = n.toDoc := by
  induction n <;> simp_all [unwrap, toDoc]

variable {c : Catalog} {inst : Nat → Param}

/-- The document of a built tree is a node document that denotes the tree's
    erasure. -/
theorem Checked.docOf {n : Node} (h : n.Checked c inst) : DocOf n.toDoc n.erase := by
  induction h with
  | param _ hid => exact ⟨_, _, kindArg?_docMap (by decide +kernel) _, .param hid⟩
  | value _ => exact ⟨_, _, kindArg?_docMap (by decide +kernel) _, .value⟩
  | member _ hid _ ih =>
    obtain ⟨k, b, hk, hb⟩ := ih
    exact ⟨_, _, kindArg?_docMap (by decide +kernel) _,
      .member (asMap_docMap _) (by simp [entry]) hid (by simpa [entry] using hk) hb⟩
  | @index e s i hs he ih =>
    obtain ⟨k, b, hk, hb⟩ := ih
    -- the source has a slice type, so it is no operator and no lambda
    have hkind : k ∈ [.parameter, .value, .member, .arrayIndex] := by
      rw [← hb.kind_eq, kind_erase]
      exact hs.kind_of_slice he
    exact ⟨_, _, kindArg?_docMap (by decide +kernel) _,
      .arrayIndex (asMap_docMap _) (by simpa [entry, Value.ofInt] using IndexDoc.int (i := i))
        (by simpa [entry] using hk) hb hkind⟩
  | not ho hb ih =>
    obtain ⟨k, b, hk, hb'⟩ := ih
    have hl : k ≠ .lambda := by
      rw [← hb'.kind_eq, kind_erase]
      exact ho.kind_ne_lambda_of_bool hb
    exact ⟨_, _, kindArg?_docMap (by decide +kernel) _, .not hk hb' hl⟩
  | equal _ _ _ hcmp ihl ihr =>
    obtain ⟨kl, bl, hkl, hbl⟩ := ihl
    obtain ⟨kr, br, hkr, hbr⟩ := ihr
    -- `===` never compares a lambda with an operator, in either order
    have h₁ : ¬ (kl = .lambda ∧ kr ∈ [.not, .equal, .and, .or]) := by
      rw [← hbl.kind_eq, ← hbr.kind_eq, kind_erase, kind_erase]
      exact equal_kinds hcmp
    have h₂ : ¬ (kr = .lambda ∧ kl ∈ [.not, .equal, .and, .or]) := by
      rw [← hbl.kind_eq, ← hbr.kind_eq, kind_erase, kind_erase]
      rcases hcmp with h | h | h
      · exact equal_kinds (.inr (.inl h))
      · exact equal_kinds (.inl h)
      · exact equal_kinds (c := c) (.inr (.inr h.symm))
    exact ⟨_, _, kindArg?_docMap (by decide +kernel) _,
      .equal (asList_docList _) hkl hbl hkr hbr h₁ h₂⟩
  | and hl hr hbl hbr ihl ihr =>
    obtain ⟨kl, bl, hkl, hbl'⟩ := ihl
    obtain ⟨kr, br, hkr, hbr'⟩ := ihr
    have h₁ : kl ≠ .lambda := by
      rw [← hbl'.kind_eq, kind_erase]; exact hl.kind_ne_lambda_of_bool hbl
    have h₂ : kr ≠ .lambda := by
      rw [← hbr'.kind_eq, kind_erase]; exact hr.kind_ne_lambda_of_bool hbr
    exact ⟨_, _, kindArg?_docMap (by decide +kernel) _,
      .and (asList_docList _) hkl hbl' hkr hbr' h₁ h₂⟩
  | or hl hr hbl hbr ihl ihr =>
    obtain ⟨kl, bl, hkl, hbl'⟩ := ihl
    obtain ⟨kr, br, hkr, hbr'⟩ := ihr
    have h₁ : kl ≠ .lambda := by
      rw [← hbl'.kind_eq, kind_erase]; exact hl.kind_ne_lambda_of_bool hbl
    have h₂ : kr ≠ .lambda := by
      rw [← hbr'.kind_eq, kind_erase]; exact hr.kind_ne_lambda_of_bool hbr
    exact ⟨_, _, kindArg?_docMap (by decide +kernel) _,
      .or (asList_docList _) hkl hbl' hkr hbr' h₁ h₂⟩
  | @lambda ret ps b _ _ hps hne hnd _ ih =>
    obtain ⟨k, bb, hk, hbb⟩ := ih
    have hnames : ps.map Param.erase = (ps.map (·.name)).map fun x => ⟨x, .any, 0⟩ := by
      simp [Function.comp_def, Param.erase]
    show DocOf _ (.lambda .any (ps.map Param.erase) b.erase)
    rw [hnames]
    exact ⟨_, _, kindArg?_docMap (by decide +kernel) _,
      .lambda (asMap_docMap _) (by simp [entry, asList_docList, Function.comp_def])
        (by simpa using hne) hnd
        (fun x hx => by obtain ⟨q, hq, rfl⟩ := List.mem_map.mp hx; exact (hps q hq).2)
        (by simpa [entry] using hk) hbb⟩
  | view _ _ _ ih => simpa using ih

/-- Writing a built tree as a document and reading it back gives a tree that
    writes the same document, compiles to the same text, has the same
    fingerprint and, under every catalog and bindings, evaluates to the same
    outcome, records included, down every chain of calls of what it gives. -/
theorem fromDoc_toDoc {n : Node} (h : n.Built c inst) :
    ∃ m, fromDoc n.toDoc = .ok m ∧ m.toDoc = n.toDoc ∧ (∀ c', m.compile c' = n.compile c') ∧
      (∀ c', m.fingerprint c' = n.fingerprint c') ∧
      ∀ c' env calls, Outcome.Same ((eval c' env m).chain c' calls)
        ((eval c' env n).chain c' calls) := by
  have hd := h.checked.docOf
  obtain ⟨m, hm⟩ := fromDoc_complete hd
  -- the tree read back denotes what the document denotes: the erasure of `n`
  have herase : m.erase = n.erase := (fromDoc_sound hm).unique hd
  refine ⟨m, hm, ?_, fun c' => ?_, fun c' => ?_, fun c' env calls => ?_⟩
  · rw [← toDoc_erase m, herase, toDoc_erase]
  · rw [← compile_erase c' m, herase, compile_erase]
  · rw [← fingerprint_erase c' m, herase, fingerprint_erase]
  · apply Outcome.same_of_erase_eq
    rw [← Outcome.chain_erase, ← Outcome.chain_erase, eval, eval, ← evalAt_erase, ← evalAt_erase,
      herase]

/-- The identity lambda `(x) => x`, built from one parameter instance, comes
    back from its document. -/
theorem fromDoc_toDoc_identity :
    (lambda .any [⟨"x", .any, 0⟩] (.param ⟨"x", .any, 0⟩)).Built {} (fun _ => ⟨"x", .any, 0⟩) ∧
      ∃ m, fromDoc (lambda .any [⟨"x", .any, 0⟩] (.param ⟨"x", .any, 0⟩)).toDoc = .ok m ∧
        m.toDoc = (lambda .any [⟨"x", .any, 0⟩] (.param ⟨"x", .any, 0⟩)).toDoc ∧
        (∀ c', m.compile c' = (lambda .any [⟨"x", .any, 0⟩] (.param ⟨"x", .any, 0⟩)).compile c') ∧
        (∀ c', m.fingerprint c' =
          (lambda .any [⟨"x", .any, 0⟩] (.param ⟨"x", .any, 0⟩)).fingerprint c') ∧
        ∀ c' env calls, Outcome.Same ((eval c' env m).chain c' calls)
          ((eval c' env (lambda .any [⟨"x", .any, 0⟩] (.param ⟨"x", .any, 0⟩))).chain c' calls) :=
  have hx : (Node.param ⟨"x", .any, 0⟩).Built {} (fun _ => ⟨"x", .any, 0⟩) :=
    .param rfl (Build.parameter_eq_ok.mpr ⟨by decide +kernel, rfl⟩)
  have hb : (lambda .any [⟨"x", .any, 0⟩] (.param ⟨"x", .any, 0⟩)).Built {}
      (fun _ => ⟨"x", .any, 0⟩) :=
    .lambda hx rfl (fun p hp => by rw [List.mem_singleton.mp hp]; exact hx)
      (Build.lambda_eq_ok.mpr ⟨by simp, by simp, rfl, rfl⟩)
  ⟨hb, fromDoc_toDoc hb⟩

end Node

end ExprTree
