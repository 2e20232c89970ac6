import ExprTree.Proofs.Erasure
import ExprTree.Proofs.Scope

/-!
# Views are transparent

A view (`Node.view`) shows a node at another static type and is otherwise
the node it shows: it has the kind and the type of that node, and every
consumer of trees looks through it. Removing every view of a tree
(`Node.strip`) therefore changes nothing that can be observed of it, and two
trees that differ only in their views (`n₁.strip = n₂.strip`) are
indistinguishable.

* `ty_strip`, `walk_strip`, `outlinesAt_strip`, `resolve_strip`,
  `exprOf_strip`, `toExpr_strip`: the type, the walk, the outline, the scope
  walk behind `Node.check` and `Node.freeParams`, and the expression of a
  tree are those of the tree without views; text, document, kind and
  evaluation follow from the erasure, which drops views too
  (`erase_strip`);
* `cast_eq_ok_rewrap`: a cast never nests views: it returns its operand, or
  a single view of the operand's unwrapped node;
* `strip_eq_transparent`: trees that differ only in views agree on all of
  these.
-/

namespace ExprTree

namespace Node

/-- The tree without its views. -/
def strip : Node → Node
  | param p => param p
  | value t v => value t v
  | member t s f => member t s.strip f
  | index t s i => index t s.strip i
  | not o => not o.strip
  | equal l r => equal l.strip r.strip
  | and l r => and l.strip r.strip
  | or l r => or l.strip r.strip
  | lambda t ps b => lambda t ps b.strip
  | view _ n => n.strip

/-- Whether a node is a view. -/
def isView : Node → Bool
  | view _ _ => true
  | _ => false

@[simp] theorem strip_view (t : Ty) (n : Node) : (view t n).strip = n.strip := rfl

@[simp] theorem strip_strip (n : Node) : n.strip.strip = n.strip := by
  induction n <;> simp_all [strip]

@[simp] theorem strip_unwrap (n : Node) : n.unwrap.strip = n.strip := by
  induction n <;> simp_all [unwrap, strip]

@[simp] theorem unwrap_strip (n : Node) : n.strip.unwrap = n.strip := by
  induction n <;> simp_all [unwrap, strip]

theorem isView_unwrap (n : Node) : n.unwrap.isView = false := by
  induction n <;> simp_all [unwrap, isView]

/-! ### What does not see views -/

@[simp] theorem erase_strip (n : Node) : n.strip.erase = n.erase := by
  induction n <;> simp_all [strip, erase]

@[simp] theorem compile_strip (c : Catalog) (n : Node) : n.strip.compile c = n.compile c := by
  rw [← compile_erase, erase_strip, compile_erase]

@[simp] theorem ty_strip (n : Node) : n.strip.ty = n.ty := by
  induction n <;> simp_all [strip, ty, staticTy]

@[simp] theorem detail_strip (c : Catalog) (n : Node) : n.strip.detail c = n.detail c := by
  induction n <;> simp_all [strip, detail, compile]

@[simp] theorem outlinesAt_strip (c : Catalog) (d : Nat) (n : Node) :
    n.strip.outlinesAt c d = n.outlinesAt c d := by
  induction n generalizing d <;> simp_all [strip, outlinesAt, detail]

@[simp] theorem resolve_strip (strict : Bool) (s : List Param) (n : Node) :
    resolve strict s n.strip = resolve strict s n := by
  induction n generalizing s <;> simp_all [strip, resolve]

@[simp] theorem exprOf_strip (c : Catalog) (n : Node) : exprOf c n.strip = exprOf c n := by
  induction n <;> simp_all [strip, exprOf]

@[simp] theorem check_strip (n : Node) : n.strip.check = n.check := by
  simp [check]

@[simp] theorem freeParams_strip (n : Node) : n.strip.freeParams = n.freeParams := by
  simp [freeParams]

/-- A lambda at the root, seen through views, is one of the tree without
    views too; its body is written in either case. -/
theorem toExpr_strip (c : Catalog) (n : Node) : toExpr c (some n.strip) = toExpr c (some n) := by
  have hv := isView_unwrap n
  simp only [toExpr, unwrap_strip]
  rw [← strip_unwrap n]
  cases hu : n.unwrap with
  | lambda t ps b => simp [strip]
  | view t m => rw [hu] at hv; cases hv
  | param p => rfl
  | value t v => rfl
  | member t s f => exact exprOf_strip c (member t s f)
  | index t s i => exact exprOf_strip c (index t s i)
  | not o => exact exprOf_strip c (not o)
  | equal l r => exact exprOf_strip c (equal l r)
  | and l r => exact exprOf_strip c (and l r)
  | or l r => exact exprOf_strip c (or l r)

/-- With a visitor that reads nodes without their views, a walk lists, view
    for view, the nodes of the walk of the tree without views. -/
theorem walk_strip (visit : Node → Bool) (n : Node) :
    (n.walk (visit ∘ strip)).map strip = n.strip.walk (visit ∘ strip) := by
  -- the visitor answers alike at a node and at the node without its views
  induction n with
  | param p => rfl
  | value t v => rfl
  | member t s f ih | index t s f ih | not s ih =>
    simp only [walk]
    rw [strip]
    simp only [walk]
    split <;> split <;> simp_all [strip]
  | equal l r ihl ihr | and l r ihl ihr | or l r ihl ihr =>
    simp only [walk]
    rw [strip]
    simp only [walk]
    split <;> split <;> simp_all [strip]
  | lambda t ps b ih =>
    simp only [walk]
    rw [strip]
    simp only [walk]
    split <;> split <;> simp_all [strip, Function.comp_def]
  | view t m ih => simpa [walk] using ih

/-- A walk visits the nodes that views show, never a view. -/
theorem isView_of_mem_walk (visit : Node → Bool) (n : Node) :
    ∀ x ∈ n.walk visit, x.isView = false := by
  induction n with
  | view t m ih => exact ih
  | param | value => simp [walk, isView]
  | member t s f ih | index t s f ih | not s ih =>
    simp only [walk]
    split
    · intro x hx
      rcases List.mem_cons.mp hx with rfl | hx
      · rfl
      · exact ih x hx
    · simp [isView]
  | equal l r ihl ihr | and l r ihl ihr | or l r ihl ihr =>
    simp only [walk]
    split
    · intro x hx
      rcases List.mem_cons.mp hx with rfl | hx
      · rfl
      · exact (List.mem_append.mp hx).elim (ihl x) (ihr x)
    · simp [isView]
  | lambda t ps b ih =>
    simp only [walk]
    split
    · intro x hx
      rcases List.mem_cons.mp hx with rfl | hx
      · rfl
      rcases List.mem_append.mp hx with hx | hx
      · obtain ⟨p, -, rfl⟩ := List.mem_map.mp hx
        rfl
      · exact ih x hx
    · simp [isView]

end Node

/-! ### Casts -/

/-- A cast returns its operand as it is, or one view of the node the operand
    shows, which is no view: casting a view re-wraps the node it shows. -/
theorem Build.cast_eq_ok_rewrap {c : Catalog} {r : Ty} {s n : Node}
    (h : Build.cast c r (some s) = .ok n) :
    n = s ∨ (n = .view r s.unwrap ∧ s.unwrap.isView = false) := by
  rcases Build.cast_eq_ok.mp h with ⟨-, rfl⟩ | ⟨-, -, rfl⟩
  · exact .inl rfl
  · exact .inr ⟨rfl, Node.isView_unwrap s⟩

namespace Node

/-! ### Trees that differ only in views -/

/-- What can be observed of two trees agrees: kind, type, text, fingerprint,
    document, the walk with any visitor that does not look at views (which
    visits no view), the outline, the check of scopes, the free parameters,
    the expression and the text in every dialect, and the evaluation under
    any bindings, records included, down any chain of calls. -/
structure Indistinguishable (c : Catalog) (n₁ n₂ : Node) : Prop where
  kind : n₁.kind = n₂.kind
  ty : n₁.ty = n₂.ty
  compile : n₁.compile c = n₂.compile c
  fingerprint : n₁.fingerprint c = n₂.fingerprint c
  toDoc : n₁.toDoc = n₂.toDoc
  walk : ∀ visit : Node → Bool, (∀ a, visit a.strip = visit a) →
    (n₁.walk visit).map strip = (n₂.walk visit).map strip ∧
      ∀ x ∈ n₁.walk visit ++ n₂.walk visit, x.isView = false
  outlines : n₁.outlines c = n₂.outlines c
  printOutline : n₁.printOutline c = n₂.printOutline c
  check : n₁.check = n₂.check
  freeParams : n₁.freeParams = n₂.freeParams
  toExpr : toExpr c (some n₁) = toExpr c (some n₂)
  compileIn : ∀ d, compileIn c (some n₁) d = compileIn c (some n₂) d
  eval : ∀ env calls, Outcome.Same ((eval c env n₁).chain c calls) ((eval c env n₂).chain c calls)

section Alike

variable {n₁ n₂ : Node}

/-- What a tree gives without its views, two trees of one stripped tree
    give alike. -/
theorem congr_strip {α : Type} {f : Node → α} (hf : ∀ n, f n.strip = f n)
    (h : n₁.strip = n₂.strip) : f n₁ = f n₂ := by
  rw [← hf n₁, h, hf]

/-- What a tree gives through its erasure, two trees of one stripped tree
    give alike: the erasure drops views. -/
theorem congr_erase_of_strip {α : Type} {f : Node → α} (hf : ∀ n, f n.erase = f n)
    (h : n₁.strip = n₂.strip) : f n₁ = f n₂ :=
  congr_strip (fun n => by rw [← hf, erase_strip, hf]) h

theorem compileIn_strip (c : Catalog) (n : Node) (d : Int) :
    compileIn c (some n.strip) d = compileIn c (some n) d := by
  simp only [compileIn, compile_strip, toExpr_strip]

end Alike

end Node

/-- Views are transparent: two trees that differ only in their views cannot
    be told apart by anything that reads trees; and a cast never nests views,
    as it returns its operand or a view of the node the operand shows. -/
theorem Node.strip_eq_transparent {n₁ n₂ : Node} (h : n₁.strip = n₂.strip) (c : Catalog) :
    Node.Indistinguishable c n₁ n₂ ∧
      ∀ r s m, Build.cast c r (some s) = .ok m →
        m = s ∨ (m = .view r s.unwrap ∧ s.unwrap.isView = false) := by
  refine ⟨⟨?_, ?_, ?_, ?_, ?_, ?_, ?_, ?_, ?_, ?_, ?_, ?_, ?_⟩,
    fun r s m hm => Build.cast_eq_ok_rewrap hm⟩
  · exact Node.congr_erase_of_strip Node.kind_erase h
  · exact Node.congr_strip Node.ty_strip h
  · exact Node.congr_erase_of_strip (Node.compile_erase c) h
  · exact Node.congr_erase_of_strip (Node.fingerprint_erase c) h
  · exact Node.congr_erase_of_strip Node.toDoc_erase h
  · intro visit hv
    -- such a visitor reads a node without its views
    have hvis : visit = visit ∘ Node.strip := funext fun a => (hv a).symm
    refine ⟨by rw [hvis, Node.walk_strip, Node.walk_strip, h], fun x hx => ?_⟩
    rcases List.mem_append.mp hx with hx | hx
    · exact Node.isView_of_mem_walk visit n₁ x hx
    · exact Node.isView_of_mem_walk visit n₂ x hx
  · exact Node.congr_strip (Node.outlinesAt_strip c 0) h
  · exact Node.congr_strip (f := Node.printOutline c)
      (fun n => by simp [Node.printOutline, Node.outlines]) h
  · exact Node.congr_strip Node.check_strip h
  · exact Node.congr_strip Node.freeParams_strip h
  · exact Node.congr_strip (f := fun n => Node.toExpr c (some n)) (Node.toExpr_strip c) h
  · exact fun d => Node.congr_strip (f := fun n => Node.compileIn c (some n) d)
      (fun n => Node.compileIn_strip c n d) h
  · intro env calls
    have he : n₁.erase = n₂.erase := by rw [← Node.erase_strip, h, Node.erase_strip]
    apply Outcome.same_of_erase_eq
    rw [← Outcome.chain_erase, ← Outcome.chain_erase, Node.eval, Node.eval, ← Node.evalAt_erase,
      ← Node.evalAt_erase, he]

/-- A negation of a parameter seen at type `bool`, itself seen at type
    `any`, behaves as the bare negation. -/
theorem Node.strip_eq_transparent_not :
    (Node.view .any (.not (.view .bool (.param ⟨"x", .any, 0⟩)))).strip =
        (Node.not (.param ⟨"x", .any, 0⟩)).strip ∧
      Node.Indistinguishable {} (.view .any (.not (.view .bool (.param ⟨"x", .any, 0⟩))))
        (.not (.param ⟨"x", .any, 0⟩)) :=
  ⟨rfl, (@Node.strip_eq_transparent (.view .any (.not (.view .bool (.param ⟨"x", .any, 0⟩))))
    (.not (.param ⟨"x", .any, 0⟩)) rfl {}).1⟩

end ExprTree
