import Mathlib.Data.List.Chain
import ExprTree.Command.Run

/-!
# Outlines

The outline of a tree is a line per node, parents first, each at its depth
below the root (`Node.outlines`). The `tree` command rebuilds a drawing from
these lines on a stack (`Text.Drawing.ofLines`), and `Node.outlineIn` hands
them to a consumer for as long as it asks for more.

The lines of a drawing in preorder, each at its depth, are
`Text.Drawing.lines`. The stack reads them back: a line comes after a line at
most one level higher, so the stack is always high enough for it, and the
frames it closes are the subtrees already finished. So:

* `Drawing.ofLines_lines`: rebuilding the lines of any drawing gives it back;
* `Drawing.isChain_lines`, `Drawing.lt_of_mem_tail_lines`: the depths start
  at the root's, are deeper after it, and go down one level at a time;
* `Node.outlinesAt_drawn`: the outline of a tree is the preorder of its
  outline drawing (`Node.drawing`), a line per node but a lambda's
  parameters;
* `Node.outlineIn_eq_feed`: the iterator hands the consumer the outline's
  lines in order, and none after the first it refuses;
* `Node.outlines_rebuild`: all of it for the outline of a tree, down to the
  consumer that stops after `k` lines having been handed exactly `k`.
-/

namespace ExprTree

namespace Text.Drawing

/-- Induction over drawings: a node from all of its children. -/
@[induction_eliminator]
theorem induction {motive : Drawing → Prop}
    (node : ∀ label kids, (∀ k ∈ kids, motive k) → motive (.node label kids)) :
    ∀ t, motive t
  | .node label kids => node label kids fun k _ => induction node k

/-- The lines of a drawing from depth `d`: its label at `d`, then the lines
    of its children in order, one level deeper. -/
def lines (d : Nat) : Drawing → List (Nat × String)
  | node l ks => (d, l) :: ks.flatMap (lines (d + 1))

@[simp] theorem lines_node (d : Nat) (l : String) (ks : List Drawing) :
    (node l ks).lines d = (d, l) :: ks.flatMap (lines (d + 1)) := by
  rw [lines]

/-! ### The stack -/

/-- The frame of a finished drawing: its children all attached. -/
def Frame.ofDrawing : Drawing → Frame
  | node l ks => ⟨l, ks.reverse⟩

@[simp] theorem Frame.close_ofDrawing (t : Drawing) : (Frame.ofDrawing t).close = t := by
  cases t
  simp [Frame.ofDrawing, Frame.close]

theorem cut_add (a b : Nat) (s : List Frame) : cut (a + b) s = cut a (cut b s) := by
  induction b generalizing s with
  | zero => rfl
  | succ b ih => exact ih (pop s)

theorem cut_succ_eq_pop (k : Nat) (s : List Frame) : cut (k + 1) s = pop (cut k s) := by
  rw [Nat.add_comm, cut_add]
  rfl

theorem length_pop (s : List Frame) : (pop s).length = s.length - 1 := by
  match s with
  | [] | [_] => rfl
  | _ :: _ :: _ => simp [pop]

theorem length_cut (k : Nat) (s : List Frame) : (cut k s).length = s.length - k := by
  induction k generalizing s with
  | zero => rfl
  | succ k ih => simp only [cut, ih, length_pop]; omega

theorem push_of_le {s : List Frame} {d : Nat} (l : String) (h : d ≤ s.length) :
    push s (d, l) = some (⟨l, []⟩ :: cut (s.length - d) s) := by
  simp [push, h]

/-- The children's lines, each at depth `d`, read on a stack that cuts down
    to their parent's frame `F` at height `d`: the stack afterwards cuts down
    to `F` with the children attached. -/
theorem foldlM_forest {ks : List Drawing} {d : Nat}
    (ih : ∀ k ∈ ks, ∀ s : List Frame, d ≤ s.length → ∃ s', (k.lines d).foldlM push s = some s' ∧
      d < s'.length ∧ cut (s'.length - (d + 1)) s' = Frame.ofDrawing k :: cut (s.length - d) s)
    {s : List Frame} {F : Frame} {rest : List Frame} (hs : d ≤ s.length)
    (hF : cut (s.length - d) s = F :: rest) :
    ∃ s', (ks.flatMap (lines d)).foldlM push s = some s' ∧ d ≤ s'.length ∧
      cut (s'.length - d) s' = ⟨F.label, ks.reverse ++ F.kids⟩ :: rest := by
  induction ks generalizing s F with
  | nil => exact ⟨s, rfl, hs, by simpa using hF⟩
  | cons k ks ihk =>
    obtain ⟨s₁, h₁, hd₁, hc₁⟩ := ih k (by simp) s hs
    -- one more pop closes `k`'s frame into `F`
    have hc : cut (s₁.length - d) s₁ = ⟨F.label, k :: F.kids⟩ :: rest := by
      rw [show s₁.length - d = (s₁.length - (d + 1)) + 1 by omega, cut_succ_eq_pop, hc₁, hF]
      simp [pop]
    obtain ⟨s₂, h₂, hd₂, hc₂⟩ := ihk (fun k' hk' => ih k' (by simp [hk'])) (by omega) hc
    refine ⟨s₂, ?_, hd₂, by simpa using hc₂⟩
    rw [List.flatMap_cons, List.foldlM_append, h₁]
    exact h₂

/-- The lines of a drawing from depth `d`, read on a stack at least `d`
    high, leave a stack that cuts down to the drawing's finished frame on
    the stack cut to height `d`. -/
theorem foldlM_lines (t : Drawing) (d : Nat) (s : List Frame) (hs : d ≤ s.length) :
    ∃ s', (t.lines d).foldlM push s = some s' ∧ d < s'.length ∧
      cut (s'.length - (d + 1)) s' = Frame.ofDrawing t :: cut (s.length - d) s := by
  induction t generalizing d s with
  | node l ks ih =>
    -- the node's own line opens its frame at height `d + 1`
    have hl₁ : ((⟨l, []⟩ : Frame) :: cut (s.length - d) s).length = d + 1 := by
      simp [length_cut]
      omega
    have hF : cut (((⟨l, []⟩ : Frame) :: cut (s.length - d) s).length - (d + 1))
        (⟨l, []⟩ :: cut (s.length - d) s) = ⟨l, []⟩ :: cut (s.length - d) s := by
      simp [hl₁, cut]
    obtain ⟨s', h', hd', hc'⟩ := foldlM_forest (fun k hk s hs => ih k hk (d + 1) s hs)
      (by omega) hF
    refine ⟨s', ?_, by omega, by simpa [Frame.ofDrawing] using hc'⟩
    simp only [lines_node, List.foldlM_cons, push_of_le l hs]
    exact h'

/-- Rebuilding the lines of a drawing gives it back. -/
theorem ofLines_lines (t : Drawing) : ofLines (t.lines 0) = some t := by
  obtain ⟨s, hs, -, hc⟩ := foldlM_lines t 0 [] (Nat.zero_le _)
  simp [ofLines, hs, finish, hc, cut]

/-! ### Depths of the lines -/

theorem le_of_mem_lines {t : Drawing} {d : Nat} {x : Nat × String} (h : x ∈ t.lines d) :
    d ≤ x.1 := by
  induction t generalizing d with
  | node l ks ih =>
    simp only [lines_node, List.mem_cons, List.mem_flatMap] at h
    rcases h with rfl | ⟨k, hk, hx⟩
    · exact Nat.le_refl _
    · exact Nat.le_of_succ_le (ih k hk hx)

/-- After the first line, every line is deeper. -/
theorem lt_of_mem_tail_lines {t : Drawing} {d : Nat} {x : Nat × String}
    (h : x ∈ (t.lines d).tail) : d < x.1 := by
  cases t with
  | node l ks =>
    simp only [lines_node, List.tail_cons, List.mem_flatMap] at h
    obtain ⟨k, -, hx⟩ := h
    exact le_of_mem_lines hx

/-- A line may follow another when it is at most one level deeper. -/
def Follows (a b : Nat × String) : Prop := b.1 ≤ a.1 + 1

/-- The lines of children at depth `d`, one after the other: each may follow
    the one before, and the first is at depth `d`. -/
theorem isChain_forest {ks : List Drawing} {d : Nat}
    (ih : ∀ k ∈ ks, (k.lines d).IsChain Follows) :
    (ks.flatMap (lines d)).IsChain Follows ∧ ∀ y ∈ (ks.flatMap (lines d)).head?, y.1 = d := by
  induction ks with
  | nil => simp
  | cons k ks ihk =>
    obtain ⟨hc, hh⟩ := ihk fun k' hk' => ih k' (by simp [hk'])
    cases k with
    | node l' ks' =>
      refine ⟨List.IsChain.append (ih _ (by simp)) hc ?_, by simp⟩
      -- the next child starts at depth `d`, above anything of this one
      intro x hx y hy
      have hx' := le_of_mem_lines (List.mem_of_getLast? hx)
      have hy' := hh y hy
      simp only [Follows]
      omega

/-- Each line of a drawing is at most one level deeper than the one before. -/
theorem isChain_lines (t : Drawing) (d : Nat) : (t.lines d).IsChain Follows := by
  induction t generalizing d with
  | node l ks ih =>
    obtain ⟨hc, hh⟩ := isChain_forest fun k hk => ih k hk (d + 1)
    rw [lines_node]
    exact hc.cons fun y hy => by simp [Follows, hh y hy]

end Text.Drawing

namespace Node

/-! ### The outline and its drawing -/

/-- An outline line as a line of a drawing: its depth and its label. -/
def Outline.drawn (o : Outline) : Nat × String := (o.depth, drawLabel o.kind o.detail)

/-- The outline of a tree is the preorder of its outline drawing. -/
theorem outlinesAt_drawn (c : Catalog) (n : Node) (d : Nat) :
    (n.outlinesAt c d).map Outline.drawn = (n.drawing c).lines d := by
  induction n generalizing d <;> simp_all [outlinesAt, drawing, Outline.drawn, detail]

/-! ### The iterator -/

/-- Lines handed one by one to `yield` until it answers `false`. -/
def feed {m : Type → Type} [Monad m] (yield : Outline → m Bool) : List Outline → m Bool
  | [] => pure true
  | o :: os => Outline.goOn (yield o) (feed yield os)

section Iterator

variable {m : Type → Type} [Monad m] [LawfulMonad m]

theorem goOn_pure_true (x : m Bool) : Outline.goOn x (pure true) = x := by
  simp only [Outline.goOn]
  conv => rhs; rw [← bind_pure x]
  congr 1
  funext b
  cases b <;> rfl

theorem pure_true_goOn (k : m Bool) : Outline.goOn (pure true) k = k := by
  simp [Outline.goOn]

theorem goOn_assoc (x k₁ k₂ : m Bool) :
    Outline.goOn (Outline.goOn x k₁) k₂ = Outline.goOn x (Outline.goOn k₁ k₂) := by
  simp only [Outline.goOn, bind_assoc]
  congr 1
  funext b
  cases b <;> simp

theorem feed_append (yield : Outline → m Bool) (xs ys : List Outline) :
    feed yield (xs ++ ys) = Outline.goOn (feed yield xs) (feed yield ys) := by
  induction xs with
  | nil => simp [feed, pure_true_goOn]
  | cons x xs ih => simp [feed, ih, goOn_assoc]

/-- The iterator hands the consumer the outline's lines in order, and none
    after the first it refuses. -/
theorem outlineIn_eq_feed (c : Catalog) (yield : Outline → m Bool) (n : Node) (d : Nat) :
    n.outlineIn c yield d = feed yield (n.outlinesAt c d) := by
  induction n generalizing d <;>
    simp_all [outlineIn, outlinesAt, feed, feed_append, goOn_pure_true, detail]

end Iterator

/-- A consumer that records the lines it is handed and refuses the `k`-th. -/
def recordUntil (k : Nat) (o : Outline) : StateM (List Outline) Bool := do
  modify (· ++ [o])
  return (← get).length < k

/-- Handed lines after fewer than `k`, the recording consumer takes them up
    to the `k`-th in all. -/
theorem feed_recordUntil (k : Nat) (xs acc : List Outline) (h : acc.length < k) :
    (feed (recordUntil k) xs).run acc =
      (decide (acc.length + xs.length < k), acc ++ xs.take (k - acc.length)) := by
  induction xs generalizing acc with
  | nil =>
    simp only [feed, List.length_nil, Nat.add_zero, h, decide_true, List.take_nil,
      List.append_nil]
    rfl
  | cons x xs ih =>
    by_cases hx : acc.length + 1 < k
    · have hk : k - acc.length = (k - (acc.length + 1)) + 1 := by omega
      have hrec := ih (acc ++ [x]) (by simpa using hx)
      simp only [List.length_append, List.length_singleton] at hrec
      simp [feed, Outline.goOn, recordUntil, hx, hrec, hk, Nat.add_assoc, Nat.add_comm 1]
    · -- the `k`-th line is this one: it is recorded and refused
      obtain rfl : k = acc.length + 1 := by omega
      simp [feed, Outline.goOn, recordUntil]
      rfl

/-- The outline of a tree: its lines are the preorder of its outline drawing,
    a line per node but a lambda's parameters, each at its depth; the depths
    start at `0`, are at least `1` after the first line and go down at most
    one level at a time; the stack of the `tree` command rebuilds exactly the
    outline drawing from them, never meeting a line too deep; and a consumer
    that stops after `k` lines is handed exactly the first `k`. -/
theorem outlines_rebuild (c : Catalog) (n : Node) :
    (n.outlines c).map Outline.drawn = (n.drawing c).lines 0 ∧
      (n.outlines c).head?.map Outline.depth = some 0 ∧
      (∀ o ∈ (n.outlines c).tail, 1 ≤ o.depth) ∧
      (n.outlines c).IsChain (fun a b => b.depth ≤ a.depth + 1) ∧
      Text.Drawing.ofLines ((n.outlines c).map Outline.drawn) = some (n.drawing c) ∧
      ∀ k, 0 < k → ((n.outlineIn c (recordUntil k) 0).run []).2 = (n.outlines c).take k := by
  have hdrawn := outlinesAt_drawn c n 0
  rw [← outlines] at hdrawn
  refine ⟨hdrawn, ?_, ?_, ?_, ?_, ?_⟩
  · -- the first line is the drawing's root line
    have h := congrArg List.head? hdrawn
    cases hd : n.drawing c with
    | node l ks =>
      rw [hd, Text.Drawing.lines_node, List.head?_map, List.head?_cons] at h
      cases ho : (n.outlines c).head? <;> simp_all [Outline.drawn]
  · intro o ho
    have hx : o.drawn ∈ ((n.drawing c).lines 0).tail := by
      rw [← hdrawn, ← List.map_tail]
      exact List.mem_map_of_mem ho
    exact Text.Drawing.lt_of_mem_tail_lines hx
  · have := Text.Drawing.isChain_lines (n.drawing c) 0
    rw [← hdrawn, List.isChain_map] at this
    exact this
  · rw [hdrawn]
    exact Text.Drawing.ofLines_lines _
  · intro k hk
    rw [outlineIn_eq_feed, feed_recordUntil k _ [] hk]
    simp [outlines]

/-- The iterator stopped after two lines of `(u) => !(u.Name === 'Ashot')`. -/
theorem outlines_rebuild_stop_two :
    0 < 2 ∧
      (((Node.lambda .bool [⟨"u", .named "main.User", 0⟩] (.not (.equal
          (.member .string (.param ⟨"u", .named "main.User", 0⟩) "Name")
          (.value .string (.ofString "Ashot"))))).outlineIn {} (recordUntil 2) 0).run []).2 =
        ((Node.lambda .bool [⟨"u", .named "main.User", 0⟩] (.not (.equal
          (.member .string (.param ⟨"u", .named "main.User", 0⟩) "Name")
          (.value .string (.ofString "Ashot"))))).outlines {}).take 2 :=
  ⟨by decide, (outlines_rebuild {} _).2.2.2.2.2 2 (by decide)⟩

end Node

end ExprTree
