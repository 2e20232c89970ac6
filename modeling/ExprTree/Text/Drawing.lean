import ExprTree.Text.Cells

/-!
# Tree drawings

A tree of labels drawn with box-drawing characters (`Drawing.render`):

* the root's label stands alone on the first line;
* each child follows on its own line after its parent's prefix and a branch,
  `├── ` for all but the last child and `└── ` for the last;
* the children of a child are drawn below it with the prefix extended by
  `│   ` where more siblings follow, by four blanks after the last one;
* a label of several lines keeps the prefix on every line, the branch
  continued by `│   ` or blanks, and its lines are padded on the right to
  its widest line.

Tabs in labels are expanded to four blanks.

A drawing is also rebuilt from a list of lines, each with a depth and a
label (`Drawing.ofLines`), on a stack of the nodes being drawn: a line of
depth `d` cuts the stack down to its `d` lowest frames, closing each frame it
cuts into the frame below it, and opens a frame of its own on top, so that
it becomes a child of the nearest line before it one level up. A line deeper
than the stack is high is refused, and a line of depth `0` starts the drawing
afresh.
-/

namespace ExprTree.Text

/-- A tree of labels. -/
inductive Drawing where
  | node (label : String) (children : List Drawing)
  deriving Inhabited

namespace Drawing

/-- The branch and the continuation of a child, by whether it is the last. -/
def branch (last : Bool) : String × String :=
  if last then ("└── ", "    ") else ("├── ", "│   ")

/-- The lines of a child's label after a prefix and its branch. -/
def labelLines (pre : String) (last : Bool) (label : String) : List String :=
  let (first, cont) := branch last
  let lines := (expandTabs label).splitOn "\n"
  let widest := lines.foldl (fun m l => max m (cells l)) 0
  lines.zipIdx.map fun (l, j) =>
    pre ++ (if j == 0 then first else cont) ++ l ++ String.ofList (List.replicate (widest - cells l) ' ')

/-- The lines of a list of children below a prefix (see the module
    header). -/
def childLines (pre : String) : List Drawing → List String
  | [] => []
  | node label kids :: rest =>
    let last := rest.isEmpty
    labelLines pre last label ++ childLines (pre ++ (branch last).2) kids ++ childLines pre rest

/-- The drawing of a tree, one line per label line, without a final line
    break (see the module header). -/
def render : Drawing → String
  | node label kids => "\n".intercalate (expandTabs label :: childLines "" kids)

/-- A node being drawn, on the stack that rebuilds a drawing from its lines:
    its label and the children attached to it so far, the latest first. -/
structure Frame where
  /-- The label of the node. -/
  label : String
  /-- The children attached so far, the latest first. -/
  kids : List Drawing

/-- The drawing of a frame, its children in the order attached. -/
def Frame.close (f : Frame) : Drawing := node f.label f.kids.reverse

/-- The stack with its top frame closed into the frame below it; a lone
    frame is dropped. The stack's top comes first. -/
def pop : List Frame → List Frame
  | f :: g :: rest => ⟨g.label, f.close :: g.kids⟩ :: rest
  | _ => []

/-- The stack after `k` pops. -/
def cut : Nat → List Frame → List Frame
  | 0, s => s
  | k + 1, s => cut k (pop s)

/-- The stack after a line of a depth and a label (see the module header);
    none when the line is deeper than the stack is high. -/
def push (s : List Frame) (line : Nat × String) : Option (List Frame) :=
  if line.1 ≤ s.length then some (⟨line.2, []⟩ :: cut (s.length - line.1) s) else none

/-- The drawing of a stack once every frame is closed: its lowest frame's,
    none for the empty stack. -/
def finish (s : List Frame) : Option Drawing :=
  match cut (s.length - 1) s with
  | [f] => some f.close
  | _ => none

/-- The drawing that lines of depths and labels describe (see the module
    header); none when there are no lines or a line is too deep. -/
def ofLines (lines : List (Nat × String)) : Option Drawing :=
  (lines.foldlM push []).bind finish

end Drawing

end ExprTree.Text
