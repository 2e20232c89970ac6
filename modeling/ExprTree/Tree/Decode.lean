import ExprTree.Tree.Document
import ExprTree.Yaml.Decode

/-!
# Trees from text

The tree of a YAML text (JSON is YAML): the first document read into a
value (`Yaml.decode`), then read as a tree document (`Node.fromDoc`). A text
that is no YAML fails with a decode fault caused by the reader's error.
-/

namespace ExprTree.Node

/-- The tree of a text, with storage numbers for its values from `next`, and
    the next free number. -/
def decodeText (text : String) (next : Nat) : Except Fault (Node × Nat) :=
  match Yaml.decode text next with
  | .error e => .error ((Fault.of .decode).wrap (Fault.text e))
  | .ok (doc, n) => (fromDoc doc).map (·, n)

end ExprTree.Node
