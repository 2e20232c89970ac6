import ExprTree.Yaml.Token
import ExprTree.Yaml.Scalar

/-!
# YAML nodes

The nodes a YAML document is parsed into (`Node`). Each node keeps where it
lies (`Mark`): at a token of the chain, or at a null implied where a value
was left out.

* `Node.kindName`: the name of the kind of a node, as faults name it;
* `Node.keyText`: the text a node stands for as a key.
-/

namespace ExprTree.Yaml

/-- A node of a YAML document. -/
inductive Node where
  /-- A scalar: plain, whose text decides its value, or a text. -/
  | scalar (plain : Bool) (text : String) (mark : Mark)
  /-- A value left out. -/
  | null (mark : Mark)
  /-- A block scalar: its text, and the header it was written with. -/
  | literal (text : String) (header : String) (mark : Mark)
  | mergeKey (mark : Mark)
  | mapping (entries : List (Node × Node)) (mark : Mark)
  | sequence (items : List Node) (mark : Mark)
  | anchor (name : String) (value : Node) (mark : Mark)
  /-- An alias: the name of the anchor it stands for, where the name lies,
      and where the alias lies. -/
  | reference (name : String) (nameMark : Mark) (mark : Mark)
  | tagged (tag : String) (value : Node) (mark : Mark)
  /-- A key written after `?`. -/
  | explicitKey (key : Node) (mark : Mark)
  | directive (mark : Mark)
  deriving Repr, Inhabited

namespace Node

/-- Where a node lies. -/
def mark : Node → Mark
  | scalar _ _ m | null m | literal _ _ m | mergeKey m | mapping _ m | sequence _ m
  | anchor _ _ m | reference _ _ m | tagged _ _ m | explicitKey _ m | directive m => m

/-- The name of the kind of a node: a plain scalar by its value. -/
def kindName : Node → String
  | scalar true s _ => match resolvePlain s with
    | .nil => "null"
    | .bool _ _ => "boolean"
    | .int _ _ => "int"
    | .float _ b => if Number.isNaN b then "nan" else if Number.isInfinite b then "inf" else "float"
    | _ => "string"
  | scalar false _ _ => "string"
  | null _ => "null"
  | literal _ _ _ => "scalar"
  | mergeKey _ => "merge key"
  | mapping _ _ => "mapping"
  | sequence _ _ => "sequence"
  | anchor _ _ _ => "anchor"
  | reference _ _ _ => "alias"
  | tagged _ _ _ => "tag"
  | explicitKey _ _ => "key"
  | directive _ => "directive"

/-- The text a node stands for as a key: a scalar's text, through keys,
    tags and anchors; an alias's name. -/
def keyText : Node → String
  | scalar _ s _ => s
  | null _ => "null"
  | literal _ h _ => h
  | mergeKey _ => "<<"
  | anchor _ v _ | tagged _ v _ | explicitKey v _ => v.keyText
  | reference n _ _ => n
  | mapping _ _ | sequence _ _ | directive _ => ""

/-- Whether a node is a merge key, through keys, tags and anchors. -/
def isMergeKey : Node → Bool
  | mergeKey _ => true
  | anchor _ v _ | tagged _ v _ | explicitKey v _ => v.isMergeKey
  | _ => false

end Node

end ExprTree.Yaml
