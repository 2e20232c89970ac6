import ExprTree.Command.Run
import ExprTree.Proofs.Equality

/-!
# The JSON text of a tree's document

A tree is written in JSON as the JSON text of its document (`Node.toDoc`,
then `Value.toJson`, or `Value.toJsonIndented` for a positive indent). The
document is made of maps of text keys and lists, with parameter names,
fields and indices as texts and integers, down to the literals of the tree;
so the text exists exactly when each literal has one
(`toJsonTree_toDoc_isOk`). A float has JSON text exactly when it is finite
(`toJsonTree_float_isOk`): a tree that holds a NaN or an infinite literal
has no JSON text at all.

* `toJson_toDoc_isOk`: both JSON texts of a tree's document exist exactly
  when every literal has JSON text, and a float literal has none exactly
  when it is NaN or infinite;
* `toJson_nan_literal`: the document of a NaN literal has no JSON text.
-/

namespace ExprTree

namespace Value

variable {c : Catalog}

@[simp] theorem isOk_ok {ε α : Type} (a : α) : (Except.ok a : Except ε α).isOk = true := rfl

theorem interchangeText_isSome (f : Number.Format) (b : UInt64) :
    (Number.interchangeText f b).isSome = !(Number.isNaN b || Number.isInfinite b) := by
  unfold Number.interchangeText Number.FloatText.ofBits Number.isNaN Number.isInfinite
  generalize Number.unpack b = u
  obtain ⟨neg, mag⟩ := u
  cases mag with
  | nan | infinite => rfl
  | finite m e =>
    dsimp only
    split <;> rfl

/-- A float has JSON text exactly when it is neither NaN nor infinite. -/
theorem toJsonTree_float_isOk (t : Ty) (b : UInt64) :
    ((float t b).toJsonTree c).isOk = !(Number.isNaN b || Number.isInfinite b) := by
  rw [← interchangeText_isSome (floatFormat c t)]
  simp only [toJsonTree, jsonFloat]
  cases Number.interchangeText (floatFormat c t) b <;> rfl

theorem toJsonAll_isOk (xs : List Value) :
    (toJsonAll c xs).isOk = xs.all fun v => (v.toJsonTree c).isOk := by
  induction xs with
  | nil => rfl
  | cons v vs ih =>
    rw [toJsonAll, List.all_cons, ← ih]
    cases toJsonTree c v <;> cases toJsonAll c vs <;> rfl

/-- The entries of a map of text keys have JSON text exactly when their
    values have. -/
theorem toJsonEntries_isOk (t : Ty) (es : List (String × Value)) :
    (toJsonEntries c t (es.map fun (k, v) => (.ofString k, v))).isOk =
      es.all fun e => (e.2.toJsonTree c).isOk := by
  induction es with
  | nil => rfl
  | cons e es ih =>
    rw [List.map_cons, toJsonEntries, List.all_cons, ← ih]
    cases toJsonTree c e.2 <;> cases toJsonEntries c t (es.map fun (k, v) => (.ofString k, v)) <;>
      rfl

theorem toJsonTree_docMap_isOk (es : List (String × Value)) :
    ((Node.docMap es).toJsonTree c).isOk = es.all fun e => (e.2.toJsonTree c).isOk := by
  rw [← toJsonEntries_isOk Node.docMapTy]
  -- a document map is keyed by texts
  have hu : c.underlying Node.docMapTy = .other (.map .string .any) := rfl
  have hk : c.kind .string = .string := rfl
  simp only [Node.docMap, toJsonTree, hu, hk]
  cases toJsonEntries c Node.docMapTy (es.map fun x => (ofString x.1, x.2)) <;> rfl

theorem toJsonTree_docList_isOk (xs : List Value) :
    ((Node.docList xs).toJsonTree c).isOk = xs.all fun v => (v.toJsonTree c).isOk := by
  rw [← toJsonAll_isOk]
  -- a document list is no byte slice
  have hu : c.underlying (.slice .any) = .other (.slice .any) := rfl
  have hk : c.kind .any = .iface := rfl
  simp only [Node.docList, toJsonTree, hu, hk]
  cases toJsonAll c xs <;> rfl

/-- The document of a tree has JSON text exactly when each of its literals
    has: names, fields and indices always have. -/
theorem toJsonTree_toDoc_isOk (n : Node) :
    (n.toDoc.toJsonTree c).isOk = n.literals.all fun v => (v.toJsonTree c).isOk := by
  induction n with
  | view t n ih => exact ih
  | param p =>
    simp [Node.toDoc, toJsonTree_docMap_isOk, Node.literals, ofString, toJsonTree, isOk_ok]
  | value t v => simp [Node.toDoc, toJsonTree_docMap_isOk, Node.literals]
  | member t s f ih | not s ih =>
    simp [Node.toDoc, toJsonTree_docMap_isOk, Node.literals, ofString, toJsonTree, ih, isOk_ok]
  | index t s i ih =>
    simp [Node.toDoc, toJsonTree_docMap_isOk, Node.literals, ofInt, toJsonTree, ih, isOk_ok]
  | equal l r ihl ihr | and l r ihl ihr | or l r ihl ihr =>
    simp [Node.toDoc, toJsonTree_docMap_isOk, toJsonTree_docList_isOk, Node.literals, ihl, ihr]
  | lambda t ps b ih =>
    simp [Node.toDoc, toJsonTree_docMap_isOk, toJsonTree_docList_isOk, Node.literals, ofString,
      toJsonTree, ih, isOk_ok]

end Value

namespace Node

/-- A tree is written in JSON, compact or indented, exactly when every
    literal of it has JSON text, and a float literal has none exactly when it
    is NaN or infinite. -/
theorem toJson_toDoc_isOk (c : Catalog) (st : JsonStyle) (indent : String) (n : Node) :
    (n.toDoc.toJson c st).isOk = n.literals.all (fun v => (v.toJsonTree c).isOk) ∧
    (n.toDoc.toJsonIndented c indent).isOk = n.literals.all (fun v => (v.toJsonTree c).isOk) ∧
    ∀ t b, ((Value.float t b).toJsonTree c).isOk = !(Number.isNaN b || Number.isInfinite b) := by
  have hmap : ∀ g : JsonTree → String, ((n.toDoc.toJsonTree c).map g).isOk =
      (n.toDoc.toJsonTree c).isOk := fun g => by
    cases n.toDoc.toJsonTree c <;> rfl
  refine ⟨?_, ?_, fun t b => Value.toJsonTree_float_isOk t b⟩
  · rw [Value.toJson, hmap, Value.toJsonTree_toDoc_isOk]
  · rw [Value.toJsonIndented, hmap, Value.toJsonTree_toDoc_isOk]

end Node

namespace Command

set_option maxRecDepth 20000 in
/-- The document `value: .nan`, a tree of one NaN literal, is not printed
    in JSON: the command fails with the fault of the JSON writer and prints
    nothing. -/
theorem format_json_nan :
    let r := (format "json" 0 "-").run.run { stdin := "value: .nan" }
    r.2.out = "" ∧ (match r.1 with
      | .error e => e.message
      | .ok _ => "") = "write output: json: unsupported value: NaN" := by
  exact ⟨rfl, rfl⟩

end Command

end ExprTree
