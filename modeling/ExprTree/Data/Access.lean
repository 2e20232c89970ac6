import ExprTree.Data.Value
import ExprTree.Fault
import ExprTree.Text.Fuzzy

/-!
# Members and elements

Reading a member or an element of a host value, and the check of a member
against a static type before any value exists.

A *member* of a value is, through pointers and interfaces, a field of a
struct (`Catalog.fieldByName`: promoted fields of embedded structs count) or
the entry of a map whose keys are strings. An *element* is an item of a
slice or an array, or the character of a string at a position, counting
characters, not bytes.

The faults, in the order they are tried:

* `checkMember`: a struct without an exported field of that name, a map
  whose keys are not strings and any other type that is not an interface is
  an unknown member; a member whose type does not fit the wanted type is a
  type mismatch;
* `memberOf`: a nil value, through pointers and interfaces, or a nil
  embedded pointer on the way to a promoted field is a nil value; a missing
  field or map key, or a value of another kind, is an unknown member;
* `elementOf`: a nil pointer or nil is a nil value; a value that is not a
  slice, array or string is a type mismatch; a position past the end is out
  of range.

An unknown member of a struct or a map suggests at most three close names,
`did_you_mean`, ranked by `Text.suggest`.
-/

namespace ExprTree

/-- The fault of an unknown member `field` of type `t`, with suggestions
    from `candidates`. -/
def unknownMember (t : Ty) (field : String) (candidates : List String) : Fault :=
  let similar := Text.suggest 3 field candidates
  (Fault.of .unknownMember).withAttrs
    ([Attr.str "type" t.name, Attr.str "field" field] ++
      (if similar.isEmpty then [] else [Attr.strings "did_you_mean" (some similar)]))

/-- The type under the pointers written into `t`; a declared pointer type
    is left as it is. -/
def Ty.underPtrs : Ty → Ty
  | .ptr e => e.underPtrs
  | t => t

theorem Ty.underPtrs_ne_ptr (t e : Ty) : t.underPtrs ≠ .ptr e := by
  induction t with
  | ptr t ih => exact ih
  | _ => simp [Ty.underPtrs]

namespace Catalog

/-- The declarations whose names are not among `seen`. -/
def unseen (c : Catalog) (seen : List String) : List Decl :=
  c.decls.filter fun d => d.name ∉ seen

/-- The declaration found for a name is one of those not yet seen, until the
    name is seen. -/
theorem length_unseen_cons_lt {c : Catalog} {n : String} {seen : List String} {d : Decl}
    (h : c.find? n = some d) (hn : n ∉ seen) :
    (c.unseen (n :: seen)).length < (c.unseen seen).length := by
  have hd : d ∈ c.decls ∧ d.name = n := by
    simp only [find?] at h
    exact ⟨List.mem_of_find?_eq_some h, by simpa using List.find?_some h⟩
  have heq : c.unseen (n :: seen) = (c.unseen seen).filter fun x => x.name ≠ n := by
    simp only [unseen, List.filter_filter]
    congr 1
    funext x
    simp
  rw [heq, List.length_filter_lt_length_iff_exists]
  exact ⟨d, List.mem_filter.mpr ⟨hd.1, by simp [hd.2, hn]⟩, by simp [hd.2]⟩

/-- The type under all pointers of `t`, through declared pointer types too
    (see `derefTy`); `seen` holds the declared pointer types looked through
    so far. Each declared pointer type is looked through once, so the
    declarations not yet seen bound the recursion, and it evaluates. -/
@[semireducible]
def derefFrom (c : Catalog) (seen : List String) (t : Ty) : Ty :=
  match t.underPtrs with
  | .named n =>
    match _h : c.find? n with
    | some { underlying := .other (.ptr e), .. } =>
      if _hn : n ∈ seen then .named n else c.derefFrom (n :: seen) e
    | _ => .named n
  | t => t
termination_by (c.unseen seen).length
decreasing_by exact length_unseen_cons_lt _h _hn

/-- The type under all pointers of `t`, declared pointer types included. A
    declared pointer type met a second time points, through pointers, to
    itself: the host would look through it forever, and it is where this
    stops. -/
def derefTy (c : Catalog) (t : Ty) : Ty := c.derefFrom [] t

/-- The type of the member `field` of values of type `t`, which is not an
    interface: an exported field of a struct, the values of a map with
    string keys. -/
def memberTy (c : Catalog) (t : Ty) (field : String) : Except Fault Ty :=
  match c.kind t with
  | .struct => match c.fieldByName t field with
    | some (f, _) =>
      if f.exported then .ok f.ty else .error (unknownMember t field (c.exportedFields t))
    | none => .error (unknownMember t field (c.exportedFields t))
  | .map => match c.underlying t with
    | .other (.map k v) =>
      if c.kind k == .string then .ok v else .error (unknownMember t field [])
    | _ => .error (unknownMember t field [])
  | _ => .error (unknownMember t field [])

/-- The check of the member `field` of values of static type `source`,
    wanted at type `want` (see the module header). -/
def checkMember (c : Catalog) (source : Ty) (field : String) (want : Ty) : Except Fault Unit :=
  let from_ := c.derefTy source
  if c.kind from_ == .iface then .ok ()
  else do
    let found ← c.memberTy from_ field
    unless c.compatible found want do
      throw ((Fault.of .typeMismatch).withAttrs
        [Attr.str "kind" "Member", Attr.str "field" field, Attr.str "have" found.name,
          Attr.str "want" want.name])

end Catalog

namespace Value

/-- The value under all non-nil pointers. -/
def deref : Value → Value
  | .ptr _ (some (_, v)) => deref v
  | v => v

/-- The value at the path of field positions `path` in a struct value: none
    when a nil pointer is on the way. -/
def fieldAt : Value → List Nat → Option Value
  | v, [] => some v
  | .struct _ fs, [i] => fs[i]?
  | .struct _ fs, i :: rest => match fs[i]? with
    | some (.ptr _ (some (_, inner))) => fieldAt inner rest
    | some (.ptr _ none) => none
    | some other => fieldAt other rest
    | none => none
  | _, _ :: _ => none

/-- The keys of map entries that are texts, in the order the map holds
    them: the order they were added in. -/
def stringKeys (es : List (Value × Value)) : List String :=
  es.filterMap fun e => match e.1 with
    | .str _ s => some s.text
    | _ => none

/-- The member `field` of a value (see the module header). -/
def memberOf (c : Catalog) (v : Value) (field : String) : Except Fault Value :=
  let nilValue := (Fault.of .nilValue).withAttrs [Attr.str "field" field]
  let v := deref v
  match v with
  | .nil => .error nilValue
  | .ptr _ none | .map _ _ none => .error nilValue
  | .struct t _ => match c.fieldByName t field with
    | some (f, path) =>
      if f.exported then
        match fieldAt v path with
        | some m => .ok m
        | none => .error nilValue
      else .error (unknownMember t field (c.exportedFields t))
    | none => .error (unknownMember t field (c.exportedFields t))
  | .map t _ (some es) =>
    match c.underlying t with
    | .other (.map k _) =>
      if c.kind k == .string then
        match es.find? (fun e => match e.1 with
            | .str _ s => s == .ofString field
            | _ => false) with
        | some (_, m) => .ok m
        | none => .error (unknownMember t field (stringKeys es))
      else .error (unknownMember t field [])
    | _ => .error (unknownMember t field [])
  | other => match other.ty? with
    | some t => .error (unknownMember t field [])
    | none => .error nilValue

/-- The fault of a position past the end of a sequence. -/
def outOfRange (index length : Nat) : Fault :=
  (Fault.of .indexOutOfRange).withAttrs [Attr.int "index" index, Attr.int "length" length]

/-- The element at position `index` of a value (see the module header). -/
def elementOf (v : Value) (index : Nat) : Except Fault Value :=
  let nilValue := (Fault.of .nilValue).withAttrs [Attr.int "index" index]
  let pick (xs : List Value) : Except Fault Value :=
    match xs[index]? with
    | some x => .ok x
    | none => .error (outOfRange index xs.length)
  match deref v with
  | .nil | .ptr _ none => .error nilValue
  | .slice _ _ none => pick []
  | .slice _ _ (some xs) => pick xs
  | .array _ xs => pick xs
  | .str _ s =>
    let cs := s.runes
    match cs[index]? with
    | some ch => .ok (.ofString (String.singleton ch))
    | none => .error (outOfRange index cs.length)
  | other => .error ((Fault.of .typeMismatch).withAttrs
      [Attr.str "kind" "ArrayIndex", Attr.str "have" ((other.ty?.map Ty.name).getD "")])

end Value

end ExprTree
