/-!
# Host types

The types of the host values that expressions read: the basic types, slices,
arrays, maps, pointers, the empty interface `any`, the function type of
evaluated lambdas, and declared types, which a `Catalog` describes by name.

A type has a *kind* (`Ty.Kind`), the form of its data: a declared type has the
kind of its underlying type. Two rules decide which values a typed slot takes:

* `Ty.assignable`: identical types; types of identical underlying type of
  which one is a type literal (a slice, array, map or pointer type, or `any`);
  and any type to the interface `any`;
* `Ty.compatible`: assignable, or from an interface, whose dynamic value may
  be of the wanted type.

`Catalog.fieldByName` finds a field of a struct as the host does: a field of
the struct itself, else the only field of that name at the least depth of
embedding, through embedded structs and pointers to them.
-/

namespace ExprTree

/-- The width of a fixed-size integer type; `word` is the machine word of the
    types written `int` and `uint` (64 bits). -/
inductive IntSize where
  | size8
  | size16
  | size32
  | size64
  | word
  deriving DecidableEq, Repr

namespace IntSize

/-- The number of bits. -/
def bits : IntSize → Nat
  | size8 => 8
  | size16 => 16
  | size32 => 32
  | size64 => 64
  | word => 64

/-- The suffix of the type name: `int8`, …, and none for the word. -/
def suffix : IntSize → String
  | size8 => "8"
  | size16 => "16"
  | size32 => "32"
  | size64 => "64"
  | word => ""

end IntSize

/-- A host type. Declared types are known by their qualified name, with their
    definition in a `Catalog`. -/
inductive Ty where
  /-- The empty interface, written `interface {}`. -/
  | any
  | bool
  | string
  /-- A signed integer type. -/
  | int (size : IntSize)
  /-- An unsigned integer type. -/
  | uint (size : IntSize)
  /-- A binary floating point type, of 32 bits when `single`. -/
  | float (single : Bool)
  | slice (elem : Ty)
  | array (len : Nat) (elem : Ty)
  | map (key val : Ty)
  | ptr (elem : Ty)
  /-- The type of evaluated lambdas. -/
  | func
  /-- A declared type, by qualified name. -/
  | named (name : String)
  deriving DecidableEq, Repr, Inhabited

namespace Ty

/-- The type of the byte slices. -/
def bytes : Ty := .slice (.uint .size8)

/-- The text of a type: `interface {}`, `[]int`, `map[string]bool`,
    `*main.Point`, `lang.Func`. -/
def name : Ty → String
  | any => "interface {}"
  | bool => "bool"
  | string => "string"
  | int s => "int" ++ s.suffix
  | uint s => "uint" ++ s.suffix
  | float single => if single then "float32" else "float64"
  | slice e => "[]" ++ e.name
  | array n e => "[" ++ toString n ++ "]" ++ e.name
  | map k v => "map[" ++ k.name ++ "]" ++ v.name
  | ptr e => "*" ++ e.name
  | func => "lang.Func"
  | named n => n

/-- The form of the data of a type. -/
inductive Kind where
  | bool
  | int
  | uint
  | float
  | string
  | slice
  | array
  | map
  | ptr
  | struct
  | iface
  | func
  deriving DecidableEq, Repr

/-- Whether the type is written as a literal rather than named: these may
    take values of a declared type of the same underlying type. -/
def isLiteral : Ty → Bool
  | any | slice _ | array _ _ | map _ _ | ptr _ => true
  | _ => false

/-- The number of type constructors written in a type; a declared type
    counts one. -/
def size : Ty → Nat
  | slice e | ptr e | array _ e => e.size + 1
  | map k v => k.size + v.size + 1
  | _ => 1

end Ty

/-- A field of a declared struct type. -/
structure Field where
  /-- The field name; an embedded field is named by its type. -/
  name : String
  /-- The field type. -/
  ty : Ty
  /-- Whether the field is embedded, its fields promoted. -/
  embedded : Bool := false
  deriving DecidableEq, Repr

namespace Field

/-- Whether the field is visible outside its package: its name starts with
    an upper case letter. -/
def exported (f : Field) : Bool :=
  match f.name.toList with
  | c :: _ => 'A' ≤ c && c ≤ 'Z'
  | [] => false

end Field

/-- What a declared type stands for. -/
inductive Underlying where
  /-- A struct of fields in declaration order. -/
  | struct (fields : List Field)
  /-- Another type, not a struct. -/
  | other (ty : Ty)
  deriving DecidableEq, Repr

/-- The size of a definition: that of its type, or one more than those of
    its fields' types. -/
def Underlying.size : Underlying → Nat
  | .struct fs => fs.foldr (fun f n => f.ty.size + n) 1
  | .other t => t.size

/-- A declared type. -/
structure Decl where
  /-- The qualified name, e.g. `main.User`. -/
  name : String
  /-- The definition. -/
  underlying : Underlying
  /-- For an integer type with names of its values: the names of `0, 1, …`
      and the name of any other value. -/
  labels : Option (List String × String) := none
  deriving DecidableEq, Repr

/-- The declared types in scope. -/
structure Catalog where
  /-- The declarations. -/
  decls : List Decl := []
  deriving Repr, Inhabited

namespace Catalog

/-- The declaration of a name. -/
def find? (c : Catalog) (name : String) : Option Decl :=
  c.decls.find? (·.name == name)

/-- The fields of `time.Time`, the one declared type of the host's library
    that a value read from a document can have: none of them exported. -/
def timeFields : List Field :=
  [⟨"wall", .uint .size64, false⟩, ⟨"ext", .int .size64, false⟩,
    ⟨"loc", .ptr (.named "time.Location"), false⟩]

/-- The underlying definition of a type: a declared type's definition,
    itself for the others (no declared type is defined as another declared
    type). A name the catalog does not declare is `time.Time`, a struct, or
    else stands for any value. -/
def underlying (c : Catalog) : Ty → Underlying
  | .named n => match c.find? n with
    | some d => d.underlying
    | none => if n == "time.Time" then .struct timeFields else .other .any
  | t => .other t

/-- The kind of a type. -/
def kind (c : Catalog) (t : Ty) : Ty.Kind :=
  match c.underlying t with
  | .struct _ => .struct
  | .other u => match u with
    | .any => .iface
    | .bool => .bool
    | .string => .string
    | .int _ => .int
    | .uint _ => .uint
    | .float _ => .float
    | .slice _ => .slice
    | .array _ _ => .array
    | .map _ _ => .map
    | .ptr _ => .ptr
    | .func => .func
    | .named _ => .struct

/-- The fields of a struct type, none for other types. -/
def fields (c : Catalog) (t : Ty) : List Field :=
  match c.underlying t with
  | .struct fs => fs
  | .other _ => []

/-- Whether a value of type `given` may be stored in a slot of type `want`. -/
def assignable (c : Catalog) (given want : Ty) : Bool :=
  given == want || want == .any ||
    ((given.isLiteral || want.isLiteral) && c.underlying given == c.underlying want)

/-- Whether a value of static type `given` may stand where `want` is wanted:
    assignable, or from an interface. -/
def compatible (c : Catalog) (given want : Ty) : Bool :=
  c.assignable given want || c.kind given == .iface

/-- Whether values of a type can be compared with `==`: not slices, maps and
    functions, nor arrays and structs holding them. Declared types are looked
    up at most `fuel` times deep. -/
def comparable (c : Catalog) : Nat → Ty → Bool
  | 0, _ => true
  | fuel + 1, t => match c.underlying t with
    | .struct fs => fs.all fun f => c.comparable fuel f.ty
    | .other u => match u with
      | .slice _ | .map _ _ | .func => false
      | .array _ e => c.comparable fuel e
      | _ => true

/-- The depth bound for the search of embedded fields: a level of the
    search that finds a field does so in a declared struct type not opened
    on a level before it. -/
def depth (c : Catalog) : Nat := c.decls.length + 8

/-- The fuel that walking `t` through the declared types needs: each step
    goes into a part of a written type or into a declared type's definition,
    and on one walk a declared type comes back only under a pointer, a
    slice, a map or a function, where the walk ends, so the sizes of `t` and
    of every definition bound its length. -/
def sizeBound (c : Catalog) (t : Ty) : Nat :=
  c.decls.foldr (fun d n => d.underlying.size + n) t.size

/-- Whether values of a type can be compared with `==`. -/
def isComparable (c : Catalog) (t : Ty) : Bool := c.comparable (c.sizeBound t) t

/-- The struct type that an embedded field of type `t` opens: the type itself
    or, for a pointer, its element. -/
def embeddedStruct (t : Ty) : Ty :=
  match t with
  | .ptr e => e
  | _ => t

/-- The fields named `name` found at depth `d` below the struct types `level`
    (each with the path of field positions leading to it, reversed), and the
    struct types opened by the embedded fields of that level. -/
def fieldsAt (c : Catalog) (name : String) (level : List (Ty × List Nat)) :
    List (Field × List Nat) × List (Ty × List Nat) :=
  let step (acc : List (Field × List Nat) × List (Ty × List Nat)) (entry : Ty × List Nat) :=
    let (found, next) := acc
    let (t, path) := entry
    let fs := (c.fields t).zipIdx
    let found := found ++ (fs.filter (·.1.name == name)).map fun (f, i) => (f, i :: path)
    let next := next ++ (fs.filter fun (f, _) =>
      f.embedded && c.kind (embeddedStruct f.ty) == .struct).map fun (f, i) =>
        (embeddedStruct f.ty, i :: path)
    (found, next)
  level.foldl step ([], [])

/-- The field named `name` of the struct type `t`, with the positions of the
    fields on its path (outermost first): the field at the least depth of
    embedding, if it is the only one there. Searches at most `fuel` levels. -/
def fieldSearch (c : Catalog) (name : String) :
    Nat → List (Ty × List Nat) → Option (Field × List Nat)
  | 0, _ => none
  | fuel + 1, level =>
    if level.isEmpty then none
    else
      let (found, next) := c.fieldsAt name level
      match found with
      | [(f, path)] => some (f, path.reverse)
      | [] => c.fieldSearch name fuel next
      | _ => none

/-- The field named `name` of the struct type `t` and its path of field
    positions, by the rule of the module header. -/
def fieldByName (c : Catalog) (t : Ty) (name : String) : Option (Field × List Nat) :=
  c.fieldSearch name c.depth [(t, [])]

/-- The names of the exported fields of a struct type, in declaration order. -/
def exportedFields (c : Catalog) (t : Ty) : List String :=
  (c.fields t).filter (·.exported) |>.map (·.name)

/-- The names of the values of a labelled integer type. -/
def labels (c : Catalog) (t : Ty) : Option (List String × String) :=
  match t with
  | .named n => (c.find? n).bind (·.labels)
  | _ => none

end Catalog

end ExprTree
