import ExprTree.Fault

/-!
# Error objects

The errors of the library as the program holds them: pointers to the objects
of a heap (`Heap`) that only grows. An object is

* an error object (`Record`): a message, the error it wraps, the root it was
  derived from (`base`, none for a root) and its attributes, a slice of one of
  the heap's backing arrays (`Slice`);
* any other error (`Obj.plain`): its text and the error it wraps.

Making an error allocates an object and changes none:

* `Heap.newError` makes a root of a message, `Heap.plainError` an error of a
  text, and `Heap.wrapError` finds the error object on an error's chain or
  makes a root that wraps the error;
* `Heap.withAttrs` makes an object whose attributes are a fresh array of the
  exact length, filled by two copies: its receiver's attributes, then the new
  ones;
* `Heap.wrap` makes an object of a new cause that shares its receiver's slice;

and both of the last point the new object's base at their receiver's root
(`Heap.root`), never at the receiver.

The readers are the text of an error (`Heap.text`), the error it wraps
(`Heap.unwrap`), the attributes of an object (`Heap.attrs`), its log value
(`Heap.logValue`), an object's own test of a target, which holds when the two
share their root (`Heap.ownIs`), and the test of an error and those on its
chain against a target (`Heap.is`).

An error refers only to errors made before it, so a reader follows a reference
only to a lower address, which is how its recursion ends. The sentinels are
the first objects of the heap, in the order of `Sentinel.all` (`Heap.init`).
-/

namespace ExprTree

/-- A slice of attributes: `len` items from `off` on in a backing array, of
    which `cap` items are in reach before an append must copy them. The nil
    slice has no array. -/
structure Slice where
  array : Option Nat
  off : Nat
  len : Nat
  cap : Nat
  deriving DecidableEq, Repr

namespace Slice

/-- The nil slice. -/
def nil : Slice := ⟨none, 0, 0, 0⟩

/-- The items from `k` on: `s[k:]`. -/
def drop (s : Slice) (k : Nat) : Slice := ⟨s.array, s.off + k, s.len - k, s.cap - k⟩

end Slice

/-- The zero attribute, which a new array holds until it is written. -/
def Attr.zero : Attr := .mk "" default

/-- An error object: its message, the error it wraps, the root it was derived
    from and its attributes. -/
structure Record where
  msg : String
  err : Option Nat
  base : Option Nat
  attrs : Slice

/-- An object of the heap. -/
inductive Obj where
  /-- An error object. -/
  | record (r : Record)
  /-- Any other error: its text, and the error it wraps. -/
  | plain (text : String) (inner : Option Nat)

/-- The error an object wraps. -/
def Obj.inner : Obj → Option Nat
  | .record r => r.err
  | .plain _ w => w

/-- The objects made so far, at their addresses, and the backing arrays of the
    attribute slices. -/
structure Heap where
  objs : List Obj
  arrays : List (List Attr)

/-- The address of a sentinel: its place in `Sentinel.all`. -/
def Sentinel.addr (s : Sentinel) : Nat := Sentinel.all.idxOf s

namespace Heap

/-- The object at an address. -/
def obj? (h : Heap) (a : Nat) : Option Obj := h.objs[a]?

/-- The error object at an address. -/
def record? (h : Heap) (a : Nat) : Option Record :=
  match h.obj? a with
  | some (.record r) => some r
  | _ => none

/-- A new object, at the first free address. -/
def alloc (h : Heap) (o : Obj) : Heap × Nat := (⟨h.objs ++ [o], h.arrays⟩, h.objs.length)

/-- A new array of `n` zero attributes, as the slice of all of it. -/
def make (h : Heap) (n : Nat) : Heap × Slice :=
  (⟨h.objs, h.arrays ++ [List.replicate n Attr.zero]⟩, ⟨some h.arrays.length, 0, n, n⟩)

/-- The items of a slice. -/
def read (h : Heap) (s : Slice) : List Attr :=
  match s.array with
  | some i => ((h.arrays[i]?.getD []).drop s.off).take s.len
  | none => []

/-- Copies the first items of `src`, as many as fit, into the window of
    `dst`, in place. -/
def copy (h : Heap) (dst : Slice) (src : List Attr) : Heap :=
  match dst.array with
  | some i => ⟨h.objs, h.arrays.modify i fun arr =>
      arr.take dst.off ++ src.take dst.len ++ arr.drop (dst.off + min dst.len src.length)⟩
  | none => h

/-- The root an object was derived from: its base, or the object itself. -/
def root (h : Heap) (a : Nat) : Nat :=
  match h.record? a with
  | some r => r.base.getD a
  | none => a

/-- A root of a message. -/
def newError (h : Heap) (msg : String) : Heap × Nat :=
  h.alloc (.record ⟨msg, none, none, .nil⟩)

/-- An error of a text, wrapping nothing. -/
def plainError (h : Heap) (text : String) : Heap × Nat := h.alloc (.plain text none)

/-- The first error object on the chain of an error. -/
def asRecord (h : Heap) (a : Nat) : Option Nat :=
  match h.obj? a with
  | some (.record _) => some a
  | some (.plain _ (some c)) => if _ : c < a then h.asRecord c else none
  | _ => none
termination_by a

/-- An error as an error object: the first one on its chain, or a new root of
    no message that wraps it. -/
def wrapError (h : Heap) (err : Option Nat) : Heap × Nat :=
  match err.bind h.asRecord with
  | some a => (h, a)
  | none => h.alloc (.record ⟨"", err, none, .nil⟩)

/-- The object of the message, root and attributes of `e`, wrapping `err`:
    it shares the slice of `e`. -/
def wrap (h : Heap) (e : Nat) (err : Option Nat) : Heap × Nat :=
  match h.record? e with
  | some r => h.alloc (.record ⟨r.msg, err, some (h.root e), r.attrs⟩)
  | none => (h, e)

/-- The object of the message, cause and root of `e`, with more attributes
    after those of `e`: a fresh array of their total length takes the
    attributes of `e`, and then the new ones after them. -/
def withAttrs (h : Heap) (e : Nat) (more : List Attr) : Heap × Nat :=
  match h.record? e with
  | some r =>
    let made := h.make (r.attrs.len + more.length)
    let copied := made.1.copy made.2 (made.1.read r.attrs)
    let filled := copied.copy (made.2.drop r.attrs.len) more
    filled.alloc (.record ⟨r.msg, r.err, some (h.root e), made.2⟩)
  | none => (h, e)

/-- The error an error wraps. -/
def unwrap (h : Heap) (a : Nat) : Option Nat := (h.obj? a).bind Obj.inner

/-- The text of an error: an error object's message and the text of the
    error it wraps, joined by `": "`, leaving out an empty message and a
    missing cause. -/
def text (h : Heap) (a : Nat) : String :=
  match h.obj? a with
  | some (.record r) =>
    ": ".intercalate ((if r.msg.isEmpty then [] else [r.msg]) ++
      match r.err with
      | some c => if _ : c < a then [h.text c] else []
      | none => [])
  | some (.plain t _) => t
  | none => ""
termination_by a

/-- The attributes of an error object, as a new list. -/
def attrs (h : Heap) (a : Nat) : List Attr :=
  match h.record? a with
  | some r => h.read r.attrs
  | none => []

/-- The log value of an error object: the group of its message as `error`,
    the text of its cause as `cause` and its attributes; any other error logs
    as its text. -/
def logValue (h : Heap) (a : Nat) : AttrValue :=
  match h.record? a with
  | some r =>
    .group ((if r.msg.isEmpty then [] else [Attr.str "error" r.msg]) ++
      (match r.err with
        | some c => [Attr.str "cause" (h.text c)]
        | none => []) ++ h.read r.attrs)
  | none => .str (h.text a)

/-- An error object's own test of a target: the target is an error object
    and is the object itself or shares its root. -/
def ownIs (h : Heap) (a t : Nat) : Bool :=
  match h.record? a, h.record? t with
  | some _, some _ => a == t || h.root a == h.root t
  | _, _ => false

/-- Whether an error, or one on the chain of errors it wraps, is the target
    or passes its own test of it (`Heap.ownIs`). -/
def is (h : Heap) (a t : Nat) : Bool :=
  a == t || h.ownIs a t ||
    match h.unwrap a with
    | some c => if _ : c < a then h.is c t else false
    | none => false
termination_by a

/-- The heap before any error is made: the sentinels, in order. -/
def init : Heap := ⟨Sentinel.all.map fun s => .record ⟨s.message, none, none, .nil⟩, []⟩

end Heap

end ExprTree
