import ExprTree.Data.Value

/-!
# Faults

The errors of this library. A `Fault` is either *structured*, with the
sentinel it derives from, a message, an optional cause and attributes that
say what went wrong, or *plain*, known by its text alone (the errors of
readers and writers), possibly wrapping another fault.

* The text of a fault (`Fault.message`) joins its message and its cause's
  text with `": "`, leaving out an empty message and a missing cause.
* A fault *is* a sentinel (`Fault.is`) when it derives from it or its cause,
  followed down the chain, does.
* As a log value (`Fault.logValue`) a structured fault is the group of its
  message as `error`, its cause's text as `cause` and then its attributes;
  given as an attribute's value (`Fault.attrValue`) it resolves itself to
  that group when logged.

`Attr` is a key with a value of a log record, the values a record carries
(`AttrValue`): numbers, text, durations, levels, groups, host values and
values that resolve themselves to a group when logged.
-/

namespace ExprTree

/-- The named errors faults derive from. -/
inductive Sentinel where
  | invalidIdentifier
  | nilOperand
  | unknownMember
  | typeMismatch
  | negativeIndex
  | emptyParameters
  | duplicateParameter
  | shadowedParameter
  | unscopedParameter
  | unboundParameter
  | indexOutOfRange
  | nilValue
  | arityMismatch
  | unsupportedDialect
  | decode
  | readInput
  | openSource
  | invalidBinding
  | readBindings
  | notCallable
  | writeOutput
  | writeConfig
  | fileExists
  deriving DecidableEq, Repr

namespace Sentinel

/-- Every sentinel, tree errors first, then command errors. -/
def all : List Sentinel :=
  [invalidIdentifier, nilOperand, unknownMember, typeMismatch, negativeIndex,
    emptyParameters, duplicateParameter, shadowedParameter, unscopedParameter,
    unboundParameter, indexOutOfRange, nilValue, arityMismatch, unsupportedDialect,
    decode, readInput, openSource, invalidBinding, readBindings, notCallable,
    writeOutput, writeConfig, fileExists]

/-- The message of a sentinel. -/
def message : Sentinel → String
  | invalidIdentifier => "invalid identifier"
  | nilOperand => "nil operand"
  | unknownMember => "unknown member"
  | typeMismatch => "type mismatch"
  | negativeIndex => "negative array index"
  | emptyParameters => "lambda has no parameters"
  | duplicateParameter => "duplicate parameter"
  | shadowedParameter => "parameter instance does not match declaration"
  | unscopedParameter => "parameter referenced outside its lambda"
  | unboundParameter => "unbound parameter"
  | indexOutOfRange => "index out of range"
  | nilValue => "member access on nil value"
  | arityMismatch => "argument count mismatch"
  | unsupportedDialect => "unsupported by dialect"
  | decode => "invalid tree document"
  | readInput => "failed to read input"
  | openSource => "open source"
  | invalidBinding => "invalid binding"
  | readBindings => "read bindings file"
  | notCallable => "arguments given but result is not a lambda"
  | writeOutput => "write output"
  | writeConfig => "write configuration file"
  | fileExists => "file exists (use --force to overwrite)"

/-- The name of a sentinel; command errors carry the prefix `cmd.`. -/
def name : Sentinel → String
  | invalidIdentifier => "ErrInvalidIdentifier"
  | nilOperand => "ErrNilOperand"
  | unknownMember => "ErrUnknownMember"
  | typeMismatch => "ErrTypeMismatch"
  | negativeIndex => "ErrNegativeIndex"
  | emptyParameters => "ErrEmptyParameters"
  | duplicateParameter => "ErrDuplicateParameter"
  | shadowedParameter => "ErrShadowedParameter"
  | unscopedParameter => "ErrUnscopedParameter"
  | unboundParameter => "ErrUnboundParameter"
  | indexOutOfRange => "ErrIndexOutOfRange"
  | nilValue => "ErrNilValue"
  | arityMismatch => "ErrArityMismatch"
  | unsupportedDialect => "ErrUnsupportedDialect"
  | decode => "ErrDecode"
  | readInput => "ErrReadInput"
  | openSource => "cmd.ErrOpenSource"
  | invalidBinding => "cmd.ErrInvalidBinding"
  | readBindings => "cmd.ErrReadBindings"
  | notCallable => "cmd.ErrNotCallable"
  | writeOutput => "cmd.ErrWriteOutput"
  | writeConfig => "cmd.ErrWriteConfig"
  | fileExists => "cmd.ErrFileExists"

/-- The sentinel of a name. -/
def ofName? (s : String) : Option Sentinel := all.find? (·.name == s)

end Sentinel

mutual

/-- The value of an attribute of a log record. -/
inductive AttrValue where
  | str (s : String)
  | int (i : Int)
  | uint (n : Nat)
  /-- A float, as the bits of a double. -/
  | float (bits : UInt64)
  | bool (b : Bool)
  /-- A span of time in nanoseconds. -/
  | duration (ns : Int)
  /-- A log level. -/
  | level (n : Int)
  /-- A host value of any other type. -/
  | any (v : Value)
  /-- Attributes nested under the key. -/
  | group (attrs : List Attr)
  /-- A value that resolves itself, when it is logged, to the group of these
      attributes. -/
  | valuer (attrs : List Attr)

/-- A key and its value. -/
inductive Attr where
  | mk (key : String) (value : AttrValue)

end

instance : Inhabited AttrValue := ⟨.str ""⟩

/-- The attribute value of a host value: a value of one of the basic types
    `string`, `bool`, the integer and float types is held as such, a float
    as its double; a value of any other type, declared types of these
    underlying types included, is held as a host value. -/
def AttrValue.ofValue : Value → AttrValue
  | .str .string s => .str s.text
  | .bool .bool b => .bool b
  | .int (.int _) n => .int n
  | .int (.uint _) n => .uint n.toNat
  | .float (.float _) bits => .float bits
  | v => .any v

namespace Attr

/-- The key. -/
def key : Attr → String
  | mk k _ => k

/-- The value. -/
def value : Attr → AttrValue
  | mk _ v => v

/-- A text attribute. -/
def str (k s : String) : Attr := mk k (.str s)

/-- An integer attribute. -/
def int (k : String) (i : Int) : Attr := mk k (.int i)

/-- An attribute holding a list of texts, or nil. -/
def strings (k : String) (xs : Option (List String)) : Attr :=
  mk k (.any (.slice (.slice .string) 0 (xs.map (·.map Value.ofString))))

end Attr

/-- An error: structured, or plain text (see the module header). -/
inductive Fault where
  /-- An error known by its text, wrapping another fault or not. -/
  | plain (text : String) (wraps : Option Fault)
  /-- A structured error: its sentinel, if it derives from one, its message,
      its cause and its attributes. -/
  | structured (origin : Option Sentinel) (msg : String) (cause : Option Fault) (attrs : List Attr)
  deriving Inhabited

namespace Fault

/-- A sentinel as a fault. -/
def of (s : Sentinel) : Fault := structured (some s) s.message none []

/-- A fault of its own message, deriving from no sentinel. -/
def own (msg : String) : Fault := structured none msg none []

/-- A fault of a plain text. -/
def text (s : String) : Fault := plain s none

/-- The text of a fault. -/
def message : Fault → String
  | plain t _ => t
  | structured _ msg cause _ =>
    let parts := (if msg.isEmpty then [] else [msg]) ++
      (match cause with
        | some c => [c.message]
        | none => [])
    ": ".intercalate parts

/-- The fault with more attributes after its own. -/
def withAttrs (f : Fault) (more : List Attr) : Fault :=
  match f with
  | structured o m c a => structured o m c (a ++ more)
  | p => p

/-- The fault of the same sentinel, message and attributes, caused by `c`,
    or by nothing when `c` is none. -/
def withCause (f : Fault) (c : Option Fault) : Fault :=
  match f with
  | structured o m _ a => structured o m c a
  | p => p

/-- The fault of the same sentinel, message and attributes, caused by `c`. -/
def wrap (f : Fault) (c : Fault) : Fault := f.withCause (some c)

/-- The first structured fault on the chain of plain faults from `f`. -/
def structured? : Fault → Option Fault
  | plain _ (some inner) => inner.structured?
  | plain _ none => none
  | s => some s

/-- The structured fault a fault is or wraps, else a structured fault caused
    by it. -/
def absorb (f : Fault) : Fault :=
  f.structured?.getD (structured none "" (some f) [])

/-- Whether a fault derives from the sentinel `s`, or something on its chain
    of causes does. -/
def is (f : Fault) (s : Sentinel) : Bool :=
  match f with
  | plain _ (some inner) => inner.is s
  | plain _ none => false
  | structured o _ c _ => o == some s || (match c with
    | some c => c.is s
    | none => false)

/-- The attributes of a structured fault. -/
def attrs : Fault → List Attr
  | structured _ _ _ a => a
  | plain _ _ => []

/-- The cause of a fault: a structured fault's cause, or what a plain fault
    wraps. -/
def cause? : Fault → Option Fault
  | structured _ _ c _ => c
  | plain _ w => w

/-- The sentinel a fault derives from. -/
def origin? : Fault → Option Sentinel
  | structured o _ _ _ => o
  | plain _ _ => none

/-- A fault as the value of a log attribute: a structured fault is the group
    of its message, its cause's text and its attributes; a plain fault is its
    text. -/
def logValue : Fault → AttrValue
  | plain t _ => .str t
  | structured _ msg cause attrs =>
    .group ((if msg.isEmpty then [] else [Attr.str "error" msg]) ++
      (match cause with
        | some c => [Attr.str "cause" c.message]
        | none => []) ++ attrs)

/-- A fault given as the value of a log attribute: a structured fault
    resolves itself to its log value when it is logged; a plain fault is its
    text. -/
def attrValue (f : Fault) : AttrValue :=
  match f.logValue with
  | .group attrs => .valuer attrs
  | v => v

end Fault

end ExprTree
