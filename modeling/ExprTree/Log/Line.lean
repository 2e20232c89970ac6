import ExprTree.Log.Logger
import ExprTree.Log.Json
import ExprTree.Text.Cells
import ExprTree.Text.Duration
import ExprTree.Text.Quote
import ExprTree.Data.Show

/-!
# Record lines

The line a logger writes for a record (`Logger.line`), in one of three forms:

* *text*: `key=value` pairs separated by blanks, a text quoted with escapes
  when it is empty or holds a blank, `=`, a quote, a control character, the
  replacement character or a character that is no printable one
  (`needsQuoting`); host values in their
  detailed text, byte slices always quoted;
* *pretty* text, for a terminal: the same pairs, nothing quoted, each key and
  value laid out as a block of cells (`Text.block`), levels by their upper
  case name (`TRACE`);
* *JSON*: one object of the pairs, groups as nested objects, host values in
  their JSON text, a value without JSON text as `!ERROR:` and the reason.

A line starts with the record's time (when the layout is not empty), level,
call site (when asked for) and message; then come the attributes added to
the logger, then the record's own, all under the record's group when it has
one. Attributes of a group are keyed by the group's key and a dot, or inlined
for the empty key; a group without attributes is left out, and so is an
attribute of the empty key and no value. At the top level the key `time` is
dropped when the layout is empty, and a level under the key `level` is
written by its name. A value that resolves itself is written as the group it
resolves to; the pretty form first offers it, unresolved, to that rewriting,
so at the top level under the key `time` it is dropped too.

The time and the call site come from outside (`Stamp`): the time as the
text of the logger's layout, the call site as a text.
-/

namespace ExprTree.Log

/-- The time a record was made, as the text of a layout, and the text of the
    place it was logged from. -/
structure Stamp where
  time : String → String
  source : String
  deriving Inhabited

/-- Whether an attribute is the empty one: the empty key and no value. -/
def isEmptyAttr (k : String) (v : AttrValue) : Bool :=
  k.isEmpty && match v with
    | .any .nil => true
    | _ => false

/-- An attribute as the configuration has it written, none when it is dropped
    (see the module header); `top` tells an attribute outside all groups. -/
def Config.replace (c : Config) (top : Bool) (k : String) (v : AttrValue) :
    Option (String × AttrValue) :=
  if !top then some (k, v)
  else if k == "time" && c.timeLayout.isEmpty then none
  else if k == "level" then
    match v with
    | .level l => some (k, .str (Text.upper (levelName l)))
    | v => some (k, v)
  else some (k, v)

/-- Whether a text is quoted in the text form (see the module header). -/
def needsQuoting (s : String) : Bool :=
  s.isEmpty || s.toList.any fun c =>
    if c.toNat < 0x80 then
      c == ' ' || c == '=' || c == '"' || c.toNat < 0x20
    else c == '�' || Text.isSpace c || !Text.isPrint c

/-- A text of the text form, quoted when it must be. -/
def textToken (s : String) : String :=
  if needsQuoting s then Text.quote s else s

/-- The bytes of a slice of bytes, none for any other value. -/
def byteSlice? (c : Catalog) (v : Value) : Option (List UInt8) :=
  match v with
  | .slice t _ xs =>
    match c.underlying t with
    | .other (.slice e) =>
      if c.underlying e == .other (.uint .size8) then
        some ((xs.getD []).map fun x => match x with
          | .int _ n => n.toNat.toUInt8
          | _ => 0)
      else none
    | _ => none
  | _ => none

/-- A float as the shortest text that reads back, in general form. -/
def floatToken (bits : UInt64) : String := Number.generalText Number.Format.double bits

/-- The value of an attribute in the text form. -/
def textValue (c : Catalog) : AttrValue → String
  | .str s => textToken s
  | .int i => Number.intText i
  | .uint n => Number.intText n
  | .float b => floatToken b
  | .bool b => if b then "true" else "false"
  | .duration ns => Text.durationText ns
  | .level l => textToken (standardLevelName l)
  | .any v => match byteSlice? c v with
    | some bs => Text.quoteBytes bs
    | none => textToken (v.detailText c)
  | .group _ | .valuer _ => ""

/-- A level name in the pretty form: a block when it reads back as a named
    level, else as it is. -/
def prettyLevel (name : String) : String :=
  if namedLevels.contains (parseLevel name) then Text.block name else name

/-- The value of an attribute of key `k` in the pretty form. -/
def prettyValue (c : Catalog) (k : String) : AttrValue → String
  | .str s => if k == "level" then prettyLevel s else Text.block s
  | .int i => Number.intText i
  | .uint n => Number.intText n
  | .float b => floatToken b
  | .bool b => if b then "true" else "false"
  | .duration ns => Text.block (Text.durationText ns)
  | .level l => prettyLevel (Text.upper (levelName l))
  | .any v => Text.block (v.text c)
  | .group _ | .valuer _ => ""

/-- The style of texts in JSON lines: no HTML escapes, control characters by
    number. -/
def lineStyle : JsonStyle := { html := false, shortControls := false }

/-- A text as a JSON string of a line. -/
def jsonToken (s : String) : String := lineStyle.quote s

/-- The value of an attribute in the JSON form. -/
def jsonValue (c : Catalog) : AttrValue → String
  | .str s => jsonToken s
  | .int i => Number.intText i
  | .uint n => Number.intText n
  | .float b => match Value.jsonFloat Number.Format.double b with
    | .ok t => t
    | .error e => jsonToken ("!ERROR:" ++ e)
  | .bool b => if b then "true" else "false"
  | .duration ns => Number.intText ns
  | .level l => jsonToken (standardLevelName l)
  | .any v => match v.toJson c { html := false } with
    | .ok t => t
    | .error e => jsonToken ("!ERROR:" ++ e)
  | .group _ | .valuer _ => ""

/-- The prefix of keys inside a group of key `k` within prefix `pre`. -/
def groupPrefix (pre k : String) : String := if k.isEmpty then pre else pre ++ k ++ "."

/-- The `key=value` pair of an attribute that is no group and resolves to
    none, under a key prefix: none when the configuration drops it or it is
    the empty attribute. -/
def valuePairs (c : Catalog) (cfg : Config) (pretty : Bool) (pre k : String) (v : AttrValue) :
    List String :=
  match cfg.replace pre.isEmpty k v with
  | none => []
  | some (k, v) =>
    if isEmptyAttr k v then []
    else if pretty then [Text.block (pre ++ k) ++ "=" ++ prettyValue c k v]
    else [textToken (pre ++ k) ++ "=" ++ textValue c v]

mutual

/-- The `key=value` pairs of an attribute under a key prefix, in the text
    form when `pretty` fails, else in the pretty form. -/
def attrPairs (c : Catalog) (cfg : Config) (pretty : Bool) (pre : String) : Attr → List String
  | .mk k (.group inner) => pairs c cfg pretty (groupPrefix pre k) inner
  | .mk k (.valuer inner) =>
    -- the pretty form offers the value to the configuration before resolving
    -- it, the text form after, when it is a group and so left alone
    if pretty && (cfg.replace pre.isEmpty k (.valuer inner)).isNone then []
    else pairs c cfg pretty (groupPrefix pre k) inner
  | .mk k v => valuePairs c cfg pretty pre k v

/-- The `key=value` pairs of attributes under a key prefix, in the text form
    when `pretty` fails, else in the pretty form. -/
def pairs (c : Catalog) (cfg : Config) (pretty : Bool) (pre : String) : List Attr → List String
  | [] => []
  | a :: rest => attrPairs c cfg pretty pre a ++ pairs c cfg pretty pre rest

end

/-- The members of the JSON object of attributes; `top` tells attributes
    outside all groups. -/
def members (c : Catalog) (cfg : Config) (top : Bool) : List Attr → List String
  | [] => []
  | .mk k (.group inner) :: rest | .mk k (.valuer inner) :: rest =>
    let inside := members c cfg (top && k.isEmpty) inner
    let here :=
      if inside.isEmpty || k.isEmpty then inside
      else [jsonToken k ++ ":\x7b" ++ ",".intercalate inside ++ "\x7d"]
    here ++ members c cfg top rest
  | .mk k v :: rest =>
    let here := match cfg.replace top k v with
      | none => []
      | some (k, v) => if isEmptyAttr k v then [] else [jsonToken k ++ ":" ++ jsonValue c v]
    here ++ members c cfg top rest

/-- The upper case name of a level. -/
def levelWord (l : Level) : String := Text.upper (levelName l)

/-- The line of a record in the text or pretty form. -/
def Config.textLine (cfg : Config) (c : Catalog) (st : Stamp) (preset : List Attr)
    (group : String) (r : Record) : String :=
  let pretty := cfg.pretty
  let token (s : String) := if pretty then Text.block s else textToken s
  let time := if cfg.timeLayout.isEmpty then [] else ["time=" ++ token (st.time cfg.timeLayout)]
  let level := ["level=" ++ (if pretty then prettyLevel (levelWord r.level) else levelWord r.level)]
  let source := if cfg.caller then ["source=" ++ token st.source] else []
  let msg := ["msg=" ++ token r.msg]
  let own := pairs c cfg pretty (groupPrefix "" group) r.attrs
  " ".intercalate (time ++ level ++ source ++ msg ++ pairs c cfg pretty "" preset ++ own) ++ "\n"

/-- The line of a record in the JSON form. -/
def Config.jsonLine (cfg : Config) (c : Catalog) (st : Stamp) (preset : List Attr)
    (group : String) (r : Record) : String :=
  let field (k v : String) := jsonToken k ++ ":" ++ jsonToken v
  let time := if cfg.timeLayout.isEmpty then [] else [field "time" (st.time cfg.timeLayout)]
  let source := if cfg.caller then [field "source" st.source] else []
  let own := members c cfg group.isEmpty r.attrs
  let own := if group.isEmpty || own.isEmpty then own
    else [jsonToken group ++ ":\x7b" ++ ",".intercalate own ++ "\x7d"]
  let all := time ++ [field "level" (levelWord r.level)] ++ source ++ [field "msg" r.msg] ++
    members c cfg true preset ++ own
  "\x7b" ++ ",".intercalate all ++ "\x7d\n"

/-- The line a configuration writes for a record. -/
def Config.line (cfg : Config) (c : Catalog) (st : Stamp) (preset : List Attr)
    (group : String) (r : Record) : String :=
  match cfg.format with
  | .json => cfg.jsonLine c st preset group r
  | .text => cfg.textLine c st preset group r

/-- What a logger writes for a record under a group (the empty group for
    none): its line when it writes the record's level to its stream, else
    nothing. -/
def Logger.line (l : Logger) (c : Catalog) (st : Stamp) (group : String) (r : Record) : String :=
  match l with
  | .zero => ""
  | .active cfg preset =>
    if cfg.output == .stream && decide (cfg.level ≤ r.level) then cfg.line c st preset group r
    else ""

end ExprTree.Log
