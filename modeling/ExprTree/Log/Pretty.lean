import ExprTree.Log.Line

/-!
# The pretty handler

The handler behind the pretty form of a logger (`PrettyHandler`): its
configuration, the key prefix of the groups opened on it (`pre`, each
group's name followed by a dot) and the text of the attributes added to it,
written when they were added (`attrs`).

* `writeAll` writes attributes one after another (`writeAttr`) after the
  text written so far: a blank before each `key=value` token unless nothing
  was written yet; a group's attributes in its place, under its key and a
  dot (no prefix for the empty key); any other attribute first offered to
  the configuration's rewriting (`Config.replace`), which sees whether it
  sits in a group, and left out when that drops it or it is the empty
  attribute (`writeValue`). A value that resolves itself is offered to the
  rewriting before it is resolved, then written as the group it resolves
  to;
* `withAttrs` writes attributes under the prefix in force after those added
  before; `withGroup` opens a group, and the empty name opens none;
* `handle` writes a record's line: its time, level, call site (when asked
  for) and message, then the attributes added, then the record's own under
  the prefix in force, and a line feed.

The time is written through the rewriting too, which leaves it out when the
layout is empty.
-/

namespace ExprTree.Log

/-- A handler of records in the pretty form (see the module header). -/
structure PrettyHandler where
  /-- The configuration of the logger. -/
  config : Config
  /-- The key prefix of the groups opened. -/
  pre : String := ""
  /-- The attributes added, written. -/
  attrs : String := ""
  deriving Inhabited

namespace PrettyHandler

/-- A token written after a text: a blank between them, unless the text is
    empty. -/
def put (buf token : String) : String := if buf.isEmpty then token else buf ++ " " ++ token

/-- The token of an attribute of key `k` under the key prefix `pre`. -/
def token (c : Catalog) (pre k : String) (v : AttrValue) : String :=
  Text.block (pre ++ k) ++ "=" ++ prettyValue c k v

/-- An attribute that is no group and resolves to none written under a key
    prefix after the text `buf`: left out when the rewriting drops it or it
    is the empty attribute. -/
def writeValue (c : Catalog) (cfg : Config) (pre buf k : String) (v : AttrValue) : String :=
  match cfg.replace pre.isEmpty k v with
  | none => buf
  | some (k, v) => if isEmptyAttr k v then buf else put buf (token c pre k v)

mutual

/-- An attribute written under a key prefix after the text `buf` (see the
    module header). -/
def writeAttr (c : Catalog) (cfg : Config) (pre buf : String) : Attr → String
  | .mk k (.group inner) => writeAll c cfg (groupPrefix pre k) buf inner
  | .mk k (.valuer inner) =>
    -- the rewriting keeps such a value or drops it
    match cfg.replace pre.isEmpty k (.valuer inner) with
    | none => buf
    | some (k, _) => writeAll c cfg (groupPrefix pre k) buf inner
  | .mk k v => writeValue c cfg pre buf k v

/-- Attributes written under a key prefix after the text `buf`, one after
    another. -/
def writeAll (c : Catalog) (cfg : Config) (pre buf : String) : List Attr → String
  | [] => buf
  | a :: rest => writeAll c cfg pre (writeAttr c cfg pre buf a) rest

end

/-- The handler of a configuration. -/
def new (cfg : Config) : PrettyHandler := { config := cfg }

/-- The handler adding attributes to every record, written now under the
    prefix in force. -/
def withAttrs (c : Catalog) (attrs : List Attr) (h : PrettyHandler) : PrettyHandler :=
  { h with attrs := writeAll c h.config h.pre h.attrs attrs }

/-- The handler keying the attributes added from now on under a group; the
    empty name opens none. -/
def withGroup (name : String) (h : PrettyHandler) : PrettyHandler :=
  if name.isEmpty then h else { h with pre := h.pre ++ name ++ "." }

/-- The head of a record's line: its time, level, call site when asked for,
    and message, written through the rewriting. -/
def head (c : Catalog) (cfg : Config) (st : Stamp) (r : Record) : String :=
  let buf := writeAll c cfg "" "" [Attr.str "time" (st.time cfg.timeLayout)]
  let buf := writeAll c cfg "" buf [Attr.mk "level" (.level r.level)]
  let buf := if cfg.caller then writeAll c cfg "" buf [Attr.str "source" st.source] else buf
  writeAll c cfg "" buf [Attr.str "msg" r.msg]

/-- The line a handler writes for a record (see the module header). -/
def handle (c : Catalog) (st : Stamp) (r : Record) (h : PrettyHandler) : String :=
  let buf := head c h.config st r
  let buf := if h.attrs.isEmpty then buf else buf ++ " " ++ h.attrs
  writeAll c h.config h.pre buf r.attrs ++ "\n"

end PrettyHandler

end ExprTree.Log
