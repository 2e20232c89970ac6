import ExprTree.Log.Record
import ExprTree.Json.Emit

/-!
# Attribute values as JSON

How the JSON log format writes the value of an attribute
(`AttrValue.toJson`): texts, integers and booleans as JSON values, floats as
JSON numbers, durations as their count of nanoseconds, levels as their name,
host values as their JSON text (`Value.toJsonTree`), and groups as objects,
values that resolve themselves as the groups they resolve to.
A value without JSON text is written as the text `!ERROR:` and the reason.
A group without attributes is left out, and a group under the empty key is
merged into the enclosing object.

Levels are named by the nearest named level at or below them and the
distance from it: `INFO`, `INFO+2`, `DEBUG-4`, `ERROR+92`
(`Log.standardLevelName`).
-/

namespace ExprTree

namespace Log

/-- The text of an offset from a named level: nothing for zero, else the
    signed number. -/
def offsetText (n : Int) : String :=
  if n == 0 then "" else if n > 0 then "+" ++ Number.intText n else Number.intText n

/-- The name of a level among `DEBUG`, `INFO`, `WARN` and `ERROR`, with the
    offset from the nearest of them at or below it. -/
def standardLevelName (l : Int) : String :=
  if l < 0 then "DEBUG" ++ offsetText (l + 4)
  else if l < 4 then "INFO" ++ offsetText l
  else if l < 8 then "WARN" ++ offsetText (l - 4)
  else "ERROR" ++ offsetText (l - 8)

end Log

mutual

/-- The JSON value of an attribute value, none for a group without
    attributes (see the module header). -/
def AttrValue.toJson (c : Catalog) : AttrValue → Option JsonTree
  | .str s => some (.str s)
  | .int i => some (.num (Number.intText i))
  | .uint n => some (.num (Number.intText n))
  | .float b => some (match Value.jsonFloat Number.Format.double b with
    | .ok t => .num t
    | .error e => .str ("!ERROR:" ++ e))
  | .bool b => some (.bool b)
  | .duration ns => some (.num (Number.intText ns))
  | .level l => some (.str (Log.standardLevelName l))
  | .any v => some (match v.toJsonTree c with
    | .ok t => t
    | .error e => .str ("!ERROR:" ++ e))
  | .group attrs | .valuer attrs => match Attr.listToJson c attrs with
    | [] => none
    | fs => some (.obj fs)

/-- The members of the JSON object of attributes: empty groups left out,
    groups under the empty key merged. -/
def Attr.listToJson (c : Catalog) : List Attr → List (String × JsonTree)
  | [] => []
  | .mk k v :: rest =>
    let here := match v with
      | .group inner | .valuer inner =>
        let fs := Attr.listToJson c inner
        if k.isEmpty then fs else if fs.isEmpty then [] else [(k, .obj fs)]
      | v => match AttrValue.toJson c v with
        | some t => [(k, t)]
        | none => []
    here ++ Attr.listToJson c rest

end

end ExprTree
