import ExprTree.Cli.Parse
import ExprTree.Data.Source
import ExprTree.Yaml.Decode

/-!
# The configuration file

Flags may also be set by a YAML file of a mapping (`loadConfig`). Its keys
name flags without their dashes; nested mappings join their keys with a
dash, and an underscore stands for a dash, so `log-level: debug`,
`log_level: debug` and `log: {level: debug}` say the same (`flatten`). Texts,
booleans and lists are taken as they are, numbers by their text, nulls not
at all; keys that name no flag are ignored. The settings are written one
after another in the order the mappings hold their entries, so of two that
name the same flag the later one holds (`setting?`).

A flag given on the command line keeps its value; the file gives values to
the global flags and those of the selected command (`Spec.resolve`), read as
the command line reads them. Then every flag with a set of allowed values,
of every command, must hold one of them (`Spec.checkChoices`).
-/

namespace ExprTree.Cli

open Host

/-- A key with every underscore made a dash. -/
def dashed (k : String) : String :=
  String.ofList (k.toList.map fun c => if c == '_' then '-' else c)

/-- The settings of a configuration document, by flag name, within
    `fuel` levels of nesting (see the module header), in the order the
    mappings hold their entries. -/
def flatten (pre : String) : Nat → Value → List (String × Value)
  | 0, _ => []
  | fuel + 1, .map _ _ (some es) => es.flatMap fun (k, v) =>
    let key := pre ++ dashed (Yaml.keyString k)
    match v with
    | .map _ _ (some _) => flatten (key ++ "-") fuel v
    | .str _ _ | .bool _ _ => [(key, v)]
    | .slice (.slice .any) _ _ => [(key, v)]
    | .nil => []
    | v => [(key, .ofString (v.text {}))]
  | _ + 1, _ => []

/-- The value settings give a flag: its last setting, each setting
    overwriting those of the same name before it. -/
def setting? (settings : List (String × Value)) (name : String) : Option Value :=
  settings.reverse.lookup name

/-- The settings of the configuration file at `path`: none when nothing is
    there; a directory or a document that is not a mapping fails, the
    failure's text after the path. -/
def loadConfig (fs : FileSystem) (path : String) : Except String (List (String × Value)) :=
  if fs.isDir path then .error (path ++ ": " ++ (FileError.isDirectory "read" path).message)
  else match fs.read? path with
    | none => .ok []
    | some text => match Yaml.decodeMapping text 1 with
      | .error e => .error (path ++ ": " ++ e)
      | .ok (none, _) => .ok []
      | .ok (some doc, _) => .ok (flatten "" (doc.size + 1) doc)

/-- The kind of JSON text a value is written as: `string`, `bool`,
    `number`, `array`, `object`, or `null` for nil and nil slices and maps. -/
def jsonKind : Value → String
  | .str .. => "string"
  | .bool .. => "bool"
  | .int .. | .float .. => "number"
  | .slice _ _ (some _) | .array .. => "array"
  | .map _ _ (some _) | .struct .. => "object"
  | _ => "null"

mutual

/-- The text of the first float within a value, in the order JSON writes
    it (map entries by key), that JSON cannot hold: `NaN`, `+Inf` or
    `-Inf`. -/
def unsupported? (c : Catalog) : Value → Option String
  | .float t bits =>
    let text := Number.generalText (Value.floatFormat c t) bits
    if text == "NaN" || text == "+Inf" || text == "-Inf" then some text else none
  | .slice _ _ (some xs) | .array _ xs | .struct _ xs => unsupportedAll c xs
  | .map _ _ (some es) =>
    ((unsupportedEntries c es).mergeSort fun a b => Value.keyLt a.1 b.1).head?.map (·.2)
  | _ => none

/-- The first unsupported float within values, in order. -/
def unsupportedAll (c : Catalog) : List Value → Option String
  | [] => none
  | v :: vs => (unsupported? c v).orElse fun _ => unsupportedAll c vs

/-- The keys of the map entries whose values hold an unsupported float,
    with its text. -/
def unsupportedEntries (c : Catalog) : List (Value × Value) → List (Value × String)
  | [] => []
  | (k, v) :: es => match unsupported? c v with
    | some t => (k, t) :: unsupportedEntries c es
    | none => unsupportedEntries c es

end

/-- A setting's value carried over into a text by way of its JSON text: a
    string is itself; a value JSON cannot hold, or of another kind than a
    string, fails, the failure naming the value's source text (see
    `Value.sourceText`). -/
def transcodeText (c : Catalog) (v : Value) : Except String String :=
  match unsupported? c v, v with
  | some bad, _ => .error ("json: unsupported value: " ++ bad)
  | none, .str _ s => .ok s.text
  | none, v =>
    if jsonKind v == "null" then .ok ""
    else .error (v.sourceText c ++ " -> *string: json: cannot unmarshal " ++ jsonKind v ++
      " into Go value of type string")

/-- A setting's value carried over into a list of texts by way of its JSON
    text: an array of strings, a null item giving the empty text; the first
    item of another kind fails, as does a value that is no array. -/
def transcodeList (c : Catalog) (v : Value) : Except String (List String) :=
  let failed (kind into : String) : Except String (List String) :=
    .error (v.sourceText c ++ " -> *[]string: json: cannot unmarshal " ++ kind ++
      " into Go value of type " ++ into)
  match unsupported? c v, v with
  | some bad, _ => .error ("json: unsupported value: " ++ bad)
  | none, .slice _ _ (some xs) | none, .array _ xs =>
    match xs.find? fun x => jsonKind x != "string" && jsonKind x != "null" with
    | some x => failed (jsonKind x) "string"
    | none => .ok (xs.map fun x => match x with
      | .str _ s => s.text
      | _ => "")
  | none, v => if jsonKind v == "null" then .ok [] else failed (jsonKind v) "[]string"

/-- A flag's value from a configuration setting, read as the command line
    reads a value given after `=`: a boolean or a number also from a
    boolean or a number, a list from a list, and a text from a text; a
    setting of another type fails with what the flag's kind says about it. -/
def resolveValue (pl : Place) (f : Flag) (v : Value) : Except Failure FlagValue :=
  let c : Catalog := {}
  let fail (e : String) : Except Failure FlagValue := .error (.message e)
  let typeName := (v.ty?.map Ty.name).getD "<nil>"
  let token := Text.quote (v.text c)
  let carried (r : Except String String) (k : String → FlagValue) : Except Failure FlagValue :=
    match r with
    | .ok s => .ok (k s)
    | .error e => fail e
  match f.kind, v with
  | .bool, .str _ s => (readBool s.text).map .bool
  | .bool, .bool _ b => .ok (.bool b)
  | .bool, v => fail ("expected bool but got " ++ v.quotedText c ++ " (" ++ typeName ++ ")")
  | .int, .str _ s => (readInt s.text).map .int
  | .int, _ => fail ("expected an int but got " ++ token ++ " (" ++ typeName ++ ")")
  | .list, .str _ s => .ok (.list [s.text])
  | .list, v => match transcodeList c v with
    | .ok xs => .ok (.list xs)
    | .error e => fail e
  | .existingFile, .str _ s => (pl.existingFile s.text).map .text
  | .existingFile, _ => fail ("expected a string but got " ++ token ++ " (" ++ typeName ++ ")")
  | .path, v => carried (transcodeText c v) fun s => .text (if s == "-" then s else pl.expand s)
  | .text, v | .decoded, v => carried (transcodeText c v) .text

namespace Spec

/-- The parsed values with the flags of the selected command and the global
    flags that the command line left unset taken from the settings (see the
    module header). -/
def resolve (s : Spec) (pl : Place) (settings : List (String × Value)) (p : Parsed) :
    Except Failure Parsed :=
  let cmdFlags := ((p.command.bind s.command?).map (·.flags)).getD []
  (s.flags ++ cmdFlags).foldlM (fun p f =>
    if (p.value? f.name).isSome then .ok p
    else match setting? settings f.name with
      | none => .ok p
      | some v => match resolveValue pl f v with
        | .ok fv => .ok { p with values := p.values ++ [(f.name, fv)] }
        | .error e => .error (.message ("--" ++ f.name ++ ": " ++ e.text))) p

/-- The text a flag holds: its value, else its default. -/
def textOf (s : Spec) (p : Parsed) (name : String) : String :=
  match p.value? name with
  | some (.text t) => t
  | some (.bool b) => if b then "true" else "false"
  | some (.int n) => Number.intText n
  | some (.list xs) => " ".intercalate xs
  | none => ((s.allFlags.find? (·.name == name)).bind (·.default)).getD ""

/-- Every flag with allowed values holds one of them (see the module
    header). -/
def checkChoices (s : Spec) (p : Parsed) : Except Failure Unit :=
  s.allFlags.forM fun f => match f.enum with
    | none => .ok ()
    | some allowed =>
      let v := s.textOf p f.name
      if allowed.contains v then .ok ()
      else .error (.message ("--" ++ f.name ++ " must be one of " ++
        ",".intercalate (allowed.map Text.quote) ++ " but got " ++ Text.quote v))

end Spec

end ExprTree.Cli
