import ExprTree.Cli.Spec
import ExprTree.Host.FileSystem
import ExprTree.Text.Quote
import ExprTree.Number.Parse

/-!
# Reading the command line

The arguments are read left to right (`Spec.trace`):

* `--name=value` and `--name value` give a flag its value, `-x value` and
  `-xvalue` a short flag, one byte long; short flags cluster (`-Fd expr`);
  `--no-name` negates a negatable boolean flag; `-` is an argument and `--`
  makes all that follow arguments;
* a flag that takes a value needs one that does not look like a flag (a
  list or file flag takes the next argument whatever it is, though an
  element of a list must still not look like one); a missing or unknown
  flag fails, naming the flags that are near in spelling;
* the first argument that names a command selects it; any other argument,
  or the end without a command, selects the default command, whose flags
  may also come before it; a command takes one source argument, and any
  further argument fails.

Integer values are read with base prefixes and digit separators
(`readFlagInt`); a boolean flag given a value takes `true`, `1`, `yes`,
`false`, `0` or `no` in any case. Paths are made absolute.
-/

namespace ExprTree.Cli

open Host

/-- A value read for a flag. -/
inductive FlagValue where
  | text (s : String)
  | bool (b : Bool)
  | int (n : Int)
  | list (xs : List String)
  deriving Repr, Inhabited, BEq

/-- A token of the command line. -/
inductive Token where
  /-- An argument not yet classified. -/
  | raw (s : String)
  /-- A long flag, by name. -/
  | long (name : String)
  /-- A value given after `=`. -/
  | value (s : String)
  | short (c : Char)
  /-- The rest of a cluster of short flags. -/
  | tail (s : String)
  /-- An argument. -/
  | arg (s : String)
  /-- The end of the arguments. -/
  | eol
  deriving Repr, Inhabited, BEq

namespace Token

/-- The text of a token, flags with their dashes. -/
def text : Token → String
  | raw s | value s | tail s | arg s => s
  | long n => "--" ++ n
  | short c => "-" ++ String.singleton c
  | eol => "EOL"

/-- The kind a token is taken for: an unclassified argument by its dashes. -/
def inferred : Token → Token
  | raw s =>
    if s.startsWith "--" then long (String.ofList (s.toList.drop 2))
    else if s == "-" then arg s
    else if s.startsWith "-" then short ((s.toList.drop 1).headD ' ')
    else raw s
  | t => t

/-- The name of a token's kind in messages. -/
def kindName (t : Token) : String :=
  match t.inferred with
  | raw _ => "untyped"
  | long _ => "long flag"
  | value _ => "flag value"
  | short _ => "short flag"
  | tail _ => "short flag remainder"
  | arg _ => "positional argument"
  | eol => "<EOL>"

/-- Whether a token can be a flag's value. -/
def isValue (t : Token) : Bool :=
  match t.inferred with
  | value _ | tail _ | arg _ => true
  | raw s => !s.startsWith "-"
  | _ => false

/-- Whether a token is taken for a flag. -/
def isFlag (t : Token) : Bool :=
  match t.inferred with
  | long _ | short _ => true
  | _ => false

end Token

/-- A failure to read the command line. -/
inductive Failure where
  | message (text : String)
  /-- A value of the named kind was wanted where a token was. -/
  | expected (context : String) (t : Token)
  deriving Repr, Inhabited

/-- The text of a failure. -/
def Failure.text : Failure → String
  | .message s => s
  | .expected ctx t =>
    "expected " ++ ctx ++ " value but got " ++ Text.quote t.text ++ " (" ++ t.kindName ++ ")"

/-- The edit distance of two texts, by characters. -/
def editDistance (a b : String) : Nat :=
  let bs := b.toList
  let first := List.range (bs.length + 1)
  let last := a.toList.foldl (fun (row : List Nat) ca =>
    let start := row.headD 0 + 1
    let (_, acc) := (bs.zip (row.zip (row.drop 1))).foldl
      (fun (st : Nat × List Nat) (cb, diag, up) =>
        let (left, acc) := st
        let best := min (min (up + 1) (left + 1)) (if ca == cb then diag else diag + 1)
        (best, acc ++ [best])) (start, [start])
    acc) first
  last.getLastD 0

/-- A failure naming the candidates near a text: those it begins, or within
    two edits of it. -/
def nearCandidates (needle : String) (candidates : List String) (msg : String) : Failure :=
  let near := candidates.filter fun c => c.startsWith needle || editDistance c needle ≤ 2
  match near with
  | [] => .message msg
  | [c] => .message (msg ++ ", did you mean " ++ Text.quote c ++ "?")
  | cs => .message (msg ++ ", did you mean one of " ++ ", ".intercalate (cs.map Text.quote) ++ "?")

/-- Whether the underscores of an integer text stand between digits (or
    after a base prefix). -/
def underscoresOk (s : List Char) : Bool :=
  let s := match s with
    | '-' :: r | '+' :: r => r
    | r => r
  let (start, hex, body) := match s with
    | '0' :: c :: r =>
      let l := c.toLower
      if l == 'b' || l == 'o' || l == 'x' then ('0', l == 'x', r) else ('^', false, s)
    | _ => ('^', false, s)
  let saw := body.foldl (fun (saw : Option Char) c =>
    saw.bind fun last =>
      if c.isDigit || (hex && 'a' ≤ c.toLower && c.toLower ≤ 'f') then some '0'
      else if c == '_' then if last == '0' then some '_' else none
      else if last == '_' then none
      else some '!') (some start)
  match saw with
  | some c => c != '_'
  | none => false

/-- A machine integer as flags read it (see the module header). -/
def readFlagInt (s : String) : Option Int :=
  let cs := s.toList
  let (neg, body) := match cs with
    | '-' :: r => (true, r)
    | '+' :: r => (false, r)
    | r => (false, r)
  if body.isEmpty then none
  else if cs.contains '_' && !underscoresOk cs then none
  else
    let (base, digits) := match body with
      | '0' :: c :: r@(_ :: _) =>
        let l := c.toLower
        if l == 'b' then (2, r) else if l == 'o' then (8, r) else if l == 'x' then (16, r)
        else (8, c :: r)
      | '0' :: r => (8, r)
      | ds => (10, ds)
    let digits := digits.filter (· != '_')
    let n := if digits.isEmpty then some 0 else Number.readNat base digits
    n.bind fun n =>
      let v : Int := if neg then -(n : Int) else n
      if -0x8000000000000000 ≤ v && v < 0x8000000000000000 then some v else none

/-- Where paths are taken from: the files, the working directory and the
    home directory. -/
structure Place where
  fs : FileSystem := {}
  cwd : String := "/"
  home : String := "/"
  deriving Inhabited

/-- A path made absolute: from the home directory after `~/`, else from the
    working directory; an absolute path is kept as it is. -/
def Place.expand (pl : Place) (p : String) : String :=
  if p.startsWith "/" then p
  else if p.startsWith "~/" then Path.join pl.home (String.ofList (p.toList.drop 2))
  else Path.absolute pl.cwd p

/-- The path of a file that must exist, made absolute; `-` stands for
    standard input. -/
def Place.existingFile (pl : Place) (p : String) : Except Failure String :=
  if p == "-" then .ok p
  else
    let path := pl.expand p
    if pl.fs.isDir path then .error (.message (Text.quote path ++ " exists but is a directory"))
    else if (pl.fs.read? path).isSome then .ok path
    else .error (.message (FileError.notFound "stat" path).message)

/-- The value of a token that must be a value, and the tokens after it. -/
def popValue (context : String) : List Token → Except Failure (String × List Token)
  | t :: rest => if t.isValue then .ok (t.text, rest) else .error (.expected context t)
  | [] => .error (.expected context .eol)

/-- The boolean of a flag value's text. -/
def readBool (s : String) : Except Failure Bool :=
  let l := Text.lower s
  if l == "true" || l == "1" || l == "yes" then .ok true
  else if l == "false" || l == "0" || l == "no" then .ok false
  else .error (.message ("bool value must be true, 1, yes, false, 0 or no but got " ++ Text.quote l))

/-- The integer of a flag value's text. -/
def readInt (s : String) : Except Failure Int :=
  match readFlagInt s with
  | some n => .ok n
  | none => .error (.message ("expected a valid 64 bit int but got " ++ Text.quote s))

/-- Read a flag's value from the tokens after it; `old` is its value so
    far, which a list extends and which a file that must exist keeps, its
    later values unchecked. -/
def readFlag (pl : Place) (f : Flag) (old : Option FlagValue) (toks : List Token) :
    Except Failure (FlagValue × List Token) :=
  match f.kind with
  | .text => do
    let (s, rest) ← popValue "string" toks
    return (.text s, rest)
  | .decoded => do
    let (s, rest) ← popValue "value" toks
    return (.text s, rest)
  | .bool => match toks with
    | .value v :: rest => do return (.bool (← readBool v), rest)
    | _ => .ok (.bool true, toks)
  | .int => do
    let (s, rest) ← popValue "int" toks
    return (.int (← readInt s), rest)
  | .list => match toks with
    | [] => .error (.message "missing value, expecting \"<arg>�...\"")
    | t :: rest =>
      if !t.isValue then .error (.expected "string" t)
      else
        let prior := match old with
          | some (.list xs) => xs
          | _ => []
        .ok (.list (prior ++ [t.text]), rest)
  | .existingFile => match toks, old with
    | [], _ => .error (.message "expected a string but got \"EOL\" (<nil>)")
    | _ :: rest, some v => .ok (v, rest)
    | t :: rest, none => do return (.text (← pl.existingFile t.text), rest)
  | .path => do
    let (s, rest) ← popValue "file" toks
    return (.text (if s == "-" then s else pl.expand s), rest)

/-- What reading the command line gives: the command selected, the values
    of the flags met, by name, the source argument, and the flags met, in
    order. -/
structure Parsed where
  command : Option String := none
  values : List (String × FlagValue) := []
  source : Option String := none
  seen : List String := []
  deriving Repr, Inhabited

/-- The value read for a flag. -/
def Parsed.value? (p : Parsed) (name : String) : Option FlagValue := p.values.lookup name

/-- The parsed values with a flag's value set. -/
def Parsed.set (p : Parsed) (name : String) (v : FlagValue) : Parsed :=
  { p with values := (name, v) :: p.values.filter (·.1 != name), seen := p.seen ++ [name] }

/-- The name of the short flag a cluster starts with: its first byte, which
    for a character beyond ASCII is no character and reads as U+FFFD; no
    flag has such a name. -/
def shortName (c : Char) : Char := if c.toNat < 0x80 then c else '\uFFFD'

namespace Spec

/-- The flags that may be given at a command, or at the top before any
    command, where the default command's flags are allowed too. -/
def flagsAt (s : Spec) (node : Option CommandSpec) : List Flag :=
  s.flags ++ ((node.orElse fun _ => s.command? s.defaultCommand).map (·.flags)).getD []

/-- Read one flag named as `given` from the tokens after it. -/
def parseFlag (pl : Place) (flags : List Flag) (given : String) (rest : List Token)
    (p : Parsed) : Except Failure (List Token × Parsed) :=
  let fits (f : Flag) : Bool :=
    given == "--" ++ f.name || (f.short.map fun c => given == "-" ++ String.singleton c).getD false ||
      (f.negatable && given == "--no-" ++ f.name)
  match flags.find? fits with
  | none =>
    let candidates := flags.flatMap fun f =>
      ("--" ++ f.name) :: (f.short.map fun c => ["-" ++ String.singleton c]).getD []
    .error (nearCandidates given candidates ("unknown flag " ++ given))
  | some f =>
    match readFlag pl f (p.value? f.name) rest with
    | .error e =>
      let msg := "--" ++ f.name ++ ": " ++ e.text
      let hint := match e with
        | .expected _ t => if t.isFlag then
            "; perhaps try --" ++ f.name ++ "=" ++ Text.quote t.text ++ "?" else ""
        | _ => ""
      .error (.message (msg ++ hint))
    | .ok (v, rest) =>
      let v := match v with
        | .bool b => if f.negatable && given == "--no-" ++ f.name then .bool !b else .bool b
        | v => v
      .ok (rest, p.set f.name v)

/-- Read the tokens at a command, or at the top (see the module header). -/
def traceAt (s : Spec) (pl : Place) : Nat → Option CommandSpec → List Token → Parsed →
    Except Failure Parsed
  | 0, _, _, p => .ok p
  | _, none, [], p =>
    if p.seen.contains "help" then .ok p else .ok { p with command := some s.defaultCommand }
  | _, some _, [], p => .ok p
  | fuel + 1, node, t :: rest, p =>
    match t with
    | .raw str =>
      if str == "-" then traceAt s pl fuel node (.arg str :: rest) p
      else if str == "--" then traceAt s pl fuel node (rest.map fun t => .arg t.text) p
      else if str.startsWith "--" then
        let body := String.ofList (str.toList.drop 2)
        let toks := match body.splitOn "=" with
          | name :: v :: more => .long name :: .value ("=".intercalate (v :: more)) :: rest
          | _ => .long body :: rest
        traceAt s pl fuel node toks p
      else if str.startsWith "-" then traceAt s pl fuel node (.tail (String.ofList (str.toList.drop 1)) :: rest) p
      else traceAt s pl fuel node (.arg str :: rest) p
    | .tail str => match str.toList with
      | c :: [] => traceAt s pl fuel node (.short (shortName c) :: rest) p
      | c :: more => traceAt s pl fuel node (.short (shortName c) :: .tail (String.ofList more) :: rest) p
      | [] => traceAt s pl fuel node rest p
    | .value v => .error (.message ("unexpected flag argument " ++ Text.quote v))
    | .long name => do
      let (rest, p) ← parseFlag pl (s.flagsAt node) ("--" ++ name) rest p
      traceAt s pl fuel node rest p
    | .short c => do
      let (rest, p) ← parseFlag pl (s.flagsAt node) ("-" ++ String.singleton c) rest p
      traceAt s pl fuel node rest p
    | .arg a => match node with
      | some cmd =>
        if cmd.source && p.source.isNone then traceAt s pl fuel node rest { p with source := some a }
        else .error (.message ("unexpected argument " ++ a))
      | none => match s.command? a with
        | some cmd => traceAt s pl fuel (some cmd) rest { p with command := some cmd.name }
        | none => traceAt s pl fuel (s.command? s.defaultCommand) (t :: rest)
            { p with command := some s.defaultCommand }
    | .eol => .ok p

/-- Read the arguments of the command line (see the module header). -/
def trace (s : Spec) (pl : Place) (args : List String) : Except Failure Parsed :=
  let fuel := args.foldl (fun n a => n + a.length + 4) 8
  s.traceAt pl fuel none (args.map .raw) {}

end Spec

end ExprTree.Cli
