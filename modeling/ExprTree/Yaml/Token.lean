import ExprTree.Text.Quote

/-!
# YAML tokens

A YAML text is read into a chain of tokens (`Token`): indicators, scalars,
comments, and tokens that stand for a fault of the text. Each token keeps the
text it was read from (its *origin*), the blanks and line breaks before it
included, so that the chain, written out, gives back the text around any of
its tokens.

That is how a fault is shown (`SyntaxError.render`): its position and message,
then the lines of the chain around the token at fault, numbered, the line of
the token marked with `>`, and a caret under its column.

* The lines before the fault start at the first token of the three lines
  above it; those after it run to three lines below its last line.
* Lines are numbered from the line of the first token shown, one more for each
  line break in the origins shown; a fault inside a token that spans lines is
  still marked on its first line.
-/

namespace ExprTree.Yaml

/-- A position in a text: line and column, counted from 1. -/
structure Pos where
  line : Nat
  col : Nat
  deriving DecidableEq, Repr, Inhabited

/-- The text of a position, `[line:col]`. -/
def Pos.text (p : Pos) : String := "[" ++ toString p.line ++ ":" ++ toString p.col ++ "]"

/-- The kinds of tokens. -/
inductive TokenKind where
  /-- `-` before an item of a block sequence. -/
  | sequenceEntry
  | sequenceStart
  | sequenceEnd
  /-- `?` before an explicit key. -/
  | mappingKey
  /-- `:` between a key and its value. -/
  | mappingValue
  | mappingStart
  | mappingEnd
  /-- `,` between the entries of a flow collection. -/
  | collectEntry
  | documentHeader
  | documentEnd
  | directive
  | anchor
  | reference
  | tag
  /-- The header of a literal block scalar. -/
  | literal
  /-- The header of a folded block scalar. -/
  | folded
  | comment
  | mergeKey
  /-- A plain scalar, whose kind of value its text decides. -/
  | plain
  /-- A scalar that is a text whatever it reads: the lines of a block scalar,
      or a plain scalar after a tag of the text's own. -/
  | text
  | single
  | double
  /-- A fault of the text, with its message. -/
  | invalid (msg : String)
  deriving DecidableEq, Repr, Inhabited

/-- A token: its kind, its value, the text it was read from and where it
    starts. -/
structure Token where
  kind : TokenKind
  value : String
  origin : String
  pos : Pos
  deriving Repr, Inhabited

/-- Where a fault lies: at a token of the chain, or at the null implied after
    a token, which belongs to no chain. -/
inductive Mark where
  | token (i : Nat)
  | implied (i : Nat)
  deriving DecidableEq, Repr, Inhabited

/-- A fault of a YAML text: its message and where it lies, if anywhere. -/
structure SyntaxError where
  msg : String
  mark : Option Mark
  deriving Repr, Inhabited

/-- A line number right-aligned in two columns. -/
def pad2 (n : Nat) : String := if n < 10 then " " ++ toString n else toString n

/-- Whether a character breaks a line. -/
def isBreak (c : Char) : Bool := c == '\n' || c == '\r'

/-- A text without the leading characters that satisfy `p`. -/
def dropFront (p : Char → Bool) (s : String) : String := String.ofList (s.toList.dropWhile p)

/-- A text without the trailing characters that satisfy `p`. -/
def dropBack (p : Char → Bool) (s : String) : String :=
  String.ofList (s.toList.reverse.dropWhile p).reverse

/-- The null implied after a token: at the column after it. -/
def impliedNull (t : Token) : Token :=
  { kind := .plain, value := "null", origin := " null", pos := { t.pos with col := t.pos.col + 1 } }

/-- The last line a token of the chain reaches: its own, one more for each
    line break of its origin after the leading ones, one less when the origin
    ends with a line break before trailing blanks. -/
def lastLine (t : Token) : Int :=
  let cs := t.origin.toList
  let breaks := ((cs.dropWhile isBreak).filter (· == '\n')).length
  let kept := (cs.reverse.dropWhile (· == ' ')).reverse
  let endsBroken := kept.length > 1 && (kept.getLast?.map isBreak).getD false
  t.pos.line + breaks - (if endsBroken then 1 else 0)

/-- Tokens written out as numbered lines, from the line of the first one; the
    line `mark` is marked with `>`. -/
def numbered (mark : Nat) (ts : List Token) : String :=
  let header (n : Nat) : String := (if n == mark then "> " else "  ") ++ pad2 n ++ " | "
  let step (acc : Array String × Nat) (t : Token) : Array String × Nat :=
    let pieces := t.origin.splitOn "\n"
    pieces.zipIdx.foldl (fun (acc : Array String × Nat) (p, i) =>
      let (lines, n) := acc
      if i == 0 && !lines.isEmpty then (lines.modify (lines.size - 1) (· ++ p), n)
      else (lines.push (header n ++ p), n + 1)) acc
  let first := (ts.head?.map (·.pos.line)).getD 1
  "\n".intercalate (ts.foldl step (#[], first)).1.toList

/-- The excerpt of a chain of tokens around its token `k` (see the module
    header). -/
def excerpt (chain : Array Token) (k : Nat) : String :=
  let tk := chain.getD k default
  let cur := tk.pos.line
  let ext := lastLine tk
  let minLine := max ((cur : Int) - 3) 1
  let maxLine := ext + 3
  let tokens := chain.toList
  -- the first token shown: back over the tokens on the lines above
  let back := ((tokens.take k).reverse.takeWhile fun t => (t.pos.line : Int) ≥ minLine).length
  let j := k - back
  let first := tokens.getD j default
  let lead := if j > 0 then
      ((tokens.getD (j - 1) default).origin.toList.reverse.takeWhile (· == ' ')).length
    else 0
  let firstOrigin := dropFront isBreak (String.ofList (List.replicate lead ' ') ++ first.origin)
  let first : Token := { first with origin := firstOrigin }
  let following := (tokens.drop (j + 1)).takeWhile fun t => (t.pos.line : Int) ≤ ext
  let shown := first :: following
  let lastIdx := j + following.length
  let last := shown.getLast?.getD first
  let trimmed := dropBack (fun c => c == ' ' || isBreak c) last.origin
  let suffix := String.ofList (last.origin.toList.drop trimmed.length)
  let lastShown : Token := { last with origin := trimmed }
  let shown := shown.dropLast ++ [lastShown]
  -- what followed the last line shown moves to the token after it
  let carried := match suffix.toList with
    | c :: r => if isBreak c then r else c :: r
    | [] => []
  let next? := tokens[lastIdx + 1]?.map fun n =>
    let moved : Token := { n with origin := String.ofList carried ++ n.origin }
    if suffix.length > 1 then moved else n
  let after := match next? with
    | some n =>
      let head : Token := { n with origin := dropFront isBreak n.origin }
      if (n.pos.line : Int) > maxLine then []
      else head :: (tokens.drop (lastIdx + 2)).takeWhile fun t => (t.pos.line : Int) ≤ maxLine
    | none => []
  let caret := String.ofList (List.replicate (7 + tk.pos.col - 1) ' ') ++ "^"
  numbered cur shown ++ "\n" ++ caret ++ "\n" ++ numbered cur after

namespace SyntaxError

/-- The text of a fault of the text read into `tokens`: its position and
    message, and the excerpt around it. -/
def render (tokens : Array Token) (e : SyntaxError) : String :=
  match e.mark with
  | none => e.msg
  | some (.token i) =>
    let t := tokens.getD i default
    t.pos.text ++ " " ++ e.msg ++ "\n" ++ excerpt tokens i
  | some (.implied i) =>
    let t := impliedNull (tokens.getD i default)
    t.pos.text ++ " " ++ e.msg ++ "\n" ++ excerpt #[t] 0

end SyntaxError

end ExprTree.Yaml
