import ExprTree.Yaml.Token
import ExprTree.Yaml.Block

/-!
# The state of reading YAML

What a reader of a YAML text knows at each character (`Scanner`): what is
left to read and where it stands, how the line is indented, what was last a
delimiter, which flow collections are open, the scalar gathered so far with
its origin, and the tokens made.

A plain scalar is gathered character by character (`Scanner.addBuf`) beside
its origin (`Scanner.addOrigin`), and made a token (`Scanner.flush`) when
something ends it: its value without the blanks at its end, at the column
where its first character stood, or where its first line began when it spans
lines.

* `Scanner.updateIndent`: the first character of a line, after blanks,
  stands to the right of the last delimiter (the indentation goes up) or not
  (it goes down), which ends the scalar gathered;
* `BlockScan`: what a block scalar being read knows of its lines;
* `FoldScan`: a plain scalar read on as a folded block once a line indented
  more starts with `-`: from there its tabs, `#` and `:` are text, and a line
  break folds to a blank only before a line that starts in the same column as
  the one before it.
-/

namespace ExprTree.Yaml

/-- How the first character of a line stands to the last delimiter. -/
inductive Indent where
  | equal
  | up
  | down
  /-- Not the first character of its line. -/
  | keep
  deriving DecidableEq, Repr, Inhabited

/-- A block scalar being read. -/
structure BlockScan where
  literal : Bool
  chomp : Chomping
  /-- The column of its lines, zero until known. -/
  firstIndent : Nat
  /-- The column of the first character of the current line, zero before
      one is met. -/
  lineIndent : Nat := 0
  /-- The width of the last line of blanks before the first with text. -/
  spaceOnly : Nat := 0
  deriving Repr, Inhabited

namespace BlockScan

/-- Whether a column lies within the indentation of the block's lines. -/
def isIndentColumn (b : BlockScan) (col : Nat) : Bool :=
  if b.firstIndent == 0 then col == 1 else col < b.firstIndent

/-- The block with text met at a column. -/
def meet (b : BlockScan) (col : Nat) : BlockScan :=
  { b with
    firstIndent := if b.firstIndent == 0 then col else b.firstIndent
    lineIndent := if b.lineIndent == 0 then col else b.lineIndent }

end BlockScan

/-- A plain scalar read on as a folded block (see the module header). -/
structure FoldScan where
  /-- The column of the `-` that began the folding. -/
  firstIndent : Nat
  /-- The column of the first character of the current line, zero before
      one is met. -/
  lineIndent : Nat
  /-- The same for the line before. -/
  prevIndent : Nat := 0
  /-- The same for the last line that was not empty. -/
  textIndent : Nat := 0
  /-- Whether a line break was read since the last text. -/
  broken : Bool := false
  deriving Repr, Inhabited

/-- The state of reading a YAML text (see the module header). -/
structure Scanner where
  rest : List Char
  /-- The character read last. -/
  prev : Char := '\x00'
  line : Nat := 1
  col : Nat := 1
  /-- The blanks read at the start of the line. -/
  indentNum : Nat := 0
  /-- The column of the last delimiter: a key, `-`, `?`, zero for none. -/
  lastDelim : Nat := 0
  indent : Indent := .equal
  /-- Whether only blanks were read on the line. -/
  firstChar : Bool := true
  inAnchor : Bool := false
  inAlias : Bool := false
  inDirective : Bool := false
  /-- Flow sequences and mappings open; closing one too many goes below
      zero. -/
  flowSeq : Int := 0
  flowMap : Int := 0
  /-- Where a plain scalar that spans lines started. -/
  savedPos : Option Pos := none
  /-- The plain scalar gathered, and its length up to its last character
      other than a blank or tab. -/
  buf : Array Char := #[]
  bufKeep : Nat := 0
  /-- The origin of the next token, and its length likewise. -/
  obuf : Array Char := #[]
  obufKeep : Nat := 0
  tokens : Array Token := #[]
  /-- The first token read since reading last started over after a fault. -/
  ctxStart : Nat := 0
  block : Option BlockScan := none
  fold : Option FoldScan := none
  deriving Inhabited

/-- The reserved tags of YAML. -/
def reservedTags : List String :=
  ["!!int", "!!float", "!!null", "!!seq", "!!map", "!!str", "!!binary", "!!omap", "!!set",
    "!!timestamp", "!!bool", "!!merge"]

/-- Whether a character is a blank or a tab. -/
def isBlank (c : Char) : Bool := c == ' ' || c == '\t'

namespace Scanner

/-- Where the reader stands. -/
def pos (s : Scanner) : Pos := ⟨s.line, s.col⟩

/-- The character `n` places ahead. -/
def peek (s : Scanner) (n : Nat) : Option Char := s.rest[n]?

/-- Whether a flow collection is open. -/
def inFlow (s : Scanner) : Bool := s.flowSeq > 0 || s.flowMap > 0

/-- Pass `n` characters, the column kept. -/
def skip (s : Scanner) : Nat → Scanner
  | 0 => s
  | n + 1 => match s.rest with
    | [] => s
    | c :: r => skip { s with rest := r, prev := c } n

/-- Pass `n` characters on the line. -/
def advance (s : Scanner) (n : Nat) : Scanner := { s.skip n with col := s.col + n }

/-- Pass a line break. -/
def newLine (s : Scanner) : Scanner :=
  { s.skip 1 with
    line := s.line + 1, col := 1, indentNum := 0, firstChar := true,
    inAnchor := false, inAlias := false, inDirective := false }

/-- Add a character to the scalar gathered; blanks and tabs before its first
    character are not part of it. -/
def addBuf (s : Scanner) (c : Char) : Scanner :=
  if s.buf.isEmpty && isBlank c then s
  else { s with buf := s.buf.push c, bufKeep := if isBlank c then s.bufKeep else s.buf.size + 1 }

/-- Add a character to the scalar gathered, a tab counting as text. -/
def addBufTab (s : Scanner) (c : Char) : Scanner :=
  if s.buf.isEmpty && c == ' ' then s
  else { s with buf := s.buf.push c, bufKeep := if c == ' ' then s.bufKeep else s.buf.size + 1 }

/-- Add a character to the origin of the next token. -/
def addOrigin (s : Scanner) (c : Char) : Scanner :=
  { s with obuf := s.obuf.push c, obufKeep := if isBlank c then s.obufKeep else s.obuf.size + 1 }

/-- Add characters to the origin of the next token. -/
def addOrigins (s : Scanner) (cs : List Char) : Scanner := cs.foldl addOrigin s

/-- The scalar gathered, without blanks and tabs at its end. -/
def bufText (s : Scanner) : List Char := s.buf.toList.take s.bufKeep

/-- Whether a scalar is gathered. -/
def hasBuf (s : Scanner) : Bool := s.bufKeep > 0

/-- The origin of the next token. -/
def origin (s : Scanner) : String := String.ofList s.obuf.toList

/-- Forget the scalar gathered and the origin. -/
def clear (s : Scanner) : Scanner := { s with buf := #[], bufKeep := 0, obuf := #[], obufKeep := 0 }

/-- The last token made since reading last started over. -/
def lastToken? (s : Scanner) : Option Token :=
  if s.tokens.size > s.ctxStart then s.tokens.back? else none

/-- Add a token. -/
def emit (s : Scanner) (t : Token) : Scanner := { s with tokens := s.tokens.push t }

/-- Add a token with the origin gathered, where the reader stands. -/
def emitHere (s : Scanner) (kind : TokenKind) (value : String) : Scanner :=
  s.emit { kind, value, origin := s.origin, pos := s.pos }

/-- The value of a folded plain scalar: without the line breaks at its end,
    then without the blanks. -/
def foldedValue (src : List Char) : String :=
  String.ofList ((src.reverse.dropWhile (· == '\n')).dropWhile (· == ' ')).reverse

/-- The token of the scalar gathered, if any, and the reader without it: a
    plain scalar, or a text after a tag that is not reserved; its tabs are
    left out of its value. A folded one is a text as it was read. -/
def takeScalar (s : Scanner) : Option Token × Scanner :=
  let p := s.savedPos.getD ⟨s.line, s.col - s.buf.size⟩
  let s := { s with savedPos := none }
  let src := s.bufText
  if src.isEmpty then (none, { s with buf := #[], bufKeep := 0 })
  else if s.fold.isSome then
    (some { kind := .text, value := foldedValue src, origin := s.origin, pos := p }, s.clear)
  else
    let kind : TokenKind := match s.lastToken? with
      | some t => if t.kind == .tag && !reservedTags.contains t.value then .text else .plain
      | none => .plain
    (some { kind, value := String.ofList (src.filter (· != '\t')), origin := s.origin, pos := p },
      s.clear)

/-- Make the scalar gathered a token, if there is one. -/
def flush (s : Scanner) : Scanner :=
  match s.takeScalar with
  | (some t, s) => s.emit t
  | (none, s) => s

/-- The reader at the next character `c`, with the indentation of its line
    (see the module header). -/
def updateIndent (s : Scanner) (c : Char) : Scanner :=
  if s.firstChar && isBreak c then s
  else if s.firstChar && c == ' ' then { s with indentNum := s.indentNum + 1 }
  else if s.firstChar && c == '\t' then s
  else if !s.firstChar then { s with indent := .keep }
  else
    let indent : Indent :=
      if s.lastDelim == 0 then s.indent else if s.lastDelim < s.col then .up else .down
    { s with indent, firstChar := false }

/-- The lines of the block scalar read so far as its token; `ended` when a
    line indented less ended it. -/
def blockToken (s : Scanner) (b : BlockScan) (ended : Bool) (p : Pos) : Token :=
  let lines := blockLines (b.firstIndent - 1) ended s.obuf.toList
  let value := blockValue b.literal b.chomp lines
  { kind := .text, value, origin := s.origin, pos := p }

end Scanner

end ExprTree.Yaml
