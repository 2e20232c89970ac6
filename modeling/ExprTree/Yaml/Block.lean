import ExprTree.Number.Parse

/-!
# Block scalars

The text of a block scalar (`|` literal, `>` folded) from the lines that
follow its header:

* the header may hold an indentation indicator, a digit from 1 to 9, and a
  chomping indicator, `-` or `+`, one of them before or after the other
  (`Chomping`, `headerValid`);
* each line loses the indentation of the block, that of its first line with
  content unless the header gives it; a line of blanks only keeps the blanks
  beyond it (`blockLines`);
* a literal scalar keeps its line breaks; a folded one joins lines of text
  with a blank, an empty line standing for a line break, and keeps the breaks
  around lines indented more than the block (`foldLines`);
* chomping decides the line breaks at the end: `-` none, and no blanks
  either, `+` all of them, and otherwise one (`blockValue`).
-/

namespace ExprTree.Yaml

/-- How the line breaks at the end of a block scalar are kept. -/
inductive Chomping where
  /-- `-`: none of them. -/
  | strip
  /-- One line break, the default. -/
  | clip
  /-- `+`: all of them. -/
  | keep
  deriving DecidableEq, Repr, Inhabited

/-- The chomping a header asks for: `-` wins over `+`, at either end of it. -/
def Chomping.ofHeader (opt : String) : Chomping :=
  if opt.startsWith "-" || opt.endsWith "-" then .strip
  else if opt.startsWith "+" || opt.endsWith "+" then .keep
  else .clip

/-- Whether a character is a chomping indicator. -/
def isChompChar (c : Char) : Bool := c == '-' || c == '+'

/-- A header without one chomping indicator at each end. -/
def headerCore (opt : String) : List Char :=
  let cs := match opt.toList with
    | c :: r => if isChompChar c then r else c :: r
    | [] => []
  match cs.getLast? with
  | some c => if isChompChar c then cs.dropLast else cs
  | none => cs

/-- The indentation a header gives: the number left of it without its
    chomping, zero when nothing is left. -/
def headerIndent (opt : String) : Option Int :=
  match headerCore opt with
  | [] => some 0
  | cs => Number.readInt 10 cs

/-- Whether a header is one: its chomping alone, or with an indentation from
    1 to 9. -/
def headerValid (opt : String) : Bool :=
  match headerCore opt with
  | [] => true
  | cs => match Number.readInt 10 cs with
    | some n => 1 ≤ n && n ≤ 9
    | none => false

/-- The folded text of block lines (see the module header). -/
def foldLines : List String → String
  | [] => ""
  | first :: rest =>
    let step (acc : String × Bool × Nat) (l : String) : String × Bool × Nat :=
      let (out, prevNormal, empties) := acc
      if l.isEmpty then (out, prevNormal, empties + 1)
      else
        let normal := !(l.startsWith " " || l.startsWith "\t")
        let sep :=
          if prevNormal && normal then
            (if empties == 0 then " " else String.ofList (List.replicate empties '\n'))
          else String.ofList (List.replicate (empties + 1) '\n')
        (out ++ sep ++ l, normal, 0)
    let normal := !(first.startsWith " " || first.startsWith "\t")
    (rest.foldl step (first, normal, 0)).1

/-- The value of a block scalar of `lines` (the final empty ones included),
    literal or folded, with its chomping. -/
def blockValue (literal : Bool) (chomp : Chomping) (lines : List String) : String :=
  let body := (lines.reverse.dropWhile String.isEmpty).reverse
  let trailing := lines.length - body.length
  let text := if literal then "\n".intercalate body else foldLines body
  if body.isEmpty then
    (if chomp == .keep then String.ofList (List.replicate trailing '\n') else "")
  else match chomp with
    | .strip => String.ofList (text.toList.reverse.dropWhile (· == ' ')).reverse
    | .keep => text ++ "\n" ++ String.ofList (List.replicate trailing '\n')
    | .clip => text ++ "\n"

/-- The lines of a block scalar from the characters read after its header,
    `indent` blanks taken from each; `ended` when the block ended at a line
    indented less, whose blanks close the characters read. -/
def blockLines (indent : Nat) (ended : Bool) (raw : List Char) : List String :=
  let lines := raw.splitOn '\n'
  let lines := if ended then lines.dropLast
    else if lines.getLast? == some [] then lines.dropLast else lines
  lines.map fun l =>
    let l := if l.getLast? == some '\r' then l.dropLast else l
    if (l.takeWhile (· == ' ')).length ≥ indent then String.ofList (l.drop indent) else ""

end ExprTree.Yaml
