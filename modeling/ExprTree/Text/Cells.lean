import ExprTree.Text.Width
import ExprTree.Text.Escape

/-!
# Terminal cells

Text laid out on a terminal without colour, as a styled block of text shows
there:

* the text's bytes run through the parser of escape sequences
  (`Text.Escape`): a printable ASCII byte in the ground state takes one
  cell, and the first byte of a character beyond ASCII, outside an OSC or
  DCS string, starts a grapheme cluster there, which takes its cells
  (`Text.Width`) and returns the parser to the ground state; every other
  byte takes none. A cluster so started may go on over ASCII characters;
* a block (`block`) has each tab expanded to four blanks and each CR LF made a
  line feed, and then every line padded with blanks on the right to the width
  of the widest line.

A text of one line without tabs is its own block.
-/

namespace ExprTree.Text

/-- Where the measure of a line stands: the parser's state, the cluster
    being read, if any, and the cells counted so far. -/
structure Measure where
  escape : EscapeState := .ground
  pending : Option Cluster := none
  cells : Nat := 0
  deriving Inhabited

namespace Measure

/-- The measure after a character outside any cluster: its first byte goes
    through the parser, and either prints, starts a cluster, or leaves the
    rest of its bytes to the parser too. -/
def fresh (m : Measure) (c : Char) : Measure :=
  match String.utf8EncodeChar c with
  | [] => m
  | b :: rest =>
    let (s, e) := m.escape.step b
    match e with
    | .print => { m with escape := s, cells := m.cells + 1 }
    | .character => { m with escape := .ground, pending := some (Cluster.start c) }
    | .none => { m with escape := rest.foldl (fun s b => (s.step b).1) s }

/-- The measure after a character: it goes on the cluster being read if it
    can, else that cluster's cells count and the character starts afresh. -/
def push (m : Measure) (c : Char) : Measure :=
  match m.pending with
  | none => m.fresh c
  | some g => match g.push c with
    | some g' => { m with pending := some g' }
    | none => fresh { m with pending := none, cells := m.cells + g.cells } c

/-- The cells counted, the cluster being read included. -/
def total (m : Measure) : Nat := m.cells + (m.pending.map Cluster.cells).getD 0

end Measure

/-- The number of cells a line takes (see the module header). -/
def cells (s : String) : Nat := (s.toList.foldl Measure.push {}).total

/-- A text with each tab expanded to four blanks. -/
def expandTabs (s : String) : String :=
  String.join (s.toList.map fun c => if c == '\t' then "    " else String.singleton c)

/-- The lines of a text padded on the right to a common width. -/
def padLines (lines : List String) : List String :=
  let widest := lines.foldl (fun m l => max m (cells l)) 0
  lines.map fun l => l ++ String.ofList (List.replicate (widest - cells l) ' ')

/-- The lines of a text's characters: split at each line feed, a CR LF
    counting as one. -/
def lineChars : List Char → List (List Char)
  | [] => [[]]
  | '\r' :: '\n' :: rest => [] :: lineChars rest
  | '\n' :: rest => [] :: lineChars rest
  | c :: rest =>
    match lineChars rest with
    | l :: ls => (c :: l) :: ls
    | [] => [[c]]

/-- A text as a block of cells (see the module header). -/
def block (s : String) : String :=
  "\n".intercalate (padLines ((lineChars (expandTabs s).toList).map String.ofList))

end ExprTree.Text
