import ExprTree.Cli.Spec
import ExprTree.Text.Quote

/-!
# Help text

The help of the program (`Spec.appHelp`) and of a command
(`Spec.commandHelp`), for a screen of eighty columns:

* a usage line, the description, the arguments, the flags by group (the
  ungrouped ones first, under `Flags:`, the global ones apart from the
  command's), and for the program the commands;
* each list in two columns, indented by two: the left column as wide as its
  widest entry below thirty columns, then four blanks, then the help text
  wrapped to the width left; an entry as wide as thirty columns or more
  stands alone, its help on the lines below;
* a flag is written with its short name when any flag of its list has one,
  `[no-]` before a negatable name, and the value after `=`: its
  placeholder, or its default (quoted for texts), or its type in capitals.

Lines carry no trailing blanks.
-/

namespace ExprTree.Cli

/-- The width help is wrapped to. -/
def screenWidth : Nat := 80

/-- The blanks between the two columns. -/
def columnGap : Nat := 4

/-- A text wrapped to lines of at most `width` characters, word by word, a
    word longer than the width on a line of its own. -/
def wrapWords (width : Nat) (text : String) : List String :=
  let words := (text.splitOn " ").filter (!·.isEmpty)
  let (lines, cur) := words.foldl (fun (acc : List String × String) w =>
    let (lines, cur) := acc
    if cur.isEmpty then (lines, w)
    else if cur.length + 1 + w.length ≤ width then (lines, cur ++ " " ++ w)
    else (lines ++ [cur], w)) ([], "")
  lines ++ [cur]

/-- A text without trailing blanks. -/
def trimRight (s : String) : String := String.ofList (s.toList.reverse.dropWhile (· == ' ')).reverse

/-- Blanks. -/
def blanks (n : Nat) : String := String.ofList (List.replicate n ' ')

/-- Rows of two columns laid out at an indent of `indent` within `width`
    (see the module header). -/
def twoColumns (indent width : Nat) (rows : List (String × String)) : List String :=
  let inner := width - indent
  let maxLeft := max 30 (375 * inner / 1000)
  let leftSize := rows.foldl (fun m r => if r.1.length < maxLeft then max m r.1.length else m) 0
  let pad := blanks indent
  rows.flatMap fun (left, help) =>
    let lines := wrapWords (inner - leftSize - columnGap) help
    let first := left ++ blanks (leftSize - left.length)
    let (first, rest) :=
      if left.length < maxLeft then (first ++ blanks columnGap ++ lines.headD "", lines.drop 1)
      else (first, lines)
    (pad ++ first) :: rest.map (pad ++ blanks (leftSize + columnGap) ++ ·)

namespace Flag

/-- The name of a flag's value in help (see the module header). -/
def valueName (f : Flag) : String :=
  match f.placeholder, f.default with
  | some p, _ => p
  | none, some d => if f.kind == .int then d else Text.quote d
  | none, none => match f.kind with
    | .int => "INT"
    | .list => Text.upper f.name
    | _ => "STRING"

/-- The left column of a flag in help; `padShort` when another flag of its
    list has a short name. -/
def usage (padShort : Bool) (f : Flag) : String :=
  let short := match f.short with
    | some c => "-" ++ String.singleton c ++ ", "
    | none => if padShort then "    " else ""
  let name := if f.kind == .bool && f.negatable then "[no-]" ++ f.name else f.name
  short ++ "--" ++ name ++ if f.kind == .bool then "" else "=" ++ f.valueName

end Flag

/-- The rows of lists of flags, a blank row between lists. -/
def flagRows (lists : List (List Flag)) : List (String × String) :=
  let padShort := lists.any (·.any (·.short.isSome))
  let rows := lists.map fun fs => fs.map fun f => (f.usage padShort, f.help)
  List.intercalate [("", "")] (rows.filter fun r => !r.isEmpty)

namespace Spec

/-- The flag sections: the ungrouped flags of each level under `Flags:`,
    then each group of flags under its title. -/
def flagSections (s : Spec) (levels : List (List Flag)) : List String :=
  let ungrouped := levels.map (·.filter (·.group.isNone))
  let part (title : String) (lists : List (List Flag)) : List String :=
    if lists.all (·.isEmpty) then []
    else "" :: title :: (twoColumns 2 screenWidth (flagRows lists)).map trimRight
  part "Flags:" ungrouped ++ s.groups.flatMap fun g =>
    part g.title (levels.map (·.filter (·.group == some g.key)))

/-- The help of the program. -/
def appHelp (s : Spec) : String :=
  let lines := ["Usage: " ++ s.name ++ " <command> [flags]", ""] ++
    wrapWords screenWidth s.description ++ s.flagSections [s.flags] ++
    ["", "Commands:"] ++ (twoColumns 2 screenWidth (s.commands.map fun c => (c.name, c.help))).map trimRight ++
    ["", "Run \"" ++ s.name ++ " <command> --help\" for more information on a command."]
  String.join (lines.map (· ++ "\n"))

/-- The help of a command. -/
def commandHelp (s : Spec) (c : CommandSpec) : String :=
  let usage := "Usage: " ++ s.name ++ " " ++ c.name ++ (if c.source then " [<source>]" else "") ++ " [flags]"
  let args := if c.source then
      ["", "Arguments:"] ++ (twoColumns 2 screenWidth [("[<source>]", sourceHelp)]).map trimRight
    else []
  let lines := [usage, ""] ++ wrapWords screenWidth c.help ++ args ++ s.flagSections [s.flags, c.flags]
  String.join (lines.map (· ++ "\n"))

end Spec

end ExprTree.Cli
