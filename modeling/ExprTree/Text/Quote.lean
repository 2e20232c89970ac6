import ExprTree.Text.Unicode
import ExprTree.Number.Render
import ExprTree.Text.Bytes

/-!
# Quoted text

A text between double quotes with escapes (`quote`): the quote and the
backslash are escaped by a backslash; printable characters (`isPrint`) stand
as they are; the control characters with a short escape take it (`\a`, `\b`,
`\f`, `\n`, `\r`, `\t`, `\v`); other characters below U+0020 and U+007F are
`\xHH`, the rest `\uHHHH` or, beyond U+FFFF, `\UHHHHHHHH`, in lower case hex.
A single character is quoted the same way between single quotes
(`quoteRune`), where the single quote is escaped instead of the double one.
Bytes are quoted as the characters of their UTF-8 sequences (`quoteBytes`),
a byte that starts no valid sequence as `\xHH`.
-/

namespace ExprTree.Text

/-- The escaped form of one character inside double quotes. -/
def escapeChar (c : Char) : String :=
  if c == '"' then "\\\""
  else if c == '\\' then "\\\\"
  else if isPrint c then String.singleton c
  else if c == '\x07' then "\\a"
  else if c == '\x08' then "\\b"
  else if c == '\x0c' then "\\f"
  else if c == '\n' then "\\n"
  else if c == '\r' then "\\r"
  else if c == '\t' then "\\t"
  else if c == '\x0b' then "\\v"
  else if c.toNat < 0x20 || c.toNat == 0x7f then "\\x" ++ Number.hexText 2 c.toNat
  else if c.toNat < 0x10000 then "\\u" ++ Number.hexText 4 c.toNat
  else "\\U" ++ Number.hexText 8 c.toNat

/-- A text between double quotes with escapes (see the module header). -/
def quote (s : String) : String :=
  "\"" ++ String.join (s.toList.map escapeChar) ++ "\""

/-- A character code between single quotes with escapes: the single quote
    escaped and the double quote not, otherwise as `escapeChar`; a code that
    is no Unicode scalar value stands for the replacement character. -/
def quoteRune (n : Nat) : String :=
  let c := if n ≤ 0x10FFFF && !(0xD800 ≤ n && n ≤ 0xDFFF) then Char.ofNat n else '�'
  let body := if c == '\'' then "\\'" else if c == '"' then "\"" else escapeChar c
  "'" ++ body ++ "'"

/-- The escaped form of a piece of bytes: a character as `escapeChar`, a byte
    that starts no valid encoding as `\xHH`. -/
def escapePiece : Piece → String
  | .char c => escapeChar c
  | .invalid b => "\\x" ++ Number.hexText 2 b.toNat

/-- Bytes between double quotes with escapes (see the module header). -/
def quoteBytes (bs : List UInt8) : String :=
  "\"" ++ String.join ((decode bs).map escapePiece) ++ "\""

end ExprTree.Text
