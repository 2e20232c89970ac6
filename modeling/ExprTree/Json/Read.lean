import ExprTree.Json.Emit
import ExprTree.Number.Parse

/-!
# Reading JSON

JSON text read into a `JsonTree` (`JsonTree.parse?`), numbers kept as the
text they are written in, so that a reader downstream may give them its own
meaning. Texts decode the escapes of JSON, a pair of surrogate escapes to
one character and a lone surrogate to U+FFFD. Blanks are spaces, tabs, line
feeds and carriage returns.
-/

namespace ExprTree

namespace JsonRead

/-- Skip blanks. -/
def skipWs : List Char → List Char
  | c :: cs => if c == ' ' || c == '\t' || c == '\n' || c == '\r' then skipWs cs else c :: cs
  | [] => []

/-- Four hex digits: their value and the rest. -/
def hex4 (cs : List Char) : Option (Nat × List Char) :=
  match cs with
  | a :: b :: c :: d :: rest => (Number.readNat 16 [a, b, c, d]).map (·, rest)
  | _ => none

/-- The character of a code point, U+FFFD for a surrogate. -/
def charOf (n : Nat) : Char := if n.isValidChar then Char.ofNat n else '�'

/-- The rest of a string literal after its opening quote: its text and what
    follows the closing quote, reading at most `fuel` characters. -/
def readString : Nat → List Char → List Char → Option (String × List Char)
  | 0, _, _ => none
  | _ + 1, [], _ => none
  | fuel + 1, c :: cs, acc =>
    if c == '"' then some (String.ofList acc.reverse, cs)
    else if c == '\\' then
      match cs with
      | 'u' :: rest => do
        let (n, rest) ← hex4 rest
        if 0xD800 ≤ n && n < 0xDC00 then
          match rest with
          | '\\' :: 'u' :: rest2 =>
            match hex4 rest2 with
            | some (m, rest3) =>
              if 0xDC00 ≤ m && m < 0xE000 then
                readString fuel rest3 (charOf (0x10000 + (n - 0xD800) * 0x400 + (m - 0xDC00)) :: acc)
              else readString fuel rest ('�' :: acc)
            | none => none
          | _ => readString fuel rest ('�' :: acc)
        else readString fuel rest (charOf n :: acc)
      | e :: rest =>
        let d := match e with
          | 'n' => some '\n'
          | 't' => some '\t'
          | 'r' => some '\r'
          | 'b' => some '\x08'
          | 'f' => some '\x0c'
          | '/' => some '/'
          | '\\' => some '\\'
          | '"' => some '"'
          | _ => none
        d.bind fun d => readString fuel rest (d :: acc)
      | [] => none
    else readString fuel cs (c :: acc)

/-- The text of a number: a sign, digits, a fraction and an exponent. -/
def numberText (cs : List Char) : List Char × List Char :=
  let isNum (c : Char) := ('0' ≤ c && c ≤ '9') || c == '-' || c == '+' || c == '.' || c == 'e' || c == 'E'
  (cs.takeWhile isNum, cs.dropWhile isNum)

mutual

/-- A value and the rest, reading at most `fuel` levels deep. -/
def readValue : Nat → List Char → Option (JsonTree × List Char)
  | 0, _ => none
  | fuel + 1, cs =>
    match skipWs cs with
    | '{' :: rest => readMembers fuel (skipWs rest) []
    | '[' :: rest => readItems fuel (skipWs rest) []
    | '"' :: rest => (readString (rest.length + 1) rest []).map fun (s, r) => (.str s, r)
    | 't' :: 'r' :: 'u' :: 'e' :: rest => some (.bool true, rest)
    | 'f' :: 'a' :: 'l' :: 's' :: 'e' :: rest => some (.bool false, rest)
    | 'n' :: 'u' :: 'l' :: 'l' :: rest => some (.null, rest)
    | cs =>
      let (t, rest) := numberText cs
      if t.isEmpty then none else some (.num (String.ofList t), rest)

/-- The items of an array after its opening bracket. -/
def readItems : Nat → List Char → List JsonTree → Option (JsonTree × List Char)
  | 0, _, _ => none
  | fuel + 1, cs, acc =>
    match cs with
    | ']' :: rest => some (.arr acc.reverse, rest)
    | _ => do
      let (v, rest) ← readValue fuel cs
      match skipWs rest with
      | ',' :: rest => readItems fuel (skipWs rest) (v :: acc)
      | ']' :: rest => some (.arr (v :: acc).reverse, rest)
      | _ => none

/-- The members of an object after its opening brace. -/
def readMembers : Nat → List Char → List (String × JsonTree) → Option (JsonTree × List Char)
  | 0, _, _ => none
  | fuel + 1, cs, acc =>
    match cs with
    | '}' :: rest => some (.obj acc.reverse, rest)
    | '"' :: rest => do
      let (k, rest) ← readString (rest.length + 1) rest []
      match skipWs rest with
      | ':' :: rest => do
        let (v, rest) ← readValue fuel rest
        match skipWs rest with
        | ',' :: rest => readMembers fuel (skipWs rest) ((k, v) :: acc)
        | '}' :: rest => some (.obj ((k, v) :: acc).reverse, rest)
        | _ => none
      | _ => none
    | _ => none

end

end JsonRead

/-- The JSON value of a text, if it is one with nothing but blanks after. -/
def JsonTree.parse? (s : String) : Option JsonTree :=
  let cs := s.toList
  match JsonRead.readValue (cs.length + 2) cs with
  | some (t, rest) => if (JsonRead.skipWs rest).isEmpty then some t else none
  | none => none

/-- The member `k` of an object. -/
def JsonTree.get? (t : JsonTree) (k : String) : Option JsonTree :=
  match t with
  | .obj fs => (fs.find? (·.1 == k)).map (·.2)
  | _ => none

end ExprTree
