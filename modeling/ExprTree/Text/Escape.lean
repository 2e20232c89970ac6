/-!
# Escape sequences

The parser a terminal runs over the bytes of its output to tell printed
characters from control functions (ECMA-48, in the form of the DEC parser):
a state (`EscapeState`) and a transition per byte (`EscapeState.step`).

* in the ground state a printable ASCII byte is printed, other ASCII bytes
  are controls;
* `ESC` starts an escape sequence, `ESC [` a control sequence (CSI), `ESC ]`
  an operating system command (OSC), `ESC P` a device control string (DCS),
  and `ESC X`, `ESC ^` and `ESC _` the strings SOS, PM and APC; the C1 bytes
  `0x9B`, `0x9D`, `0x90`, `0x98`, `0x9E` and `0x9F` start them as well;
* a sequence ends at its final byte, a string at the string terminator
  (`ESC \` or `0x9C`), an OSC also at `BEL`, and any of them at `CAN` or
  `SUB`;
* the first byte of a character beyond ASCII enters that character
  (`Effect.character`), except inside an OSC or DCS string, which takes
  every byte from `0x20` up.

The rules for a state come before the rules for every state, and a byte
that no rule names returns to the ground state.
-/

namespace ExprTree.Text

/-- The states of the parser. -/
inductive EscapeState where
  | ground
  | escape
  | escapeIntermediate
  | csiEntry
  | csiParam
  | csiIntermediate
  | dcsEntry
  | dcsParam
  | dcsIntermediate
  | dcsString
  | oscString
  | sosString
  | pmString
  | apcString
  deriving DecidableEq, Repr, Inhabited

/-- What a byte does besides changing the state: nothing visible, a printed
    ASCII character, or the start of a character beyond ASCII. -/
inductive Effect where
  | none
  | print
  | character
  deriving DecidableEq, Repr, Inhabited

namespace EscapeState

/-- Whether a byte is a control that a state keeps: `0x00` to `0x17`, `0x19`
    and `0x1C` to `0x1F`. -/
def isKeptControl (b : UInt8) : Bool :=
  b ≤ 0x17 || b == 0x19 || (0x1C ≤ b && b ≤ 0x1F)

/-- The transition of a byte in every state, where one applies. -/
def anywhere (b : UInt8) : Option (EscapeState × Effect) :=
  if b == 0x1B then some (.escape, .none)
  else if b == 0x90 then some (.dcsEntry, .none)
  else if b == 0x98 then some (.sosString, .none)
  else if b == 0x9B then some (.csiEntry, .none)
  else if b == 0x9D then some (.oscString, .none)
  else if b == 0x9E then some (.pmString, .none)
  else if b == 0x9F then some (.apcString, .none)
  else if b == 0x18 || b == 0x1A || (0x80 ≤ b && b ≤ 0x9C) then some (.ground, .none)
  else if 0xC2 ≤ b && b ≤ 0xF4 then some (.ground, .character)
  else none

/-- The transition of a byte by the rules of a state, where one applies. -/
def byState (s : EscapeState) (b : UInt8) : Option (EscapeState × Effect) :=
  let stay := some (s, Effect.none)
  let go (t : EscapeState) := some (t, Effect.none)
  match s with
  | ground =>
    if 0x20 ≤ b && b ≤ 0x7E then some (.ground, .print)
    else if isKeptControl b || b == 0x7F then stay
    else none
  | escape =>
    if isKeptControl b || b == 0x7F then stay
    else if 0x20 ≤ b && b ≤ 0x2F then go .escapeIntermediate
    else if b == 0x50 then go .dcsEntry
    else if b == 0x58 then go .sosString
    else if b == 0x5B then go .csiEntry
    else if b == 0x5D then go .oscString
    else if b == 0x5E then go .pmString
    else if b == 0x5F then go .apcString
    else if 0x30 ≤ b && b ≤ 0x7E then go .ground
    else none
  | escapeIntermediate =>
    if isKeptControl b || (0x20 ≤ b && b ≤ 0x2F) || b == 0x7F then stay
    else if 0x30 ≤ b && b ≤ 0x7E then go .ground
    else none
  | csiEntry =>
    if isKeptControl b || b == 0x7F then stay
    else if 0x20 ≤ b && b ≤ 0x2F then go .csiIntermediate
    else if 0x30 ≤ b && b ≤ 0x3F then go .csiParam
    else if 0x40 ≤ b && b ≤ 0x7E then go .ground
    else none
  | csiParam =>
    if isKeptControl b || (0x30 ≤ b && b ≤ 0x3F) || b == 0x7F then stay
    else if 0x20 ≤ b && b ≤ 0x2F then go .csiIntermediate
    else if 0x40 ≤ b && b ≤ 0x7E then go .ground
    else none
  | csiIntermediate =>
    if isKeptControl b || (0x20 ≤ b && b ≤ 0x2F) || b == 0x7F then stay
    else if 0x30 ≤ b && b ≤ 0x7E then go .ground
    else none
  | dcsEntry =>
    if (0x08 ≤ b && b ≤ 0x0D) || b == 0x1B || (0x40 ≤ b && b ≤ 0x7E) then go .dcsString
    else if isKeptControl b || b == 0x7F then stay
    else if 0x20 ≤ b && b ≤ 0x2F then go .dcsIntermediate
    else if 0x30 ≤ b && b ≤ 0x3F then go .dcsParam
    else none
  | dcsParam =>
    if isKeptControl b || (0x30 ≤ b && b ≤ 0x3F) || b == 0x7F then stay
    else if 0x20 ≤ b && b ≤ 0x2F then go .dcsIntermediate
    else if 0x40 ≤ b && b ≤ 0x7E then go .dcsString
    else none
  | dcsIntermediate =>
    if isKeptControl b || (0x20 ≤ b && b ≤ 0x2F) || b == 0x7F then stay
    else if 0x30 ≤ b && b ≤ 0x7E then go .dcsString
    else none
  | dcsString =>
    if b == 0x1B then go .escape
    else if b == 0x9C || b == 0x18 || b == 0x1A then go .ground
    else stay
  | oscString =>
    if b == 0x1B then go .escape
    else if b == 0x07 || b == 0x9C || b == 0x18 || b == 0x1A then go .ground
    else stay
  | sosString | pmString | apcString =>
    if b == 0x1B then go .escape
    else if b == 0x9C || b == 0x18 || b == 0x1A then go .ground
    else if isKeptControl b || (0x20 ≤ b && b ≤ 0x7F) then stay
    else none

/-- The state after a byte and what the byte does (see the module
    header). -/
def step (s : EscapeState) (b : UInt8) : EscapeState × Effect :=
  (s.byState b <|> anywhere b).getD (.ground, .none)

end EscapeState

end ExprTree.Text
