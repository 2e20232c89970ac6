/-!
# Strings as bytes

The host holds a string as bytes (`HostString`), UTF-8 by convention but not
by rule. Read as characters (`Text.runes`, the host's conversion of a string
to runes), each valid UTF-8 encoding at the place reached stands for its
character, and a byte that starts none stands for U+FFFD, the replacement
character, and is passed alone. A text of this library is held as its UTF-8
encoding (`HostString.ofString`), which reads back as the text
(`HostString.runes_ofString`).
-/

namespace ExprTree

namespace Text

/-- The character whose UTF-8 encoding starts the bytes, none when they start
    no valid encoding (the shortest form only, no surrogates, nothing beyond
    U+10FFFF). -/
def decodeChar (bs : List UInt8) : Option Char := (bs.take 4).toByteArray.utf8DecodeChar? 0

/-- What bytes read as, piece by piece. -/
inductive Piece where
  /-- A valid encoding, of this character. -/
  | char (c : Char)
  /-- A byte that starts no valid encoding. -/
  | invalid (b : UInt8)
  deriving DecidableEq, Repr

/-- The character a piece stands for: U+FFFD for an invalid byte. -/
def Piece.rune : Piece → Char
  | char c => c
  | invalid _ => '\uFFFD'

/-- The pieces of bytes, after passing the next `skip` bytes, the rest of a
    character already read. -/
def decodeFrom : Nat → List UInt8 → List Piece
  | _, [] => []
  | skip + 1, _ :: rest => decodeFrom skip rest
  | 0, b :: rest =>
    match decodeChar (b :: rest) with
    | some c => .char c :: decodeFrom (c.utf8Size - 1) rest
    | none => .invalid b :: decodeFrom 0 rest

/-- The pieces of bytes: each valid encoding at the place reached, or else
    the byte there alone. -/
def decode (bs : List UInt8) : List Piece := decodeFrom 0 bs

/-- The characters of bytes (see the module header). -/
def runes (bs : List UInt8) : List Char := (decode bs).map Piece.rune

/-- The encoding of a character, followed by anything, reads as the
    character. -/
theorem decodeChar_encode (c : Char) (rest : List UInt8) :
    decodeChar (String.utf8EncodeChar c ++ rest) = some c := by
  have hlen := String.length_utf8EncodeChar c
  have hfour := c.utf8Size_le_four
  have htake : (String.utf8EncodeChar c ++ rest).take 4 =
      String.utf8EncodeChar c ++ rest.take (4 - c.utf8Size) := by
    rw [List.take_append, List.take_of_length_le (by omega), hlen]
  rw [decodeChar, htake, List.toByteArray_append,
    ByteArray.utf8DecodeChar?_utf8EncodeChar_append]

/-- Passing `skip` bytes is reading from the bytes after them. -/
theorem decodeFrom_eq (skip : Nat) (bs : List UInt8) : decodeFrom skip bs = decode (bs.drop skip) := by
  induction bs generalizing skip with
  | nil => cases skip <;> rfl
  | cons b rest ih =>
    cases skip with
    | zero => rfl
    | succ skip => exact ih skip

/-- Bytes a character is read from start with its encoding. -/
theorem decodeChar_eq_some {bs : List UInt8} {c : Char} (h : decodeChar bs = some c) :
    bs = String.utf8EncodeChar c ++ bs.drop c.utf8Size := by
  obtain ⟨l, hl⟩ := ByteArray.exists_of_utf8DecodeChar?_eq_some h
  have htake : bs.take 4 = String.utf8EncodeChar c ++ l.data.toList := by
    have := congrArg (fun b : ByteArray => b.data.toList) hl
    simpa [List.toList_data_toByteArray, ByteArray.toList_data_append] using this
  have hpre : String.utf8EncodeChar c <+: bs := by
    have hfirst : String.utf8EncodeChar c <+: bs.take 4 := by
      rw [htake]
      exact List.prefix_append _ _
    exact hfirst.trans (List.take_prefix 4 bs)
  obtain ⟨t, rfl⟩ := hpre
  rw [List.drop_left' (String.length_utf8EncodeChar c)]

/-- Where a character is read, the pieces are it and those of the bytes after
    its encoding. -/
theorem decode_of_decodeChar {b : UInt8} {rest : List UInt8} {c : Char}
    (h : decodeChar (b :: rest) = some c) :
    decode (b :: rest) = .char c :: decode ((b :: rest).drop c.utf8Size) := by
  have hsize := c.utf8Size_pos
  have hdrop : (b :: rest).drop c.utf8Size = rest.drop (c.utf8Size - 1) := by
    obtain ⟨k, hk⟩ : ∃ k, c.utf8Size = k + 1 := ⟨c.utf8Size - 1, by omega⟩
    rw [hk, List.drop_succ_cons, Nat.add_sub_cancel]
  rw [decode, decodeFrom, h, hdrop, ← decodeFrom_eq]

/-- The encoding of characters reads as the characters, piece by piece. -/
theorem decode_encode (cs : List Char) :
    decode (cs.flatMap String.utf8EncodeChar) = cs.map .char := by
  induction cs with
  | nil => rfl
  | cons c cs ih =>
    -- the encoding of `c` starts with a byte, where `c` is read
    obtain ⟨b, bs, hb⟩ := List.exists_cons_of_ne_nil (String.utf8EncodeChar_ne_nil (c := c))
    have hdec := decodeChar_encode c (cs.flatMap String.utf8EncodeChar)
    rw [hb, List.cons_append] at hdec
    rw [List.flatMap_cons, hb, List.cons_append, decode_of_decodeChar hdec, ← List.cons_append,
      ← hb, List.drop_left' (String.length_utf8EncodeChar c), ih, List.map_cons]

theorem runes_encode (cs : List Char) : runes (cs.flatMap String.utf8EncodeChar) = cs := by
  simp [runes, decode_encode, Function.comp_def, Piece.rune]

/-- Bytes read with no invalid byte are the encoding of the characters they
    read as. -/
theorem encode_runes : ∀ bs : List UInt8, (∀ b, Piece.invalid b ∉ decode bs) →
    (runes bs).flatMap String.utf8EncodeChar = bs
  | [], _ => rfl
  | b :: rest, hvalid => by
    cases hc : decodeChar (b :: rest) with
    | none =>
      exact absurd (by simp [decode, decodeFrom, hc]) (hvalid b)
    | some c =>
      have hdec := decode_of_decodeChar hc
      have ih := encode_runes ((b :: rest).drop c.utf8Size)
        fun b' hb' => hvalid b' (by rw [hdec]; exact List.mem_cons_of_mem _ hb')
      rw [runes, hdec, List.map_cons, List.flatMap_cons, ← runes, ih]
      exact (decodeChar_eq_some hc).symm
termination_by bs => bs.length
decreasing_by
  have := c.utf8Size_pos
  simp only [List.length_drop, List.length_cons]
  omega

end Text

/-- A string as the host holds it: bytes, UTF-8 by convention. -/
structure HostString where
  bytes : List UInt8
  deriving DecidableEq, Repr, Inhabited

namespace HostString

/-- The UTF-8 encoding of a text. -/
def ofString (s : String) : HostString := ⟨s.toList.flatMap String.utf8EncodeChar⟩

/-- The characters of a string (see the module header). -/
def runes (s : HostString) : List Char := Text.runes s.bytes

/-- A string as a text: its characters. -/
def text (s : HostString) : String := String.ofList s.runes

/-- Strings are ordered by their bytes. -/
instance : LT HostString := ⟨fun a b => a.bytes < b.bytes⟩

instance (a b : HostString) : Decidable (a < b) := inferInstanceAs (Decidable (a.bytes < b.bytes))

@[simp] theorem runes_ofString (s : String) : (ofString s).runes = s.toList :=
  Text.runes_encode s.toList

@[simp] theorem text_ofString (s : String) : (ofString s).text = s := by
  simp [text]

/-- A string whose text holds no U+FFFD is the encoding of its text: it read
    with no invalid byte. -/
theorem eq_ofString_of_text {b : HostString} {s : String} (h : b.text = s)
    (hs : '\uFFFD' ∉ s.toList) : b = ofString s := by
  have hrunes : b.runes = s.toList := by
    rw [← h, text, String.toList_ofList]
  have hvalid : ∀ x, Text.Piece.invalid x ∉ Text.decode b.bytes := by
    intro x hx
    apply hs
    rw [← hrunes, runes, Text.runes]
    exact List.mem_map.2 ⟨_, hx, rfl⟩
  have hbytes := Text.encode_runes b.bytes hvalid
  rw [← runes, hrunes] at hbytes
  rw [ofString, hbytes]

theorem ofString_inj {s t : String} : ofString s = ofString t ↔ s = t :=
  ⟨fun h => by rw [← text_ofString s, h, text_ofString], fun h => h ▸ rfl⟩

end HostString

end ExprTree
