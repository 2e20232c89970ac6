import Mathlib
import ExprTree.Log.Level

/-!
# Level names read back

A level is written by its name (`levelName`): the word of a named level, or
the word of the nearest standard level at or below it (`debug` below all)
followed by the signed offset from that level, `info+2` or `debug-5`. Reading
a name (`parseLevel`) undoes this for every level a machine integer holds.

The name of a level other than the named ones is a word and an offset text,
and reading it goes through three steps that each see one part: the blanks
around the name are removed (there are none), the name is told apart from
`trace` (by its first letter), and it is cut at its first sign into the word
and the offset. So the proof is about the characters of each part:

* `Number.readNat_ten_toDigits`: the decimal digits of a number read back as
  that number;
* `readOffset_offsetText`: a nonzero offset of the machine range reads back
  from its text;
* `StandardWord.parseLevel_append`: a word that names a standard level (a
  `StandardWord`), followed by an offset text, reads as the word's level moved
  by the offset;
* `parseLevel_levelName`: every level of the machine range reads back from its
  name.
-/

namespace ExprTree

namespace Number

/-- A decimal digit has its value in base ten. -/
theorem digitValue_ten {c : Char} (h : c.isDigit) :
    digitValue 10 c = some (c.toNat - '0'.toNat) := by
  have hrange : '0' ≤ c ∧ c ≤ '9' := by
    simp only [Char.isDigit, Bool.and_eq_true, decide_eq_true_eq, ge_iff_le] at h
    exact h
  have hlt : c.toNat - '0'.toNat < 10 := by
    have := Char.isDigit_iff_toNat.1 h
    simp only [Char.reduceToNat] at this ⊢
    omega
  simp only [digitValue, if_pos hrange, hlt, if_true]

/-- Reading decimal digits after a number continues that number. -/
theorem foldl_digitValue_ten (cs : List Char) (h : ∀ c ∈ cs, c.isDigit) (k : Nat) :
    cs.foldl (fun acc c => acc.bind fun n => (digitValue 10 c).map (n * 10 + ·)) (some k)
      = some (Nat.ofDigitChars 10 cs k) := by
  induction cs generalizing k with
  | nil => rfl
  | cons c cs ih =>
    have hc : digitValue 10 c = some (c.toNat - '0'.toNat) := digitValue_ten (h c (by simp))
    simp only [List.foldl_cons, Option.bind_some, hc, Option.map_some, Nat.ofDigitChars_cons]
    rw [ih (fun c' hc' => h c' (by simp [hc'])), Nat.mul_comm]

/-- The decimal digits of a number read back as that number. -/
theorem readNat_ten_toDigits (n : Nat) : readNat 10 (Nat.toDigits 10 n) = some n := by
  have hdigits : ∀ c ∈ Nat.toDigits 10 n, c.isDigit := fun _ hc =>
    Nat.isDigit_of_mem_toDigits (by decide) (by decide) hc
  rw [readNat, if_neg (by simp [Nat.toDigits_ne_nil]), foldl_digitValue_ten _ hdigits,
    Nat.ofDigitChars_ten_toDigits]

end Number

namespace Log

/-- A positive offset is written with a plus sign, a negative one with a
    minus sign, and both with the digits of their size. -/
theorem offsetText_toList_pos {k : Int} (hk : 0 < k) :
    (offsetText k).toList = '+' :: Nat.toDigits 10 k.natAbs := by
  simp [offsetText, Number.intText, Number.natText, hk, Int.ne_of_gt hk,
    Int.not_lt.2 (Int.le_of_lt hk)]

theorem offsetText_toList_neg {k : Int} (hk : k < 0) :
    (offsetText k).toList = '-' :: Nat.toDigits 10 k.natAbs := by
  simp [offsetText, Number.intText, Number.natText, hk, Int.ne_of_lt hk,
    Int.not_lt.2 (Int.le_of_lt hk)]

/-- Every character of an offset text is a sign or a decimal digit. -/
theorem mem_offsetText {k : Int} {c : Char} (h : c ∈ (offsetText k).toList) :
    c = '+' ∨ c = '-' ∨ c.isDigit := by
  rcases Int.lt_trichotomy k 0 with hk | rfl | hk
  · rw [offsetText_toList_neg hk, List.mem_cons] at h
    exact h.elim (.inr ∘ .inl) fun h =>
      .inr (.inr (Nat.isDigit_of_mem_toDigits (by decide) (by decide) h))
  · simp [offsetText] at h
  · rw [offsetText_toList_pos hk, List.mem_cons] at h
    exact h.elim .inl fun h =>
      .inr (.inr (Nat.isDigit_of_mem_toDigits (by decide) (by decide) h))

/-- An offset read after its sign: the digits as a number, kept when the signed
    number is a machine integer. -/
theorem readOffset_minus (ds : List Char) :
    readOffset ('-' :: ds) = match Number.readNat 10 ds with
      | some n =>
        if -0x8000000000000000 ≤ -(n : Int) ∧ -(n : Int) < 0x8000000000000000 then some (-(n : Int))
        else none
      | none => none := rfl

theorem readOffset_plus (ds : List Char) :
    readOffset ('+' :: ds) = match Number.readNat 10 ds with
      | some n =>
        if -0x8000000000000000 ≤ (n : Int) ∧ (n : Int) < 0x8000000000000000 then some (n : Int)
        else none
      | none => none := rfl

/-- A nonzero offset of the machine range reads back from its text. -/
theorem readOffset_offsetText {k : Int} (hk : k ≠ 0) (hlo : -2 ^ 63 ≤ k) (hhi : k < 2 ^ 63) :
    readOffset (offsetText k).toList = some k := by
  rcases Int.lt_or_gt_of_ne hk with hneg | hpos
  · rw [offsetText_toList_neg hneg, readOffset_minus, Number.readNat_ten_toDigits]
    dsimp only
    rw [if_pos (by omega)]
    congr 1
    omega
  · rw [offsetText_toList_pos hpos, readOffset_plus, Number.readNat_ten_toDigits]
    dsimp only
    rw [if_pos (by omega)]
    congr 1
    omega

/-- A sign or a digit has no case and is no space. -/
theorem toLower_isSpace_of_sign_or_digit {c : Char} (h : c = '+' ∨ c = '-' ∨ c.isDigit) :
    Text.toLower c = c ∧ Text.isSpace c = false := by
  rcases h with rfl | rfl | h
  · decide +kernel
  · decide +kernel
  · -- a digit is the digit character of its value, and there are ten of those
    have h' := Char.isDigit_iff_toNat.1 h
    simp only [Char.reduceToNat] at h'
    have hc : c = Nat.digitChar (c.toNat - 48) := by
      apply Char.toNat_inj.mp
      rw [Nat.toNat_digitChar_of_lt_ten (by omega)]
      omega
    have hdigits : ∀ d : Fin 10, Text.toLower (Nat.digitChar d) = Nat.digitChar d ∧
        Text.isSpace (Nat.digitChar d) = false := by decide +kernel
    rw [hc]
    exact hdigits ⟨c.toNat - 48, by omega⟩

theorem lower_append (s t : String) : Text.lower (s ++ t) = Text.lower s ++ Text.lower t := by
  simp [Text.lower, String.toList_append, String.ofList_append]

theorem lower_offsetText (k : Int) : Text.lower (offsetText k) = offsetText k := by
  have hkeep : ∀ c ∈ (offsetText k).toList, Text.toLower c = id c := fun _ hc =>
    (toLower_isSpace_of_sign_or_digit (mem_offsetText hc)).1
  rw [Text.lower, List.map_congr_left hkeep, List.map_id, String.ofList_toList]

/-- A text without spaces is its own trimmed text. -/
theorem trimSpace_of_forall {s : String} (h : ∀ c ∈ s.toList, Text.isSpace c = false) :
    trimSpace s = s := by
  have hkeep : ∀ l : List Char, (∀ c ∈ l, Text.isSpace c = false) →
      l.dropWhile Text.isSpace = l := by
    rintro (_ | ⟨c, l⟩) hl
    · rfl
    · exact List.dropWhile_cons_of_neg (by simp [hl c List.mem_cons_self])
  rw [trimSpace, hkeep _ h, hkeep _ (by simpa using h), List.reverse_reverse,
    String.ofList_toList]

/-- A text whose first letter is no `t` in any case is no spelling of `trace`. -/
theorem equalFold_trace_of_head {s : String} {c : Char} {cs : List Char}
    (hs : s.toList = c :: cs) (hc : Text.equalFoldChar c 't' = false) :
    Text.equalFold s "trace" = false := by
  simp [Text.equalFold, hs, hc]

/-- An offset text starts at its sign, so a word without signs before it is
    cut from it there. -/
theorem takeWhile_dropWhile_offsetText {w : List Char} (hw : ∀ c ∈ w, c ≠ '+' ∧ c ≠ '-')
    (k : Int) :
    (w ++ (offsetText k).toList).takeWhile (fun c => c != '+' && c != '-') = w ∧
      (w ++ (offsetText k).toList).dropWhile (fun c => c != '+' && c != '-') =
        (offsetText k).toList := by
  have hpos : ∀ c ∈ w, (c != '+' && c != '-') = true := fun c hc => by simp [hw c hc]
  rw [List.takeWhile_append_of_pos hpos, List.dropWhile_append_of_pos hpos]
  rcases Int.lt_trichotomy k 0 with hk | rfl | hk
  · simp [offsetText_toList_neg hk]
  · simp [offsetText]
  · simp [offsetText_toList_pos hk]

/-- Wrapping leaves the machine integers as they are. -/
theorem wrap64_of_mem {n : Int} (hlo : -2 ^ 63 ≤ n) (hhi : n < 2 ^ 63) : wrap64 n = n := by
  rw [wrap64, Int.emod_eq_of_lt (by omega) (by omega)]
  omega

/-- A word that names a standard level, followed by an offset of the machine
    range, reads as that level moved by the offset. -/
theorem readStandardLevel_word_offsetText {w : String} {base : Level}
    (hbase : standardLevel? w = some base) (hw : ∀ c ∈ w.toList, c ≠ '+' ∧ c ≠ '-')
    {k : Int} (hlo : -2 ^ 63 ≤ k) (hhi : k < 2 ^ 63) :
    readStandardLevel (w ++ offsetText k) = some (wrap64 (base + k)) := by
  obtain ⟨hname, hrest⟩ := takeWhile_dropWhile_offsetText hw k
  simp only [readStandardLevel, String.toList_append, hname, hrest, String.ofList_toList, hbase,
    Option.bind_eq_bind, Option.bind_some]
  by_cases hk : k = 0
  · subst hk
    simp [offsetText]
  · have hne : (offsetText k).toList.isEmpty = false := by
      rcases Int.lt_or_gt_of_ne hk with hneg | hpos
      · simp [offsetText_toList_neg hneg]
      · simp [offsetText_toList_pos hpos]
    simp [hne, readOffset_offsetText hk hlo hhi]

/-- A word that may stand before an offset in the name of a level: it names a
    standard level, has no blank and no sign in it, and its first letter is no
    `t` in any case, so that no name made from it is read as `trace`. -/
structure StandardWord (w : String) (base : Level) : Prop where
  names : standardLevel? w = some base
  plain : w.toList.all fun c => !Text.isSpace c && c != '+' && c != '-'
  head : ∃ c cs, w.toList = c :: cs ∧ Text.equalFoldChar c 't' = false

theorem StandardWord.mem_plain {w : String} {base : Level} (hw : StandardWord w base)
    {c : Char} (hc : c ∈ w.toList) : Text.isSpace c = false ∧ c ≠ '+' ∧ c ≠ '-' := by
  simpa [and_assoc] using List.all_eq_true.1 hw.plain c hc

/-- A standard word followed by an offset of the machine range reads as the
    word's level moved by the offset. -/
theorem StandardWord.parseLevel_append {w : String} {base : Level}
    (hw : StandardWord w base) {k : Int} (hlo : -2 ^ 63 ≤ k) (hhi : k < 2 ^ 63) :
    parseLevel (w ++ offsetText k) = wrap64 (base + k) := by
  obtain ⟨c, cs, hcs, hc⟩ := hw.head
  have hspace : ∀ c ∈ (w ++ offsetText k).toList, Text.isSpace c = false := by
    intro c hc
    rw [String.toList_append, List.mem_append] at hc
    rcases hc with hc | hc
    · exact (hw.mem_plain hc).1
    · exact (toLower_isSpace_of_sign_or_digit (mem_offsetText hc)).2
  have hhead : (w ++ offsetText k).toList = c :: (cs ++ (offsetText k).toList) := by
    simp [String.toList_append, hcs]
  have htrace : Text.equalFold (w ++ offsetText k) "trace" = false :=
    equalFold_trace_of_head hhead hc
  simp only [parseLevel, trimSpace_of_forall hspace, htrace, Bool.false_eq_true, if_false,
    readStandardLevel_word_offsetText hw.names (fun _ hc => (hw.mem_plain hc).2) hlo hhi,
    Option.getD_some]

/-- The words of the standard levels, in lower case, are standard words. -/
theorem standardWord_lower :
    StandardWord (Text.lower "DEBUG") Level.debug ∧
      StandardWord (Text.lower "INFO") Level.info ∧
      StandardWord (Text.lower "WARN") Level.warn ∧
      StandardWord (Text.lower "ERROR") Level.error :=
  ⟨⟨by decide +kernel, by decide +kernel, 'd', ['e', 'b', 'u', 'g'], by decide +kernel,
      by decide +kernel⟩,
    ⟨by decide +kernel, by decide +kernel, 'i', ['n', 'f', 'o'], by decide +kernel,
      by decide +kernel⟩,
    ⟨by decide +kernel, by decide +kernel, 'w', ['a', 'r', 'n'], by decide +kernel,
      by decide +kernel⟩,
    ⟨by decide +kernel, by decide +kernel, 'e', ['r', 'r', 'o', 'r'], by decide +kernel,
      by decide +kernel⟩⟩

/-- A level named by a standard word, in the case the name is written in, and
    its offset from the word's level reads back from that name. -/
theorem StandardWord.parseLevel_lower {W : String} {base l : Int}
    (hw : StandardWord (Text.lower W) base) {k : Int} (hk : base + k = l)
    (hklo : -2 ^ 63 ≤ k) (hkhi : k < 2 ^ 63) (hlo : -2 ^ 63 ≤ l) (hhi : l < 2 ^ 63) :
    parseLevel (Text.lower (W ++ offsetText k)) = l := by
  rw [lower_append, lower_offsetText, hw.parseLevel_append hklo hkhi, hk, wrap64_of_mem hlo hhi]

/-- A level other than the named ones is named by its standard name, in lower
    case. -/
theorem levelName_of_not_mem {l : Level} (hl : l ∉ namedLevels) :
    levelName l = Text.lower (standardLevelName l) := by
  simp only [namedLevels, List.mem_cons, List.not_mem_nil, or_false, not_or] at hl
  obtain ⟨htrace, hdebug, hinfo, hwarn, herror⟩ := hl
  simp [levelName, htrace, hdebug, hinfo, hwarn, herror]

/-- Every level of the machine range reads back from its name. -/
theorem parseLevel_levelName (l : Level) (hlo : -2 ^ 63 ≤ l) (hhi : l < 2 ^ 63) :
    parseLevel (levelName l) = l := by
  by_cases hl : l ∈ namedLevels
  · simp only [namedLevels, List.mem_cons, List.not_mem_nil, or_false] at hl
    rcases hl with rfl | rfl | rfl | rfl | rfl <;> decide +kernel
  · obtain ⟨hdebug, hinfo, hwarn, herror⟩ := standardWord_lower
    -- `omega` reads bounds on integers, not on levels
    simp only [Level] at hlo hhi
    rw [levelName_of_not_mem hl, standardLevelName]
    -- the nearest standard level at or below `l`, and `debug` below all of them
    split
    · exact hdebug.parseLevel_lower (show (-4 : Int) + (l + 4) = l by omega) (by omega)
        (by omega) hlo hhi
    split
    · exact hinfo.parseLevel_lower (show (0 : Int) + l = l by omega) (by omega) (by omega) hlo hhi
    split
    · exact hwarn.parseLevel_lower (show (4 : Int) + (l - 4) = l by omega) (by omega) (by omega)
        hlo hhi
    · exact herror.parseLevel_lower (show (8 : Int) + (l - 8) = l by omega) (by omega) (by omega)
        hlo hhi

example : levelName (-9) = "debug-5" ∧ parseLevel "debug-5" = -9 := by decide +kernel

/-- The least machine integer reads back from its name,
    `debug-9223372036854775804`. -/
theorem parseLevel_levelName_least :
    -2 ^ 63 ≤ (-2 ^ 63 : Level) ∧ (-2 ^ 63 : Level) < 2 ^ 63 ∧
      parseLevel (levelName (-2 ^ 63)) = -2 ^ 63 :=
  ⟨by decide, by decide, parseLevel_levelName (-2 ^ 63) (by decide) (by decide)⟩

end Log

end ExprTree
