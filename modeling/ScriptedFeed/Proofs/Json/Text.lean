import ScriptedFeed.Json.Text
import ScriptedFeed.Json.Writer
import ScriptedFeed.Proofs.Number.Digits
import ScriptedFeed.Proofs.Text.Utf8

/-!
# Texts are read back as they were written

Between its marks a text is a sequence of bytes that stand for themselves and of escapes, each of
which stands for a character: a letter, the digits of its code unit, or those of two surrogates.
Reading it needs a step for every part, and leaves what comes after the closing mark; nothing but
such a sequence is read. What is written for a character, one of these parts or the bytes of one
that takes several, spells the bytes of that character.
-/

namespace ScriptedFeed

namespace Json

variable {text : String} {character : Char} {byte : UInt8} {digits letters rest : List UInt8}
  {unit : Nat}

/-- Four hexadecimal digits, in either letter case, stand for a code unit. -/
def SpellsUnit (digits : List UInt8) (unit : Nat) : Prop :=
  ∃ first second third fourth,
    digits.map hexDigit? = [some first, some second, some third, some fourth] ∧
      unit = ((first * 16 + second) * 16 + third) * 16 + fourth

/-- What stands after the backslash of an escape stands for a character. -/
inductive IsEscape : List UInt8 → Char → Prop where
  | short (letter : UInt8) {character : Char} (short_eq : shortEscape? letter = some character) :
      IsEscape [letter] character
  | unit {digits : List UInt8} {character : Char} (spells : SpellsUnit digits character.toNat) :
      IsEscape (0x75 :: digits) character
  | pair {digits more : List UInt8} {leading trailing : Nat} {character : Char}
      (spells : SpellsUnit digits leading) (more_spells : SpellsUnit more trailing)
      (isLeading : isLeadingSurrogate leading) (isTrailing : isTrailingSurrogate trailing)
      (code_eq : character.toNat = (leading - 0xD800) * 0x400 + (trailing - 0xDC00) + 0x10000) :
      IsEscape (0x75 :: (digits ++ backslash :: 0x75 :: more)) character

/-- Some bytes between the marks of a text stand for the bytes of the text. -/
inductive Spells : List UInt8 → List UInt8 → Prop where
  | nil : Spells [] []
  | byte (byte : UInt8) {written spelled : List UInt8} (not_mark : byte ≠ Text.quotationMark)
      (not_escape : byte ≠ backslash) (not_control : 0x20 ≤ byte)
      (spells : Spells written spelled) : Spells (byte :: written) (byte :: spelled)
  | escape {letters written spelled : List UInt8} {character : Char}
      (isEscape : IsEscape letters character) (spells : Spells written spelled) :
      Spells (backslash :: letters ++ written) (String.utf8EncodeChar character ++ spelled)

section Escape

theorem isLeadingSurrogate_iff : isLeadingSurrogate unit ↔ 0xD800 ≤ unit ∧ unit ≤ 0xDBFF := by
  simp [isLeadingSurrogate]

theorem isTrailingSurrogate_iff : isTrailingSurrogate unit ↔ 0xDC00 ≤ unit ∧ unit ≤ 0xDFFF := by
  simp [isTrailingSurrogate]

theorem hexDigit?_lt {digit : Nat} (digit_eq : hexDigit? byte = some digit) : digit < 16 := by
  simp only [hexDigit?, isDigit, digitOf, Bool.and_eq_true, decide_eq_true_eq,
    UInt8.le_iff_toNat_le, UInt8.reduceToNat] at digit_eq
  split_ifs at digit_eq <;> cases digit_eq <;> omega

theorem SpellsUnit.lt (spells : SpellsUnit digits unit) : unit < 0x10000 := by
  rcases spells with ⟨first, second, third, fourth, digits_eq, rfl⟩
  rcases digits with _ | ⟨a, _ | ⟨b, _ | ⟨c, _ | ⟨d, _ | ⟨e, digits⟩⟩⟩⟩⟩ <;>
    simp only [List.map_cons, List.map_nil, List.cons.injEq, reduceCtorEq, and_false, and_true]
      at digits_eq
  rcases digits_eq with ⟨first_eq, second_eq, third_eq, fourth_eq⟩
  have first_lt := hexDigit?_lt first_eq
  have second_lt := hexDigit?_lt second_eq
  have third_lt := hexDigit?_lt third_eq
  have fourth_lt := hexDigit?_lt fourth_eq
  omega

theorem readCodeUnit_eq_ok_iff {bytes : List UInt8} :
    readCodeUnit bytes = .ok (unit, rest) ↔
      ∃ digits, bytes = digits ++ rest ∧ SpellsUnit digits unit := by
  constructor
  · intro read
    rw [readCodeUnit.eq_def] at read
    split at read
    · next a b c d others =>
      split at read
      · next first second third fourth first_eq second_eq third_eq fourth_eq =>
        cases read
        exact ⟨[a, b, c, d], rfl, first, second, third, fourth,
          by simp [first_eq, second_eq, third_eq, fourth_eq], rfl⟩
      · cases read
    · cases read
  · rintro ⟨digits, rfl, first, second, third, fourth, digits_eq, rfl⟩
    rcases digits with _ | ⟨a, _ | ⟨b, _ | ⟨c, _ | ⟨d, _ | ⟨e, digits⟩⟩⟩⟩⟩ <;>
      simp only [List.map_cons, List.map_nil, List.cons.injEq, reduceCtorEq, and_false, and_true]
        at digits_eq
    rcases digits_eq with ⟨first_eq, second_eq, third_eq, fourth_eq⟩
    simp [readCodeUnit, first_eq, second_eq, third_eq, fourth_eq]

theorem SpellsUnit.readCodeUnit_eq (spells : SpellsUnit digits unit) (rest : List UInt8) :
    readCodeUnit (digits ++ rest) = .ok (unit, rest) :=
  readCodeUnit_eq_ok_iff.2 ⟨digits, rfl, spells⟩

theorem readPairByte_eq_ok_iff {bytes : List UInt8} :
    readPairByte byte bytes = .ok rest ↔ bytes = byte :: rest := by
  cases bytes with
  | nil => simp [readPairByte]
  | cons first others =>
      rw [readPairByte]
      split_ifs with first_eq
      · simp [first_eq]
      · simp [first_eq]

theorem toNat_pairedChar {leading trailing : Nat} (isLeading : isLeadingSurrogate leading)
    (isTrailing : isTrailingSurrogate trailing) : (pairedChar leading trailing).toNat =
      (leading - 0xD800) * 0x400 + (trailing - 0xDC00) + 0x10000 := by
  rw [isLeadingSurrogate_iff] at isLeading
  rw [isTrailingSurrogate_iff] at isTrailing
  exact Text.toNat_ofNat_of_valid (by omega)

/-- An escape is read as the character that it stands for, whatever comes after it. -/
theorem IsEscape.readEscape_eq (isEscape : IsEscape letters character) (rest : List UInt8) :
    readEscape (letters ++ rest) = .ok (character, rest) := by
  have not_short : shortEscape? 0x75 = none := rfl
  cases isEscape with
  | short letter short_eq => simp [readEscape, short_eq]
  | unit spells =>
      have valid : character.toNat < 0xD800 ∨
          0xDFFF < character.toNat ∧ character.toNat < 0x110000 := character.valid
      have not_trailing : isTrailingSurrogate character.toNat = false := by
        rw [Bool.eq_false_iff, ne_eq, isTrailingSurrogate_iff]
        omega
      have not_leading : isLeadingSurrogate character.toNat = false := by
        rw [Bool.eq_false_iff, ne_eq, isLeadingSurrogate_iff]
        omega
      simp [readEscape, not_short, readHexEscape, spells.readCodeUnit_eq, not_trailing, not_leading]
  | @pair digits more leading trailing _ spells more_spells isLeading isTrailing code_eq =>
      have not_trailing : isTrailingSurrogate leading = false := by
        rw [Bool.eq_false_iff, ne_eq, isTrailingSurrogate_iff]
        rw [isLeadingSurrogate_iff] at isLeading
        omega
      have paired_eq : pairedChar leading trailing = character := by
        rw [← Char.toNat_inj, toNat_pairedChar isLeading isTrailing, code_eq]
      simp [readEscape, not_short, readHexEscape, spells.readCodeUnit_eq,
        more_spells.readCodeUnit_eq, not_trailing, isLeading, isTrailing, readPairByte, paired_eq]

theorem exists_isEscape_of_readHexEscape {bytes : List UInt8}
    (read : readHexEscape bytes = .ok (character, rest)) :
    ∃ letters, bytes = letters ++ rest ∧ IsEscape (0x75 :: letters) character := by
  rw [readHexEscape, bind_eq_ok_iff] at read
  rcases read with ⟨⟨leading, others⟩, unit_eq, read⟩
  rcases readCodeUnit_eq_ok_iff.1 unit_eq with ⟨digits, rfl, spells⟩
  have leading_lt := spells.lt
  simp only [throw, throwThe, MonadExceptOf.throw, except_error_bind] at read
  split_ifs at read with isTrailing isAlone
  · -- The unit is a character of its own.
    simp only [except_pure, Except.ok.injEq, Prod.mk.injEq] at read
    rcases read with ⟨rfl, rfl⟩
    have toNat_eq : (Char.ofNat leading).toNat = leading := by
      apply Text.toNat_ofNat_of_valid
      rw [isTrailingSurrogate_iff] at isTrailing
      rw [Bool.not_eq_true', Bool.eq_false_iff, ne_eq, isLeadingSurrogate_iff] at isAlone
      omega
    exact ⟨digits, rfl, .unit (toNat_eq.symm ▸ spells)⟩
  · -- A second escape follows for the other half of a pair.
    simp only [bind_eq_ok_iff, readPairByte_eq_ok_iff, Prod.exists] at read
    rcases read with ⟨_, rfl, _, rfl, trailing, others, trailing_eq, read⟩
    rcases readCodeUnit_eq_ok_iff.1 trailing_eq with ⟨more, rfl, more_spells⟩
    split_ifs at read with isTrailing
    simp only [except_pure, Except.ok.injEq, Prod.mk.injEq] at read
    rcases read with ⟨rfl, rfl⟩
    have isLeading : isLeadingSurrogate leading := by simpa using isAlone
    refine ⟨digits ++ backslash :: 0x75 :: more, by simp, ?_⟩
    exact .pair spells more_spells isLeading isTrailing (toNat_pairedChar isLeading isTrailing)

/-- What is read as an escape stands for the character that is read. -/
theorem readEscape_eq_ok_iff {bytes : List UInt8} :
    readEscape bytes = .ok (character, rest) ↔
      ∃ letters, bytes = letters ++ rest ∧ IsEscape letters character := by
  constructor
  · intro read
    cases bytes with
    | nil => cases read
    | cons letter others =>
        rw [readEscape] at read
        split at read
        · next short_eq =>
          cases read
          exact ⟨[letter], rfl, .short letter short_eq⟩
        · split_ifs at read with letter_eq
          rcases exists_isEscape_of_readHexEscape read with ⟨letters, rfl, isEscape⟩
          exact ⟨letter :: letters, rfl, letter_eq ▸ isEscape⟩
  · rintro ⟨letters, rfl, isEscape⟩
    exact isEscape.readEscape_eq rest

end Escape

namespace Spells

variable {written more spelled others : List UInt8}

theorem append (spells : Spells written spelled) (more_spells : Spells more others) :
    Spells (written ++ more) (spelled ++ others) := by
  induction spells with
  | nil => exact more_spells
  | byte byte not_mark not_escape not_control _ ih =>
      exact .byte byte not_mark not_escape not_control ih
  | escape isEscape _ ih =>
      rw [List.append_assoc, List.append_assoc]
      exact .escape isEscape ih

/-- The bytes are read up to the closing mark, if there is an element to spend for each of them. -/
theorem readTextBytes_eq (spells : Spells written spelled) {fuel : List UInt8}
    (length_lt : written.length < fuel.length) (rest : List UInt8) :
    readTextBytes fuel (written ++ Text.quotationMark :: rest) = .ok (spelled, rest) := by
  induction spells generalizing fuel with
  | nil =>
      cases fuel with
      | nil => simp at length_lt
      | cons _ fuel => simp [readTextBytes]
  | byte byte not_mark not_escape not_control _ ih =>
      cases fuel with
      | nil => simp at length_lt
      | cons _ fuel =>
          have not_lt : ¬ byte < 0x20 := UInt8.not_lt.2 not_control
          rw [List.cons_append, readTextBytes, if_neg not_mark, if_neg not_escape, if_neg not_lt,
            ih (Nat.lt_of_succ_lt_succ length_lt)]
          rfl
  | escape isEscape _ ih =>
      cases fuel with
      | nil => simp at length_lt
      | cons _ fuel =>
          have others_lt := length_lt
          simp only [List.cons_append, List.length_cons, List.length_append] at others_lt
          rw [List.append_assoc, List.cons_append, readTextBytes, if_neg (by decide), if_pos rfl,
            isEscape.readEscape_eq]
          simp only [except_ok_bind, ih (show _ < fuel.length by omega)]

end Spells

/-- Reading stops at the first closing mark, and what stands before it spells what is read. -/
theorem exists_spells_of_readTextBytes {fuel bytes spelled : List UInt8}
    (read : readTextBytes fuel bytes = .ok (spelled, rest)) :
    ∃ written, bytes = written ++ Text.quotationMark :: rest ∧ Spells written spelled := by
  induction fuel generalizing bytes spelled with
  | nil => cases bytes <;> cases read
  | cons _ fuel ih =>
      cases bytes with
      | nil => cases read
      | cons byte bytes =>
          rw [readTextBytes] at read
          split_ifs at read with isMark isEscape isControl
          · cases read
            exact ⟨[], by rw [isMark, List.nil_append], .nil⟩
          · simp only [bind_eq_ok_iff, Prod.exists] at read
            rcases read with ⟨character, others, escape_eq, spelled, last, others_eq, result_eq⟩
            cases result_eq
            rcases readEscape_eq_ok_iff.1 escape_eq with ⟨letters, rfl, escape⟩
            rcases ih others_eq with ⟨written, rfl, spells⟩
            exact ⟨backslash :: letters ++ written, by simp [isEscape], .escape escape spells⟩
          · simp only [bind_eq_ok_iff, Prod.exists] at read
            rcases read with ⟨spelled, last, others_eq, result_eq⟩
            cases result_eq
            rcases ih others_eq with ⟨written, rfl, spells⟩
            have not_control : 0x20 ≤ byte := UInt8.not_lt.1 isControl
            exact ⟨byte :: written, rfl, .byte byte isMark isEscape not_control spells⟩

/-- A text is read from what spells its bytes up to a closing mark, and from nothing else. -/
theorem readText_eq_ok_iff {bytes : List UInt8} :
    readText bytes = .ok (text, rest) ↔
      ∃ written, bytes = written ++ Text.quotationMark :: rest ∧
        Spells written (Text.bytesOf text) := by
  constructor
  · intro read
    rw [readText, bind_eq_ok_iff] at read
    rcases read with ⟨⟨spelled, last⟩, bytes_eq, read⟩
    simp only at read
    split at read
    · next characters decoded =>
      cases read
      rcases exists_spells_of_readTextBytes bytes_eq with ⟨written, rfl, spells⟩
      have spelled_eq := Text.eq_append_of_decodeUtf8Prefix decoded
      rw [List.append_nil] at spelled_eq
      refine ⟨written, rfl, ?_⟩
      rwa [Text.bytesOf, String.toList_ofList, ← spelled_eq]
    · cases read
  · rintro ⟨written, rfl, spells⟩
    rw [readText, spells.readTextBytes_eq (by simp) rest]
    simp only [except_ok_bind, Text.bytesOf, Text.decodeUtf8Prefix_encodeUtf8, String.ofList_toList]

section Written

theorem spells_self {written : List UInt8} (stand_for_themselves : ∀ byte ∈ written,
    byte ≠ Text.quotationMark ∧ byte ≠ backslash ∧ 0x20 ≤ byte) : Spells written written := by
  induction written with
  | nil => exact .nil
  | cons byte written ih =>
      rcases List.forall_mem_cons.1 stand_for_themselves with
        ⟨⟨not_mark, not_escape, not_control⟩, others⟩
      exact .byte byte not_mark not_escape not_control (ih others)

/-- A character that needs no escape is spelt by its own bytes. -/
theorem spells_utf8EncodeChar (not_mark : character ≠ '"') (not_escape : character ≠ '\\')
    (not_control : 0x20 ≤ character.toNat) :
    Spells (String.utf8EncodeChar character) (String.utf8EncodeChar character) := by
  apply spells_self
  intro byte byte_mem
  refine ⟨Text.ne_of_mem_utf8EncodeChar (by decide) not_mark byte_mem,
    Text.ne_of_mem_utf8EncodeChar (by decide) not_escape byte_mem, ?_⟩
  rw [UInt8.le_iff_toNat_le]
  by_cases isShort : character.toNat < 0x80
  · rw [Text.utf8EncodeChar_of_lt isShort, List.mem_singleton] at byte_mem
    rwa [byte_mem, UInt8.toNat_ofNat', Nat.mod_eq_of_lt (by omega)]
  · have byte_ge := Text.le_of_mem_utf8EncodeChar (Nat.not_lt.1 isShort) byte_mem
    exact le_trans (by decide) byte_ge

theorem spells_short (letter : UInt8) (shortEscape?_eq : shortEscape? letter = some character) :
    Spells [backslash, letter] (String.utf8EncodeChar character) := by
  simpa using Spells.escape (.short letter shortEscape?_eq) .nil

theorem hexDigit?_digitChar {digit : Nat} (digit_lt : digit < 16) :
    hexDigit? (UInt8.ofNat (Nat.digitChar digit).toNat) = some digit := by
  revert digit_lt
  revert digit
  decide

theorem toNat_digitChar_lt {digit : Nat} (digit_lt : digit < 16) :
    (Nat.digitChar digit).toNat < 0x80 := by
  revert digit_lt
  revert digit
  decide

theorem spells_hex (isControl : character.toNat < 0x20) :
    Spells (Text.encodeUtf8 (['\\', 'u', '0', '0'] ++ twoHexDigits character.toNat))
      (String.utf8EncodeChar character) := by
  let first := Nat.digitChar (character.toNat / 16)
  let second := Nat.digitChar (character.toNat % 16)
  have first_lt : character.toNat / 16 < 16 := by omega
  have second_lt : character.toNat % 16 < 16 := by omega
  have written_eq : Text.encodeUtf8 (['\\', 'u', '0', '0'] ++ twoHexDigits character.toNat) =
      [backslash, 0x75, 0x30, 0x30, UInt8.ofNat first.toNat, UInt8.ofNat second.toNat] := by
    rw [Text.encodeUtf8_eq_map]
    · rfl
    · simp [twoHexDigits, toNat_digitChar_lt first_lt, toNat_digitChar_lt second_lt]
  have spells : SpellsUnit [0x30, 0x30, UInt8.ofNat first.toNat, UInt8.ofNat second.toNat]
      character.toNat := by
    have zero_eq : hexDigit? 0x30 = some 0 := rfl
    refine ⟨0, 0, _, _, ?_, (show character.toNat =
      ((0 * 16 + 0) * 16 + character.toNat / 16) * 16 + character.toNat % 16 by omega)⟩
    simp only [List.map_cons, List.map_nil, zero_eq, first, second, hexDigit?_digitChar first_lt,
      hexDigit?_digitChar second_lt]
  rw [written_eq]
  simpa using Spells.escape (.unit spells) .nil

theorem spells_writeChar (character : Char) :
    Spells (Text.encodeUtf8 (writeChar character)) (String.utf8EncodeChar character) := by
  unfold writeChar
  split
  · exact spells_short _ rfl
  · exact spells_short _ rfl
  · exact spells_short _ rfl
  · exact spells_short _ rfl
  · exact spells_short _ rfl
  · exact spells_short _ rfl
  · exact spells_short _ rfl
  · next not_mark not_escape _ _ _ _ _ =>
      split_ifs with isControl
      · exact spells_hex isControl
      · simpa using spells_utf8EncodeChar not_mark not_escape (Nat.not_lt.1 isControl)

theorem spells_flatMap_writeChar (text : List Char) :
    Spells (Text.encodeUtf8 (text.flatMap writeChar)) (Text.encodeUtf8 text) := by
  induction text with
  | nil => exact .nil
  | cons character text ih =>
      rw [List.flatMap_cons, Text.encodeUtf8_append, Text.encodeUtf8_cons]
      exact (spells_writeChar character).append ih

/-- Between its marks a text is written so that it is read back, whatever comes after them. -/
theorem readText_flatMap_writeChar (text : String) (rest : List UInt8) :
    readText (Text.encodeUtf8 (text.toList.flatMap writeChar) ++ Text.quotationMark :: rest) =
      .ok (text, rest) :=
  readText_eq_ok_iff.2 ⟨_, rfl, spells_flatMap_writeChar text.toList⟩

end Written

end Json

end ScriptedFeed
