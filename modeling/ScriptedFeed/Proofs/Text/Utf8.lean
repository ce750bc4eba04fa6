import Mathlib.Tactic
import ScriptedFeed.Text.Utf8

/-!
# Decoding what was encoded

The bytes of a character can be told from its first byte, so a text is read back from its bytes
whatever comes after a character. A character of the first 128 takes one byte, which is its code
point; the bytes of all others lie above these. Every character has one spelling only, so what is
decoded is what encoding it gives.
-/

namespace ScriptedFeed

namespace Text

variable {character : Char} {text : List Char} {first second third fourth byte : UInt8}
  {rest : List UInt8}

section Encode

@[simp]
theorem encodeUtf8_nil : encodeUtf8 [] = [] :=
  rfl

@[simp]
theorem encodeUtf8_cons (character : Char) (text : List Char) :
    encodeUtf8 (character :: text) = String.utf8EncodeChar character ++ encodeUtf8 text :=
  List.flatMap_cons

@[simp]
theorem encodeUtf8_append (text more : List Char) :
    encodeUtf8 (text ++ more) = encodeUtf8 text ++ encodeUtf8 more :=
  List.flatMap_append

theorem utf8EncodeChar_of_lt (isShort : character.toNat < 0x80) :
    String.utf8EncodeChar character = [UInt8.ofNat character.toNat] := by
  have short_le : character.val.toNat ≤ 0x7F := Nat.le_of_lt_succ isShort
  simp only [String.utf8EncodeChar, short_le, if_true]
  rfl

theorem encodeUtf8_cons_of_lt (isShort : character.toNat < 0x80) (text : List Char) :
    encodeUtf8 (character :: text) = UInt8.ofNat character.toNat :: encodeUtf8 text := by
  rw [encodeUtf8_cons, utf8EncodeChar_of_lt isShort, List.singleton_append]

theorem encodeUtf8_eq_map (all_short : ∀ character ∈ text, character.toNat < 0x80) :
    encodeUtf8 text = text.map fun character => UInt8.ofNat character.toNat := by
  induction text with
  | nil => rfl
  | cons character text ih =>
      rcases List.forall_mem_cons.1 all_short with ⟨isShort, text_short⟩
      rw [encodeUtf8_cons_of_lt isShort, ih text_short, List.map_cons]

theorem toNat_ofNat_of_valid {code : Nat}
    (valid : code < 0xD800 ∨ 0xDFFF < code ∧ code < 0x110000) : (Char.ofNat code).toNat = code := by
  have isValidChar : code.isValidChar := valid
  rw [Char.ofNat, dif_pos isValidChar]
  exact UInt32.toNat_ofNatLT

theorem utf8EncodeChar_ofNat {code : Nat}
    (valid : code < 0xD800 ∨ 0xDFFF < code ∧ code < 0x110000) :
    String.utf8EncodeChar (Char.ofNat code) =
      if code ≤ 0x7F then [UInt8.ofNat code]
      else if code ≤ 0x7FF then [UInt8.ofNat (code / 64 % 32 + 192), UInt8.ofNat (code % 64 + 128)]
      else if code ≤ 0xFFFF then
        [UInt8.ofNat (code / 4096 % 16 + 224), UInt8.ofNat (code / 64 % 64 + 128),
          UInt8.ofNat (code % 64 + 128)]
      else
        [UInt8.ofNat (code / 262144 % 8 + 240), UInt8.ofNat (code / 4096 % 64 + 128),
          UInt8.ofNat (code / 64 % 64 + 128), UInt8.ofNat (code % 64 + 128)] := by
  have val_eq : (Char.ofNat code).val.toNat = code := toNat_ofNat_of_valid valid
  simp only [String.utf8EncodeChar, val_eq]

/-- No byte of a longer character is one of those that stand for a character alone. -/
theorem le_of_mem_utf8EncodeChar (isLong : 0x80 ≤ character.toNat)
    (byte_mem : byte ∈ String.utf8EncodeChar character) : 0x80 ≤ byte.toNat := by
  have long_lt : ¬ character.val.toNat ≤ 0x7F := Nat.not_le.2 isLong
  simp only [String.utf8EncodeChar, long_lt, if_false] at byte_mem
  split_ifs at byte_mem <;>
    simp only [List.mem_cons, List.not_mem_nil, or_false] at byte_mem <;>
    rcases byte_mem with rfl | rfl | rfl | rfl <;>
    simp only [UInt8.toNat_ofNat'] <;> omega

/-- A character that takes one byte shares it with no other character. -/
theorem ne_of_mem_utf8EncodeChar {mark : Char} (isShort : mark.toNat < 0x80)
    (differs : character ≠ mark) (byte_mem : byte ∈ String.utf8EncodeChar character) :
    byte ≠ UInt8.ofNat mark.toNat := by
  rw [ne_eq, ← Char.toNat_inj] at differs
  rw [ne_eq, ← UInt8.toNat_inj, UInt8.toNat_ofNat']
  by_cases character_short : character.toNat < 0x80
  · rw [utf8EncodeChar_of_lt character_short, List.mem_singleton] at byte_mem
    rw [byte_mem, UInt8.toNat_ofNat']
    omega
  · have byte_ge := le_of_mem_utf8EncodeChar (Nat.not_lt.1 character_short) byte_mem
    omega

/-- A text that does not start with a short character does not start with its byte either. -/
theorem head?_encodeUtf8_ne (mark : Char) (isShort : mark.toNat < 0x80)
    (differs : text.head? ≠ some mark) :
    (encodeUtf8 text).head? ≠ some (UInt8.ofNat mark.toNat) := by
  cases text with
  | nil => simp
  | cons character text =>
      have character_ne : character ≠ mark := by simpa using differs
      rcases List.exists_cons_of_ne_nil (String.utf8EncodeChar_ne_nil (c := character)) with
        ⟨first, others, bytes_eq⟩
      have first_mem : first ∈ String.utf8EncodeChar character := by simp [bytes_eq]
      have first_ne := ne_of_mem_utf8EncodeChar isShort character_ne first_mem
      simpa [encodeUtf8_cons, bytes_eq] using first_ne

end Encode

section Decode

theorem isContinuation_iff : isContinuation byte ↔ 0x80 ≤ byte.toNat ∧ byte.toNat ≤ 0xBF := by
  simp [isContinuation, UInt8.le_iff_toNat_le]

theorem isSecondByte_iff : isSecondByte first second ↔
    (0x80 ≤ second.toNat ∧ second.toNat ≤ 0xBF) ∧
      (first.toNat = 0xE0 → 0xA0 ≤ second.toNat) ∧ (first.toNat = 0xED → second.toNat ≤ 0x9F) ∧
      (first.toNat = 0xF0 → 0x90 ≤ second.toNat) ∧ (first.toNat = 0xF4 → second.toNat ≤ 0x8F) := by
  have ne_or_iff (code : UInt8) (condition : Bool) :
      (first != code || condition) = true ↔ (first.toNat = code.toNat → condition) := by
    rw [Bool.or_eq_true, bne_iff_ne, ne_eq, UInt8.toNat_inj, or_iff_not_imp_left, not_not]
  simp only [isSecondByte, Bool.and_eq_true, ne_or_iff, isContinuation_iff, decide_eq_true_eq,
    UInt8.le_iff_toNat_le, and_assoc]
  rfl

theorem continuationCount?_eq (first : UInt8) : continuationCount? first =
    if first.toNat ≤ 0x7F then some 0 else if first.toNat < 0xC2 then none
    else if first.toNat ≤ 0xDF then some 1 else if first.toNat ≤ 0xEF then some 2
    else if first.toNat ≤ 0xF4 then some 3 else none := by
  simp only [continuationCount?, UInt8.le_iff_toNat_le, UInt8.lt_iff_toNat_lt, UInt8.reduceToNat]

theorem decodeChar?_one (isFirst : first.toNat ≤ 0x7F) :
    decodeChar? (first :: rest) = some (Char.ofNat first.toNat, rest) := by
  have count_eq : continuationCount? first = some 0 := by
    rw [continuationCount?_eq, if_pos isFirst]
  simp only [decodeChar?, count_eq]

theorem decodeChar?_two (isFirst : 0xC2 ≤ first.toNat ∧ first.toNat ≤ 0xDF)
    (isSecond : isSecondByte first second) :
    decodeChar? (first :: second :: rest) =
      some (Char.ofNat (first.toNat % 32 * 64 + continuationBits second), rest) := by
  have count_eq : continuationCount? first = some 1 := by
    rw [continuationCount?_eq, if_neg (by omega), if_neg (by omega), if_pos (by omega)]
  simp only [decodeChar?, count_eq, isSecond, if_true]

theorem decodeChar?_three (isFirst : 0xE0 ≤ first.toNat ∧ first.toNat ≤ 0xEF)
    (isSecond : isSecondByte first second) (isThird : isContinuation third) :
    decodeChar? (first :: second :: third :: rest) =
      some (Char.ofNat ((first.toNat % 16 * 64 + continuationBits second) * 64 +
        continuationBits third), rest) := by
  have count_eq : continuationCount? first = some 2 := by
    rw [continuationCount?_eq, if_neg (by omega), if_neg (by omega), if_neg (by omega),
      if_pos (by omega)]
  simp only [decodeChar?, count_eq, isSecond, isThird, Bool.and_true, if_true]

theorem decodeChar?_four (isFirst : 0xF0 ≤ first.toNat ∧ first.toNat ≤ 0xF4)
    (isSecond : isSecondByte first second) (isThird : isContinuation third)
    (isFourth : isContinuation fourth) :
    decodeChar? (first :: second :: third :: fourth :: rest) =
      some (Char.ofNat (((first.toNat % 8 * 64 + continuationBits second) * 64 +
        continuationBits third) * 64 + continuationBits fourth), rest) := by
  have count_eq : continuationCount? first = some 3 := by
    rw [continuationCount?_eq, if_neg (by omega), if_neg (by omega), if_neg (by omega),
      if_neg (by omega), if_pos (by omega)]
  simp only [decodeChar?, count_eq, isSecond, isThird, isFourth, Bool.and_true, if_true]

/-- The bytes of a character are read back as that character, whatever comes after them. -/
theorem decodeChar?_utf8EncodeChar_append (character : Char) (rest : List UInt8) :
    decodeChar? (String.utf8EncodeChar character ++ rest) = some (character, rest) := by
  have valid : character.toNat < 0xD800 ∨ 0xDFFF < character.toNat ∧ character.toNat < 0x110000 :=
    character.valid
  have ofNat_eq (code : Nat) (code_eq : code = character.toNat) : Char.ofNat code = character := by
    rw [code_eq, Char.ofNat_toNat]
  have val_eq : character.val.toNat = character.toNat := rfl
  simp only [String.utf8EncodeChar, val_eq]
  split_ifs with one two three
  · rw [List.singleton_append, decodeChar?_one, ofNat_eq]
    all_goals
      simp only [UInt8.toNat_ofNat']
      omega
  · rw [List.cons_append, List.singleton_append, decodeChar?_two, ofNat_eq]
    all_goals
      simp only [continuationBits, isSecondByte_iff, UInt8.toNat_ofNat']
      omega
  · rw [List.cons_append, List.cons_append, List.singleton_append, decodeChar?_three, ofNat_eq]
    all_goals
      simp only [continuationBits, isSecondByte_iff, isContinuation_iff, UInt8.toNat_ofNat']
      omega
  · rw [List.cons_append, List.cons_append, List.cons_append, List.singleton_append,
      decodeChar?_four, ofNat_eq]
    all_goals
      simp only [continuationBits, isSecondByte_iff, isContinuation_iff, UInt8.toNat_ofNat']
      omega

theorem decodeUpTo_nil (limit : Nat) : decodeUpTo limit [] = ([], []) := by
  cases limit <;> rfl

theorem decodeUpTo_encodeUtf8_append {limit : Nat} (length_le : text.length ≤ limit)
    (bytes : List UInt8) : decodeUpTo limit (encodeUtf8 text ++ bytes) =
      (text ++ (decodeUpTo (limit - text.length) bytes).1,
        (decodeUpTo (limit - text.length) bytes).2) := by
  induction text generalizing limit with
  | nil => rfl
  | cons character text ih =>
      cases limit with
      | zero => simp at length_le
      | succ limit =>
          have others := ih (Nat.le_of_succ_le_succ length_le)
          rw [encodeUtf8_cons, List.append_assoc, decodeUpTo, decodeChar?_utf8EncodeChar_append]
          simp only [others, List.length_cons, Nat.add_sub_add_right, List.cons_append]

theorem decodeUpTo_encodeUtf8 {limit : Nat} (length_le : text.length ≤ limit) :
    decodeUpTo limit (encodeUtf8 text) = (text, []) := by
  have decoded := decodeUpTo_encodeUtf8_append length_le []
  rwa [List.append_nil, decodeUpTo_nil, List.append_nil] at decoded

theorem length_le_length_encodeUtf8 (text : List Char) :
    text.length ≤ (encodeUtf8 text).length := by
  induction text with
  | nil => exact Nat.le_refl _
  | cons character text ih =>
      have character_pos : 0 < (String.utf8EncodeChar character).length :=
        List.length_pos_of_ne_nil String.utf8EncodeChar_ne_nil
      rw [encodeUtf8_cons, List.length_append, List.length_cons]
      omega

/-- What a text is stored as is decoded to that text, with nothing left. -/
theorem decodeUtf8Prefix_encodeUtf8 (text : List Char) :
    decodeUtf8Prefix (encodeUtf8 text) = (text, []) :=
  decodeUpTo_encodeUtf8 (length_le_length_encodeUtf8 text)

theorem decodeUtf8?_encodeUtf8 (text : List Char) : decodeUtf8? (encodeUtf8 text) = some text := by
  rw [decodeUtf8?, decodeUtf8Prefix_encodeUtf8]

/-- A character that is decoded stands at the front with exactly its bytes. -/
theorem eq_append_of_decodeChar? {bytes : List UInt8}
    (decoded : decodeChar? bytes = some (character, rest)) :
    bytes = String.utf8EncodeChar character ++ rest := by
  have ofNat_eq (byte : UInt8) {code : Nat} (code_eq : code = byte.toNat) :
      UInt8.ofNat code = byte := by
    rw [code_eq, UInt8.ofNat_toNat]
  cases bytes with
  | nil => cases decoded
  | cons first tail =>
      have first_lt := first.toNat_lt
      simp only [decodeChar?, continuationCount?_eq] at decoded
      split_ifs at decoded with one isOther two three four
      · cases decoded
        rw [utf8EncodeChar_ofNat (by omega), if_pos (by omega), ofNat_eq first rfl]
        rfl
      · rcases tail with _ | ⟨second, tail⟩
        · cases decoded
        simp only at decoded
        split_ifs at decoded with isSecond
        rw [isSecondByte_iff] at isSecond
        simp only [continuationBits] at decoded
        cases decoded
        rw [utf8EncodeChar_ofNat (by omega), if_neg (by omega), if_pos (by omega),
          ofNat_eq first (by omega), ofNat_eq second (by omega)]
        rfl
      · rcases tail with _ | ⟨second, _ | ⟨third, tail⟩⟩
        · cases decoded
        · cases decoded
        simp only [Bool.and_eq_true] at decoded
        split_ifs at decoded with isNext
        rw [isSecondByte_iff, isContinuation_iff] at isNext
        simp only [continuationBits] at decoded
        cases decoded
        rw [utf8EncodeChar_ofNat (by omega), if_neg (by omega), if_neg (by omega),
          if_pos (by omega), ofNat_eq first (by omega), ofNat_eq second (by omega),
          ofNat_eq third (by omega)]
        rfl
      · rcases tail with _ | ⟨second, _ | ⟨third, _ | ⟨fourth, tail⟩⟩⟩
        · cases decoded
        · cases decoded
        · cases decoded
        simp only [Bool.and_eq_true] at decoded
        split_ifs at decoded with isNext
        rw [isSecondByte_iff, isContinuation_iff, isContinuation_iff] at isNext
        simp only [continuationBits] at decoded
        cases decoded
        rw [utf8EncodeChar_ofNat (by omega), if_neg (by omega), if_neg (by omega),
          if_neg (by omega), ofNat_eq first (by omega), ofNat_eq second (by omega),
          ofNat_eq third (by omega), ofNat_eq fourth (by omega)]
        rfl

theorem eq_append_of_decodeUpTo {limit : Nat} {bytes undecoded : List UInt8}
    (decoded : decodeUpTo limit bytes = (text, undecoded)) :
    bytes = encodeUtf8 text ++ undecoded := by
  induction limit generalizing bytes text with
  | zero =>
      cases decoded
      rfl
  | succ limit ih =>
      rw [decodeUpTo] at decoded
      cases char_eq : decodeChar? bytes with
      | none =>
          rw [char_eq] at decoded
          cases decoded
          rfl
      | some found =>
          rcases found with ⟨character, rest⟩
          rw [char_eq] at decoded
          cases decoded
          rw [encodeUtf8_cons, List.append_assoc, ← ih rfl]
          exact eq_append_of_decodeChar? char_eq

/-- What is decoded are the bytes of a text, and then those that are left. -/
theorem eq_append_of_decodeUtf8Prefix {bytes undecoded : List UInt8}
    (decoded : decodeUtf8Prefix bytes = (text, undecoded)) :
    bytes = encodeUtf8 text ++ undecoded :=
  eq_append_of_decodeUpTo decoded

theorem decodeUtf8?_eq_some_iff {bytes : List UInt8} :
    decodeUtf8? bytes = some text ↔ bytes = encodeUtf8 text := by
  constructor
  · intro decoded
    rw [decodeUtf8?] at decoded
    split at decoded
    · next text_eq =>
      cases decoded
      rw [eq_append_of_decodeUtf8Prefix text_eq, List.append_nil]
    · cases decoded
  · rintro rfl
    exact decodeUtf8?_encodeUtf8 text

end Decode

end Text

end ScriptedFeed
