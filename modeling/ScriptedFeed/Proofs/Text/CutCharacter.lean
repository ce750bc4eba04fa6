import ScriptedFeed.Proofs.Text.Utf8

/-!
# The start of a text

A text that is cut after some number of bytes may lose a part of its last character. What is left of
this character is told from bytes that start none: decoding goes up to it, and with the right bytes
after it it is a character again.
-/

namespace ScriptedFeed

namespace Text

variable {bytes more rest : List UInt8} {first : UInt8} {character : Char} {text : List Char}

/-- Some of the first bytes of a text, or all of them. -/
def IsTextStart (bytes : List UInt8) : Prop :=
  ∃ text more, encodeUtf8 text = bytes ++ more

/-- A text is the longest one that another starts with and that takes at most so many bytes. -/
structure IsLongestStart (limit : Nat) (text start : List Char) : Prop where
  starts : start <+: text
  fits : (encodeUtf8 start).length ≤ limit
  longest : ∀ other, other <+: text → (encodeUtf8 other).length ≤ limit → other <+: start

theorem exists_isSecondByte (first : UInt8) : ∃ second, isSecondByte first second := by
  simp only [isSecondByte_iff]
  by_cases isLow : first.toNat = 0xE0 ∨ first.toNat = 0xF0
  · refine ⟨0xA0, ?_⟩
    simp only [UInt8.reduceToNat]
    omega
  · refine ⟨0x80, ?_⟩
    simp only [UInt8.reduceToNat]
    omega

/-- A cut character goes on with some bytes, and then ends. -/
theorem exists_of_isCutCharacter (isCut : isCutCharacter bytes) :
    ∃ more character, String.utf8EncodeChar character = bytes ++ more := by
  have complete {bytes : List UInt8} (more : List UInt8) {character : Char}
      (decoded : decodeChar? (bytes ++ more) = some (character, [])) :
      ∃ more character, String.utf8EncodeChar character = bytes ++ more := by
    have bytes_eq := eq_append_of_decodeChar? decoded
    rw [List.append_nil] at bytes_eq
    exact ⟨more, character, bytes_eq.symm⟩
  have isNext : isContinuation 0x80 := by decide
  rcases bytes with - | ⟨first, rest⟩
  · cases isCut
  rcases exists_isSecondByte first with ⟨second, isSecond⟩
  simp only [isCutCharacter, continuationCount?_eq] at isCut
  split_ifs at isCut with one isOther two three four
  · simp at isCut
  · rcases rest with - | ⟨given, rest⟩
    · exact complete [second] (decodeChar?_two (by omega) isSecond)
    · simp at isCut
  · rcases rest with - | ⟨given, - | ⟨third, rest⟩⟩
    · exact complete [second, 0x80] (decodeChar?_three (by omega) isSecond isNext)
    · exact complete [0x80] (decodeChar?_three (by omega) (by simpa using isCut) isNext)
    · simp at isCut
  · rcases rest with - | ⟨given, - | ⟨third, - | ⟨fourth, rest⟩⟩⟩
    · exact complete [second, 0x80, 0x80] (decodeChar?_four (by omega) isSecond isNext isNext)
    · exact complete [0x80, 0x80] (decodeChar?_four (by omega) (by simpa using isCut) isNext isNext)
    · simp only [List.length_cons, List.length_nil, Bool.and_eq_true, List.all_cons, List.all_nil,
        Bool.and_true] at isCut
      exact complete [0x80] (decodeChar?_four (by omega) isCut.2.1 isCut.2.2 isNext)
    · simp at isCut
      omega

/-- The bytes of a character without some of its last ones are a cut character. -/
theorem isCutCharacter_of_append (bytes_eq : String.utf8EncodeChar character = bytes ++ more)
    (not_empty : bytes ≠ []) (more_not_empty : more ≠ []) : isCutCharacter bytes := by
  have decoded := decodeChar?_utf8EncodeChar_append character []
  rw [bytes_eq, List.append_nil] at decoded
  rcases List.exists_cons_of_ne_nil not_empty with ⟨first, rest, rfl⟩
  simp only [List.cons_append, decodeChar?, isCutCharacter] at decoded ⊢
  have shorter {tail : List UInt8} (tail_eq : rest ++ more = tail) : rest.length < tail.length := by
    rw [← tail_eq, List.length_append]
    have more_pos := List.length_pos_of_ne_nil more_not_empty
    omega
  split at decoded
  · next count_eq =>
      have rest_lt := shorter rfl
      simp only [Option.some.injEq, Prod.mk.injEq] at decoded
      simp [decoded.2] at rest_lt
  · next second tail count_eq rest_eq =>
      have rest_lt := shorter rest_eq
      split_ifs at decoded with isNext
      simp only [Option.some.injEq, Prod.mk.injEq] at decoded
      rw [decoded.2] at rest_lt
      rcases rest with - | ⟨given, rest⟩
      · simp [count_eq]
      · simp at rest_lt
  · next second third tail count_eq rest_eq =>
      have rest_lt := shorter rest_eq
      split_ifs at decoded with isNext
      simp only [Option.some.injEq, Prod.mk.injEq] at decoded
      rw [decoded.2] at rest_lt
      rw [Bool.and_eq_true] at isNext
      rcases rest with - | ⟨given, - | ⟨other, rest⟩⟩
      · simp [count_eq]
      · rw [List.cons_append, List.cons.injEq] at rest_eq
        simp [count_eq, rest_eq.1, isNext.1]
      · simp at rest_lt
  · next second third fourth tail count_eq rest_eq =>
      have rest_lt := shorter rest_eq
      split_ifs at decoded with isNext
      simp only [Option.some.injEq, Prod.mk.injEq] at decoded
      rw [decoded.2] at rest_lt
      rw [Bool.and_eq_true, Bool.and_eq_true] at isNext
      rcases rest with - | ⟨given, - | ⟨other, - | ⟨last, rest⟩⟩⟩
      · simp [count_eq]
      · rw [List.cons_append, List.cons.injEq] at rest_eq
        simp [count_eq, rest_eq.1, isNext.1.1]
      · rw [List.cons_append, List.cons_append, List.cons.injEq, List.cons.injEq] at rest_eq
        simp [count_eq, rest_eq.1, rest_eq.2.1, isNext.1.1, isNext.1.2]
      · simp only [List.length_cons, List.length_nil] at rest_lt
        omega
  · cases decoded

theorem decodeChar?_of_append (bytes_eq : String.utf8EncodeChar character = bytes ++ more)
    (more_not_empty : more ≠ []) : decodeChar? bytes = none := by
  cases decoded : decodeChar? bytes with
  | none => rfl
  | some found =>
      rcases found with ⟨other, rest⟩
      have whole := decodeChar?_utf8EncodeChar_append character []
      rw [bytes_eq, eq_append_of_decodeChar? decoded, List.append_assoc, List.append_assoc,
        decodeChar?_utf8EncodeChar_append] at whole
      simp only [List.append_nil, Option.some.injEq, Prod.mk.injEq, List.append_eq_nil_iff] at whole
      exact absurd whole.2.2 more_not_empty

theorem undecoded_of_append {limit : Nat} (text_eq : encodeUtf8 text = bytes ++ more)
    (length_le : bytes.length ≤ limit) :
    (decodeUpTo limit bytes).2 = [] ∨ isCutCharacter (decodeUpTo limit bytes).2 := by
  induction text generalizing bytes limit with
  | nil =>
      rw [encodeUtf8_nil, List.nil_eq_append_iff] at text_eq
      rw [text_eq.1, decodeUpTo_nil]
      exact .inl rfl
  | cons character text ih =>
      by_cases isEmpty : bytes = []
      · rw [isEmpty, decodeUpTo_nil]
        exact .inl rfl
      have bytes_pos := List.length_pos_of_ne_nil isEmpty
      cases limit with
      | zero => omega
      | succ limit =>
          rw [encodeUtf8_cons, List.append_eq_append_iff] at text_eq
          rcases text_eq with ⟨others, rfl, others_eq⟩ | ⟨rest, character_eq, -⟩
          · have character_pos : 0 < (String.utf8EncodeChar character).length :=
              List.length_pos_of_ne_nil String.utf8EncodeChar_ne_nil
            rw [List.length_append] at length_le
            rw [decodeUpTo, decodeChar?_utf8EncodeChar_append]
            exact ih others_eq (by omega)
          · by_cases isWhole : rest = []
            · rw [isWhole, List.append_nil] at character_eq
              rw [← character_eq, ← List.append_nil (String.utf8EncodeChar character), decodeUpTo,
                decodeChar?_utf8EncodeChar_append]
              simp only [decodeUpTo_nil, true_or]
            · rw [decodeUpTo, decodeChar?_of_append character_eq isWhole]
              exact .inr (isCutCharacter_of_append character_eq isEmpty isWhole)

/-- What is decoded starts with any text that the bytes start with. -/
theorem exists_decodeUtf8Prefix_append (text : List Char) (bytes : List UInt8) :
    ∃ rest, (decodeUtf8Prefix (encodeUtf8 text ++ bytes)).1 = text ++ rest := by
  have length_le : text.length ≤ (encodeUtf8 text ++ bytes).length := by
    rw [List.length_append]
    exact (length_le_length_encodeUtf8 text).trans (Nat.le_add_right _ _)
  rw [decodeUtf8Prefix, decodeUpTo_encodeUtf8_append length_le]
  exact ⟨_, rfl⟩

/-- The start of a text is decoded up to its end or to a character that is cut there. -/
theorem isTextStart_iff : IsTextStart bytes ↔
    (decodeUtf8Prefix bytes).2 = [] ∨ isCutCharacter (decodeUtf8Prefix bytes).2 := by
  constructor
  · rintro ⟨text, more, text_eq⟩
    exact undecoded_of_append text_eq le_rfl
  · rcases decoded : decodeUtf8Prefix bytes with ⟨text, undecoded⟩
    have bytes_eq := eq_append_of_decodeUtf8Prefix decoded
    rintro (rest_eq | isCut)
    · have none_left : undecoded = [] := rest_eq
      refine ⟨text, [], ?_⟩
      rw [bytes_eq, none_left, List.append_nil, List.append_nil]
    · rcases exists_of_isCutCharacter isCut with ⟨more, character, character_eq⟩
      refine ⟨text ++ [character], more, ?_⟩
      rw [bytes_eq, encodeUtf8_append, encodeUtf8_cons, encodeUtf8_nil, List.append_nil,
        character_eq, List.append_assoc]

theorem isTextStart_take (limit : Nat) (text : List Char) :
    IsTextStart ((encodeUtf8 text).take limit) :=
  ⟨text, (encodeUtf8 text).drop limit, (List.take_append_drop limit _).symm⟩

/-- The bytes of a text up to a limit are decoded to all characters that end within it. -/
theorem isLongestStart_decodeUtf8Prefix (limit : Nat) (text : List Char) :
    IsLongestStart limit text (decodeUtf8Prefix ((encodeUtf8 text).take limit)).1 := by
  rcases decoded : decodeUtf8Prefix ((encodeUtf8 text).take limit) with ⟨start, undecoded⟩
  have sample_eq := eq_append_of_decodeUtf8Prefix decoded
  refine ⟨?_, ?_, ?_⟩
  · -- The bytes of the start come first, so that the whole text is decoded to it and more.
    have text_eq : encodeUtf8 text =
        encodeUtf8 start ++ (undecoded ++ (encodeUtf8 text).drop limit) := by
      rw [← List.append_assoc, ← sample_eq, List.take_append_drop]
    rcases exists_decodeUtf8Prefix_append start (undecoded ++ (encodeUtf8 text).drop limit) with
      ⟨rest, rest_eq⟩
    rw [← text_eq, decodeUtf8Prefix_encodeUtf8] at rest_eq
    exact ⟨rest, rest_eq.symm⟩
  · calc (encodeUtf8 start).length
      _ ≤ (encodeUtf8 start ++ undecoded).length := by simp
      _ = ((encodeUtf8 text).take limit).length := by rw [sample_eq]
      _ ≤ limit := List.length_take_le _ _
  · rintro other ⟨others, rfl⟩ other_fits
    have starts_with : (encodeUtf8 (other ++ others)).take limit = encodeUtf8 other ++
        (encodeUtf8 others).take (limit - (encodeUtf8 other).length) := by
      rw [encodeUtf8_append, List.take_append, List.take_of_length_le other_fits]
    rcases exists_decodeUtf8Prefix_append other
      ((encodeUtf8 others).take (limit - (encodeUtf8 other).length)) with ⟨rest, rest_eq⟩
    rw [← starts_with, decoded] at rest_eq
    exact ⟨rest, rest_eq.symm⟩

end Text

end ScriptedFeed
