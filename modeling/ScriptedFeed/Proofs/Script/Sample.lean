import ScriptedFeed.Proofs.Script.Detection

/-!
# Telling texts apart by their start

A file that is text throughout is never refused because only its first bytes are looked at. The end
of these bytes may cut a character, which is then left out, and what remains is the longest start of
the text that fits into them. Whether such a file is taken for a table depends on this start alone:
on the first line of it that is not blank.
-/

namespace ScriptedFeed

namespace Script

/-- The first line of a text that is not blank has a comma. -/
def HasCommaInFirstLine (text : List Char) : Prop :=
  ∃ blankLines line others, text.splitOn '\n' = blankLines ++ line :: others ∧
    (∀ blankLine ∈ blankLines, ∀ character ∈ blankLine, Text.isBlank character) ∧
    (∃ character ∈ line, ¬ Text.isBlank character) ∧ ',' ∈ line

theorem hasHeaderComma_iff_hasCommaInFirstLine (text : List Char) :
    hasHeaderComma text ↔ HasCommaInFirstLine text := by
  rw [hasHeaderComma, linesOf, HasCommaInFirstLine]
  constructor
  · intro has_comma
    split at has_comma
    · next line found =>
        rcases List.find?_eq_some_iff_append.1 found with
          ⟨not_blank, blankLines, others, lines_eq, all_blank⟩
        refine ⟨blankLines, line, others, lines_eq, ?_, ?_, ?_⟩
        · intro blankLine blankLine_mem
          simpa using all_blank blankLine blankLine_mem
        · simpa using not_blank
        · simpa using has_comma
    · cases has_comma
  · rintro ⟨blankLines, line, others, lines_eq, all_blank, not_blank, has_comma⟩
    have found : (text.splitOn '\n').find? (fun line => !line.all Text.isBlank) = some line := by
      refine List.find?_eq_some_iff_append.2 ⟨?_, blankLines, others, lines_eq, ?_⟩
      · simpa using not_blank
      · intro blankLine blankLine_mem
        simpa using all_blank blankLine blankLine_mem
    rw [found]
    simpa using has_comma

/-- What is looked at of a text is text, wherever its characters end. -/
theorem sampleText?_encodeUtf8 (text : List Char) :
    sampleText? (Text.encodeUtf8 text) =
      some (Text.decodeUtf8Prefix ((Text.encodeUtf8 text).take sampleSize)).1 := by
  have isText := Text.isTextStart_iff.1 (Text.isTextStart_take sampleSize text)
  rcases decoded : Text.decodeUtf8Prefix ((Text.encodeUtf8 text).take sampleSize) with
    ⟨start, undecoded⟩
  rw [decoded] at isText
  rw [sampleText?, decoded]
  apply if_pos
  rw [Bool.or_eq_true, List.isEmpty_iff]
  exact isText

end Script

/--
A text that does not start like an object is taken for a table if and only if the first line that is
not blank has a comma, in the longest start of the text that takes at most 500 bytes, and is of
unknown format otherwise. No text fails to be read as one because a character is cut there.
-/
theorem Script.detect_of_text (text : List Char)
    (not_object : Script.firstByte? (Text.encodeUtf8 text) ≠ some Json.openBrace) :
    ∃ start, Text.IsLongestStart 500 text start ∧
      Script.sampleText? (Text.encodeUtf8 text) = some start ∧
      (Script.Format.detect (Text.encodeUtf8 text) = .table ↔ Script.HasCommaInFirstLine start) ∧
      (Script.Format.detect (Text.encodeUtf8 text) = .unknown ↔
        ¬ Script.HasCommaInFirstLine start) := by
  refine ⟨_, Text.isLongestStart_decodeUtf8Prefix 500 text, Script.sampleText?_encodeUtf8 text, ?_⟩
  rw [Script.detect_of_other_byte not_object, Script.looksLikeTable,
    Script.sampleText?_encodeUtf8, ← Script.hasHeaderComma_iff_hasCommaInFirstLine]
  simp only [Script.sampleSize]
  split_ifs with has_comma
  · simp [has_comma]
  · simp [has_comma]

/-- A character of three bytes that starts before the last byte that is looked at is left out. -/
theorem Script.detect_of_text_with_cut_character :
    let text := "text,delay_ms\n".toList ++ List.replicate 485 'a' ++ "\u20AC,100\n".toList
    let start := "text,delay_ms\n".toList ++ List.replicate 485 'a'
    (Text.encodeUtf8 start).length = 499 ∧
      Script.sampleText? (Text.encodeUtf8 text) = some start ∧
      Script.Format.detect (Text.encodeUtf8 text) = .table := by
  intro text start
  have not_object : Script.firstByte? (Text.encodeUtf8 text) ≠ some Json.openBrace := by
    decide +kernel
  rcases Script.detect_of_text text not_object with ⟨found, -, found_eq, isTable_iff, -⟩
  have start_eq : found = start := by
    rw [← Option.some_inj, ← found_eq]
    decide +kernel
  subst start_eq
  refine ⟨by decide +kernel, found_eq, isTable_iff.2 ?_⟩
  refine ⟨[], "text,delay_ms".toList, [List.replicate 485 'a'], by decide +kernel, ?_, ?_, ?_⟩
  · exact List.forall_mem_nil _
  · exact ⟨'t', by decide, by decide⟩
  · decide

end ScriptedFeed
