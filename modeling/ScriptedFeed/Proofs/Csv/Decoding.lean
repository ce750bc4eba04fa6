import ScriptedFeed.Proofs.Csv.Reading

/-!
# The fields of a text are texts

Commas, line breaks and quotation marks take one byte each, and this byte is part of no other
character. Cutting a text at them therefore never cuts a character, and every field of a file that
is text can be decoded.
-/

namespace ScriptedFeed

namespace Csv

variable {bytes rest file : List UInt8} {fields : List (List UInt8)} {row : Row}

/-- The bytes of some text. -/
def IsText (bytes : List UInt8) : Prop :=
  ∃ text, bytes = Text.encodeUtf8 text

theorem isText_nil : IsText [] :=
  ⟨[], rfl⟩

theorem IsText.of_utf8EncodeChar (character : Char)
    (isText : IsText (String.utf8EncodeChar character ++ rest)) : IsText rest := by
  rcases isText with ⟨text, text_eq⟩
  cases text with
  | nil => simp at text_eq
  | cons first text =>
      have decoded := Text.decodeChar?_utf8EncodeChar_append first (Text.encodeUtf8 text)
      rw [← Text.encodeUtf8_cons, ← text_eq, Text.decodeChar?_utf8EncodeChar_append] at decoded
      simp only [Option.some.injEq, Prod.mk.injEq] at decoded
      exact ⟨text, decoded.2⟩

/-- A text that starts with a short character goes on with a text. -/
theorem IsText.of_cons (mark : Char) (isShort : mark.toNat < 0x80)
    (isText : IsText (UInt8.ofNat mark.toNat :: rest)) : IsText rest := by
  rw [← List.singleton_append, ← Text.utf8EncodeChar_of_lt isShort] at isText
  exact isText.of_utf8EncodeChar mark

/-- A character other than the three that end a field has no byte that ends one. -/
theorem endsField_of_mem_utf8EncodeChar {character : Char} {byte : UInt8}
    (goes_on : character ≠ ',' ∧ character ≠ '\n' ∧ character ≠ '\r')
    (byte_mem : byte ∈ String.utf8EncodeChar character) : endsField byte = false := by
  have not_comma := Text.ne_of_mem_utf8EncodeChar (by decide) goes_on.1 byte_mem
  have not_lineFeed := Text.ne_of_mem_utf8EncodeChar (by decide) goes_on.2.1 byte_mem
  have not_return := Text.ne_of_mem_utf8EncodeChar (by decide) goes_on.2.2 byte_mem
  simp only [endsField, isLineBreak, Bool.or_eq_false_iff, decide_eq_false_iff_not]
  exact ⟨not_comma, not_lineFeed, not_return⟩

theorem IsText.readPlain (isText : IsText bytes) :
    IsText (readPlain bytes).1 ∧ IsText (readPlain bytes).2 := by
  rcases isText with ⟨text, rfl⟩
  induction text with
  | nil => exact ⟨isText_nil, isText_nil⟩
  | cons character text ih =>
      by_cases goes_on : character ≠ ',' ∧ character ≠ '\n' ∧ character ≠ '\r'
      · have none_ends : ∀ byte ∈ String.utf8EncodeChar character, (!endsField byte) = true := by
          intro byte byte_mem
          simp [endsField_of_mem_utf8EncodeChar goes_on byte_mem]
        rcases ih with ⟨⟨plain, plain_eq⟩, others_text⟩
        simp only [Csv.readPlain, List.span_eq_takeWhile_dropWhile, Text.encodeUtf8_cons,
          List.takeWhile_append_of_pos none_ends, List.dropWhile_append_of_pos none_ends]
          at plain_eq others_text ⊢
        refine ⟨⟨character :: plain, ?_⟩, others_text⟩
        rw [plain_eq, Text.encodeUtf8_cons]
      · have ends : EndsField (Text.encodeUtf8 (character :: text)) := by
          have isMark : character = ',' ∨ character = '\n' ∨ character = '\r' := by tauto
          rcases isMark with rfl | rfl | rfl <;> rintro byte ⟨⟩ <;> decide
        rw [readPlain_eq_nil ends]
        exact ⟨isText_nil, _, rfl⟩

theorem IsText.readQuoted_cons {character : Char} {text : List Char} (not_mark : character ≠ '"')
    (others : IsText (Csv.readQuoted (Text.encodeUtf8 text)).1 ∧
      IsText (Csv.readQuoted (Text.encodeUtf8 text)).2) :
    IsText (Csv.readQuoted (Text.encodeUtf8 (character :: text))).1 ∧
      IsText (Csv.readQuoted (Text.encodeUtf8 (character :: text))).2 := by
  have none_mark : ∀ byte ∈ String.utf8EncodeChar character, byte ≠ Text.quotationMark := by
    intro byte byte_mem
    exact Text.ne_of_mem_utf8EncodeChar (by decide) not_mark byte_mem
  rcases others with ⟨⟨content, content_eq⟩, rest_text⟩
  simp only [Text.encodeUtf8_cons, readQuoted_append none_mark]
  refine ⟨⟨character :: content, ?_⟩, rest_text⟩
  simp only [content_eq, Text.encodeUtf8_cons]

theorem IsText.readQuoted (isText : IsText bytes) :
    IsText (readQuoted bytes).1 ∧ IsText (readQuoted bytes).2 := by
  rcases isText with ⟨text, rfl⟩
  -- A mark is looked at together with the character after it.
  induction text using List.twoStepInduction with
  | nil => exact ⟨isText_nil, isText_nil⟩
  | singleton character =>
      by_cases isMark : character = '"'
      · subst isMark
        exact ⟨isText_nil, isText_nil⟩
      · exact IsText.readQuoted_cons isMark ⟨isText_nil, isText_nil⟩
  | cons_cons character next text others_ih ih =>
      by_cases isMark : character = '"'
      · subst isMark
        by_cases isDoubled : next = '"'
        · subst isDoubled
          rcases others_ih with ⟨⟨content, content_eq⟩, rest_text⟩
          simp only [encodeUtf8_mark_cons, readQuoted_doubled]
          refine ⟨⟨'"' :: content, ?_⟩, rest_text⟩
          rw [content_eq, encodeUtf8_mark_cons]
        · have next_text : IsText (Text.encodeUtf8 (next :: text)) := ⟨_, rfl⟩
          have unmarked : (Text.encodeUtf8 (next :: text)).head? ≠ some Text.quotationMark :=
            Text.head?_encodeUtf8_ne '"' (by decide) (by simpa using isDoubled)
          rw [encodeUtf8_mark_cons, readQuoted_closed unmarked]
          exact next_text.readPlain
      · exact IsText.readQuoted_cons isMark (ih next)

theorem IsText.readField (isText : IsText bytes) :
    IsText (readField bytes).1 ∧ IsText (readField bytes).2 := by
  fun_cases Csv.readField bytes with
  | case1 => exact ⟨isText_nil, isText_nil⟩
  | case2 => exact (isText.of_cons '"' (by decide)).readQuoted
  | case3 => exact isText.readPlain

theorem IsText.of_isLineBreak {byte : UInt8} (isBreak : isLineBreak byte)
    (isText : IsText (byte :: rest)) : IsText rest := by
  have isMark : byte = Text.lineFeed ∨ byte = Text.carriageReturn := by
    simpa [isLineBreak] using isBreak
  rcases isMark with rfl | rfl
  · exact isText.of_cons '\n' (by decide)
  · exact isText.of_cons '\r' (by decide)

theorem IsText.of_append {passed : List UInt8} (all_breaks : ∀ byte ∈ passed, isLineBreak byte)
    (isText : IsText (passed ++ rest)) : IsText rest := by
  induction passed with
  | nil => exact isText
  | cons byte passed ih =>
      rcases List.forall_mem_cons.1 all_breaks with ⟨isBreak, others_breaks⟩
      exact ih others_breaks (isText.of_isLineBreak isBreak)

theorem CutsRow.isText (cuts : CutsRow bytes fields rest) (isText : IsText bytes) :
    (∀ field ∈ fields, IsText field) ∧ IsText rest := by
  induction cuts with
  | atEnd read =>
      have field_text := isText.readField
      rw [read] at field_text
      exact ⟨List.forall_mem_singleton.2 field_text.1, isText_nil⟩
  | atBreak read isBreak =>
      have field_text := isText.readField
      rw [read] at field_text
      exact ⟨List.forall_mem_singleton.2 field_text.1, field_text.2.of_isLineBreak isBreak⟩
  | atComma read _ ih =>
      have field_text := isText.readField
      rw [read] at field_text
      have others_text := ih (field_text.2.of_cons ',' (by decide))
      exact ⟨List.forall_mem_cons.2 ⟨field_text.1, others_text.1⟩, others_text.2⟩

theorem CutsRows.isText {number : Nat} {rows : List Row} (cuts : CutsRows number bytes rows)
    (isText : IsText bytes) : ∀ row ∈ rows, ∀ field ∈ row.fields, IsText field := by
  induction cuts with
  | nil => simp
  | cons all_breaks _ cuts _ ih =>
      have row_text := cuts.isText (isText.of_append all_breaks)
      exact List.forall_mem_cons.2 ⟨row_text.1, ih row_text.2⟩

theorem IsText.dropTextMark (isText : IsText file) : IsText (dropTextMark file) := by
  rw [Csv.dropTextMark]
  split_ifs with isMarked
  · rcases List.isPrefixOf_iff_prefix.1 isMarked with ⟨rest, rfl⟩
    rw [List.drop_left]
    exact isText.of_utf8EncodeChar '\uFEFF'
  · exact isText

/-- Every field of a file that is text is the bytes of a text. -/
theorem IsText.of_mem_fields (isText : IsText file) (row_mem : row ∈ rows file) :
    ∀ field ∈ row.fields, IsText field := by
  have fields_mem := List.mem_map_of_mem (f := Row.fields) row_mem
  rw [map_fields_rows, List.mem_map] at fields_mem
  rcases fields_mem with ⟨cut, cut_mem, fields_eq⟩
  rw [← fields_eq]
  exact (cutsRows_readRows _).isText isText.dropTextMark cut cut_mem

/-- The texts of a row, as far as its fields can be decoded. -/
def Row.texts (row : Row) : List (List Char) :=
  row.fields.map fun field => (Text.decodeUtf8Prefix field).1

theorem Row.map_texts (all_text : ∀ field ∈ row.fields, IsText field) :
    row.texts.map Text.encodeUtf8 = row.fields := by
  rw [Row.texts, List.map_map]
  refine (List.map_congr_left fun field field_mem => ?_).trans (List.map_id _)
  rcases all_text field field_mem with ⟨text, rfl⟩
  simp [Text.decodeUtf8Prefix_encodeUtf8]

end Csv

end ScriptedFeed
