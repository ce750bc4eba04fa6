import ScriptedFeed.Proofs.Csv.Decoding

/-!
# Ways to write a table

A text may stand in its row without marks, unless it holds a comma or a line break or starts with a
mark; any part of it from its start on may stand in marks. The rows of a file end with either line
break, and the file may start with the mark of a text, which it has to if its first cell does so
itself. All files that spell a table are cut into its rows.
-/

namespace ScriptedFeed

namespace Csv

variable {text written : List Char} {cells writtens : List (List Char)}
  {table : List (List (List Char))}

/-- Whether a text may stand in a row without marks around it. -/
structure IsUnquoted (text : List Char) : Prop where
  goes_on : ∀ character ∈ text, character ≠ ',' ∧ character ≠ '\n' ∧ character ≠ '\r'
  unmarked : text.head? ≠ some '"'

instance (text : List Char) : Decidable (IsUnquoted text) :=
  decidable_of_iff
    ((text.all fun character => character ≠ ',' ∧ character ≠ '\n' ∧ character ≠ '\r') ∧
      text.head? ≠ some '"') <| by
    simp only [List.all_eq_true, decide_eq_true_eq]
    exact ⟨fun both => ⟨both.1, both.2⟩, fun bare => ⟨bare.goes_on, bare.unmarked⟩⟩

/-- A text written as a field: as it stands, or with some of it in marks. -/
inductive SpellsField : List Char → List Char → Prop where
  | unquoted {text : List Char} (isUnquoted : IsUnquoted text) : SpellsField text text
  | quoted (text : List Char) {after : List Char} (isUnquoted : IsUnquoted after) :
      SpellsField (text ++ after) (writeQuoted text ++ after)

def SpellsRow (cells : List (List Char)) (row : List Char) : Prop :=
  ∃ writtens, List.Forall₂ SpellsField cells writtens ∧ row = writeRow writtens

/-- A table written as a file, without or with the mark that shows it to be a text. -/
inductive SpellsFile (table : List (List (List Char))) : List Char → Prop where
  | unmarked {rows : List (List Char)} {lineBreak : Nat → LineBreak} {isTerminated : Bool}
      (spells : List.Forall₂ SpellsRow table rows)
      (unmarked : (writeRows lineBreak isTerminated 0 rows).head? ≠ some '\uFEFF') :
      SpellsFile table (writeRows lineBreak isTerminated 0 rows)
  | marked {rows : List (List Char)} (lineBreak : Nat → LineBreak) (isTerminated : Bool)
      (spells : List.Forall₂ SpellsRow table rows) :
      SpellsFile table ('\uFEFF' :: writeRows lineBreak isTerminated 0 rows)

theorem isUnquoted_nil : IsUnquoted [] :=
  ⟨List.forall_mem_nil _, by simp⟩

theorem spellsField_writeQuoted (text : List Char) : SpellsField text (writeQuoted text) := by
  have spells := SpellsField.quoted text isUnquoted_nil
  rwa [List.append_nil, List.append_nil] at spells

theorem IsUnquoted.endsField (isUnquoted : IsUnquoted text) :
    ∀ byte ∈ Text.encodeUtf8 text, endsField byte = false := by
  intro byte byte_mem
  rcases List.mem_flatMap.1 byte_mem with ⟨character, character_mem, byte_mem⟩
  exact endsField_of_mem_utf8EncodeChar (isUnquoted.goes_on character character_mem) byte_mem

theorem IsUnquoted.head?_ne (isUnquoted : IsUnquoted text) :
    (Text.encodeUtf8 text).head? ≠ some Text.quotationMark :=
  Text.head?_encodeUtf8_ne '"' (by decide) isUnquoted.unmarked

theorem SpellsField.reads (spells : SpellsField text written) :
    ReadsField written (Text.encodeUtf8 text) := by
  cases spells with
  | unquoted isUnquoted => exact readsField_unquoted isUnquoted.endsField isUnquoted.head?_ne
  | quoted text isUnquoted =>
      exact readsField_writeQuoted_append text isUnquoted.endsField isUnquoted.head?_ne

theorem SpellsField.goes_on {character : Char}
    (spells : SpellsField text (character :: written)) :
    character ≠ ',' ∧ character ≠ '\n' ∧ character ≠ '\r' := by
  generalize written_eq : character :: written = field at spells
  cases spells with
  | unquoted isUnquoted =>
      subst written_eq
      exact isUnquoted.goes_on character List.mem_cons_self
  | quoted =>
      rw [writeQuoted, List.cons_append, List.cons_append, List.cons.injEq] at written_eq
      rw [written_eq.1]
      decide

/-- A row of two cells is not empty, and does not start with a line break. -/
theorem starts_of_two_cells (spells : List.Forall₂ SpellsField cells writtens)
    (two_cells : 2 ≤ cells.length) : ∃ byte bytes,
      Text.encodeUtf8 (writeRow writtens) = byte :: bytes ∧ isLineBreak byte = false := by
  cases spells with
  | nil => simp at two_cells
  | @cons _ written _ _ spells others =>
      cases others with
      | nil => simp at two_cells
      | @cons _ next _ others =>
          rw [writeRow, List.intercalate_cons_cons, List.append_assoc]
          cases written with
          | nil => exact ⟨Text.comma, _, rfl, rfl⟩
          | cons character written =>
              rcases List.exists_cons_of_ne_nil (String.utf8EncodeChar_ne_nil (c := character)) with
                ⟨byte, bytes, bytes_eq⟩
              have byte_goes_on : endsField byte = false := by
                apply endsField_of_mem_utf8EncodeChar spells.goes_on
                rw [bytes_eq]
                exact List.mem_cons_self
              rw [endsField, Bool.or_eq_false_iff] at byte_goes_on
              rw [List.cons_append, Text.encodeUtf8_cons, bytes_eq, List.cons_append]
              exact ⟨byte, _, rfl, byte_goes_on.2⟩

theorem SpellsRow.reads {row : List Char} (spells : SpellsRow cells row)
    (two_cells : 2 ≤ cells.length) : ReadsRow row (cells.map Text.encodeUtf8) := by
  rcases spells with ⟨writtens, spells, rfl⟩
  have all_read : List.Forall₂ ReadsField writtens (cells.map Text.encodeUtf8) := by
    rw [List.forall₂_map_right_iff]
    exact (spells.imp fun _ _ spells => spells.reads).flip
  have not_empty : writtens ≠ [] := by
    rintro rfl
    have length_eq := spells.length_eq
    simp only [List.length_nil] at length_eq
    omega
  exact readsRow_writeRow all_read not_empty (starts_of_two_cells spells two_cells)

theorem dropTextMark_of_unmarked (unmarked : text.head? ≠ some '\uFEFF') :
    dropTextMark (Text.encodeUtf8 text) = Text.encodeUtf8 text := by
  apply dropTextMark_eq_self
  rw [Bool.eq_false_iff]
  intro isMarked
  rcases List.isPrefixOf_iff_prefix.1 isMarked with ⟨rest, text_eq⟩
  have mark_eq : textMark = String.utf8EncodeChar '\uFEFF' := rfl
  have decoded := Text.decodeChar?_utf8EncodeChar_append '\uFEFF' rest
  rw [← mark_eq, text_eq] at decoded
  cases text with
  | nil => simp [Text.decodeChar?] at decoded
  | cons character text =>
      rw [Text.encodeUtf8_cons, Text.decodeChar?_utf8EncodeChar_append, Option.some.injEq,
        Prod.mk.injEq] at decoded
      exact unmarked (congrArg some decoded.1)

theorem dropTextMark_of_marked (text : List Char) :
    dropTextMark (Text.encodeUtf8 ('\uFEFF' :: text)) = Text.encodeUtf8 text := by
  have mark_eq : String.utf8EncodeChar '\uFEFF' = textMark := rfl
  rw [Text.encodeUtf8_cons, mark_eq, dropTextMark,
    if_pos (List.isPrefixOf_iff_prefix.2 (List.prefix_append _ _)), List.drop_left]

/-- A written table is cut into its rows, whichever way it is written. -/
theorem SpellsFile.map_fields (spells : SpellsFile table text)
    (two_cells : ∀ cells ∈ table, 2 ≤ cells.length) :
    (rows (Text.encodeUtf8 text)).map Row.fields =
      table.map fun cells => cells.map Text.encodeUtf8 := by
  have all_read {rows : List (List Char)} (spells : List.Forall₂ SpellsRow table rows) :
      List.Forall₂ ReadsRow rows (table.map fun cells => cells.map Text.encodeUtf8) := by
    rw [List.forall₂_map_right_iff]
    have rows_spell := (List.forall₂_and_left table rows).2 ⟨two_cells, spells⟩
    exact (rows_spell.imp fun _ _ row_spells => row_spells.2.reads row_spells.1).flip
  rw [map_fields_rows]
  cases spells with
  | unmarked spells unmarked =>
      rw [dropTextMark_of_unmarked unmarked]
      exact map_fields_readRows (all_read spells) _ _
  | marked _ _ spells =>
      rw [dropTextMark_of_marked]
      exact map_fields_readRows (all_read spells) _ _

end Csv

end ScriptedFeed
