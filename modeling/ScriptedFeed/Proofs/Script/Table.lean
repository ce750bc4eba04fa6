import ScriptedFeed.Proofs.Csv.Table
import ScriptedFeed.Proofs.Script.Columns
import ScriptedFeed.Proofs.Script.Document

/-!
# Tables and documents hold the same scripts

The same seed lines and authored lines can stand in a table and in a document. Reading either comes
down to checking the delays of the authored lines in order; only the line number of the first one
differs, because a table counts its header and its seed lines as well.
-/

namespace ScriptedFeed

namespace Script

variable {seed : List String} {lines : List (String × Int)} {line : String × Int}
  {columns : Columns} {file : List UInt8} {rows : List Csv.Row}

section Cells

theorem trim_eq_self {text : List Char}
    (none_blank : ∀ character ∈ text, Text.isBlank character = false) : Text.trim text = text := by
  have trimmed := @trim_padded [] text [] (by simp) none_blank (by simp)
  rwa [List.nil_append, List.append_nil] at trimmed

theorem integerText_ne_nil (value : Int) : Json.integerText value ≠ [] := by
  rcases exists_decimalDigits_eq_cons value.natAbs with ⟨first, others, digits_eq⟩
  simp only [Json.integerText, digits_eq]
  split_ifs <;> simp

theorem isDigit_of_mem_integerText {value : Int} {character : Char}
    (character_mem : character ∈ Json.integerText value) : character = '-' ∨ character.isDigit := by
  rw [Json.integerText] at character_mem
  split_ifs at character_mem
  · exact (List.mem_cons.1 character_mem).imp_right isDigit_of_mem_decimalDigits
  · exact .inr (isDigit_of_mem_decimalDigits character_mem)

theorem isBlank_of_mem_integerText {value : Int} {character : Char}
    (character_mem : character ∈ Json.integerText value) : Text.isBlank character = false := by
  rcases isDigit_of_mem_integerText character_mem with rfl | isDigit
  · decide
  · exact Text.isBlank_of_isDigit isDigit

theorem readDelay_nil (number : Nat) : readDelay number [] = .ok 0 :=
  rfl

/-- The decimal text of a delay is read as that delay, whose sign is then checked. -/
theorem readDelay_integerText (number : Nat) {value : Int}
    (inRange : -(maxSigned + 1) ≤ value ∧ value ≤ maxSigned) :
    readDelay number (Json.integerText value) = checkDelay number value := by
  have not_empty : (Json.integerText value).isEmpty = false := by
    simpa using integerText_ne_nil value
  rw [readDelay, trim_eq_self fun character => isBlank_of_mem_integerText]
  simp only [not_empty, Bool.false_eq_true, if_false, readSigned_integerText inRange]

end Cells

section Rows

/-- The cells of a header, of a seed line and of an authored line. -/
def headerCells : List (List Char) :=
  ["kind".toList, "text".toList, "delay_ms".toList]

def seedCells (text : String) : List (List Char) :=
  ["seed".toList, text.toList, []]

def lineCells (line : String × Int) : List (List Char) :=
  ["entry".toList, line.1.toList, Json.integerText line.2]

theorem ofHeader_headerCells : Columns.ofHeader headerCells = .ok ⟨1, 2, some 0⟩ := by
  rfl

theorem readRow_seedCells (number : Nat) (text : String) :
    readRow ⟨1, 2, some 0⟩ number false (seedCells text) = .ok (.seed text) := by
  have kind_eq : normalized ['s', 'e', 'e', 'd'] = ['s', 'e', 'e', 'd'] := rfl
  simp [readRow, seedCells, kind_eq, readDelay_nil]

theorem readRow_lineCells (number : Nat) (afterScheduled : Bool)
    (inRange : -(maxSigned + 1) ≤ line.2 ∧ line.2 ≤ maxSigned) :
    readRow ⟨1, 2, some 0⟩ number afterScheduled (lineCells line) =
      (checkDelay number line.2).map fun delay => .scheduled ⟨line.1, delay⟩ := by
  have kind_eq : normalized ['e', 'n', 't', 'r', 'y'] = ['e', 'n', 't', 'r', 'y'] := rfl
  simp only [readRow, lineCells, List.getD_cons_succ, List.getD_cons_zero,
    readDelay_integerText number inRange]
  cases checkDelay number line.2 with
  | error error => rfl
  | ok delay => simp [kind_eq, Except.map]

/-- Rows of authored lines are read by checking the delays of the lines in order. -/
theorem readTableRows_lines (file : List UInt8) (count : Nat) (afterScheduled : Bool)
    (all_signed : ∀ line ∈ lines, -(maxSigned + 1) ≤ line.2 ∧ line.2 ≤ maxSigned)
    (fields_eq : rows.map Csv.Row.fields =
      lines.map fun line => (lineCells line).map Text.encodeUtf8) :
    readTableRows file ⟨1, 2, some 0⟩ 3 (count + 1) afterScheduled rows =
      (checkLines count lines).map fun scheduled => ⟨[], scheduled⟩ := by
  induction lines generalizing rows count afterScheduled with
  | nil =>
      rw [List.map_nil, List.map_eq_nil_iff] at fields_eq
      rw [fields_eq]
      rfl
  | cons line lines ih =>
      rcases List.forall_mem_cons.1 all_signed with ⟨isSigned, others_signed⟩
      rw [List.map_cons, List.map_eq_cons_iff] at fields_eq
      rcases fields_eq with ⟨row, others, rfl, row_eq, others_eq⟩
      have cells_eq : row.decodeWidth file 3 = .ok (lineCells line) :=
        Csv.decodeWidth_eq_ok file row_eq
      have others_read := ih (count + 1) true others_signed others_eq
      simp only [readTableRows, cells_eq, Except.mapError, except_ok_bind,
        readRow_lineCells _ _ isSigned, checkLines]
      cases checkDelay (count + 1) line.2 with
      | error error => rfl
      | ok delay =>
          simp only [Except.map, except_ok_bind, others_read]
          cases checkLines (count + 1) lines <;> rfl

theorem readTableRows_seed (file : List UInt8)
    (all_signed : ∀ line ∈ lines, -(maxSigned + 1) ≤ line.2 ∧ line.2 ≤ maxSigned) (count : Nat)
    (fields_eq : rows.map Csv.Row.fields =
      seed.map (fun text => (seedCells text).map Text.encodeUtf8) ++
        lines.map fun line => (lineCells line).map Text.encodeUtf8) :
    readTableRows file ⟨1, 2, some 0⟩ 3 (count + 1) false rows =
      (checkLines (count + seed.length) lines).map fun scheduled => ⟨seed, scheduled⟩ := by
  induction seed generalizing rows count with
  | nil => exact readTableRows_lines file count false all_signed fields_eq
  | cons text seed ih =>
      rw [List.map_cons, List.cons_append, List.map_eq_cons_iff] at fields_eq
      rcases fields_eq with ⟨row, others, rfl, row_eq, others_eq⟩
      have cells_eq : row.decodeWidth file 3 = .ok (seedCells text) :=
        Csv.decodeWidth_eq_ok file row_eq
      have others_read := ih (count + 1) others_eq
      simp only [readTableRows, cells_eq, Except.mapError, except_ok_bind, readRow_seedCells,
        others_read, List.length_cons, Nat.add_assoc, Nat.add_comm 1]
      cases checkLines (count + (seed.length + 1)) lines <;> rfl

end Rows

section Table

/-- A row with a seed line, which has no delay. -/
def writeSeedRow (text : String) : List Char :=
  Csv.writeRow ["seed".toList, Csv.writeQuoted text.toList, []]

/-- A row with an authored line. -/
def writeLineRow (line : String × Int) : List Char :=
  Csv.writeRow ["entry".toList, Csv.writeQuoted line.1.toList, Json.integerText line.2]

/-- A table of seed lines and authored lines, with a line break chosen for every row. -/
def writeTable (seed : List String) (lines : List (String × Int))
    (lineBreak : Nat → Csv.LineBreak) (isTerminated : Bool) : List Char :=
  Csv.writeRows lineBreak isTerminated 0
    (Csv.writeRow headerCells :: (seed.map writeSeedRow ++ lines.map writeLineRow))

theorem readsField_integerText (value : Int) :
    Csv.ReadsField (Json.integerText value) (Text.encodeUtf8 (Json.integerText value)) := by
  have is_text : ∀ character ∈ Json.integerText value,
      character = '-' ∨ 48 ≤ character.toNat ∧ character.toNat ≤ 57 :=
    fun character character_mem =>
      (isDigit_of_mem_integerText character_mem).imp_right isDigit_iff_bounds.1
  have all_short : ∀ character ∈ Json.integerText value, character.toNat < 0x80 := by
    intro character character_mem
    rcases is_text character character_mem with rfl | bounds
    · decide
    · omega
  apply Csv.readsField_plain
  rw [Text.encodeUtf8_eq_map all_short, List.all_map, List.all_eq_true]
  intro character character_mem
  rcases is_text character character_mem with rfl | bounds
  · decide
  · have toNat_eq : (UInt8.ofNat character.toNat).toNat = character.toNat := by
      rw [UInt8.toNat_ofNat', Nat.mod_eq_of_lt (by omega)]
    simp [Csv.isPlain, Csv.endsField, Csv.isLineBreak, ← UInt8.toNat_inj, toNat_eq, Text.comma,
      Text.carriageReturn, Text.quotationMark, Text.lineFeed]
    omega

theorem readsRow_header :
    Csv.ReadsRow (Csv.writeRow headerCells) (headerCells.map Text.encodeUtf8) := by
  apply Csv.readsRow_writeRow _ (by decide) ⟨0x6B, _, rfl, by decide⟩
  exact .cons (Csv.readsField_plain rfl) (.cons (Csv.readsField_plain rfl)
    (.cons (Csv.readsField_plain rfl) .nil))

theorem readsRow_writeSeedRow (text : String) :
    Csv.ReadsRow (writeSeedRow text) ((seedCells text).map Text.encodeUtf8) := by
  apply Csv.readsRow_writeRow _ (by simp) ⟨0x73, _, rfl, by decide⟩
  exact .cons (Csv.readsField_plain rfl) (.cons (Csv.readsField_writeQuoted text.toList)
    (.cons (Csv.readsField_plain rfl) .nil))

theorem readsRow_writeLineRow (line : String × Int) :
    Csv.ReadsRow (writeLineRow line) ((lineCells line).map Text.encodeUtf8) := by
  apply Csv.readsRow_writeRow _ (by simp) ⟨0x65, _, rfl, by decide⟩
  exact .cons (Csv.readsField_plain rfl) (.cons (Csv.readsField_writeQuoted line.1.toList)
    (.cons (readsField_integerText line.2) .nil))

theorem map_fields_writeTable (seed : List String) (lines : List (String × Int))
    (lineBreak : Nat → Csv.LineBreak) (isTerminated : Bool) :
    (Csv.rows (Text.encodeUtf8 (writeTable seed lines lineBreak isTerminated))).map Csv.Row.fields =
      headerCells.map Text.encodeUtf8 ::
        (seed.map (fun text => (seedCells text).map Text.encodeUtf8) ++
          lines.map fun line => (lineCells line).map Text.encodeUtf8) := by
  rw [Csv.map_fields_rows, Csv.dropTextMark_eq_self rfl, writeTable]
  apply Csv.map_fields_readRows
  refine .cons readsRow_header (List.rel_append ?_ ?_)
  · rw [List.forall₂_map_left_iff, List.forall₂_map_right_iff, List.forall₂_same]
    exact fun text _ => readsRow_writeSeedRow text
  · rw [List.forall₂_map_left_iff, List.forall₂_map_right_iff, List.forall₂_same]
    exact fun line _ => readsRow_writeLineRow line

/-- A table is read by checking the delays of its authored lines in order. -/
theorem ofTable_writeTable (seed : List String)
    (all_signed : ∀ line ∈ lines, -(maxSigned + 1) ≤ line.2 ∧ line.2 ≤ maxSigned)
    (lineBreak : Nat → Csv.LineBreak) (isTerminated : Bool) :
    ofTable (Text.encodeUtf8 (writeTable seed lines lineBreak isTerminated)) =
      (checkLines (1 + seed.length) lines).map fun scheduled => ⟨seed, scheduled⟩ := by
  have fields_eq := map_fields_writeTable seed lines lineBreak isTerminated
  rcases List.map_eq_cons_iff.1 fields_eq with ⟨header, rows, rows_eq, header_eq, others_eq⟩
  rw [ofTable, rows_eq]
  simp only [Csv.decode_eq_ok _ header_eq, Except.mapError, except_ok_bind, ofHeader_headerCells]
  rw [header_eq]
  exact readTableRows_seed _ all_signed 1 others_eq

end Table

end Script

/--
Seed lines and lines with any texts and delays stand in a table, with a line break chosen for every
row and the last one left out or not, and in a document. If no delay is negative, both are read as
the script of these lines in this order. Otherwise both are refused for the first negative delay,
with its place among the lines in the document and with the line of its row in the table.
-/
theorem Script.table_agrees_with_document (seed : List String) (lines : List (String × Int64))
    (lineBreak : Nat → Csv.LineBreak) (isTerminated : Bool) :
    let authored := lines.map fun line => (line.1, line.2.toInt)
    let table := Text.encodeUtf8 (Script.writeTable seed authored lineBreak isTerminated)
    let document := Text.encodeUtf8 (Script.writeAuthored seed authored)
    ((∀ line ∈ lines, 0 ≤ line.2.toInt) →
      let script : Script :=
        ⟨seed, lines.map fun line => ⟨line.1, UInt64.ofNat line.2.toInt.toNat⟩⟩
      Script.ofTable table = .ok script ∧ Script.ofDocument document = .ok script) ∧
    (∀ before line after, lines = before ++ line :: after →
      (∀ earlier ∈ before, 0 ≤ earlier.2.toInt) → line.2.toInt < 0 →
      let position := before.length + 1
      Script.ofDocument document = .error (.negativeDelay position line.2.toInt) ∧
      Script.ofTable table =
        .error (.negativeDelay (seed.length + position + 1) line.2.toInt)) := by
  intro authored table document
  have all_signed : ∀ line ∈ authored, -(maxSigned + 1) ≤ line.2 ∧ line.2 ≤ maxSigned := by
    intro line line_mem
    rcases List.mem_map.1 line_mem with ⟨entry, -, rfl⟩
    exact ⟨entry.2.le_toInt, Int.le_of_lt_add_one entry.2.toInt_lt⟩
  have table_eq := Script.ofTable_writeTable seed all_signed lineBreak isTerminated
  have document_eq := Script.ofDocument_writeAuthored seed all_signed
  refine ⟨?_, ?_⟩
  · intro none_negative script
    have authored_none_negative : ∀ line ∈ authored, 0 ≤ line.2 :=
      List.forall_mem_map.2 none_negative
    have script_eq : (⟨seed, authored.map Script.scheduledLine⟩ : Script) = script := by
      simp [authored, script, Script.scheduledLine, Function.comp_def]
    rw [Script.checkLines_eq_ok _ authored_none_negative] at table_eq document_eq
    rw [← script_eq]
    exact ⟨table_eq, document_eq⟩
  · intro before line after lines_eq none_negative isNegative position
    let signed (line : String × Int64) : String × Int := (line.1, line.2.toInt)
    have authored_eq : authored = before.map signed ++ signed line :: after.map signed := by
      simp [authored, lines_eq, signed]
    have refused (count : Nat) : Script.checkLines count authored =
        .error (.negativeDelay (count + position) line.2.toInt) := by
      have before_none_negative : ∀ line ∈ before.map signed, 0 ≤ line.2 :=
        List.forall_mem_map.2 none_negative
      rw [authored_eq, Script.checkLines_eq_error count before_none_negative isNegative,
        List.length_map, Nat.add_assoc]
    rw [refused, Nat.zero_add] at document_eq
    rw [refused, Nat.add_comm 1, Nat.add_assoc, Nat.add_comm 1, ← Nat.add_assoc] at table_eq
    exact ⟨document_eq, table_eq⟩

/-- A negative delay after texts with commas, marks and line breaks. -/
theorem Script.table_agrees_with_document_on_negative_delay :
    let seed := ["say \"yes, sir\""]
    let authored : List (String × Int) := [("two\r\nlines", 5), ("", -3)]
    let lineBreak (place : Nat) : Csv.LineBreak :=
      if place = 0 then .lineFeed else .carriageReturnLineFeed
    Script.ofDocument (Text.encodeUtf8 (Script.writeAuthored seed authored)) =
        .error (.negativeDelay 2 (-3)) ∧
      Script.ofTable (Text.encodeUtf8 (Script.writeTable seed authored lineBreak false)) =
        .error (.negativeDelay 4 (-3)) := by
  intro seed authored lineBreak
  rcases Script.table_agrees_with_document seed [("two\r\nlines", 5), ("", -3)] lineBreak false with
    ⟨-, refused⟩
  exact refused [("two\r\nlines", 5)] ("", -3) [] rfl (by decide) (by decide)

end ScriptedFeed
