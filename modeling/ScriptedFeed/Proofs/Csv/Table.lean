import Mathlib.Data.List.TakeWhile
import ScriptedFeed.Csv.Table
import ScriptedFeed.Proofs.Text.Utf8

/-!
# Rows are read back as they were written

A field in quotation marks is read back whatever it holds, if its own marks are doubled; a field
without them, if it holds no comma, no line break and no mark at its start. The fields of a row end
at commas and at the line break after it. A row that ends in two characters leaves the second one to
the next row, which passes over it.
-/

namespace ScriptedFeed

namespace Csv

/-- A text with its quotation marks doubled. -/
def doubled (text : List Char) : List Char :=
  text.flatMap fun character => if character = '"' then ['"', '"'] else [character]

/-- A text in quotation marks, with its own marks doubled. -/
def writeQuoted (text : List Char) : List Char :=
  '"' :: doubled text ++ ['"']

/-- A row of written fields. -/
def writeRow (fields : List (List Char)) : List Char :=
  [','].intercalate fields

/-- What a row of a file may end with. -/
inductive LineBreak where
  | lineFeed
  | carriageReturnLineFeed
deriving DecidableEq, Repr

def LineBreak.text : LineBreak → List Char
  | lineFeed => ['\n']
  | carriageReturnLineFeed => ['\r', '\n']

/-- Written rows, each with the line break chosen for its place; the last one may lack it. -/
def writeRows (lineBreak : Nat → LineBreak) (isTerminated : Bool) :
    Nat → List (List Char) → List Char
  | _, [] => []
  | place, row :: rows =>
      row ++ (if rows.isEmpty && !isTerminated then [] else (lineBreak place).text) ++
        writeRows lineBreak isTerminated (place + 1) rows

section Field

variable {written text : List Char} {field : List UInt8} {rest : List UInt8}

/-- What follows a field starts with a byte that ends it. -/
def EndsField (rest : List UInt8) : Prop :=
  ∀ byte ∈ rest.head?, endsField byte

/-- Whether a byte stands for itself in a field without marks. -/
def isPlain (byte : UInt8) : Bool :=
  !endsField byte && byte != Text.quotationMark

/-- A written field is read, and nothing that comes after it is touched. -/
def ReadsField (written : List Char) (field : List UInt8) : Prop :=
  ∀ rest, EndsField rest → readField (Text.encodeUtf8 written ++ rest) = (field, rest)

theorem readPlain_append (none_ends : ∀ byte ∈ field, endsField byte = false)
    (ends : EndsField rest) : readPlain (field ++ rest) = (field, rest) := by
  have goes_on : ∀ byte ∈ field, (!endsField byte) = true := by simpa using none_ends
  rw [readPlain, List.span_eq_takeWhile_dropWhile, List.takeWhile_append_of_pos goes_on,
    List.dropWhile_append_of_pos goes_on]
  cases rest with
  | nil => simp
  | cons byte rest => simp [ends byte rfl]

theorem readPlain_eq_nil (ends : EndsField rest) : readPlain rest = ([], rest) :=
  readPlain_append (List.forall_mem_nil _) ends

theorem head?_append_ne_mark (unmarked : field.head? ≠ some Text.quotationMark)
    (ends : EndsField rest) :
    (field ++ rest).head? ≠ some Text.quotationMark := by
  rw [List.head?_append]
  intro starts
  rcases Option.or_eq_some_iff.1 starts with starts | ⟨-, starts⟩
  · exact unmarked starts
  · exact absurd (ends Text.quotationMark starts) (by decide)

/-- A field without a comma or a line break that does not start with a mark is read as it stands. -/
theorem readsField_unquoted (none_ends : ∀ byte ∈ Text.encodeUtf8 written, endsField byte = false)
    (unmarked : (Text.encodeUtf8 written).head? ≠ some Text.quotationMark) :
    ReadsField written (Text.encodeUtf8 written) := by
  intro rest ends
  have read := readPlain_append none_ends ends
  have starts := head?_append_ne_mark unmarked ends
  cases bytes_eq : Text.encodeUtf8 written ++ rest with
  | nil =>
      rw [List.append_eq_nil_iff] at bytes_eq
      rw [bytes_eq.1, bytes_eq.2]
      rfl
  | cons first bytes =>
      have not_mark : first ≠ Text.quotationMark := by simpa [bytes_eq] using starts
      rw [bytes_eq] at read
      rw [readField, if_neg not_mark, read]

/-- A field without a comma, a line break or a mark is read as it stands. -/
theorem readsField_plain (all_plain : (Text.encodeUtf8 written).all isPlain) :
    ReadsField written (Text.encodeUtf8 written) := by
  simp only [List.all_eq_true, isPlain, Bool.and_eq_true, Bool.not_eq_true', bne_iff_ne]
    at all_plain
  apply readsField_unquoted
  · intro byte byte_mem
    exact (all_plain byte byte_mem).1
  · intro starts
    exact (all_plain Text.quotationMark (List.mem_of_mem_head? starts)).2 rfl

theorem encodeUtf8_mark_cons (text : List Char) :
    Text.encodeUtf8 ('"' :: text) = Text.quotationMark :: Text.encodeUtf8 text :=
  Text.encodeUtf8_cons_of_lt (by decide) text

theorem readQuoted_of_ne {byte : UInt8} (not_mark : byte ≠ Text.quotationMark) (rest : List UInt8) :
    readQuoted (byte :: rest) = (byte :: (readQuoted rest).1, (readQuoted rest).2) := by
  rw [readQuoted.eq_def]
  simp [not_mark]

theorem readQuoted_doubled (rest : List UInt8) :
    readQuoted (Text.quotationMark :: Text.quotationMark :: rest) =
      (Text.quotationMark :: (readQuoted rest).1, (readQuoted rest).2) := by
  rw [readQuoted.eq_def]
  simp

/-- What follows the closing mark belongs to the field as it stands. -/
theorem readQuoted_closed (unmarked : rest.head? ≠ some Text.quotationMark) :
    readQuoted (Text.quotationMark :: rest) = readPlain rest := by
  rw [readQuoted.eq_def]
  cases rest with
  | nil => rfl
  | cons next others =>
      have not_mark : next ≠ Text.quotationMark := by simpa using unmarked
      simp [not_mark]

theorem readQuoted_append {bytes : List UInt8}
    (none_mark : ∀ byte ∈ field, byte ≠ Text.quotationMark) :
    readQuoted (field ++ bytes) = (field ++ (readQuoted bytes).1, (readQuoted bytes).2) := by
  induction field with
  | nil => rfl
  | cons byte field ih =>
      rcases List.forall_mem_cons.1 none_mark with ⟨not_mark, others⟩
      rw [List.cons_append, readQuoted_of_ne not_mark, ih others, List.cons_append]

theorem readQuoted_doubled_text (text : List Char) (bytes : List UInt8) :
    readQuoted (Text.encodeUtf8 (doubled text) ++ bytes) =
      (Text.encodeUtf8 text ++ (readQuoted bytes).1, (readQuoted bytes).2) := by
  induction text with
  | nil => rfl
  | cons character text ih =>
      rw [doubled, List.flatMap_cons, ← doubled, Text.encodeUtf8_append, List.append_assoc]
      split_ifs with isMark
      · subst isMark
        simp only [encodeUtf8_mark_cons, Text.encodeUtf8_nil, List.cons_append, List.nil_append,
          readQuoted_doubled, ih]
      -- No byte of another character is the mark, whichever bytes it takes.
      · have none_mark : ∀ byte ∈ String.utf8EncodeChar character, byte ≠ Text.quotationMark :=
          fun byte byte_mem => Text.ne_of_mem_utf8EncodeChar (by decide) isMark byte_mem
        simp only [Text.encodeUtf8_cons, Text.encodeUtf8_nil, List.append_nil,
          readQuoted_append none_mark, ih, List.append_assoc]

/-- A text in quotation marks is read back, whatever it holds, and so is what stands after it. -/
theorem readsField_writeQuoted_append (text : List Char) {after : List Char}
    (none_ends : ∀ byte ∈ Text.encodeUtf8 after, endsField byte = false)
    (unmarked : (Text.encodeUtf8 after).head? ≠ some Text.quotationMark) :
    ReadsField (writeQuoted text ++ after) (Text.encodeUtf8 (text ++ after)) := by
  intro rest ends
  have written_eq : Text.encodeUtf8 (writeQuoted text ++ after) ++ rest =
      Text.quotationMark :: (Text.encodeUtf8 (doubled text) ++
        Text.quotationMark :: (Text.encodeUtf8 after ++ rest)) := by
    simp only [writeQuoted, Text.encodeUtf8_append, encodeUtf8_mark_cons, List.cons_append,
      List.nil_append, List.append_assoc]
  rw [written_eq, readField, if_pos rfl, readQuoted_doubled_text,
    readQuoted_closed (head?_append_ne_mark unmarked ends), readPlain_append none_ends ends,
    Text.encodeUtf8_append]

/-- A text in quotation marks is read back, whatever it holds. -/
theorem readsField_writeQuoted (text : List Char) :
    ReadsField (writeQuoted text) (Text.encodeUtf8 text) := by
  have read := @readsField_writeQuoted_append text [] (by simp) (by simp)
  rwa [List.append_nil, List.append_nil] at read

end Field

section Row

variable {writtens : List (List Char)} {fields : List (List UInt8)} {rest : List UInt8}

/-- What follows a row starts with a byte that ends it. -/
def EndsRow (rest : List UInt8) : Prop :=
  ∀ byte ∈ rest.head?, isLineBreak byte

theorem EndsRow.endsField (ends : EndsRow rest) : EndsField rest := by
  intro byte byte_mem
  exact Bool.or_eq_true_iff.2 (.inr (ends byte byte_mem))

theorem endsField_comma (rest : List UInt8) : EndsField (Text.comma :: rest) := by
  rintro byte ⟨⟩
  decide

/-- The last field of a row is followed by the line break, of which one byte is taken. -/
theorem readFieldsWithin_last {written : List Char} {field : List UInt8}
    (reads : ReadsField written field) (ends : EndsRow rest) (fuel : List UInt8) :
    readFieldsWithin fuel (Text.encodeUtf8 written ++ rest) = ([field], rest.drop 1) := by
  rw [readFieldsWithin.eq_def]
  simp only [reads rest ends.endsField]
  cases rest with
  | nil => rfl
  | cons byte rest =>
      have not_comma : byte ≠ Text.comma := by
        rintro rfl
        exact absurd (ends Text.comma rfl) (by decide)
      cases fuel with
      | nil => rfl
      | cons spent fuel => simp [not_comma]

theorem readFieldsWithin_cons {written : List Char} {field : List UInt8}
    (reads : ReadsField written field) (spent : UInt8) (fuel : List UInt8) :
    readFieldsWithin (spent :: fuel) (Text.encodeUtf8 written ++ Text.comma :: rest) =
      (field :: (readFieldsWithin fuel rest).1, (readFieldsWithin fuel rest).2) := by
  rw [readFieldsWithin.eq_def]
  simp only [reads _ (endsField_comma rest), if_true]

theorem readFieldsWithin_writeRow (all_read : List.Forall₂ ReadsField writtens fields)
    (not_empty : writtens ≠ []) {fuel : List UInt8} (length_le : writtens.length ≤ fuel.length + 1)
    (ends : EndsRow rest) :
    readFieldsWithin fuel (Text.encodeUtf8 (writeRow writtens) ++ rest) =
      (fields, rest.drop 1) := by
  induction all_read generalizing fuel with
  | nil => exact absurd rfl not_empty
  | @cons written field writtens fields reads others ih =>
      cases others with
      | nil =>
          rw [writeRow, List.intercalate_singleton]
          exact readFieldsWithin_last reads ends fuel
      | cons next_reads others =>
          cases fuel with
          | nil => simp at length_le
          | cons spent fuel =>
              have read := ih (List.cons_ne_nil _ _) (Nat.le_of_succ_le_succ length_le)
              have comma_eq : Text.encodeUtf8 [','] = [Text.comma] := rfl
              rw [writeRow, List.intercalate_cons_cons, ← writeRow, Text.encodeUtf8_append,
                Text.encodeUtf8_append, comma_eq, List.append_assoc, List.append_assoc,
                List.singleton_append, readFieldsWithin_cons reads, read]

theorem length_le_length_writeRow (writtens : List (List Char)) :
    writtens.length ≤ (writeRow writtens).length + 1 := by
  induction writtens with
  | nil => simp
  | cons written writtens ih =>
      cases writtens with
      | nil => simp
      | cons next writtens =>
          rw [writeRow, List.intercalate_cons_cons, ← writeRow]
          simp only [List.length_append, List.length_cons, List.length_nil] at ih ⊢
          omega

/-- A written row is read up to the line break after it. -/
structure ReadsRow (row : List Char) (fields : List (List UInt8)) : Prop where
  starts : ∃ byte bytes, Text.encodeUtf8 row = byte :: bytes ∧ isLineBreak byte = false
  reads : ∀ rest, EndsRow rest → readFields (Text.encodeUtf8 row ++ rest) = (fields, rest.drop 1)

theorem readsRow_writeRow (all_read : List.Forall₂ ReadsField writtens fields)
    (not_empty : writtens ≠ []) (starts : ∃ byte bytes,
      Text.encodeUtf8 (writeRow writtens) = byte :: bytes ∧ isLineBreak byte = false) :
    ReadsRow (writeRow writtens) fields where
  starts := starts
  reads rest ends := by
    apply readFieldsWithin_writeRow all_read not_empty _ ends
    have length_le := (length_le_length_writeRow writtens).trans
      (Nat.succ_le_succ (Text.length_le_length_encodeUtf8 (writeRow writtens)))
    rw [List.length_append]
    omega

end Row

section Rows

variable {rows : List (List Char)} {fields : List (List (List UInt8))}
  {lineBreak : Nat → LineBreak} {isTerminated : Bool}

/-- After a row there is its line break, of which a second byte is left to the other rows. -/
theorem exists_writeRows_cons (lineBreak : Nat → LineBreak) (isTerminated : Bool) (place : Nat)
    (row : List Char) (rows : List (List Char)) :
    let others := Text.encodeUtf8 (writeRows lineBreak isTerminated (place + 1) rows)
    ∃ after passed,
      Text.encodeUtf8 (writeRows lineBreak isTerminated place (row :: rows)) =
        Text.encodeUtf8 row ++ after ∧
      EndsRow after ∧ (∀ byte ∈ passed, isLineBreak byte) ∧ after.drop 1 = passed ++ others := by
  intro others
  by_cases isLast : (rows.isEmpty && !isTerminated) = true
  · have rows_eq : rows = [] := by simpa using (Bool.and_eq_true_iff.1 isLast).1
    subst rows_eq
    refine ⟨[], [], ?_, by simp [EndsRow], by simp, rfl⟩
    rw [writeRows, if_pos isLast]
    simp [writeRows]
  · have written_eq : Text.encodeUtf8 (writeRows lineBreak isTerminated place (row :: rows)) =
        Text.encodeUtf8 row ++ (Text.encodeUtf8 (lineBreak place).text ++ others) := by
      rw [writeRows, if_neg isLast, Text.encodeUtf8_append, Text.encodeUtf8_append,
        List.append_assoc]
    cases break_eq : lineBreak place with
    | lineFeed =>
        rw [break_eq] at written_eq
        refine ⟨_, [], written_eq, ?_, by simp, rfl⟩
        rintro byte ⟨⟩
        decide
    | carriageReturnLineFeed =>
        rw [break_eq] at written_eq
        -- The row takes the carriage return, and leaves the line feed to the next one.
        refine ⟨_, [Text.lineFeed], written_eq, ?_, by simp [isLineBreak], rfl⟩
        rintro byte ⟨⟩
        decide

theorem map_fields_readRowsWithin (all_read : List.Forall₂ ReadsRow rows fields)
    {fuel : List UInt8} (length_le : rows.length ≤ fuel.length) {passed : List UInt8}
    (passed_over : ∀ byte ∈ passed, isLineBreak byte) (number place : Nat) :
    (readRowsWithin fuel number
      (passed ++ Text.encodeUtf8 (writeRows lineBreak isTerminated place rows))).map Row.fields =
      fields := by
  induction all_read generalizing fuel passed number place with
  | nil =>
      cases fuel with
      | nil => rfl
      | cons spent fuel =>
          simp only [writeRows, Text.encodeUtf8_nil, List.append_nil, readRowsWithin]
          rw [List.dropWhile_eq_nil_iff.2 passed_over]
          rfl
  | @cons row rowFields rows fields reads _ ih =>
      cases fuel with
      | nil => simp at length_le
      | cons spent fuel =>
          rcases exists_writeRows_cons lineBreak isTerminated place row rows with
            ⟨after, next_passed, rows_eq, ends, next_over, after_eq⟩
          have read := reads.reads after ends
          have others := ih (Nat.le_of_succ_le_succ length_le) next_over (number + 1) (place + 1)
          rcases reads.starts with ⟨byte, bytes, row_eq, not_break⟩
          rw [row_eq, List.cons_append] at read
          rw [rows_eq, row_eq, readRowsWithin, List.dropWhile_append_of_pos passed_over,
            List.cons_append, List.dropWhile_cons_of_neg (by simp [not_break])]
          simp only [read, List.map_cons, after_eq, others]

theorem length_le_length_writeRows (all_read : List.Forall₂ ReadsRow rows fields) (place : Nat) :
    rows.length ≤ (Text.encodeUtf8 (writeRows lineBreak isTerminated place rows)).length := by
  induction all_read generalizing place with
  | nil => simp
  | @cons row rowFields rows fields reads _ ih =>
      rcases reads.starts with ⟨byte, bytes, row_eq, -⟩
      have others := ih (place + 1)
      rw [writeRows, Text.encodeUtf8_append, Text.encodeUtf8_append, row_eq]
      simp only [List.length_append, List.length_cons]
      omega

/-- The rows of a table are read back, whatever line breaks they end with. -/
theorem map_fields_readRows (all_read : List.Forall₂ ReadsRow rows fields)
    (lineBreak : Nat → LineBreak) (isTerminated : Bool) :
    (readRows (Text.encodeUtf8 (writeRows lineBreak isTerminated 0 rows))).map Row.fields =
      fields :=
  map_fields_readRowsWithin all_read (length_le_length_writeRows all_read 0)
    (List.forall_mem_nil fun byte => isLineBreak byte = true) 0 0

/-- The rows are those that are read after the mark that a file may start with. -/
theorem map_fields_rows (file : List UInt8) :
    (Csv.rows file).map Row.fields = (readRows (dropTextMark file)).map Row.fields := by
  rw [Csv.rows]
  cases readRows (dropTextMark file) <;> rfl

theorem dropTextMark_eq_self {file : List UInt8} (unmarked : textMark.isPrefixOf file = false) :
    dropTextMark file = file := by
  rw [dropTextMark, if_neg (by simp [unmarked])]

end Rows

section Decode

/-- Fields that are stored texts are decoded. -/
theorem decodeFields_eq_ok (row : Row) (file : List UInt8) (position : Nat)
    (texts : List (List Char)) :
    row.decodeFields file position (texts.map Text.encodeUtf8) = .ok texts := by
  induction texts generalizing position with
  | nil => rfl
  | cons text texts ih =>
      rw [List.map_cons, Row.decodeFields, Text.decodeUtf8Prefix_encodeUtf8]
      simp only [ih]
      rfl

theorem decode_eq_ok {row : Row} {texts : List (List Char)} (file : List UInt8)
    (fields_eq : row.fields = texts.map Text.encodeUtf8) : row.decode file = .ok texts := by
  rw [Row.decode, fields_eq, decodeFields_eq_ok]

theorem decodeWidth_eq_ok {row : Row} {texts : List (List Char)} (file : List UInt8)
    (fields_eq : row.fields = texts.map Text.encodeUtf8) :
    row.decodeWidth file texts.length = .ok texts := by
  rw [Row.decodeWidth, if_pos (by rw [fields_eq, List.length_map]), decode_eq_ok file fields_eq]

end Decode

end Csv

end ScriptedFeed
