import ScriptedFeed.Proofs.Csv.Reading

/-!
# On which line a row starts

A line of a file ends with a line feed, with a carriage return or with both. So does a row, but
empty lines between rows are passed over, and a row goes on over the breaks inside its quoted
fields. The line on which a row starts is therefore its number, plus all empty lines before it, plus
all breaks inside the rows before it.
-/

namespace ScriptedFeed

namespace Csv

section Count

variable {byte : UInt8} {bytes raw others : List UInt8} {count more : Nat}

/-- The line ends in some bytes; a line feed after a carriage return does not end another line. -/
def lineEnds : Bool → List UInt8 → Nat
  | _, [] => 0
  | afterReturn, byte :: bytes =>
      if byte = Text.carriageReturn then lineEnds true bytes + 1
      else if byte = Text.lineFeed ∧ ¬ afterReturn then lineEnds false bytes + 1
      else lineEnds false bytes

def endsInReturn (afterReturn : Bool) (bytes : List UInt8) : Bool :=
  (bytes.getLast?.map fun byte => decide (byte = Text.carriageReturn)).getD afterReturn

theorem lineEnds_cons (afterReturn : Bool) (byte : UInt8) (bytes : List UInt8) :
    lineEnds afterReturn (byte :: bytes) =
      lineEnds afterReturn [byte] + lineEnds (byte = Text.carriageReturn) bytes := by
  simp only [lineEnds]
  split_ifs <;> simp_all <;> omega

theorem endsInReturn_cons (afterReturn : Bool) (byte : UInt8) (bytes : List UInt8) :
    endsInReturn afterReturn (byte :: bytes) = endsInReturn (byte = Text.carriageReturn) bytes := by
  simp only [endsInReturn, List.getLast?_cons]
  cases bytes.getLast? <;> rfl

theorem lineEnds_append (afterReturn : Bool) (bytes others : List UInt8) :
    lineEnds afterReturn (bytes ++ others) =
      lineEnds afterReturn bytes + lineEnds (endsInReturn afterReturn bytes) others := by
  induction bytes generalizing afterReturn with
  | nil => simp [lineEnds, endsInReturn]
  | cons byte bytes ih =>
      rw [List.cons_append, lineEnds_cons, ih, lineEnds_cons afterReturn byte bytes,
        endsInReturn_cons, Nat.add_assoc]

theorem endsInReturn_append (afterReturn : Bool) (bytes others : List UInt8) :
    endsInReturn afterReturn (bytes ++ others) =
      endsInReturn (endsInReturn afterReturn bytes) others := by
  induction bytes generalizing afterReturn with
  | nil => rfl
  | cons byte bytes ih => rw [List.cons_append, endsInReturn_cons, ih, endsInReturn_cons]

/-- A byte that is no line break ends no line, and the bytes after it do not depend on it. -/
theorem lineEnds_of_not_break (not_break : isLineBreak byte = false) (afterReturn : Bool)
    (bytes : List UInt8) : lineEnds afterReturn (byte :: bytes) = lineEnds false bytes := by
  rw [isLineBreak, Bool.or_eq_false_iff, decide_eq_false_iff_not, decide_eq_false_iff_not]
    at not_break
  simp [lineEnds, not_break]

theorem endsInReturn_of_not_break (not_break : isLineBreak byte = false) (afterReturn : Bool)
    (bytes : List UInt8) : endsInReturn afterReturn (byte :: bytes) = endsInReturn false bytes := by
  rw [isLineBreak, Bool.or_eq_false_iff, decide_eq_false_iff_not, decide_eq_false_iff_not]
    at not_break
  simp [endsInReturn_cons, not_break]

/-- Bytes with some line ends in them, none of which the bytes after them could change. -/
structure HasLineEnds (afterReturn : Bool) (bytes : List UInt8) (count : Nat) : Prop where
  count_eq : lineEnds afterReturn bytes = count
  isClosed : endsInReturn afterReturn bytes = false

theorem HasLineEnds.append {afterReturn : Bool} (has : HasLineEnds afterReturn bytes count)
    (others_have : HasLineEnds false others more) :
    HasLineEnds afterReturn (bytes ++ others) (count + more) := by
  constructor
  · rw [lineEnds_append, has.isClosed, has.count_eq, others_have.count_eq]
  · rw [endsInReturn_append, has.isClosed, others_have.isClosed]

theorem HasLineEnds.cons {afterReturn : Bool} (not_break : isLineBreak byte = false)
    (has : HasLineEnds false bytes count) : HasLineEnds afterReturn (byte :: bytes) count := by
  constructor
  · rw [lineEnds_of_not_break not_break, has.count_eq]
  · rw [endsInReturn_of_not_break not_break, has.isClosed]

theorem HasLineEnds.of_starts (not_break : isLineBreak byte = false)
    (has : HasLineEnds false (byte :: bytes) count) (afterReturn : Bool) :
    HasLineEnds afterReturn (byte :: bytes) count := by
  constructor
  · rw [lineEnds_of_not_break not_break, ← lineEnds_of_not_break not_break false, has.count_eq]
  · rw [endsInReturn_of_not_break not_break, ← endsInReturn_of_not_break not_break false,
      has.isClosed]

theorem lineEnds_of_break (isBreak : isLineBreak byte) : lineEnds false [byte] = 1 := by
  have isMark : byte = Text.lineFeed ∨ byte = Text.carriageReturn := by
    simpa [isLineBreak] using isBreak
  rcases isMark with rfl | rfl <;> rfl

theorem hasLineEnds_nil : HasLineEnds false [] 0 :=
  ⟨rfl, rfl⟩

end Count

section Field

variable {bytes field rest : List UInt8} {fields : List (List UInt8)}

theorem lineEnds_of_no_break (no_break : ∀ byte ∈ bytes, isLineBreak byte = false)
    (afterReturn : Bool) : lineEnds afterReturn bytes = 0 := by
  induction bytes generalizing afterReturn with
  | nil => rfl
  | cons byte bytes ih =>
      rcases List.forall_mem_cons.1 no_break with ⟨not_break, others⟩
      rw [lineEnds_of_not_break not_break, ih others]

theorem hasLineEnds_of_no_break (no_break : ∀ byte ∈ bytes, isLineBreak byte = false) :
    HasLineEnds false bytes 0 := by
  induction bytes with
  | nil => exact hasLineEnds_nil
  | cons byte bytes ih =>
      rcases List.forall_mem_cons.1 no_break with ⟨not_break, others⟩
      exact .cons not_break (ih others)

theorem readPlain_append_rest (bytes : List UInt8) :
    (readPlain bytes).1 ++ (readPlain bytes).2 = bytes := by
  simp only [readPlain, List.span_eq_takeWhile_dropWhile, List.takeWhile_append_dropWhile]

theorem isLineBreak_of_mem_readPlain {byte : UInt8} (byte_mem : byte ∈ (readPlain bytes).1) :
    isLineBreak byte = false := by
  simp only [readPlain, List.span_eq_takeWhile_dropWhile] at byte_mem
  have goes_on := List.mem_takeWhile_imp byte_mem
  rw [Bool.not_eq_true', Csv.endsField, Bool.or_eq_false_iff] at goes_on
  exact goes_on.2

/-- A quoted field ends as many lines as what it is read from, its closing mark included. -/
theorem readQuoted_lines (afterReturn : Bool) (bytes : List UInt8)
    (goes_on : (readQuoted bytes).2 ≠ []) : ∃ raw, bytes = raw ++ (readQuoted bytes).2 ∧
      HasLineEnds afterReturn raw (lineEnds afterReturn (readQuoted bytes).1) := by
  have mark_not_break : isLineBreak Text.quotationMark = false := by decide
  fun_induction readQuoted bytes generalizing afterReturn with
  | case1 => exact absurd rfl goes_on
  | case2 => exact absurd rfl goes_on
  | case3 others field rest read_eq ih =>
      simp only [read_eq] at ih
      rcases ih false goes_on with ⟨raw, raw_eq, has⟩
      refine ⟨Text.quotationMark :: Text.quotationMark :: raw, by rw [raw_eq]; rfl, ?_⟩
      rw [lineEnds_of_not_break mark_not_break]
      exact .cons mark_not_break (.cons mark_not_break has)
  | case4 next others not_mark =>
      have no_break : ∀ byte ∈ (readPlain (next :: others)).1, isLineBreak byte = false :=
        fun _ => isLineBreak_of_mem_readPlain
      refine ⟨Text.quotationMark :: (readPlain (next :: others)).1, ?_, ?_⟩
      · rw [List.cons_append, readPlain_append_rest]
      · rw [lineEnds_of_no_break no_break]
        exact .cons mark_not_break (hasLineEnds_of_no_break no_break)
  | case5 byte others not_mark field rest read_eq ih =>
      simp only [read_eq] at ih
      rcases ih (byte = Text.carriageReturn) goes_on with ⟨raw, raw_eq, has⟩
      refine ⟨byte :: raw, by rw [raw_eq]; rfl, ?_, ?_⟩
      · rw [lineEnds_cons, lineEnds_cons afterReturn byte field, has.count_eq]
      · rw [endsInReturn_cons, has.isClosed]

/-- A field ends as many lines as what it is read from, if something comes after it. -/
theorem readField_lines (bytes : List UInt8) (goes_on : (readField bytes).2 ≠ []) :
    ∃ raw, bytes = raw ++ (readField bytes).2 ∧
      HasLineEnds false raw (lineEnds false (readField bytes).1) := by
  fun_cases readField bytes with
  | case1 => exact absurd rfl goes_on
  | case2 rest =>
      rw [readField, if_pos rfl] at goes_on
      rcases readQuoted_lines false rest goes_on with ⟨raw, raw_eq, has⟩
      exact ⟨Text.quotationMark :: raw, congrArg (Text.quotationMark :: ·) raw_eq,
        .cons (by decide) has⟩
  | case3 first rest not_mark =>
      have no_break : ∀ byte ∈ (readPlain (first :: rest)).1, isLineBreak byte = false :=
        fun _ => isLineBreak_of_mem_readPlain
      refine ⟨_, (readPlain_append_rest _).symm, ?_⟩
      rw [lineEnds_of_no_break no_break]
      exact hasLineEnds_of_no_break no_break

end Field

section Row

variable {bytes field rest : List UInt8} {fields : List (List UInt8)}

/-- A row that is not the last one is what its fields are read from and the break after them. -/
theorem CutsRow.lines (cuts : CutsRow bytes fields rest) : rest = [] ∨ ∃ raw lineBreak,
    isLineBreak lineBreak ∧ bytes = raw ++ lineBreak :: rest ∧
      HasLineEnds false raw (fields.map (lineEnds false)).sum := by
  induction cuts with
  | atEnd => exact .inl rfl
  | @atBreak bytes field rest byte read isBreak =>
      rcases readField_lines bytes (by simp [read]) with ⟨raw, raw_eq, has⟩
      rw [read] at raw_eq has
      refine .inr ⟨raw, byte, isBreak, raw_eq, ?_⟩
      simpa using has
  | @atComma bytes field others rest fields read _ ih =>
      rcases ih with rest_eq | ⟨raw, lineBreak, isBreak, others_eq, has⟩
      · exact .inl rest_eq
      · rcases readField_lines bytes (by simp [read]) with ⟨first, first_eq, first_has⟩
        rw [read] at first_eq first_has
        refine .inr ⟨first ++ Text.comma :: raw, lineBreak, isBreak, ?_, ?_⟩
        · rw [first_eq, others_eq, List.append_assoc, List.cons_append]
        · exact first_has.append (.cons (by decide) has)

end Row

section Rows

variable {file front bytes : List UInt8} {number : Nat} {rows before after : List Row} {row : Row}

namespace Row

/-- The bytes of a file before those that a row is read from. -/
def bytesBefore (row : Row) (file : List UInt8) : List UInt8 :=
  file.take (file.length - row.start.length)

/-- The line breaks that are passed over before a row. -/
def passed (row : Row) : List UInt8 :=
  row.start.takeWhile isLineBreak

/-- The line of a file on which a row starts, counted from one. -/
def line (row : Row) (file : List UInt8) : Nat :=
  lineEnds false (row.bytesBefore file ++ row.passed) + 1

/-- The empty lines of a file between a row and the one before it. -/
def emptyLines (row : Row) (file : List UInt8) : Nat :=
  lineEnds (endsInReturn false (row.bytesBefore file)) row.passed

/-- The line ends inside the fields of a row. -/
def innerLineEnds (row : Row) : Nat :=
  (row.fields.map (lineEnds false)).sum

end Row

theorem Row.bytesBefore_append (front : List UInt8) (row : Row) :
    row.bytesBefore (front ++ row.start) = front := by
  simp [bytesBefore]

theorem Row.passed_mk {passed others : List UInt8} {first : UInt8}
    (all_breaks : ∀ byte ∈ passed, isLineBreak byte) (starts : isLineBreak first = false)
    (fields : List (List UInt8)) (number : Nat) :
    Row.passed ⟨fields, number, passed ++ first :: others⟩ = passed := by
  rw [Row.passed, List.takeWhile_append_of_pos all_breaks,
    List.takeWhile_cons_of_neg (by simp [starts]), List.append_nil]

theorem Row.lineEnds_passed (front : List UInt8) (row : Row) :
    lineEnds false (front ++ row.passed) =
      lineEnds false front + row.emptyLines (front ++ row.start) := by
  rw [emptyLines, bytesBefore_append, lineEnds_append]

/-- A row and the break after it end one line more than the row has line ends inside. -/
theorem lineEnds_cutsRow {front passed raw others rest : List UInt8} {first lineBreak : UInt8}
    {count : Nat} (starts : isLineBreak first = false) (isBreak : isLineBreak lineBreak)
    (raw_eq : first :: others = raw ++ lineBreak :: rest) (has : HasLineEnds false raw count) :
    lineEnds false (front ++ passed ++ raw ++ [lineBreak]) =
      lineEnds false (front ++ passed) + count + 1 := by
  cases raw with
  | nil =>
      rw [List.nil_append, List.cons.injEq] at raw_eq
      rw [raw_eq.1, isBreak] at starts
      exact absurd starts (by decide)
  | cons byte raw =>
      rw [List.cons_append, List.cons.injEq] at raw_eq
      rw [raw_eq.1] at starts
      have row_has := has.of_starts starts (endsInReturn false (front ++ passed))
      rw [lineEnds_append, endsInReturn_append, row_has.isClosed, lineEnds_append,
        row_has.count_eq, lineEnds_of_break isBreak]

theorem CutsRows.eq_nil (cuts : CutsRows number [] rows) : rows = [] := by
  generalize bytes_eq : ([] : List UInt8) = bytes at cuts
  cases cuts with
  | nil => rfl
  | cons => simp at bytes_eq

/-- What comes before a row is one line for each row before it, and what is passed over. -/
theorem CutsRows.line_eq (cuts : CutsRows number bytes rows) (front : List UInt8)
    (rows_eq : rows = before ++ row :: after) :
    row.line (front ++ bytes) = lineEnds false front + before.length + 1 +
      ((before ++ [row]).map fun row => row.emptyLines (front ++ bytes)).sum +
      (before.map Row.innerLineEnds).sum := by
  induction cuts generalizing front before with
  | nil => simp at rows_eq
  | @cons number passed others rest first fields rows all_breaks starts cuts cuts_others ih =>
      have before_row := Row.lineEnds_passed front ⟨fields, number, passed ++ first :: others⟩
      cases before with
      | nil =>
          rw [List.nil_append, List.cons.injEq] at rows_eq
          rw [← rows_eq.1, Row.line, Row.bytesBefore_append, before_row]
          simp
          omega
      | cons earlier before =>
          rw [List.cons_append, List.cons.injEq] at rows_eq
          rcases rows_eq with ⟨rfl, rows_eq⟩
          rcases cuts.lines with rest_eq | ⟨raw, lineBreak, isBreak, raw_eq, has⟩
          · subst rest_eq
            rw [cuts_others.eq_nil] at rows_eq
            simp at rows_eq
          · have others_line := ih (front ++ passed ++ raw ++ [lineBreak]) rows_eq
            have bytes_eq : front ++ passed ++ raw ++ [lineBreak] ++ rest =
                front ++ (passed ++ first :: others) := by
              rw [raw_eq]
              simp
            rw [Row.passed_mk all_breaks starts] at before_row
            rw [bytes_eq, lineEnds_cutsRow starts isBreak raw_eq has, before_row] at others_line
            simp only [others_line, Row.innerLineEnds, List.cons_append, List.map_cons,
              List.sum_cons, List.length_cons]
            omega

/-- A row of a file starts as many lines after its number as breaks before it end no row. -/
theorem line_of_row (rows_eq : readRows (dropTextMark file) = before ++ row :: after) :
    row.line file = before.length + 1 +
      ((before ++ [row]).map fun row => row.emptyLines file).sum +
      (before.map Row.innerLineEnds).sum := by
  have file_eq : ∃ front, file = front ++ dropTextMark file ∧ lineEnds false front = 0 := by
    rw [dropTextMark]
    split_ifs with isMarked
    · rcases List.isPrefixOf_iff_prefix.1 isMarked with ⟨rest, rfl⟩
      exact ⟨textMark, by rw [List.drop_left], by decide⟩
    · exact ⟨[], rfl, rfl⟩
  rcases file_eq with ⟨front, file_eq, front_lines⟩
  have line_eq := (cutsRows_readRows (dropTextMark file)).line_eq front rows_eq
  rwa [← file_eq, front_lines, Nat.zero_add] at line_eq

end Rows

end Csv

end ScriptedFeed
