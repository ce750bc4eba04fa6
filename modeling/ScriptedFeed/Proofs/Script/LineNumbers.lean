import ScriptedFeed.Proofs.Csv.Lines
import ScriptedFeed.Proofs.Script.Rows

/-!
# The line that an error in a table names

A refused row is named by its number in the table, the header being the first. The file has the row
on this line if no line before it is empty and no field before it goes over several lines; with each
such line the row stands one line further down than the error says.
-/

namespace ScriptedFeed

/-- The line that an error in a row names. -/
def ScriptError.line? : ScriptError → Option Nat
  | negativeDelay line _ | invalidDelay line _ | invalidKind line _ | seedWithDelay line _
  | seedAfterScheduled line => some line
  | unknownFormat | missingColumn _ | storage _ | json _ | csv _ => none

namespace Script

variable {file : List UInt8} {columns : Columns} {width number line : Nat} {afterScheduled : Bool}
  {rows : List Csv.Row} {cells : List (List Char)} {error : ScriptError}

/-- The script that some of the first rows of a file hold. -/
def ofRows (file : List UInt8) : List Csv.Row → Except ScriptError Script
  | [] => .error (.missingColumn textColumnNames)
  | header :: rows => do
      let names ← (header.decode file).mapError .csv
      let columns ← Columns.ofHeader names
      readTableRows file columns header.fields.length 2 false rows

theorem ofTable_eq_ofRows (file : List UInt8) : ofTable file = ofRows file (Csv.rows file) := by
  rw [ofTable]
  cases Csv.rows file <;> rfl

theorem line?_of_readDelay {cell : List Char} (refused : readDelay number cell = .error error) :
    error.line? = some number := by
  by_cases has_delay : ∃ value, GivesDelay cell value
  · rcases has_delay with ⟨value, gives⟩
    rw [readDelay_of_gives number gives, checkDelay] at refused
    split_ifs at refused
    cases refused
    rfl
  · rw [readDelay_of_no_delay number has_delay] at refused
    cases refused
    rfl

/-- A row that is refused is named by its number. -/
theorem line?_of_readRow (refused : readRow columns number afterScheduled cells = .error error) :
    error.line? = some number := by
  cases delayed : readDelay number (columns.pick cells).delay with
  | error delayError =>
      rw [readRow_of_delay_error number afterScheduled delayed] at refused
      cases refused
      exact line?_of_readDelay delayed
  | ok delay =>
      rw [readRow_of_delay number afterScheduled delayed] at refused
      split_ifs at refused <;> cases refused <;> rfl

/-- Rows that are refused for one of them have a first one without which they are not. -/
theorem exists_refused_row
    (refused : readTableRows file columns width number afterScheduled rows = .error error)
    (reported : error.line? = some line) : ∃ before row after, rows = before ++ row :: after ∧
      (∃ script, readTableRows file columns width number afterScheduled before = .ok script) ∧
      readTableRows file columns width number afterScheduled (before ++ [row]) = .error error ∧
      line = number + before.length := by
  induction rows generalizing number afterScheduled with
  | nil => cases refused
  | cons row rows ih =>
      cases decoded : row.decodeWidth file width with
      | error csvError =>
          simp only [readTableRows, decoded, Except.mapError, except_error_bind] at refused
          cases refused
          cases reported
      | ok cells =>
          cases read : readRow columns number afterScheduled cells with
          | error rowError =>
              have refused_row := readTableRows_of_readRow_error decoded read
              rw [refused_row] at refused
              cases refused
              rw [line?_of_readRow read] at reported
              exact ⟨[], row, rows, rfl, ⟨.empty, rfl⟩, refused_row [],
                (Option.some.inj reported).symm⟩
          | ok rowLine =>
              have read_cons := readTableRows_cons decoded read
              rw [read_cons] at refused
              cases read_others : readTableRows file columns width (number + 1)
                  (afterScheduled || rowLine.isScheduled) rows with
              | ok script => simp [read_others, Except.map] at refused
              | error othersError =>
                  rw [read_others] at refused
                  cases refused
                  rcases ih read_others with
                    ⟨before, refusedRow, after, rfl, ⟨script, accepted⟩, row_refused, line_eq⟩
                  refine ⟨row :: before, refusedRow, after, rfl,
                    ⟨followedBy rowLine.script script, ?_⟩, ?_, ?_⟩
                  · rw [read_cons, accepted]
                    rfl
                  · rw [List.cons_append, read_cons, row_refused]
                    rfl
                  · rw [List.length_cons]
                    omega

theorem line?_of_ofHeader {names : List (List Char)}
    (refused : Columns.ofHeader names = .error error) : error.line? = none := by
  have missing {columnNames : List String} {columnError : ScriptError}
      (refused : findColumn names columnNames = .error columnError) : columnError.line? = none := by
    rw [findColumn] at refused
    split at refused <;> cases refused
    rfl
  simp only [Columns.ofHeader] at refused
  cases text_found : findColumn names textColumnNames with
  | error textError =>
      rw [text_found] at refused
      cases refused
      exact missing text_found
  | ok text =>
      cases delay_found : findColumn names delayColumnNames with
      | error delayError =>
          rw [text_found, delay_found] at refused
          cases refused
          exact missing delay_found
      | ok delay =>
          rw [text_found, delay_found] at refused
          cases refused

/-- If a row is named, then the header is read, and the others are read in its columns. -/
theorem exists_columns_of_reported (refused : ofRows file rows = .error error)
    (reported : error.line? = some line) : ∃ header others columns, rows = header :: others ∧
      ∀ later, ofRows file (header :: later) =
        readTableRows file columns header.fields.length 2 false later := by
  cases rows with
  | nil =>
      cases refused
      cases reported
  | cons header others =>
      cases decoded : header.decode file with
      | error csvError =>
          simp only [ofRows, decoded, Except.mapError, except_error_bind] at refused
          cases refused
          cases reported
      | ok names =>
          cases named : Columns.ofHeader names with
          | error columnError =>
              simp only [ofRows, decoded, named, Except.mapError, except_ok_bind,
                except_error_bind] at refused
              cases refused
              rw [line?_of_ofHeader named] at reported
              cases reported
          | ok columns =>
              refine ⟨header, others, columns, rfl, fun later => ?_⟩
              simp only [ofRows, decoded, named, Except.mapError, except_ok_bind]

end Script

/--
A table is refused for one of its rows. The rows before this one are accepted, and with it they are
refused with the same error. The line that the error names is the number of the row, counted from
one with the header. In the file the row starts further down by the empty lines before it and by the
line ends inside the fields of the rows before it, so the error points at the row if there are none,
and only then.
-/
theorem Script.line_of_refused_row {file : List UInt8} {error : ScriptError} {line : Nat}
    (refused : Script.ofTable file = .error error) (reported : error.line? = some line) :
    ∃ before row after,
      Csv.readRows (Csv.dropTextMark file) = before ++ row :: after ∧
      (∃ script, Script.ofRows file ((Csv.rows file).take before.length) = .ok script) ∧
      Script.ofRows file ((Csv.rows file).take (before.length + 1)) = .error error ∧
      line = before.length + 1 ∧
      row.line file = line + ((before ++ [row]).map fun row => row.emptyLines file).sum +
        (before.map Csv.Row.innerLineEnds).sum ∧
      (row.line file = line ↔ (∀ other ∈ before ++ [row], other.emptyLines file = 0) ∧
        ∀ other ∈ before, other.innerLineEnds = 0) := by
  rw [Script.ofTable_eq_ofRows] at refused
  rcases Script.exists_columns_of_reported refused reported with
    ⟨first, others, columns, all_rows, ofRows_eq⟩
  rw [all_rows, ofRows_eq] at refused
  rcases Script.exists_refused_row refused reported with
    ⟨before, row, after, rfl, ⟨script, accepted⟩, row_refused, line_eq⟩
  -- The header that is read begins with the mark of the file, and has nothing else to it.
  have cut_rows : ∃ header, Csv.readRows (Csv.dropTextMark file) =
      header :: before ++ row :: after := by
    rw [Csv.rows] at all_rows
    split at all_rows
    · cases all_rows
    · next header cut rows_eq =>
        rw [List.cons.injEq] at all_rows
        exact ⟨header, by rw [rows_eq, all_rows.2]; rfl⟩
  rcases cut_rows with ⟨header, cut_rows⟩
  have row_line := Csv.line_of_row cut_rows
  have line_eq_length : line = (header :: before).length + 1 := by
    rw [List.length_cons]
    omega
  rw [← line_eq_length] at row_line
  refine ⟨header :: before, row, after, cut_rows, ⟨script, ?_⟩, ?_, line_eq_length, row_line, ?_⟩
  · rw [all_rows, List.length_cons, List.take_succ_cons, List.take_left, ofRows_eq, accepted]
  · have taken_eq : (first :: (before ++ row :: after)).take ((header :: before).length + 1) =
        first :: (before ++ [row]) := by
      simp [List.take_append]
    rw [all_rows, taken_eq, ofRows_eq, row_refused]
  · have lines_eq_iff : row.line file = line ↔
        ((header :: before ++ [row]).map fun row => row.emptyLines file).sum = 0 ∧
          ((header :: before).map Csv.Row.innerLineEnds).sum = 0 := by
      omega
    rw [lines_eq_iff, List.sum_eq_zero_iff_forall_eq_nat, List.sum_eq_zero_iff_forall_eq_nat,
      List.forall_mem_map, List.forall_mem_map]

/-- An empty line and a field of two lines before the row. -/
theorem Script.line_of_refused_row_two_lines_off :
    let file := Text.encodeUtf8 "text,delay_ms\n\r\n\"a\rb\",1\nbad,-1\n".toList
    Script.ofTable file = .error (.negativeDelay 3 (-1)) ∧
      ∃ before row after, Csv.readRows file = before ++ row :: after ∧ before.length = 2 ∧
        row.line file = 5 := by
  intro file
  have refused : Script.ofTable file = .error (.negativeDelay 3 (-1)) := by decide +kernel
  rcases Script.line_of_refused_row refused rfl with
    ⟨before, row, after, rows_eq, -, -, number_eq, line_eq, -⟩
  have before_two : before.length = 2 := by omega
  have third_line : ((Csv.readRows file).map fun row => row.line file)[2]? = some 5 := by
    decide +kernel
  have cut_eq : Csv.readRows file = before ++ row :: after := rows_eq
  rw [cut_eq, List.map_append, ← before_two, List.getElem?_append_right (by simp)] at third_line
  refine ⟨refused, before, row, after, cut_eq, before_two, ?_⟩
  simpa using third_line

/-- Empty lines and line ends in quoted fields are not counted. -/
theorem Script.named_line_is_not_line_of_row :
    let emptyLine := Text.encodeUtf8 "text,delay_ms\n\nbad,-1\n".toList
    let twoLines := Text.encodeUtf8 "text,delay_ms\n\"a\nb\",1\nbad,-1\n".toList
    Script.ofTable emptyLine = .error (.negativeDelay 2 (-1)) ∧
      (Csv.readRows emptyLine).map (fun row => row.line emptyLine) = [1, 3] ∧
      Script.ofTable twoLines = .error (.negativeDelay 3 (-1)) ∧
      (Csv.readRows twoLines).map (fun row => row.line twoLines) = [1, 2, 4] := by
  decide +kernel

end ScriptedFeed
