import ScriptedFeed.Proofs.Csv.Decoding
import ScriptedFeed.Proofs.Number.Integer
import ScriptedFeed.Proofs.Script.Columns

/-!
# What the rows of a table say

Of each row three cells count. A table is accepted if every row has a delay and one of the kinds,
the seed rows have no delay, and all of them come before the scheduled ones; the script then has the
texts of the rows as they stand and in their order. Otherwise the first row at fault decides, and in
it the delay before the kind, the kind and the place of a seed row before its delay. The rows are
read from the top with only one thing kept, whether a scheduled row has been seen, so what follows
the first row at fault is never looked at.
-/

namespace ScriptedFeed

namespace Script

/-- The cells of a row that count; without a column for it the kind is empty. -/
structure RowCells where
  text : List Char
  delay : List Char
  kind : List Char
deriving DecidableEq, Repr

def Columns.pick (columns : Columns) (cells : List (List Char)) : RowCells where
  text := cells.getD columns.text []
  delay := cells.getD columns.delay []
  kind := (columns.kind?.bind fun column => cells[column]?).getD []

/-- The number that the cell with a delay gives, which has to fit 64 bits with its sign. -/
inductive GivesDelay (cell : List Char) : Int → Prop where
  | blank (isBlank : Text.trim cell = []) : GivesDelay cell 0
  | integer {value : Int} (spells : SpellsInteger (Text.trim cell) value)
      (inRange : -2 ^ 63 ≤ value ∧ value < 2 ^ 63) : GivesDelay cell value

namespace RowCells

def shownText (row : RowCells) : String :=
  String.ofList row.text

def isSeed (row : RowCells) : Bool :=
  normalized row.kind = "seed".toList

def isScheduled (row : RowCells) : Bool :=
  normalized row.kind = [] || normalized row.kind = "entry".toList

theorem isSeed_iff {row : RowCells} : row.isSeed ↔ normalized row.kind = "seed".toList :=
  decide_eq_true_iff

theorem isScheduled_iff {row : RowCells} :
    row.isScheduled ↔ normalized row.kind = [] ∨ normalized row.kind = "entry".toList := by
  simp [isScheduled]

theorem not_isScheduled_of_isSeed {row : RowCells} (isSeed : row.isSeed) : ¬ row.isScheduled := by
  rw [isScheduled_iff, isSeed_iff.1 isSeed]
  decide

end RowCells

/-- Rows without a fault. -/
structure Acceptable (rows : List RowCells) : Prop where
  delays : ∀ row ∈ rows, ∃ value, GivesDelay row.delay value ∧ 0 ≤ value
  kinds : ∀ row ∈ rows, row.isSeed ∨ row.isScheduled
  undelayed : ∀ row ∈ rows, row.isSeed → GivesDelay row.delay 0
  seedFirst : rows.Pairwise fun earlier later => earlier.isScheduled → ¬ later.isSeed

/-- Rows say what a script has: its seed lines, and its scheduled lines with their delays. -/
structure Tell (rows : List RowCells) (script : Script) : Prop where
  seed_eq : script.seed = (rows.filter RowCells.isSeed).map RowCells.shownText
  scheduled : List.Forall₂
    (fun row line => line.text = row.shownText ∧ GivesDelay row.delay line.delay.toNat)
    (rows.filter RowCells.isScheduled) script.scheduled

/-- What is wrong with a row after rows without a fault; of several faults the first one listed. -/
inductive RowFault (number : Nat) (earlier : List RowCells) (row : RowCells) :
    ScriptError → Prop where
  | invalidDelay (no_delay : ¬ ∃ value, GivesDelay row.delay value) :
      RowFault number earlier row (.invalidDelay number (String.ofList (Text.trim row.delay)))
  | negativeDelay {value : Int} (gives : GivesDelay row.delay value) (isNegative : value < 0) :
      RowFault number earlier row (.negativeDelay number value)
  | invalidKind {delay : UInt64} (gives : GivesDelay row.delay delay.toNat)
      (not_seed : ¬ row.isSeed) (not_scheduled : ¬ row.isScheduled) :
      RowFault number earlier row (.invalidKind number (String.ofList (normalized row.kind)))
  | seedAfterScheduled {delay : UInt64} (gives : GivesDelay row.delay delay.toNat)
      (isSeed : row.isSeed) (isLate : ∃ before ∈ earlier, before.isScheduled) :
      RowFault number earlier row (.seedAfterScheduled number)
  | seedWithDelay {delay : UInt64} (gives : GivesDelay row.delay delay.toNat) (isSeed : row.isSeed)
      (not_late : ∀ before ∈ earlier, ¬ before.isScheduled) (delayed : delay ≠ 0) :
      RowFault number earlier row (.seedWithDelay number delay)

section Cells

variable {cell : List Char} {value : Int} {number : Nat} {columns : Columns}
  {cells : List (List Char)} {delay : UInt64}

theorem readDelay_of_gives (number : Nat) (gives : GivesDelay cell value) :
    readDelay number cell = checkDelay number value := by
  cases gives with
  | blank isBlank =>
      simp only [readDelay, isBlank]
      rfl
  | integer spells inRange =>
      have not_empty : (Text.trim cell).isEmpty = false := by
        simpa using spells.ne_nil
      have read : readSigned (Text.trim cell) = .ok value := by
        rw [readSigned_eq_ok_iff, maxSigned]
        exact ⟨spells, by omega⟩
      simp only [readDelay, not_empty, Bool.false_eq_true, if_false, read]

theorem readDelay_of_no_delay (number : Nat) (no_delay : ¬ ∃ value, GivesDelay cell value) :
    readDelay number cell = .error (.invalidDelay number (String.ofList (Text.trim cell))) := by
  have not_empty : (Text.trim cell).isEmpty = false := by
    rw [List.isEmpty_eq_false_iff]
    intro isBlank
    exact no_delay ⟨0, .blank isBlank⟩
  simp only [readDelay, not_empty, Bool.false_eq_true, if_false]
  cases read : readSigned (Text.trim cell) with
  | error => rfl
  | ok value =>
      rw [readSigned_eq_ok_iff, maxSigned] at read
      exact absurd ⟨value, .integer read.1 (by omega)⟩ no_delay

theorem readDelay_of_toNat (number : Nat) (gives : GivesDelay cell delay.toNat) :
    readDelay number cell = .ok delay := by
  rw [readDelay_of_gives number gives, checkDelay, if_neg (by omega)]
  simp

theorem exists_toNat_eq (gives : GivesDelay cell value) (not_negative : 0 ≤ value) :
    ∃ delay : UInt64, value = delay.toNat := by
  have fits : value.toNat < 2 ^ 64 := by
    cases gives with
    | blank => decide
    | integer _ inRange => omega
  refine ⟨UInt64.ofNat value.toNat, ?_⟩
  rw [UInt64.toNat_ofNat', Nat.mod_eq_of_lt fits]
  omega

theorem readRow_of_delay (number : Nat) (afterScheduled : Bool)
    (read : readDelay number (columns.pick cells).delay = .ok delay) :
    readRow columns number afterScheduled cells =
      if (columns.pick cells).isSeed then
        if afterScheduled then .error (.seedAfterScheduled number)
        else if delay ≠ 0 then .error (.seedWithDelay number delay)
        else .ok (.seed (columns.pick cells).shownText)
      else if (columns.pick cells).isScheduled then
        .ok (.scheduled ⟨(columns.pick cells).shownText, delay⟩)
      else
        .error (.invalidKind number (String.ofList (normalized (columns.pick cells).kind))) := by
  have read_cell : readDelay number (cells.getD columns.delay []) = .ok delay := read
  simp only [readRow, read_cell, except_ok_bind, RowCells.isSeed_iff, RowCells.isScheduled_iff,
    RowCells.shownText, Columns.pick]
  split_ifs <;> rfl

theorem readRow_of_delay_error {error : ScriptError} (number : Nat) (afterScheduled : Bool)
    (refused : readDelay number (columns.pick cells).delay = .error error) :
    readRow columns number afterScheduled cells = .error error := by
  have read : readDelay number (cells.getD columns.delay []) = .error error := refused
  simp only [readRow, read, except_error_bind]

end Cells

section Faults

variable {columns : Columns} {cells : List (List Char)} {earlier rows : List RowCells}
  {row : RowCells} {number : Nat} {error : ScriptError}

/-- A row at fault is refused for its first fault. -/
theorem readRow_of_fault (fault : RowFault number earlier (columns.pick cells) error) :
    readRow columns number (earlier.any RowCells.isScheduled) cells = .error error := by
  cases fault with
  | invalidDelay no_delay =>
      exact readRow_of_delay_error _ _ (readDelay_of_no_delay number no_delay)
  | negativeDelay gives isNegative =>
      apply readRow_of_delay_error
      rw [readDelay_of_gives number gives, checkDelay, if_pos isNegative]
  | invalidKind gives not_seed not_scheduled =>
      rw [readRow_of_delay _ _ (readDelay_of_toNat _ gives), if_neg not_seed, if_neg not_scheduled]
  | seedAfterScheduled gives isSeed isLate =>
      rw [readRow_of_delay _ _ (readDelay_of_toNat _ gives), if_pos isSeed,
        if_pos (List.any_eq_true.2 isLate)]
  | seedWithDelay gives isSeed not_late delayed =>
      have none_before : ¬ earlier.any RowCells.isScheduled := by
        simpa using not_late
      rw [readRow_of_delay _ _ (readDelay_of_toNat _ gives), if_pos isSeed, if_neg none_before,
        if_pos delayed]

theorem acceptable_nil : Acceptable [] :=
  ⟨by simp, by simp, by simp, .nil⟩

theorem acceptable_concat_iff : Acceptable (earlier ++ [row]) ↔
    Acceptable earlier ∧ (∃ value, GivesDelay row.delay value ∧ 0 ≤ value) ∧
      (row.isSeed ∨ row.isScheduled) ∧ (row.isSeed → GivesDelay row.delay 0) ∧
      (row.isSeed → ∀ before ∈ earlier, ¬ before.isScheduled) := by
  constructor
  · intro acceptable
    have row_mem : row ∈ earlier ++ [row] := by simp
    have seedFirst := List.pairwise_append.1 acceptable.seedFirst
    refine ⟨⟨?_, ?_, ?_, seedFirst.1⟩, acceptable.delays row row_mem, acceptable.kinds row row_mem,
      acceptable.undelayed row row_mem, ?_⟩
    · exact fun before before_mem => acceptable.delays before (List.mem_append_left _ before_mem)
    · exact fun before before_mem => acceptable.kinds before (List.mem_append_left _ before_mem)
    · exact fun before before_mem => acceptable.undelayed before (List.mem_append_left _ before_mem)
    · intro isSeed before before_mem isScheduled
      exact seedFirst.2.2 before before_mem row (List.mem_singleton_self _) isScheduled isSeed
  · rintro ⟨acceptable, delay, kind, undelayed, not_late⟩
    constructor
    · exact List.forall_mem_append.2 ⟨acceptable.delays, List.forall_mem_singleton.2 delay⟩
    · exact List.forall_mem_append.2 ⟨acceptable.kinds, List.forall_mem_singleton.2 kind⟩
    · exact List.forall_mem_append.2 ⟨acceptable.undelayed, List.forall_mem_singleton.2 undelayed⟩
    · refine List.pairwise_append.2 ⟨acceptable.seedFirst, List.pairwise_singleton _ _, ?_⟩
      intro before before_mem later later_mem isScheduled isSeed
      rw [List.mem_singleton.1 later_mem] at isSeed
      exact not_late isSeed before before_mem isScheduled

/-- A row that cannot follow acceptable rows has a fault. -/
theorem exists_fault (acceptable : Acceptable earlier) (refused : ¬ Acceptable (earlier ++ [row]))
    (number : Nat) : ∃ error, RowFault number earlier row error := by
  by_cases has_delay : ∃ value, GivesDelay row.delay value
  swap
  · exact ⟨_, .invalidDelay has_delay⟩
  rcases has_delay with ⟨value, gives⟩
  by_cases isNegative : value < 0
  · exact ⟨_, .negativeDelay gives isNegative⟩
  rcases exists_toNat_eq gives (Int.not_lt.1 isNegative) with ⟨delay, rfl⟩
  by_cases isSeed : row.isSeed
  swap
  · by_cases isScheduled : row.isScheduled
    · refine absurd (acceptable_concat_iff.2 ⟨acceptable, ?_⟩) refused
      exact ⟨⟨_, gives, by omega⟩, .inr isScheduled, fun seed => absurd seed isSeed,
        fun seed => absurd seed isSeed⟩
    · exact ⟨_, .invalidKind gives isSeed isScheduled⟩
  by_cases isLate : ∃ before ∈ earlier, before.isScheduled
  · exact ⟨_, .seedAfterScheduled gives isSeed isLate⟩
  have not_late : ∀ before ∈ earlier, ¬ before.isScheduled := by
    simpa using isLate
  by_cases undelayed : delay = 0
  · subst undelayed
    refine absurd (acceptable_concat_iff.2 ⟨acceptable, ?_⟩) refused
    exact ⟨⟨_, gives, by omega⟩, .inl isSeed, fun _ => gives, fun _ => not_late⟩
  · exact ⟨_, .seedWithDelay gives isSeed not_late undelayed⟩

/-- Rows with a fault have a first one that is at fault. -/
theorem exists_first_fault (refused : ¬ Acceptable rows) :
    ∃ before row after, rows = before ++ row :: after ∧ Acceptable before ∧
      ¬ Acceptable (before ++ [row]) := by
  induction rows using List.reverseRecOn with
  | nil => exact absurd acceptable_nil refused
  | append_singleton earlier last ih =>
      by_cases acceptable : Acceptable earlier
      · exact ⟨earlier, last, [], rfl, acceptable, refused⟩
      · rcases ih acceptable with ⟨before, row, after, rfl, before_acceptable, row_refused⟩
        exact ⟨before, row, after ++ [last], by simp, before_acceptable, row_refused⟩

end Faults

/-- A script with the lines of another one after its own. -/
def followedBy (script others : Script) : Script :=
  ⟨script.seed ++ others.seed, script.scheduled ++ others.scheduled⟩

/-- The script with the line that a row stands for and no other. -/
def RowLine.script : RowLine → Script
  | seed text => ⟨[text], []⟩
  | scheduled line => ⟨[], [line]⟩

def RowLine.isScheduled : RowLine → Bool
  | seed _ => false
  | scheduled _ => true

/-- A row of a file has the given texts. -/
def Decodes (file : List UInt8) (width : Nat) (row : Csv.Row) (cells : List (List Char)) : Prop :=
  row.decodeWidth file width = .ok cells

section Reading

variable {columns : Columns} {file : List UInt8} {width number : Nat} {rows : List Csv.Row}
  {table : List (List (List Char))} {row : RowCells} {shown : List RowCells}
  {script : Script}

theorem Acceptable.of_cons (acceptable : Acceptable (row :: shown)) : Acceptable shown where
  delays other other_mem := acceptable.delays other (List.mem_cons_of_mem _ other_mem)
  kinds other other_mem := acceptable.kinds other (List.mem_cons_of_mem _ other_mem)
  undelayed other other_mem := acceptable.undelayed other (List.mem_cons_of_mem _ other_mem)
  seedFirst := (List.pairwise_cons.1 acceptable.seedFirst).2

theorem tell_nil : Tell [] .empty :=
  ⟨rfl, .nil⟩

theorem Tell.seed (tell : Tell shown script) (isSeed : row.isSeed) :
    Tell (row :: shown) (followedBy ⟨[row.shownText], []⟩ script) where
  seed_eq := by
    rw [List.filter_cons_of_pos isSeed, List.map_cons, ← tell.seed_eq]
    rfl
  scheduled := by
    rw [List.filter_cons_of_neg (RowCells.not_isScheduled_of_isSeed isSeed)]
    exact tell.scheduled

theorem Tell.schedule {delay : UInt64} (tell : Tell shown script) (isScheduled : row.isScheduled)
    (gives : GivesDelay row.delay delay.toNat) :
    Tell (row :: shown) (followedBy ⟨[], [⟨row.shownText, delay⟩]⟩ script) where
  seed_eq := by
    rw [List.filter_cons_of_neg fun isSeed => RowCells.not_isScheduled_of_isSeed isSeed isScheduled]
    exact tell.seed_eq
  scheduled := by
    rw [List.filter_cons_of_pos isScheduled]
    exact .cons ⟨rfl, gives⟩ tell.scheduled

/-- A row that is read adds its line, and leaves the outcome to the other rows. -/
theorem readTableRows_cons {csvRow : Csv.Row} {cells : List (List Char)} {afterScheduled : Bool}
    {rowLine : RowLine} (decoded : Decodes file width csvRow cells)
    (read : readRow columns number afterScheduled cells = .ok rowLine) (later : List Csv.Row) :
    readTableRows file columns width number afterScheduled (csvRow :: later) =
      (readTableRows file columns width (number + 1) (afterScheduled || rowLine.isScheduled)
        later).map (followedBy rowLine.script) := by
  simp only [Decodes] at decoded
  simp only [readTableRows, decoded, Except.mapError, except_ok_bind, read]
  cases rowLine with
  | seed text =>
      rw [RowLine.isScheduled, Bool.or_false]
      cases readTableRows file columns width (number + 1) afterScheduled later <;> rfl
  | scheduled line =>
      rw [RowLine.isScheduled, Bool.or_true]
      cases readTableRows file columns width (number + 1) true later <;> rfl

/-- A row that is refused decides the outcome. -/
theorem readTableRows_of_readRow_error {csvRow : Csv.Row} {cells : List (List Char)}
    {afterScheduled : Bool} {error : ScriptError} (decoded : Decodes file width csvRow cells)
    (refused : readRow columns number afterScheduled cells = .error error) (later : List Csv.Row) :
    readTableRows file columns width number afterScheduled (csvRow :: later) = .error error := by
  simp only [Decodes] at decoded
  simp only [readTableRows, decoded, Except.mapError, except_ok_bind, refused, except_error_bind]

/-- The first of some acceptable rows is read, and tells its line. -/
theorem exists_rowLine {cells : List (List Char)} {afterScheduled : Bool}
    (acceptable : Acceptable (columns.pick cells :: shown)) (number : Nat)
    (timely : afterScheduled → ¬ (columns.pick cells).isSeed) :
    ∃ rowLine, readRow columns number afterScheduled cells = .ok rowLine ∧
      rowLine.isScheduled = (columns.pick cells).isScheduled ∧
      ∀ {script}, Tell shown script →
        Tell (columns.pick cells :: shown) (followedBy rowLine.script script) := by
  by_cases isSeed : (columns.pick cells).isSeed
  · have onTime : ¬ afterScheduled := fun isLate => timely isLate isSeed
    have undelayed : GivesDelay (columns.pick cells).delay (0 : UInt64).toNat :=
      acceptable.undelayed _ List.mem_cons_self isSeed
    have not_scheduled : (columns.pick cells).isScheduled = false := by
      simpa using RowCells.not_isScheduled_of_isSeed isSeed
    refine ⟨.seed (columns.pick cells).shownText, ?_, not_scheduled.symm,
      fun tell => tell.seed isSeed⟩
    rw [readRow_of_delay _ _ (readDelay_of_toNat _ undelayed), if_pos isSeed, if_neg onTime,
      if_neg (by simp)]
  · have isScheduled := (acceptable.kinds _ List.mem_cons_self).resolve_left isSeed
    rcases acceptable.delays _ List.mem_cons_self with ⟨value, gives, not_negative⟩
    rcases exists_toNat_eq gives not_negative with ⟨delay, rfl⟩
    refine ⟨.scheduled ⟨(columns.pick cells).shownText, delay⟩, ?_, isScheduled.symm,
      fun tell => tell.schedule isScheduled gives⟩
    rw [readRow_of_delay _ _ (readDelay_of_toNat _ gives), if_neg isSeed, if_pos isScheduled]

/-- Acceptable rows are read in front of any others, of which they only say whether seed lines may
still come. -/
theorem readTableRows_append (decoded : List.Forall₂ (Decodes file width) rows table)
    (acceptable : Acceptable (table.map columns.pick)) (number : Nat) (afterScheduled : Bool)
    (timely : afterScheduled → ∀ row ∈ table.map columns.pick, ¬ row.isSeed) :
    ∃ script, Tell (table.map columns.pick) script ∧ ∀ later,
      readTableRows file columns width number afterScheduled (rows ++ later) =
        (readTableRows file columns width (number + rows.length)
          (afterScheduled || (table.map columns.pick).any RowCells.isScheduled) later).map
          (followedBy script) := by
  induction decoded generalizing number afterScheduled with
  | nil =>
      refine ⟨.empty, tell_nil, fun later => ?_⟩
      simp only [List.nil_append, List.length_nil, Nat.add_zero, List.map_nil, List.any_nil,
        Bool.or_false]
      cases readTableRows file columns width number afterScheduled later <;> rfl
  | @cons csvRow cells rows table decoded _ ih =>
      rw [List.map_cons] at acceptable timely
      rcases exists_rowLine acceptable number fun isLate => timely isLate _ List.mem_cons_self with
        ⟨rowLine, row_eq, isScheduled_eq, tells⟩
      -- Seed lines may come after a seed row, if they might before it.
      have others_timely : (afterScheduled || rowLine.isScheduled) →
          ∀ row ∈ table.map columns.pick, ¬ row.isSeed := by
        rw [Bool.or_eq_true, isScheduled_eq]
        rintro (isLate | isScheduled) row row_mem
        · exact timely isLate row (List.mem_cons_of_mem _ row_mem)
        · exact (List.pairwise_cons.1 acceptable.seedFirst).1 row row_mem isScheduled
      rcases ih acceptable.of_cons (number + 1) _ others_timely with ⟨script, tell, read⟩
      refine ⟨_, tells tell, fun later => ?_⟩
      have count_eq : number + (csvRow :: rows).length = number + 1 + rows.length := by
        rw [List.length_cons]
        omega
      rw [List.cons_append, readTableRows_cons decoded row_eq, read, count_eq, List.map_cons,
        List.any_cons, ← isScheduled_eq, Bool.or_assoc]
      cases readTableRows file columns width (number + 1 + rows.length) _ later with
      | error error => rfl
      | ok others => simp only [Except.map, followedBy, List.append_assoc]

/-- A row at fault after acceptable ones is the last one that is looked at. -/
theorem readTableRows_of_fault {csvRow : Csv.Row} {cells : List (List Char)} {error : ScriptError}
    (decoded : List.Forall₂ (Decodes file width) rows table)
    (acceptable : Acceptable (table.map columns.pick))
    (row_decoded : Decodes file width csvRow cells)
    (fault : RowFault (number + rows.length) (table.map columns.pick) (columns.pick cells) error)
    (later : List Csv.Row) :
    readTableRows file columns width number false (rows ++ csvRow :: later) = .error error := by
  rcases readTableRows_append decoded acceptable number false (by simp) with ⟨script, -, read⟩
  rw [read, Bool.false_or, readTableRows_of_readRow_error row_decoded (readRow_of_fault fault)]
  rfl

theorem decodes_of_fields_eq (fields_eq : rows.map Csv.Row.fields =
      table.map fun cells => cells.map Text.encodeUtf8)
    (sameWidth : ∀ cells ∈ table, cells.length = width) (file : List UInt8) :
    List.Forall₂ (Decodes file width) rows table := by
  induction table generalizing rows with
  | nil =>
      rw [List.map_nil, List.map_eq_nil_iff] at fields_eq
      rw [fields_eq]
      exact .nil
  | cons cells table ih =>
      rw [List.map_cons, List.map_eq_cons_iff] at fields_eq
      rcases fields_eq with ⟨row, others, rfl, row_eq, others_eq⟩
      rcases List.forall_mem_cons.1 sameWidth with ⟨rfl, others_width⟩
      exact .cons (Csv.decodeWidth_eq_ok file row_eq) (ih others_eq others_width)

end Reading

section Table

variable {file : List UInt8} {columns : Columns} {names cells : List (List Char)}
  {table : List (List (List Char))} {rows : List RowCells} {script : Script} {error : ScriptError}

theorem ofTable_of_header {header : Csv.Row} {others : List Csv.Row}
    (rows_eq : Csv.rows file = header :: others)
    (header_eq : header.fields = names.map Text.encodeUtf8) (named : columns.AreNamed names) :
    ofTable file = readTableRows file columns names.length 2 false others := by
  simp only [ofTable, rows_eq, Csv.decode_eq_ok file header_eq, Except.mapError, except_ok_bind,
    named.ofHeader_eq, header_eq, List.length_map]

theorem ofTable_of_acceptable (named : columns.AreNamed names)
    (sameWidth : ∀ cells ∈ table, cells.length = names.length)
    (fields_eq : (Csv.rows file).map Csv.Row.fields =
      (names :: table).map fun cells => cells.map Text.encodeUtf8)
    (acceptable : Acceptable (table.map columns.pick)) :
    ∃ script, ofTable file = .ok script ∧ Tell (table.map columns.pick) script := by
  rcases List.map_eq_cons_iff.1 fields_eq with ⟨header, others, rows_eq, header_eq, others_eq⟩
  have decoded := decodes_of_fields_eq others_eq sameWidth file
  rcases readTableRows_append decoded acceptable 2 false (by simp) with ⟨script, tell, read⟩
  refine ⟨script, ?_, tell⟩
  have read_all := read []
  rw [List.append_nil] at read_all
  rw [ofTable_of_header rows_eq header_eq named, read_all]
  simp [readTableRows, Except.map, followedBy, Script.empty]

/-- Of the rows after the first one at fault nothing is asked, and nothing is read. -/
theorem ofTable_of_fault (named : columns.AreNamed names)
    (sameWidth : ∀ row ∈ table ++ [cells], row.length = names.length)
    (fields_eq : ((Csv.rows file).map Csv.Row.fields).take (table.length + 2) =
      (names :: (table ++ [cells])).map fun cells => cells.map Text.encodeUtf8)
    (acceptable : Acceptable (table.map columns.pick))
    (fault : RowFault (table.length + 2) (table.map columns.pick) (columns.pick cells) error) :
    ofTable file = .error error := by
  rw [← List.map_take] at fields_eq
  rcases List.map_eq_cons_iff.1 fields_eq with ⟨header, others, rows_eq, header_eq, others_eq⟩
  rw [List.map_append, List.map_eq_append_iff] at others_eq
  rcases others_eq with ⟨before, last, rfl, before_eq, last_eq⟩
  rcases List.map_eq_cons_iff.1 last_eq with ⟨row, empty, rfl, row_eq, empty_eq⟩
  rw [List.map_nil, List.map_eq_nil_iff] at empty_eq
  subst empty_eq
  have all_rows := List.take_append_drop (table.length + 2) (Csv.rows file)
  rw [rows_eq, List.cons_append, List.append_assoc, List.singleton_append] at all_rows
  rcases List.forall_mem_append.1 sameWidth with ⟨before_width, row_width⟩
  have row_decoded : Decodes file names.length row cells := by
    rw [← List.forall_mem_singleton.1 row_width]
    exact Csv.decodeWidth_eq_ok file row_eq
  have decoded := decodes_of_fields_eq before_eq before_width file
  have count_eq : table.length + 2 = 2 + before.length := by
    rw [decoded.length_eq]
    omega
  rw [count_eq] at fault
  rw [ofTable_of_header all_rows.symm header_eq named]
  exact readTableRows_of_fault decoded acceptable row_decoded fault _

/-- A table with a fault is refused for the first one, whatever comes after it. -/
theorem exists_fault_of_refused (named : columns.AreNamed names)
    (sameWidth : ∀ cells ∈ table, cells.length = names.length)
    (fields_eq : (Csv.rows file).map Csv.Row.fields =
      (names :: table).map fun cells => cells.map Text.encodeUtf8)
    (refused : ¬ Acceptable (table.map columns.pick)) :
    ∃ before row after error, table.map columns.pick = before ++ row :: after ∧
      Acceptable before ∧ ¬ Acceptable (before ++ [row]) ∧
      RowFault (before.length + 2) before row error ∧
      ∀ other : List UInt8,
        ((Csv.rows other).map Csv.Row.fields).take (before.length + 2) =
          ((Csv.rows file).map Csv.Row.fields).take (before.length + 2) →
        ofTable other = .error error := by
  rcases exists_first_fault refused with
    ⟨_, _, _, split_eq, before_acceptable, row_refused⟩
  rcases List.map_eq_append_iff.1 split_eq with ⟨before, later, rfl, rfl, later_eq⟩
  rcases List.map_eq_cons_iff.1 later_eq with ⟨cells, after, rfl, rfl, rfl⟩
  rcases exists_fault before_acceptable row_refused (before.length + 2) with ⟨error, fault⟩
  refine ⟨_, _, _, error, split_eq, before_acceptable, row_refused, ?_, ?_⟩
  · rwa [List.length_map]
  · rw [List.length_map]
    intro other taken_eq
    refine ofTable_of_fault named (fun row row_mem => sameWidth row ?_) ?_ before_acceptable fault
    · rw [List.append_cons]
      exact List.mem_append_left _ row_mem
    · rw [taken_eq, fields_eq]
      simp [List.take_append]

/-- With all seed rows first, the seed lines and the scheduled ones are the rows as they stand. -/
theorem Acceptable.filter_append_filter (acceptable : Acceptable rows) :
    rows.filter RowCells.isSeed ++ rows.filter RowCells.isScheduled = rows := by
  induction rows with
  | nil => rfl
  | cons row rows ih =>
      rcases acceptable.kinds row List.mem_cons_self with isSeed | isScheduled
      · rw [List.filter_cons_of_pos isSeed, List.cons_append,
          List.filter_cons_of_neg (RowCells.not_isScheduled_of_isSeed isSeed),
          ih acceptable.of_cons]
      · have none_seed : ∀ later ∈ row :: rows, ¬ later.isSeed := by
          refine List.forall_mem_cons.2 ⟨?_, fun later later_mem => ?_⟩
          · exact fun isSeed => RowCells.not_isScheduled_of_isSeed isSeed isScheduled
          · exact (List.pairwise_cons.1 acceptable.seedFirst).1 later later_mem isScheduled
        rw [List.filter_eq_nil_iff.2 none_seed, List.nil_append, List.filter_eq_self]
        intro later later_mem
        exact (acceptable.kinds later later_mem).resolve_left (none_seed later later_mem)

theorem Tell.texts_eq (tell : Tell rows script) (acceptable : Acceptable rows) :
    script.seed ++ script.scheduled.map ScheduledLine.text = rows.map RowCells.shownText := by
  have scheduled_eq : script.scheduled.map ScheduledLine.text =
      (rows.filter RowCells.isScheduled).map RowCells.shownText := by
    rw [← List.forall₂_eq_eq_eq, List.forall₂_map_left_iff, List.forall₂_map_right_iff]
    exact (tell.scheduled.imp fun _ _ line_eq => line_eq.1).flip
  rw [tell.seed_eq, scheduled_eq, ← List.map_append, acceptable.filter_append_filter]

end Table

end Script

/--
A text is read as a table whose header names the texts and the delays and whose rows are as wide as
the header. If all rows are acceptable, the script has their texts as they stand and in order, the
seed lines those of the seed rows and the scheduled lines with the delays of theirs. Otherwise the
table is refused for the first fault of the first row that has one, with the number of the row, and
so is every file, whatever it holds, that has the same rows up to this one.
-/
theorem Script.ofTable_rows (text : List Char) {header : Csv.Row} {rows : List Csv.Row}
    (rows_eq : Csv.rows (Text.encodeUtf8 text) = header :: rows)
    (text_named : ∃ cell ∈ header.texts, Script.HasName Script.textColumnNames cell)
    (delay_named : ∃ cell ∈ header.texts, Script.HasName Script.delayColumnNames cell)
    (sameWidth : ∀ row ∈ rows, row.fields.length = header.fields.length) :
    let file := Text.encodeUtf8 text
    ∃ columns : Script.Columns, columns.AreNamed header.texts ∧
      let cells := rows.map fun row => columns.pick row.texts
      (Script.Acceptable cells → ∃ script, Script.ofTable file = .ok script ∧
        Script.Tell cells script ∧
        script.seed ++ script.scheduled.map ScheduledLine.text =
          cells.map Script.RowCells.shownText) ∧
      (¬ Script.Acceptable cells → ∃ before row after error, cells = before ++ row :: after ∧
        Script.Acceptable before ∧ ¬ Script.Acceptable (before ++ [row]) ∧
        Script.RowFault (before.length + 2) before row error ∧
        Script.ofTable file = .error error ∧
        ∀ other : List UInt8,
          ((Csv.rows other).map Csv.Row.fields).take (before.length + 2) =
            ((Csv.rows file).map Csv.Row.fields).take (before.length + 2) →
          Script.ofTable other = .error error) := by
  intro file
  rcases Script.Columns.exists_areNamed text_named delay_named with ⟨columns, named⟩
  refine ⟨columns, named, ?_⟩
  intro cells
  have fields_eq : (Csv.rows file).map Csv.Row.fields =
      (header.texts :: rows.map Csv.Row.texts).map fun cells => cells.map Text.encodeUtf8 := by
    have all_text : ∀ row ∈ header :: rows, row.texts.map Text.encodeUtf8 = row.fields := by
      intro row row_mem
      rw [← rows_eq] at row_mem
      exact Csv.Row.map_texts (Csv.IsText.of_mem_fields ⟨text, rfl⟩ row_mem)
    rw [rows_eq, ← List.map_cons, List.map_map]
    exact (List.map_congr_left all_text).symm
  have widths : ∀ cells ∈ rows.map Csv.Row.texts, cells.length = header.texts.length := by
    rw [List.forall_mem_map]
    intro row row_mem
    simpa [Csv.Row.texts] using sameWidth row row_mem
  have cells_eq : cells = (rows.map Csv.Row.texts).map columns.pick := by
    rw [List.map_map]
    rfl
  refine ⟨?_, ?_⟩
  · intro acceptable
    rw [cells_eq] at acceptable ⊢
    rcases Script.ofTable_of_acceptable named widths fields_eq acceptable with ⟨script, read, tell⟩
    exact ⟨script, read, tell, tell.texts_eq acceptable⟩
  · intro refused
    rw [cells_eq] at refused ⊢
    rcases Script.exists_fault_of_refused named widths fields_eq refused with
      ⟨before, row, after, error, split_eq, before_acceptable, row_refused, fault, shared⟩
    exact ⟨before, row, after, error, split_eq, before_acceptable, row_refused, fault,
      shared file rfl, shared⟩

/-- Of two faults in a row the delay is the first, and the faults of later rows do not count. -/
theorem Script.ofTable_rows_of_negative_delay :
    let file := Text.encodeUtf8
      "Delay , Line,note,TYPE\n,\"a,\nb \",x, Seed \n\n 7 ,c,y,\n-3,,z,what\nq,d,,seed".toList
    ∀ other : List UInt8,
      ((Csv.rows other).map Csv.Row.fields).take 4 = ((Csv.rows file).map Csv.Row.fields).take 4 →
      Script.ofTable other = .error (.negativeDelay 4 (-3)) := by
  intro file other shared
  have read : Script.ofTable file = .error (.negativeDelay 4 (-3)) := by decide +kernel
  have widths : ∀ row ∈ Csv.rows file, row.fields.length = 4 := by decide +kernel
  have named : ∀ header ∈ (Csv.rows file).head?,
      (∃ cell ∈ header.texts, Script.HasName Script.textColumnNames cell) ∧
        ∃ cell ∈ header.texts, Script.HasName Script.delayColumnNames cell := by
    decide +kernel
  cases rows_eq : Csv.rows file with
  | nil => exact absurd rows_eq (by decide +kernel)
  | cons header rows =>
      rw [rows_eq] at widths named
      have named_header := named header rfl
      rcases List.forall_mem_cons.1 widths with ⟨header_width, row_widths⟩
      rw [← header_width] at row_widths
      rcases Script.ofTable_rows _ rows_eq named_header.1 named_header.2 row_widths with
        ⟨columns, -, accepted, refused⟩
      have not_acceptable : ¬ Script.Acceptable (rows.map fun row => columns.pick row.texts) := by
        intro acceptable
        rcases accepted acceptable with ⟨script, read_script, -⟩
        exact absurd (read.symm.trans read_script) (by simp)
      rcases refused not_acceptable with
        ⟨before, row, after, error, -, -, -, fault, refused_error, refused_others⟩
      have error_eq := Except.error.inj (read.symm.trans refused_error)
      subst error_eq
      generalize number_eq : before.length + 2 = number at fault refused_others
      cases fault
      exact refused_others other shared

end ScriptedFeed
