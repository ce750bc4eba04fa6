import ScriptedFeed.Proofs.Csv.Spelling
import ScriptedFeed.Proofs.Script.Rows

/-!
# The columns of a table may stand in any order

Of a row only the cells count that its header names, so a script does not depend on where these
columns stand, on which of their names they go by, or on what the other columns hold. Two tables
are read alike if the same cells of their rows count; without a column for the kinds this is as if
all of them were empty.
-/

namespace ScriptedFeed

namespace Script

/-- What a column is for. -/
inductive Part where
  | text
  | delay
  | kind
  | other
deriving DecidableEq, Repr

namespace Part

def names : Part → List String
  | text => textColumnNames
  | delay => delayColumnNames
  | kind => kindColumnNames
  | other => []

/-- What the cell of a row has to be in a column, if anything. -/
def cell? (row : RowCells) : Part → Option (List Char)
  | text => some row.text
  | delay => some row.delay
  | kind => some row.kind
  | other => none

end Part

structure Column where
  part : Part
  name : List Char
deriving DecidableEq, Repr

namespace Column

/-- The columns that count go by one of their names, and the others by none of these. -/
def IsNamed (column : Column) : Prop :=
  match column.part with
  | .other => ¬ HasName (textColumnNames ++ delayColumnNames ++ kindColumnNames) column.name
  | part => GoesBy part.names column.name

def Holds (row : RowCells) (column : Column) (cell : List Char) : Prop :=
  ∀ given ∈ column.part.cell? row, cell = given

end Column

/-- Columns among which there is one for each of some parts of a row. -/
structure Layout (parts : List Part) where
  columns : List Column
  placed : ((columns.map Column.part).filter (· ≠ .other)).Perm parts
  all_named : ∀ column ∈ columns, column.IsNamed

namespace Layout

/-- The rows written in the columns, whatever else these hold, and with any quoting. -/
def Spells {parts : List Part} (layout : Layout parts) (rows : List RowCells) (file : List Char) :
    Prop :=
  ∃ table, List.Forall₂ (fun row cells => List.Forall₂ (Column.Holds row) layout.columns cells)
      rows table ∧
    Csv.SpellsFile (layout.columns.map Column.name :: table) file

end Layout

section Names

variable {names : List String} {cell : List Char} {part : Part} {column : Column}

theorem names_subset (part : Part) :
    part.names ⊆ textColumnNames ++ delayColumnNames ++ kindColumnNames := by
  cases part <;> decide

theorem eq_of_mem_names {otherPart : Part} {name : String} (name_mem : name ∈ part.names)
    (other_mem : name ∈ otherPart.names) : part = otherPart := by
  have apart : ∀ name ∈ part.names, name ∈ otherPart.names → part = otherPart := by
    cases part <;> cases otherPart <;> decide
  exact apart name name_mem other_mem

theorem Column.IsNamed.goesBy (named : column.IsNamed) (counts : column.part ≠ .other) :
    GoesBy column.part.names column.name := by
  rcases column with ⟨part, name⟩
  cases part with
  | other => exact absurd rfl counts
  | text => exact named
  | delay => exact named
  | kind => exact named

/-- A column has one of the names for a part only if it is for this part. -/
theorem Column.IsNamed.hasName_iff (named : column.IsNamed) (counts : part ≠ .other) :
    HasName part.names column.name ↔ column.part = part := by
  constructor
  · rintro ⟨name, name_mem, name_eq⟩
    by_cases isOther : column.part = .other
    · rw [IsNamed, isOther] at named
      exact absurd ⟨name, names_subset part name_mem, name_eq⟩ named
    · rcases (named.goesBy isOther).hasName (names_subset _) with ⟨other, other_mem, other_eq⟩
      rw [name_eq, String.toList_inj] at other_eq
      subst other_eq
      exact eq_of_mem_names other_mem name_mem
  · rintro rfl
    exact (named.goesBy counts).hasName (names_subset _)

end Names

section Place

variable {parts : List Part} {layout : Layout parts} {part : Part} {row : RowCells}
  {cells : List (List Char)}

theorem Layout.mem_parts_iff (layout : Layout parts) (counts : part ≠ .other) :
    part ∈ parts ↔ part ∈ layout.columns.map Column.part := by
  rw [← layout.placed.mem_iff, List.mem_filter]
  simp [counts]

/-- The header names the column for a part, and the cells of the rows are found there. -/
theorem Layout.exists_place (layout : Layout parts) (counts : part ≠ .other)
    (part_mem : part ∈ parts) : ∃ place,
      IsFirstNamed (layout.columns.map Column.name) part.names place ∧
      ∀ row cells, List.Forall₂ (Column.Holds row) layout.columns cells →
        ∀ given ∈ part.cell? row, cells[place]? = some given := by
  rw [layout.mem_parts_iff counts] at part_mem
  rcases List.eq_append_cons_of_mem part_mem with ⟨_, _, parts_eq, none_before⟩
  rcases List.map_eq_append_iff.1 parts_eq with ⟨before, others, columns_eq, rfl, others_eq⟩
  rcases List.map_eq_cons_iff.1 others_eq with ⟨column, after, rfl, column_eq, -⟩
  have all_named := layout.all_named
  rw [columns_eq] at all_named ⊢
  refine ⟨before.length, ⟨before.map Column.name, column.name, after.map Column.name,
    List.map_append, List.length_map _, ?_, ?_⟩, ?_⟩
  · exact ((all_named column (by simp)).hasName_iff counts).2 column_eq
  · rw [List.forall_mem_map]
    intro other other_mem named
    rw [(all_named other (List.mem_append_left _ other_mem)).hasName_iff counts] at named
    exact none_before (List.mem_map.2 ⟨other, other_mem, named⟩)
  · intro row cells holds given given_mem
    have held := List.forall₂_drop_append cells before (column :: after) holds.flip
    rcases List.forall₂_cons_right_iff.1 held with ⟨cell, rest, cell_holds, -, rest_eq⟩
    have cell_at : cells[before.length]? = (cells.drop before.length)[0]? := by
      rw [List.getElem?_drop, Nat.add_zero]
    rw [cell_at, rest_eq]
    rw [← column_eq] at given_mem
    exact congrArg some (cell_holds given given_mem)

/-- A row as it is written in columns for some parts only. -/
def RowCells.within (parts : List Part) (row : RowCells) : RowCells :=
  { row with kind := if .kind ∈ parts then row.kind else [] }

theorem Layout.exists_columns (layout : Layout parts) (text_mem : .text ∈ parts)
    (delay_mem : .delay ∈ parts) : ∃ columns : Columns,
      columns.AreNamed (layout.columns.map Column.name) ∧
      ∀ row cells, List.Forall₂ (Column.Holds row) layout.columns cells →
        columns.pick cells = row.within parts := by
  rcases layout.exists_place (by decide) text_mem with ⟨text, text_named, text_holds⟩
  rcases layout.exists_place (by decide) delay_mem with ⟨delay, delay_named, delay_holds⟩
  by_cases kind_mem : .kind ∈ parts
  · rcases layout.exists_place (by decide) kind_mem with ⟨kind, kind_named, kind_holds⟩
    refine ⟨⟨text, delay, some kind⟩, ⟨text_named, delay_named, ?_, by simp⟩, ?_⟩
    · intro column column_eq
      rwa [← Option.some.inj column_eq]
    · intro row cells holds
      have text_at := text_holds row cells holds row.text rfl
      have delay_at := delay_holds row cells holds row.delay rfl
      have kind_at := kind_holds row cells holds row.kind rfl
      simp [Columns.pick, RowCells.within, kind_mem, text_at, delay_at, kind_at]
  · refine ⟨⟨text, delay, none⟩, ⟨text_named, delay_named, by simp, ?_⟩, ?_⟩
    · rw [List.forall_mem_map]
      intro _ column column_mem named
      have counts : Part.kind ≠ .other := by decide
      have part_eq := ((layout.all_named column column_mem).hasName_iff counts).1 named
      rw [layout.mem_parts_iff (by decide)] at kind_mem
      exact kind_mem (List.mem_map.2 ⟨column, column_mem, part_eq⟩)
    · intro row cells holds
      have text_at := text_holds row cells holds row.text rfl
      have delay_at := delay_holds row cells holds row.delay rfl
      simp [Columns.pick, RowCells.within, kind_mem, text_at, delay_at]

end Place

section Reading

variable {file other : List UInt8} {columns otherColumns : Columns} {rows : List RowCells}
  {table otherTable : List (List (List Char))} {parts : List Part} {layout : Layout parts}

/-- Rows as the header of a file shows them. -/
structure Presents (file : List UInt8) (columns : Columns) (names : List (List Char))
    (table : List (List (List Char))) : Prop where
  named : columns.AreNamed names
  sameWidth : ∀ cells ∈ table, cells.length = names.length
  fields_eq : (Csv.rows file).map Csv.Row.fields =
    (names :: table).map fun cells => cells.map Text.encodeUtf8

theorem readRow_congr {cells otherCells : List (List Char)}
    (same : columns.pick cells = otherColumns.pick otherCells) (number : Nat)
    (afterScheduled : Bool) : readRow columns number afterScheduled cells =
      readRow otherColumns number afterScheduled otherCells := by
  simp only [Columns.pick, RowCells.mk.injEq] at same
  simp only [readRow, same.1, same.2.1, same.2.2]

/-- Two files of which the same cells count are read alike. -/
theorem readTableRows_congr {width otherWidth : Nat} {csvRows otherRows : List Csv.Row}
    (decoded : List.Forall₂ (Decodes file width) csvRows table)
    (other_decoded : List.Forall₂ (Decodes other otherWidth) otherRows otherTable)
    (same : table.map columns.pick = otherTable.map otherColumns.pick) (number : Nat)
    (afterScheduled : Bool) :
    readTableRows file columns width number afterScheduled csvRows =
      readTableRows other otherColumns otherWidth number afterScheduled otherRows := by
  induction decoded generalizing otherRows otherTable number afterScheduled with
  | nil =>
      cases other_decoded with
      | nil => rfl
      | cons => simp at same
  | cons row_decoded _ ih =>
      cases other_decoded with
      | nil => simp at same
      | cons other_row_decoded others_decoded =>
          rw [List.map_cons, List.map_cons, List.cons.injEq] at same
          simp only [Decodes] at row_decoded other_row_decoded
          simp only [readTableRows, row_decoded, other_row_decoded, Except.mapError, except_ok_bind,
            readRow_congr same.1, ih others_decoded same.2]

theorem Presents.ofTable_eq {names otherNames : List (List Char)}
    (presents : Presents file columns names table)
    (other_presents : Presents other otherColumns otherNames otherTable)
    (same : table.map columns.pick = otherTable.map otherColumns.pick) :
    ofTable file = ofTable other := by
  rcases List.map_eq_cons_iff.1 presents.fields_eq with
    ⟨header, others, rows_eq, header_eq, others_eq⟩
  rcases List.map_eq_cons_iff.1 other_presents.fields_eq with
    ⟨otherHeader, otherOthers, other_rows_eq, other_header_eq, other_others_eq⟩
  rw [ofTable_of_header rows_eq header_eq presents.named,
    ofTable_of_header other_rows_eq other_header_eq other_presents.named]
  exact readTableRows_congr (decodes_of_fields_eq others_eq presents.sameWidth file)
    (decodes_of_fields_eq other_others_eq other_presents.sameWidth other) same 2 false

/-- A file in which rows are written in columns shows these rows. -/
theorem Layout.Spells.exists_presents {file : List Char} (spells : layout.Spells rows file)
    (text_mem : .text ∈ parts) (delay_mem : .delay ∈ parts) (two_parts : 2 ≤ parts.length) :
    ∃ columns table,
      Presents (Text.encodeUtf8 file) columns (layout.columns.map Column.name) table ∧
      table.map columns.pick = rows.map (RowCells.within parts) := by
  rcases layout.exists_columns text_mem delay_mem with ⟨columns, named, pick_eq⟩
  rcases spells with ⟨table, holds, spells⟩
  have sameWidth : ∀ cells ∈ table, cells.length = (layout.columns.map Column.name).length := by
    clear spells
    induction holds with
    | nil => exact List.forall_mem_nil _
    | cons cells_hold _ ih =>
        refine List.forall_mem_cons.2 ⟨?_, ih⟩
        rw [List.length_map, cells_hold.length_eq]
  have two_columns : 2 ≤ (layout.columns.map Column.name).length := by
    have parts_le := List.length_filter_le (· ≠ Part.other) (layout.columns.map Column.part)
    rw [layout.placed.length_eq, List.length_map] at parts_le
    rw [List.length_map]
    omega
  refine ⟨columns, table, ⟨named, sameWidth, ?_⟩, ?_⟩
  · apply spells.map_fields
    refine List.forall_mem_cons.2 ⟨two_columns, fun cells cells_mem => ?_⟩
    rwa [sameWidth cells cells_mem]
  · rw [← List.forall₂_eq_eq_eq, List.forall₂_map_left_iff, List.forall₂_map_right_iff]
    exact (holds.imp fun row cells cells_hold => pick_eq row cells cells_hold).flip

end Reading

/-- The table whose header is the names of the three parts. -/
def plainTable (rows : List RowCells) : List (List (List Char)) :=
  ["text".toList, "delay_ms".toList, "kind".toList] ::
    rows.map fun row => [row.text, row.delay, row.kind]

theorem goesBy_of_mem {names : List String} {name : String} (name_mem : name ∈ names)
    (isSmall : name.toList.map Char.toLower = name.toList) : GoesBy names name.toList := by
  have goesBy :=
    GoesBy.padded [] _ [] name_mem (List.forall_mem_nil _) (List.forall_mem_nil _) isSmall
  rwa [List.nil_append, List.append_nil] at goesBy

def plainLayout : Layout [.text, .delay, .kind] where
  columns := [⟨.text, "text".toList⟩, ⟨.delay, "delay_ms".toList⟩, ⟨.kind, "kind".toList⟩]
  placed := by decide
  all_named := by
    rw [List.forall_mem_cons, List.forall_mem_cons, List.forall_mem_singleton]
    exact ⟨goesBy_of_mem (by decide) rfl, goesBy_of_mem (by decide) rfl,
      goesBy_of_mem (by decide) rfl⟩

theorem plainLayout_spells {rows : List RowCells} {file : List Char}
    (spells : Csv.SpellsFile (plainTable rows) file) : plainLayout.Spells rows file := by
  refine ⟨rows.map fun row : RowCells => [row.text, row.delay, row.kind], ?_, ?_⟩
  · rw [List.forall₂_map_right_iff, List.forall₂_same]
    intro row _
    refine .cons ?_ (.cons ?_ (.cons ?_ .nil)) <;> rintro _ ⟨⟩ <;> rfl
  · exact spells

/-- Rows in columns for some parts are read as these parts of them in the plain columns. -/
theorem Layout.Spells.ofTable_eq {parts : List Part} {layout : Layout parts}
    {rows : List RowCells} {file plain : List Char} (spells : layout.Spells rows file)
    (plain_spells : Csv.SpellsFile (plainTable (rows.map (RowCells.within parts))) plain)
    (text_mem : .text ∈ parts) (delay_mem : .delay ∈ parts) (two_parts : 2 ≤ parts.length) :
    ofTable (Text.encodeUtf8 file) = ofTable (Text.encodeUtf8 plain) := by
  rcases spells.exists_presents text_mem delay_mem two_parts with
    ⟨columns, table, presents, shown_eq⟩
  rcases (plainLayout_spells plain_spells).exists_presents (by decide) (by decide) (by decide) with
    ⟨plainColumns, plainTable, plain_presents, plain_shown_eq⟩
  apply presents.ofTable_eq plain_presents
  rw [shown_eq, plain_shown_eq, List.map_map]
  rfl

end Script

/--
Rows are written in any columns, of which those for the text, the delay and the kind stand at any
places and go by any of their names in any letter case and with blanks around them. The other
columns have other names and hold anything, and the cells are quoted or not. The file is read as the
one with three plainly named columns, with the same script or the same error. Without a column for
the kinds it is read as if all kinds were empty.
-/
theorem Script.ofTable_of_layout (rows : List Script.RowCells) {file plain : List Char} :
    (∀ layout : Script.Layout [.text, .delay, .kind], layout.Spells rows file →
      Csv.SpellsFile (Script.plainTable rows) plain →
      Script.ofTable (Text.encodeUtf8 file) = Script.ofTable (Text.encodeUtf8 plain)) ∧
    (∀ layout : Script.Layout [.text, .delay], layout.Spells rows file →
      Csv.SpellsFile (Script.plainTable (rows.map fun row => { row with kind := [] })) plain →
      Script.ofTable (Text.encodeUtf8 file) = Script.ofTable (Text.encodeUtf8 plain)) := by
  constructor
  · intro layout spells plain_spells
    have within_eq : rows.map (Script.RowCells.within [.text, .delay, .kind]) = rows :=
      List.map_id rows
    rw [← within_eq] at plain_spells
    exact spells.ofTable_eq plain_spells (by decide) (by decide) (by decide)
  · intro layout spells plain_spells
    exact spells.ofTable_eq plain_spells (by decide) (by decide) (by decide)

/-- A seed row and a scheduled one, with quoted marks and line breaks and with columns renamed. -/
theorem Script.ofTable_of_layout_renamed :
    Script.ofTable (Text.encodeUtf8
      " Type,\"AT\",,Message\t\r\nSeed,,\"a,\nb\",hello\r\n,7,c,\"yes, \"\"so\"\"\"\r\n".toList) =
    Script.ofTable (Text.encodeUtf8
      "text,delay_ms,kind\nhello,,Seed\n\"yes, \"\"so\"\"\",7,\n".toList) := by
  let layout : Script.Layout [.text, .delay, .kind] :=
    { columns := [⟨.kind, " Type".toList⟩, ⟨.delay, "AT".toList⟩, ⟨.other, []⟩,
        ⟨.text, "Message\t".toList⟩]
      placed := by decide
      all_named := by
        simp only [List.forall_mem_cons]
        refine ⟨?_, ?_, ?_, ?_, List.forall_mem_nil _⟩
        · exact .padded " ".toList "Type".toList [] (show "type" ∈ _ by decide)
            (List.all_eq_true.1 rfl) (List.forall_mem_nil _) rfl
        · exact .padded [] "AT".toList [] (show "at" ∈ _ by decide) (List.forall_mem_nil _)
            (List.forall_mem_nil _) rfl
        · show ¬ Script.HasName _ _
          decide
        · exact .padded [] "Message".toList "\t".toList (show "message" ∈ _ by decide)
            (List.forall_mem_nil _) (List.all_eq_true.1 rfl) rfl }
  let rows : List Script.RowCells :=
    [⟨"hello".toList, [], "Seed".toList⟩, ⟨"yes, \"so\"".toList, "7".toList, []⟩]
  have quoted (text : List Char) := Csv.spellsField_writeQuoted text
  have header_spells : Csv.SpellsRow (layout.columns.map Script.Column.name)
      " Type,\"AT\",,Message\t".toList :=
    ⟨[" Type".toList, "\"AT\"".toList, [], "Message\t".toList], .cons (.unquoted (by decide))
      (.cons (quoted _) (.cons (.unquoted (by decide)) (.cons (.unquoted (by decide)) .nil))), rfl⟩
  have seed_spells : Csv.SpellsRow ["Seed".toList, [], "a,\nb".toList, "hello".toList]
      "Seed,,\"a,\nb\",hello".toList :=
    ⟨["Seed".toList, [], "\"a,\nb\"".toList, "hello".toList], .cons (.unquoted (by decide))
      (.cons (.unquoted (by decide)) (.cons (quoted _) (.cons (.unquoted (by decide)) .nil))), rfl⟩
  have line_spells : Csv.SpellsRow [[], "7".toList, "c".toList, "yes, \"so\"".toList]
      ",7,c,\"yes, \"\"so\"\"\"".toList :=
    ⟨[[], "7".toList, "c".toList, "\"yes, \"\"so\"\"\"".toList], .cons (.unquoted (by decide))
      (.cons (.unquoted (by decide)) (.cons (.unquoted (by decide)) (.cons (quoted _) .nil))), rfl⟩
  have plain_header_spells : Csv.SpellsRow ["text".toList, "delay_ms".toList, "kind".toList]
      "text,delay_ms,kind".toList :=
    ⟨["text".toList, "delay_ms".toList, "kind".toList], .cons (.unquoted (by decide))
      (.cons (.unquoted (by decide)) (.cons (.unquoted (by decide)) .nil)), rfl⟩
  have plain_seed_spells : Csv.SpellsRow ["hello".toList, [], "Seed".toList]
      "hello,,Seed".toList :=
    ⟨["hello".toList, [], "Seed".toList], .cons (.unquoted (by decide))
      (.cons (.unquoted (by decide)) (.cons (.unquoted (by decide)) .nil)), rfl⟩
  have plain_line_spells : Csv.SpellsRow ["yes, \"so\"".toList, "7".toList, []]
      "\"yes, \"\"so\"\"\",7,".toList :=
    ⟨["\"yes, \"\"so\"\"\"".toList, "7".toList, []], .cons (quoted _)
      (.cons (.unquoted (by decide)) (.cons (.unquoted (by decide)) .nil)), rfl⟩
  apply (Script.ofTable_of_layout rows).1 layout
  · refine ⟨[["Seed".toList, [], "a,\nb".toList, "hello".toList],
      [[], "7".toList, "c".toList, "yes, \"so\"".toList]], ?_, ?_⟩
    · refine .cons (.cons ?_ (.cons ?_ (.cons ?_ (.cons ?_ .nil))))
        (.cons (.cons ?_ (.cons ?_ (.cons ?_ (.cons ?_ .nil)))) .nil) <;> rintro _ ⟨⟩ <;> rfl
    · let lineBreak (_ : Nat) : Csv.LineBreak := .carriageReturnLineFeed
      exact @Csv.SpellsFile.unmarked _ _ lineBreak true
        (.cons header_spells (.cons seed_spells (.cons line_spells .nil))) (by decide)
  · let lineBreak (_ : Nat) : Csv.LineBreak := .lineFeed
    exact @Csv.SpellsFile.unmarked _ _ lineBreak true
      (.cons plain_header_spells (.cons plain_seed_spells (.cons plain_line_spells .nil)))
      (by decide)

end ScriptedFeed
