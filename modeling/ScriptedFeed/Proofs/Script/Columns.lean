import Mathlib.Data.List.TakeWhile
import ScriptedFeed.Proofs.Number.Digits
import ScriptedFeed.Script.Table

/-!
# Which columns a header names

A column is the first one whose name, without the blanks around it and in small letters, is one of
those that it can go by. A header has to name the columns with the texts and the delays; without a
column for the kind all kinds are empty.
-/

namespace ScriptedFeed

namespace Script

section Names

variable {names : List String} {cell before middle after text : List Char} {character : Char}

/-- Whether a cell of the header is one of the names of a column. -/
def HasName (names : List String) (cell : List Char) : Prop :=
  ∃ name ∈ names, normalized cell = name.toList

instance (names : List String) (cell : List Char) : Decidable (HasName names cell) :=
  inferInstanceAs (Decidable (∃ name ∈ names, normalized cell = name.toList))

/-- One of the names in any letter case, with blanks around it. -/
inductive GoesBy (names : List String) : List Char → Prop where
  | padded (before middle after : List Char) {name : String} (name_mem : name ∈ names)
      (blank_before : ∀ character ∈ before, Text.isBlank character)
      (blank_after : ∀ character ∈ after, Text.isBlank character)
      (spells : middle.map Char.toLower = name.toList) : GoesBy names (before ++ middle ++ after)

/-- A character of which the names of columns are made. -/
def isNameCharacter (character : Char) : Bool :=
  ('a' ≤ character && character ≤ 'z') || character = '_'

theorem trim_padded (blank_before : ∀ character ∈ before, Text.isBlank character)
    (none_blank : ∀ character ∈ middle, Text.isBlank character = false)
    (blank_after : ∀ character ∈ after, Text.isBlank character) :
    Text.trim (before ++ middle ++ after) = middle := by
  have dropWhile_eq {text rest : List Char} (not_empty : text ≠ [])
      (none_blank : ∀ character ∈ text, Text.isBlank character = false) :
      (text ++ rest).dropWhile Text.isBlank = text ++ rest := by
    rcases List.exists_cons_of_ne_nil not_empty with ⟨character, others, rfl⟩
    exact List.dropWhile_cons_of_neg (by simp [none_blank character List.mem_cons_self])
  have reverse_blank : ∀ character ∈ after.reverse, Text.isBlank character := by
    simpa using blank_after
  rw [Text.trim, Text.trimStart, List.append_assoc, List.dropWhile_append_of_pos blank_before]
  by_cases isEmpty : middle = []
  · rw [isEmpty, List.nil_append, List.dropWhile_eq_nil_iff.2 blank_after]
    rfl
  · have reverse_none_blank : ∀ character ∈ middle.reverse, Text.isBlank character = false := by
      simpa using none_blank
    have reverse_dropWhile_eq := @dropWhile_eq middle.reverse [] (by simpa using isEmpty)
      reverse_none_blank
    rw [List.append_nil] at reverse_dropWhile_eq
    rw [dropWhile_eq isEmpty none_blank, Text.trimEnd, List.reverse_append,
      List.dropWhile_append_of_pos reverse_blank, reverse_dropWhile_eq, List.reverse_reverse]

theorem lowercaseAfter_of_short (before : List Char)
    (all_short : ∀ character ∈ text, character.toNat < 0x80) :
    Text.lowercaseAfter before text = text.map Char.toLower := by
  induction text generalizing before with
  | nil => rfl
  | cons character text ih =>
      rcases List.forall_mem_cons.1 all_short with ⟨isShort, text_short⟩
      have not_sigma : character.toNat ≠ 0x3A3 := by omega
      simp only [Text.lowercaseAfter, if_neg not_sigma, Text.lowercaseChar, if_pos isShort,
        ih _ text_short, List.map_cons, List.singleton_append]

theorem toLower_eq_self (not_capital : ¬ (0x41 ≤ character.toNat ∧ character.toNat ≤ 0x5A)) :
    character.toLower = character := by
  apply dif_neg
  rwa [ge_iff_le, UInt32.le_iff_toNat_le, UInt32.le_iff_toNat_le]

theorem bounds_of_isNameCharacter (isName : isNameCharacter character.toLower) :
    0x41 ≤ character.toNat ∧ character.toNat < 0x80 := by
  by_cases isCapital : 0x41 ≤ character.toNat ∧ character.toNat ≤ 0x5A
  · omega
  · rw [toLower_eq_self isCapital] at isName
    simp [isNameCharacter, Char.le_def, UInt32.le_iff_toNat_le, ← Char.toNat_inj] at isName
    omega

theorem isBlank_of_bounds (bounds : 0x41 ≤ character.toNat ∧ character.toNat < 0x80) :
    Text.isBlank character = false := by
  simp [Text.isBlank, Text.blankRanges, Text.CodeRanges.contains]
  omega

theorem all_isNameCharacter :
    ∀ name ∈ textColumnNames ++ delayColumnNames ++ kindColumnNames,
      name.toList.all isNameCharacter := by
  decide

theorem GoesBy.hasName (goesBy : GoesBy names cell)
    (known : names ⊆ textColumnNames ++ delayColumnNames ++ kindColumnNames) :
    HasName names cell := by
  rcases goesBy with @⟨before, middle, after, name, name_mem, blank_before, blank_after, spells⟩
  have all_bounds : ∀ character ∈ middle, 0x41 ≤ character.toNat ∧ character.toNat < 0x80 := by
    intro character character_mem
    apply bounds_of_isNameCharacter
    have lower_mem := List.mem_map_of_mem (f := Char.toLower) character_mem
    rw [spells] at lower_mem
    exact List.all_eq_true.1 (all_isNameCharacter name (known name_mem)) _ lower_mem
  have none_blank : ∀ character ∈ middle, Text.isBlank character = false :=
    fun character character_mem => isBlank_of_bounds (all_bounds character character_mem)
  have all_short : ∀ character ∈ middle, character.toNat < 0x80 :=
    fun character character_mem => (all_bounds character character_mem).2
  refine ⟨name, name_mem, ?_⟩
  rw [normalized, trim_padded blank_before none_blank blank_after, Text.lowercase,
    lowercaseAfter_of_short [] all_short, spells]

end Names

section Columns

variable {header : List (List Char)} {names : List String} {column : Nat} {columns : Columns}

/-- The first column of a header that has one of the names. -/
def IsFirstNamed (header : List (List Char)) (names : List String) (column : Nat) : Prop :=
  ∃ before cell after, header = before ++ cell :: after ∧ before.length = column ∧
    HasName names cell ∧ ∀ other ∈ before, ¬ HasName names other

/-- The columns that a header names, the one with the kind if there is one. -/
structure Columns.AreNamed (columns : Columns) (header : List (List Char)) : Prop where
  text : IsFirstNamed header textColumnNames columns.text
  delay : IsFirstNamed header delayColumnNames columns.delay
  kind : ∀ column, columns.kind? = some column → IsFirstNamed header kindColumnNames column
  no_kind : columns.kind? = none → ∀ cell ∈ header, ¬ HasName kindColumnNames cell

theorem any_name_iff {cell : List Char} :
    (names.any fun name => normalized cell = name.toList) ↔ HasName names cell := by
  simp [HasName]

theorem findColumn?_eq_some (isFirst : IsFirstNamed header names column) :
    findColumn? header names = some column := by
  rcases isFirst with ⟨before, cell, after, rfl, rfl, named, none_named⟩
  have not_before :
      before.findIdx? (fun cell => names.any fun name => normalized cell = name.toList) = none := by
    rw [List.findIdx?_eq_none_iff]
    intro other other_mem
    rw [Bool.eq_false_iff, ne_eq, any_name_iff]
    exact none_named other other_mem
  rw [findColumn?, List.findIdx?_append, not_before, List.findIdx?_cons,
    if_pos (any_name_iff.2 named)]
  simp

theorem findColumn?_eq_none (none_named : ∀ cell ∈ header, ¬ HasName names cell) :
    findColumn? header names = none := by
  rw [findColumn?, List.findIdx?_eq_none_iff]
  intro cell cell_mem
  rw [Bool.eq_false_iff, ne_eq, any_name_iff]
  exact none_named cell cell_mem

theorem exists_isFirstNamed (some_named : ∃ cell ∈ header, HasName names cell) :
    ∃ column, IsFirstNamed header names column := by
  induction header with
  | nil => simp at some_named
  | cons first header ih =>
      by_cases named : HasName names first
      · exact ⟨0, [], first, header, rfl, rfl, named, List.forall_mem_nil _⟩
      · have others_named : ∃ cell ∈ header, HasName names cell := by
          rcases some_named with ⟨cell, cell_mem, cell_named⟩
          rcases List.mem_cons.1 cell_mem with rfl | cell_mem
          · exact absurd cell_named named
          · exact ⟨cell, cell_mem, cell_named⟩
        rcases ih others_named with ⟨_, before, cell, after, rfl, rfl, cell_named, none_named⟩
        exact ⟨_, first :: before, cell, after, rfl, rfl, cell_named,
          List.forall_mem_cons.2 ⟨named, none_named⟩⟩

/-- A header with names for the texts and the delays has its columns. -/
theorem Columns.exists_areNamed (text_named : ∃ cell ∈ header, HasName textColumnNames cell)
    (delay_named : ∃ cell ∈ header, HasName delayColumnNames cell) :
    ∃ columns : Columns, columns.AreNamed header := by
  rcases exists_isFirstNamed text_named with ⟨text, text_first⟩
  rcases exists_isFirstNamed delay_named with ⟨delay, delay_first⟩
  by_cases kind_named : ∃ cell ∈ header, HasName kindColumnNames cell
  · rcases exists_isFirstNamed kind_named with ⟨kind, kind_first⟩
    refine ⟨⟨text, delay, some kind⟩, text_first, delay_first, ?_, by simp⟩
    intro column column_eq
    rwa [← Option.some.inj column_eq]
  · refine ⟨⟨text, delay, none⟩, text_first, delay_first, by simp, ?_⟩
    intro _ cell cell_mem named
    exact kind_named ⟨cell, cell_mem, named⟩

theorem findColumn_eq_ok (isFirst : IsFirstNamed header names column) :
    findColumn header names = .ok column := by
  rw [findColumn, findColumn?_eq_some isFirst]

theorem Columns.AreNamed.ofHeader_eq (named : columns.AreNamed header) :
    Columns.ofHeader header = .ok columns := by
  have kind_eq : findColumn? header kindColumnNames = columns.kind? := by
    cases kind : columns.kind? with
    | none => exact findColumn?_eq_none (named.no_kind kind)
    | some column => exact findColumn?_eq_some (named.kind column kind)
  simp only [Columns.ofHeader, findColumn_eq_ok named.text, findColumn_eq_ok named.delay,
    except_ok_bind, except_pure, kind_eq]

end Columns

end Script

end ScriptedFeed
