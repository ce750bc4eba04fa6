import ScriptedFeed.Proofs.Csv.Table

/-!
# How a file is cut into rows

Reading spends fuel for each comma and for each row, of which there is always enough. What is left
is a relation: a field ends at a comma, at a line break or with the file; a row is its fields up to
the first line break after one of them; and the rows of a file begin at its first byte that is no
line break, and then at the first such byte after the row before. Statements about all rows of any
file are proved by induction on this relation.
-/

namespace ScriptedFeed

namespace Csv

variable {bytes rest fuel : List UInt8} {fields : List (List UInt8)}

section Field

theorem suffix_readPlain (bytes : List UInt8) : (readPlain bytes).2 <:+ bytes := by
  simp only [readPlain, List.span_eq_takeWhile_dropWhile]
  exact List.dropWhile_suffix _

theorem endsField_readPlain (bytes : List UInt8) : EndsField (readPlain bytes).2 := by
  simp only [readPlain, List.span_eq_takeWhile_dropWhile]
  intro byte byte_mem
  have stops := List.head?_dropWhile_not (fun byte => !endsField byte) bytes
  rw [Option.mem_def.1 byte_mem] at stops
  simpa using stops

theorem suffix_readQuoted (bytes : List UInt8) : (readQuoted bytes).2 <:+ bytes := by
  fun_induction readQuoted bytes with
  | case1 => exact List.suffix_rfl
  | case2 => exact List.nil_suffix
  | case3 _ _ _ read_eq ih =>
      simp only [read_eq] at ih
      exact (ih.trans (List.suffix_cons _ _)).trans (List.suffix_cons _ _)
  | case4 => exact (suffix_readPlain _).trans (List.suffix_cons _ _)
  | case5 _ _ _ _ _ read_eq ih =>
      simp only [read_eq] at ih
      exact ih.trans (List.suffix_cons _ _)

theorem endsField_readQuoted (bytes : List UInt8) : EndsField (readQuoted bytes).2 := by
  fun_induction readQuoted bytes with
  | case1 => simp [EndsField]
  | case2 => simp [EndsField]
  | case3 _ _ _ read_eq ih => simpa only [read_eq] using ih
  | case4 => exact endsField_readPlain _
  | case5 _ _ _ _ _ read_eq ih => simpa only [read_eq] using ih

theorem suffix_readField (bytes : List UInt8) : (readField bytes).2 <:+ bytes := by
  fun_cases readField bytes with
  | case1 => exact List.suffix_rfl
  | case2 => exact (suffix_readQuoted _).trans (List.suffix_cons _ _)
  | case3 => exact suffix_readPlain _

theorem endsField_readField (bytes : List UInt8) : EndsField (readField bytes).2 := by
  fun_cases readField bytes with
  | case1 => simp [EndsField]
  | case2 => exact endsField_readQuoted _
  | case3 => exact endsField_readPlain _

end Field

section Row

/-- The fields of a row at the front of some bytes, and what remains after its line break. -/
inductive CutsRow : List UInt8 → List (List UInt8) → List UInt8 → Prop where
  | atEnd {bytes field : List UInt8} (read : readField bytes = (field, [])) :
      CutsRow bytes [field] []
  | atBreak {bytes field rest : List UInt8} {byte : UInt8}
      (read : readField bytes = (field, byte :: rest)) (isBreak : isLineBreak byte) :
      CutsRow bytes [field] rest
  | atComma {bytes field others rest : List UInt8} {fields : List (List UInt8)}
      (read : readField bytes = (field, Text.comma :: others)) (cuts : CutsRow others fields rest) :
      CutsRow bytes (field :: fields) rest

theorem cutsRow_readFieldsWithin (enough : bytes.length ≤ fuel.length) :
    CutsRow bytes (readFieldsWithin fuel bytes).1 (readFieldsWithin fuel bytes).2 := by
  induction fuel generalizing bytes with
  | nil =>
      rw [List.eq_nil_of_length_eq_zero (Nat.le_zero.1 enough)]
      exact .atEnd rfl
  | cons spent fuel ih =>
      rcases read : readField bytes with ⟨field, rest⟩
      have suffix := suffix_readField bytes
      have ends := endsField_readField bytes
      rw [readFieldsWithin.eq_def]
      simp only [read] at suffix ends ⊢
      cases rest with
      | nil => exact .atEnd read
      | cons byte others =>
          by_cases isComma : byte = Text.comma
          · subst isComma
            have others_lt := suffix.length_le
            simp only [List.length_cons] at enough others_lt
            simp only [if_true]
            exact .atComma read (ih (by omega))
          · have isBreak : isLineBreak byte := by
              simpa [Csv.endsField, isComma] using ends byte rfl
            simp only [if_neg isComma]
            exact .atBreak read isBreak

theorem cutsRow_readFields (bytes : List UInt8) :
    CutsRow bytes (readFields bytes).1 (readFields bytes).2 :=
  cutsRow_readFieldsWithin le_rfl

/-- A row takes at least one byte, unless there is none. -/
theorem CutsRow.length_le (cuts : CutsRow bytes fields rest) : rest.length ≤ bytes.length - 1 := by
  induction cuts with
  | atEnd => simp
  | @atBreak bytes _ _ _ read _ =>
      have suffix := suffix_readField bytes
      rw [read] at suffix
      have length_le := suffix.length_le
      simp only [List.length_cons] at length_le
      omega
  | @atComma bytes _ _ _ _ read _ ih =>
      have suffix := suffix_readField bytes
      rw [read] at suffix
      have length_le := suffix.length_le
      simp only [List.length_cons] at length_le
      omega

end Row

section Rows

/-- The rows of a file from some bytes on, given how many came before. -/
inductive CutsRows : Nat → List UInt8 → List Row → Prop where
  | nil {number : Nat} {passed : List UInt8} (all_breaks : ∀ byte ∈ passed, isLineBreak byte) :
      CutsRows number passed []
  | cons {number : Nat} {passed others rest : List UInt8} {first : UInt8}
      {fields : List (List UInt8)} {rows : List Row}
      (all_breaks : ∀ byte ∈ passed, isLineBreak byte) (starts : isLineBreak first = false)
      (cuts : CutsRow (first :: others) fields rest)
      (cuts_others : CutsRows (number + 1) rest rows) :
      CutsRows number (passed ++ first :: others)
        (⟨fields, number, passed ++ first :: others⟩ :: rows)

theorem cutsRows_readRowsWithin (enough : bytes.length ≤ fuel.length) (number : Nat) :
    CutsRows number bytes (readRowsWithin fuel number bytes) := by
  induction fuel generalizing bytes number with
  | nil =>
      rw [List.eq_nil_of_length_eq_zero (Nat.le_zero.1 enough)]
      exact .nil (List.forall_mem_nil _)
  | cons spent fuel ih =>
      have bytes_eq := List.takeWhile_append_dropWhile (p := isLineBreak) (l := bytes)
      have all_breaks : ∀ byte ∈ bytes.takeWhile isLineBreak, isLineBreak byte :=
        fun byte => List.mem_takeWhile_imp
      rw [readRowsWithin]
      cases content_eq : bytes.dropWhile isLineBreak with
      | nil =>
          rw [content_eq, List.append_nil] at bytes_eq
          rw [bytes_eq] at all_breaks
          exact .nil all_breaks
      | cons first others =>
          have starts : isLineBreak first = false := by
            have stops := List.head?_dropWhile_not isLineBreak bytes
            simpa [content_eq] using stops
          have cuts := cutsRow_readFields (first :: others)
          have rest_le := cuts.length_le
          have length_eq := congrArg List.length bytes_eq
          rw [content_eq] at bytes_eq length_eq
          simp only [List.length_append, List.length_cons] at enough rest_le length_eq
          have rest_enough : (readFields (first :: others)).2.length ≤ fuel.length := by omega
          have cuts_rows := CutsRows.cons all_breaks starts cuts (ih rest_enough (number + 1))
          rwa [bytes_eq] at cuts_rows

theorem cutsRows_readRows (bytes : List UInt8) : CutsRows 0 bytes (readRows bytes) :=
  cutsRows_readRowsWithin le_rfl 0

end Rows

end Csv

end ScriptedFeed
