import Mathlib.Data.List.DropRight
import ScriptedFeed.Proofs.Script.Rows
import ScriptedFeed.Proofs.Script.Table

/-!
# The cell with a delay

What stands in a cell between the blanks at its ends decides. Nothing is no delay, and an integer
that 64 bits hold is the delay if it is not negative; everything else is refused, and the fault
tells an integer below zero from what is no such integer. The digits are checked against the bound
while they are gathered, so that no number of them makes a wrong value of the right size.
-/

namespace ScriptedFeed

variable {cell text rest : List Char} {character : Char} {value : Int} {number : Nat}
  {delay : UInt64}

namespace Text

/-- A text is what is left of a cell without the blanks at its ends. -/
structure IsTrimmed (cell text : List Char) : Prop where
  padded : ∃ before after, cell = before ++ text ++ after ∧
    (∀ character ∈ before, isBlank character) ∧ ∀ character ∈ after, isBlank character
  first : ∀ character rest, text = character :: rest → isBlank character = false
  last : ∀ rest character, text = rest ++ [character] → isBlank character = false

theorem isBlank_of_dropWhile_eq_cons (left : text.dropWhile isBlank = character :: rest) :
    isBlank character = false := by
  have not_blank := List.head?_dropWhile_not isBlank text
  simpa [left] using not_blank

theorem isTrimmed_trim (cell : List Char) : IsTrimmed cell (trim cell) := by
  have trim_eq : trim cell = (trimStart cell).rdropWhile isBlank := rfl
  refine ⟨⟨cell.takeWhile isBlank, (trimStart cell).rtakeWhile isBlank, ?_, ?_, ?_⟩, ?_, ?_⟩
  · rw [List.append_assoc, trim_eq, List.rdropWhile_append_rtakeWhile]
    exact List.takeWhile_append_dropWhile.symm
  · intro character
    exact List.mem_takeWhile_imp
  · intro character
    exact List.mem_rtakeWhile_imp
  · intro character rest starts
    have left := @List.rdropWhile_append_rtakeWhile _ isBlank (trimStart cell)
    rw [← trim_eq, starts, List.cons_append] at left
    exact isBlank_of_dropWhile_eq_cons left.symm
  · intro rest character ends
    rw [trim_eq, List.rdropWhile, List.reverse_eq_iff, List.reverse_append] at ends
    exact isBlank_of_dropWhile_eq_cons ends

end Text

namespace Script

/-- An integer that 64 bits do not hold gives no delay, whatever else its cell might give. -/
theorem not_givesDelay_of_outside (spells : SpellsInteger (Text.trim cell) value)
    (outside : value < -2 ^ 63 ∨ 2 ^ 63 ≤ value) : ¬ ∃ value, GivesDelay cell value := by
  rintro ⟨other, gives⟩
  cases gives with
  | blank isBlank => exact spells.ne_nil isBlank
  | integer spells_other inRange =>
      rw [spells.eq spells_other] at outside
      omega

theorem not_givesDelay_of_not_spells (not_blank : Text.trim cell ≠ [])
    (not_spelled : ∀ value, ¬ SpellsInteger (Text.trim cell) value) :
    ¬ ∃ value, GivesDelay cell value := by
  rintro ⟨value, gives⟩
  cases gives with
  | blank isBlank => exact not_blank isBlank
  | integer spells _ => exact not_spelled value spells

theorem toNat_lt_of_readDelay (read : readDelay number cell = .ok delay) :
    delay.toNat < 2 ^ 63 := by
  by_cases given : ∃ value, GivesDelay cell value
  · rcases given with ⟨value, gives⟩
    rw [readDelay_of_gives number gives, checkDelay] at read
    split_ifs at read with isNegative
    cases read
    cases gives with
    | blank => decide
    | integer _ inRange =>
        rw [UInt64.toNat_ofNat']
        omega
  · rw [readDelay_of_no_delay number given] at read
    cases read

theorem readDelay_decimalDigits (number : Nat) (isSigned : delay.toNat < 2 ^ 63) :
    readDelay number (decimalDigits delay.toNat) = .ok delay := by
  apply readDelay_of_toNat
  have trimmed : Text.trim (decimalDigits delay.toNat) = decimalDigits delay.toNat := by
    have text_eq : Json.integerText delay.toNat = decimalDigits delay.toNat := by
      simp [Json.integerText]
    rw [← text_eq]
    apply trim_eq_self
    intro character
    exact isBlank_of_mem_integerText
  apply GivesDelay.integer
  · rw [trimmed]
    exact spellsInteger_decimalDigits delay.toNat
  · omega

/--
A delay is read from what is left of a cell without the blanks at its ends. Nothing stands for no
delay. An integer, with any sign and any number of zeros before it, is the delay if it is not
negative and 64 bits with a sign hold it, a negative delay if it is below zero, and invalid if they
do not hold it, as is everything that is no integer. A delay that has been read is read again from
its decimal digits.
-/
theorem delay_cells_hold_integers (number : Nat) (cell : List Char) :
    let text := Text.trim cell
    Text.IsTrimmed cell text ∧
    (text = [] → readDelay number cell = .ok 0) ∧
    (∀ value, SpellsInteger text value →
      (0 ≤ value → value < 2 ^ 63 →
        ∃ delay, readDelay number cell = .ok delay ∧ delay.toNat = value) ∧
      (-2 ^ 63 ≤ value → value < 0 →
        readDelay number cell = .error (.negativeDelay number value)) ∧
      (value < -2 ^ 63 ∨ 2 ^ 63 ≤ value →
        readDelay number cell = .error (.invalidDelay number (String.ofList text)))) ∧
    (text ≠ [] → (∀ value, ¬ SpellsInteger text value) →
      readDelay number cell = .error (.invalidDelay number (String.ofList text))) ∧
    (∀ delay, readDelay number cell = .ok delay →
      ∀ other, readDelay other (decimalDigits delay.toNat) = .ok delay) := by
  intro text
  refine ⟨Text.isTrimmed_trim cell, ?_, ?_, ?_, ?_⟩
  · intro isBlank
    exact readDelay_of_gives number (.blank isBlank)
  · intro value spells
    refine ⟨?_, ?_, ?_⟩
    · intro not_negative fits
      have gives : GivesDelay cell value := .integer spells ⟨by omega, fits⟩
      rcases exists_toNat_eq gives not_negative with ⟨delay, rfl⟩
      exact ⟨delay, readDelay_of_toNat number gives, rfl⟩
    · intro fits isNegative
      rw [readDelay_of_gives number (.integer spells ⟨fits, by omega⟩), checkDelay,
        if_pos isNegative]
    · intro outside
      exact readDelay_of_no_delay number (not_givesDelay_of_outside spells outside)
  · intro not_blank not_spelled
    exact readDelay_of_no_delay number (not_givesDelay_of_not_spells not_blank not_spelled)
  · intro delay read other
    exact readDelay_decimalDigits other (toNat_lt_of_readDelay read)

/--
The least signed integer of 64 bits behind zeros and between blanks, the integer below it, the
greatest one with a plus sign, and two signs.
-/
theorem delay_cells_hold_integers_at_bounds :
    readDelay 2 "\u00A0-0009223372036854775808\u3000".toList =
        .error (.negativeDelay 2 (-9223372036854775808)) ∧
      readDelay 2 "-9223372036854775809".toList =
        .error (.invalidDelay 2 "-9223372036854775809") ∧
      readDelay 7 (decimalDigits 9223372036854775807) = .ok 9223372036854775807 ∧
      readDelay 2 "+-1".toList = .error (.invalidDelay 2 "+-1") := by
  refine ⟨?_, ?_, ?_, ?_⟩
  · rcases delay_cells_hold_integers 2 "\u00A0-0009223372036854775808\u3000".toList with
      ⟨-, -, integers, -⟩
    have trimmed : Text.trim "\u00A0-0009223372036854775808\u3000".toList =
        "-0009223372036854775808".toList := by
      decide +kernel
    have spells : SpellsInteger "-0009223372036854775808".toList (-9223372036854775808) :=
      spellsInteger_minus_iff.2 ⟨⟨by decide, List.all_eq_true.1 rfl⟩, by decide⟩
    rw [← trimmed] at spells
    exact (integers _ spells).2.1 (by decide) (by decide)
  · rcases delay_cells_hold_integers 2 "-9223372036854775809".toList with ⟨-, -, integers, -⟩
    have spells : SpellsInteger "-9223372036854775809".toList (-9223372036854775809) :=
      spellsInteger_minus_iff.2 ⟨⟨by decide, List.all_eq_true.1 rfl⟩, by decide⟩
    exact (integers _ spells).2.2 (by decide)
  · rcases delay_cells_hold_integers 2 "+9223372036854775807".toList with ⟨-, -, -, -, again⟩
    exact again 9223372036854775807 (by decide +kernel) 7
  · rcases delay_cells_hold_integers 2 "+-1".toList with ⟨-, -, -, others, -⟩
    apply others (by decide)
    intro value spells
    have isDigits := (spellsInteger_plus_iff.1 spells).1
    exact not_isDigits_cons (by decide) isDigits

end Script

end ScriptedFeed
