import ScriptedFeed.Proofs.Number.Integer
import ScriptedFeed.Proofs.Number.Value

/-!
# What the digits of a number say

A number is written as digits, some of which may stand after a point, with a power of ten after them
and a minus before them if need be. The digits without the point are one whole number, and how many
of them stand after the point is taken off the power of ten. What is read from the first digits only
is not far from the number, as all further ones add less than one step of the last of these.
-/

namespace ScriptedFeed

/-- A number without its sign, as it is written. -/
structure Numeral where
  /-- All digits, read as one whole number. -/
  significand : ℕ
  /-- How many of the digits stand after the point. -/
  places : ℕ
  /-- The power of ten that stands after the digits. -/
  power : ℤ
deriving DecidableEq

/-- The number that the digits and their power of ten stand for. -/
def Numeral.value (numeral : Numeral) : ℚ :=
  numeral.significand * 10 ^ (numeral.power - numeral.places)

/-- The power of ten of a number; no text stands for the power zero. -/
inductive SpellsPower : List Char → ℤ → Prop where
  | absent : SpellsPower [] 0
  | present {mark : Char} {text : List Char} {power : ℤ} (isMark : mark = 'e' ∨ mark = 'E')
      (spells : SpellsInteger text power) : SpellsPower (mark :: text) power

/-- The point of a number and the digits after it, or neither. -/
inductive SpellsFraction : List Char → List Char → Prop where
  | absent : SpellsFraction [] []
  | present {digits : List Char} (isDigits : IsDigits digits) :
      SpellsFraction ('.' :: digits) digits

/-- A number without its sign; before the point a zero stands first only alone. -/
inductive SpellsNumeral : List Char → Numeral → Prop where
  | mk {first : Char} {others fraction digits powerText : List Char} {power : ℤ}
      (all_digits : ∀ digit ∈ first :: others, digit.isDigit) (alone : first = '0' → others = [])
      (isFraction : SpellsFraction fraction digits) (isPower : SpellsPower powerText power) :
      SpellsNumeral (first :: others ++ (fraction ++ powerText))
        ⟨Nat.ofDigitChars 10 (first :: others ++ digits) 0, digits.length, power⟩

/-- A number with a minus or without. -/
inductive SpellsNumber : List Char → Bool → Numeral → Prop where
  | positive {text : List Char} {numeral : Numeral} (spells : SpellsNumeral text numeral) :
      SpellsNumber text false numeral
  | negative {text : List Char} {numeral : Numeral} (spells : SpellsNumeral text numeral) :
      SpellsNumber ('-' :: text) true numeral

/--
How exactly a number is to be read. A power of ten beyond 31 bits leaves nothing of it. With any
other one a number of the format is read that is near, and no number of the format is nearer if 53
bits hold the digits and the power of ten that belongs to them is at most the 22nd.
-/
structure Numeral.IsReadAs (numeral : Numeral) (magnitude : Magnitude) : Prop where
  beyond : 2 ^ 31 ≤ numeral.power.natAbs → magnitude.units = 0
  near : numeral.power.natAbs < 2 ^ 31 →
    |magnitude.value - numeral.value| ≤ numeral.value / 2 ^ 50 + 1 / 2 ^ 1074
  nearest : numeral.power.natAbs < 2 ^ 31 → numeral.significand ≤ 2 ^ 53 →
    (numeral.power - numeral.places).natAbs ≤ 22 →
    ∀ other : Magnitude, |magnitude.value - numeral.value| ≤ |other.value - numeral.value|

variable {digits more : List Char}

theorem Numeral.value_nonneg (numeral : Numeral) : 0 ≤ numeral.value := by
  rw [value]
  positivity

theorem SpellsFraction.all_digits {fraction : List Char} (spells : SpellsFraction fraction digits) :
    ∀ digit ∈ digits, digit.isDigit := by
  cases spells with
  | absent => simp
  | present isDigits => exact isDigits.2

section Cells

/-- Further digits take a number to the next one of the last digit at most. -/
theorem ofDigitChars_bounds (all_digits : ∀ digit ∈ digits, digit.isDigit) (start : ℕ) :
    start * 10 ^ digits.length ≤ Nat.ofDigitChars 10 digits start ∧
      Nat.ofDigitChars 10 digits start < (start + 1) * 10 ^ digits.length := by
  induction digits generalizing start with
  | nil => simp
  | cons digit digits ih =>
      rcases List.forall_mem_cons.1 all_digits with ⟨isDigit, others_digits⟩
      have bounds := isDigit_iff_bounds.1 isDigit
      have zero_eq : '0'.toNat = 48 := rfl
      rcases ih others_digits (10 * start + (digit.toNat - '0'.toNat)) with ⟨ge, lt⟩
      rw [Nat.ofDigitChars_cons, List.length_cons, Nat.pow_succ']
      constructor
      · calc start * (10 * 10 ^ digits.length)
          _ = 10 * start * 10 ^ digits.length := by ring
          _ ≤ (10 * start + (digit.toNat - '0'.toNat)) * 10 ^ digits.length :=
            Nat.mul_le_mul_right _ (Nat.le_add_right _ _)
          _ ≤ _ := ge
      · calc Nat.ofDigitChars 10 digits (10 * start + (digit.toNat - '0'.toNat))
          _ < (10 * start + (digit.toNat - '0'.toNat) + 1) * 10 ^ digits.length := lt
          _ ≤ 10 * (start + 1) * 10 ^ digits.length := Nat.mul_le_mul_right _ (by omega)
          _ = (start + 1) * (10 * 10 ^ digits.length) := by ring

/-- A whole number with digits after the point. -/
def withFraction (whole : ℕ) (digits : List Char) : ℚ :=
  Nat.ofDigitChars 10 digits whole / 10 ^ digits.length

theorem withFraction_append (whole : ℕ) (digits more : List Char) :
    withFraction whole (digits ++ more) =
      withFraction (Nat.ofDigitChars 10 digits whole) more / 10 ^ digits.length := by
  rw [withFraction, withFraction, Nat.ofDigitChars_append, List.length_append, pow_add,
    div_div, mul_comm]

theorem withFraction_mul_zpow (whole : ℕ) (digits : List Char) (power : ℤ) :
    withFraction whole digits * 10 ^ power =
      Nat.ofDigitChars 10 digits whole * 10 ^ (power - digits.length) := by
  rw [withFraction, zpow_sub₀ (by norm_num), zpow_natCast, div_mul_eq_mul_div, mul_div_assoc]

/-- Digits after the point add less than one. -/
theorem withFraction_bounds (all_digits : ∀ digit ∈ digits, digit.isDigit) (whole : ℕ) :
    whole ≤ withFraction whole digits ∧ withFraction whole digits < whole + 1 := by
  rcases ofDigitChars_bounds all_digits whole with ⟨ge, lt⟩
  have scale_pos : (0 : ℚ) < 10 ^ digits.length := by positivity
  rw [withFraction, le_div_iff₀ scale_pos, div_lt_iff₀ scale_pos]
  exact ⟨by exact_mod_cast ge, by exact_mod_cast lt⟩

/-- After a large whole number it hardly matters which digits follow. -/
theorem abs_withFraction_sub_le {bound whole : ℕ} (positive : 0 < bound) (large : bound ≤ whole)
    (all_digits : ∀ digit ∈ digits, digit.isDigit) (more_digits : ∀ digit ∈ more, digit.isDigit) :
    |withFraction whole more - withFraction whole digits| ≤ withFraction whole digits / bound := by
  rcases withFraction_bounds all_digits whole with ⟨ge, lt⟩
  rcases withFraction_bounds more_digits whole with ⟨more_ge, more_lt⟩
  have bound_pos : (0 : ℚ) < bound := Nat.cast_pos.2 positive
  have one_le : 1 ≤ withFraction whole digits / bound := by
    rw [le_div_iff₀ bound_pos, one_mul]
    exact (Nat.cast_le.2 large).trans ge
  refine le_trans (abs_le.2 ⟨?_, ?_⟩) one_le <;> linarith

end Cells

end ScriptedFeed
