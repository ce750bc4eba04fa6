import ScriptedFeed.Proofs.Json.Value
import ScriptedFeed.Proofs.Number.Shortest

/-!
# Every finite number is read from its text

The text of a number is a decimal of few digits, with its point or its power of ten in place. The
digits are gathered into the same decimal, up to one zero more, and nothing that is then computed
from them overflows. What is not finite has no text of its own, and the word that stands for it is
no number.
-/

namespace ScriptedFeed

namespace Json

section Overflow

variable {significand power bits : Nat} {magnitude : Magnitude}

theorem pow_ten_le_pow_ten {higher : Nat} (le : power ≤ higher) :
    Nat.pow 10 power ≤ Nat.pow 10 higher :=
  Nat.pow_le_pow_right (by omega) le

theorem exists_ofNat?_pow (le : power ≤ largestPower) :
    ∃ magnitude, Magnitude.ofNat? (Nat.pow 10 power) = some magnitude ∧
      unitsPerOne ≤ magnitude.units := by
  have largest_some : (Magnitude.ofNat? (Nat.pow 10 largestPower)).isSome := by decide +kernel
  rcases Option.isSome_iff_exists.1 largest_some with ⟨largest, largest_eq⟩
  rcases Magnitude.exists_ofNat?_of_le (pow_ten_le_pow_ten le) largest_eq with ⟨magnitude, found, -⟩
  exact ⟨magnitude, found, Magnitude.unitsPerOne_le_of_ofNat? (Nat.pow_pos (by omega)) found⟩

/-- Division by a power of ten does not overflow. -/
theorem exists_overPower? (units_le : magnitude.units ≤ 2 ^ bits * unitsPerOne)
    (bits_lt : bits < 1024) (power_le : power ≤ largestPower) :
    ∃ result, overPower? magnitude power = some result ∧
      result.units ≤ 2 ^ bits * unitsPerOne := by
  rcases exists_ofNat?_pow power_le with ⟨divisor, divisor_eq, one_le⟩
  have le : magnitude.units ≤ divisor.units * 2 ^ bits := by
    rw [Nat.mul_comm divisor.units]
    exact units_le.trans (Nat.mul_le_mul_left _ one_le)
  rcases Magnitude.exists_div? (unitsPerOne_pos.trans_le one_le) le bits_lt with
    ⟨result, result_eq, -, result_le⟩
  refine ⟨result, ?_, result_le⟩
  simp only [overPower?, divisor_eq, Option.bind_eq_bind, Option.bind_some, result_eq]

theorem exists_scaleDown? (units_le : magnitude.units ≤ 2 ^ bits * unitsPerOne)
    (bits_lt : bits < 1024) (steps : Nat) (power_le : power ≤ largestPower) :
    ∃ result, scaleDown? steps power magnitude = some result := by
  induction steps generalizing magnitude with
  | zero =>
      rcases exists_overPower? units_le bits_lt power_le with ⟨result, result_eq, -⟩
      exact ⟨result, result_eq⟩
  | succ steps ih =>
      rw [scaleDown?]
      split_ifs
      · exact ⟨magnitude, rfl⟩
      · rcases exists_overPower? units_le bits_lt le_rfl with ⟨smaller, smaller_eq, smaller_le⟩
        rcases ih smaller_le with ⟨result, result_eq⟩
        exact ⟨result, by simp [smaller_eq, result_eq]⟩

/-- Digits that 64 bits hold, over a power of ten, are a number of the format. -/
theorem exists_magnitude?_of_negSucc (fits : significand ≤ 2 ^ 64) (power : Nat) :
    ∃ magnitude, (Gathered.mk significand (.negSucc power)).magnitude? = some magnitude := by
  rcases Magnitude.exists_ofNat? fits (by omega) with ⟨whole, whole_eq, -, whole_le⟩
  have power_le : power % largestPower + 1 ≤ largestPower := Nat.mod_lt power (by decide)
  rcases exists_scaleDown? whole_le (by omega) (power / largestPower) power_le with
    ⟨magnitude, magnitude_eq⟩
  exact ⟨magnitude, by simp [Gathered.magnitude?, whole_eq, magnitude_eq]⟩

/-- Fewer or smaller digits and a smaller power of ten do not overflow where larger ones do not. -/
theorem exists_magnitude?_of_le {larger higher : Nat} (significand_le : significand ≤ larger)
    (power_le : power ≤ higher) (higher_le : higher ≤ largestPower)
    (found : (Gathered.mk larger (.ofNat higher)).magnitude?.isSome) :
    ∃ magnitude, (Gathered.mk significand (.ofNat power)).magnitude? = some magnitude := by
  rcases exists_ofNat?_pow higher_le with ⟨greaterScale, greaterScale_eq, -⟩
  rcases Magnitude.exists_ofNat?_of_le (pow_ten_le_pow_ten power_le) greaterScale_eq with
    ⟨scale, scale_eq, scale_le⟩
  rcases greater_eq : Magnitude.ofNat? larger with _ | greater
  · simp [Gathered.magnitude?, greater_eq] at found
  rcases Magnitude.exists_ofNat?_of_le significand_le greater_eq with ⟨whole, whole_eq, whole_le⟩
  simp only [Gathered.magnitude?, greater_eq, greaterScale_eq, higher_le, if_true,
    Option.bind_eq_bind, Option.bind_some] at found
  rcases Option.isSome_iff_exists.1 found with ⟨bound, bound_eq⟩
  rcases Magnitude.exists_mul?_of_le whole_le scale_le bound_eq with ⟨magnitude, magnitude_eq, -⟩
  refine ⟨magnitude, ?_⟩
  simp only [Gathered.magnitude?, whole_eq, scale_eq, power_le.trans higher_le, if_true,
    Option.bind_eq_bind, Option.bind_some, magnitude_eq]

theorem exists_magnitude?_of_fitsFormat {decimal : Decimal} (fits : decimal.FitsFormat) :
    ∃ magnitude,
      (Gathered.mk decimal.significand decimal.exponent).magnitude? = some magnitude := by
  rcases decimal with ⟨significand, power | power⟩
  · have power_le : power ≤ largestPower := Int.ofNat_le.1 fits.exponent_le
    by_cases small : power ≤ 290
    · apply exists_magnitude?_of_le fits.few_digits small (by decide)
      decide +kernel
    · -- From here on each power of ten leaves room for so many digits that 18 may be too many.
      have room_left : ∀ higher < 309, 290 < higher →
          (Gathered.mk (Magnitude.largest.units / (Nat.pow 10 higher * unitsPerOne))
            (.ofNat higher)).magnitude?.isSome := by
        decide +kernel
      apply exists_magnitude?_of_le _ le_rfl power_le
        (room_left power (Nat.lt_succ_of_le power_le) (by omega))
      have scale_pos : 0 < 10 ^ power * unitsPerOne :=
        Nat.mul_pos (Nat.pow_pos (show 0 < 10 by omega)) unitsPerOne_pos
      rw [Nat.pow_eq, Nat.le_div_iff_mul_le scale_pos, ← Nat.mul_assoc]
      exact fits.le_largest power rfl
  · exact exists_magnitude?_of_negSucc (fits.few_digits.trans (by omega)) power

end Overflow

section Text

variable {negative : Bool} {gathered : Gathered} {digits fraction : List Char} {rest : List UInt8}

theorem gatherFraction_of_endsDigits (gathered : Gathered) (ends : EndsDigits rest) :
    gatherFraction gathered rest = (gathered, rest) := by
  cases rest with
  | nil => rfl
  | cons byte rest => simp [gatherFraction, ends byte rfl]

theorem gatherFraction_append {significand : Nat} (exponent : Int)
    (all_digits : ∀ digit ∈ digits, digit.isDigit)
    (fits : Nat.ofDigitChars 10 digits significand ≤ maxUnsigned) (rest : List UInt8) :
    gatherFraction ⟨significand, exponent⟩ (Text.encodeUtf8 digits ++ rest) =
      gatherFraction ⟨Nat.ofDigitChars 10 digits significand, exponent - digits.length⟩ rest := by
  induction digits generalizing significand exponent with
  | nil => simp
  | cons digit digits ih =>
      rcases List.forall_mem_cons.1 all_digits with ⟨isDigit, others_digits⟩
      rw [Nat.ofDigitChars_cons, Nat.mul_comm] at fits ⊢
      have not_beyond := Nat.not_lt.2 ((le_ofDigitChars digits _).trans fits)
      rw [encodeUtf8_digit_append isDigit, gatherFraction]
      simp only [isDigit_ofNat_toNat isDigit, digitOf_ofNat_toNat isDigit, not_beyond, if_true,
        if_false]
      rw [ih _ others_digits fits, List.length_cons]
      congr 2
      omega

theorem readTail_of_endsNumber (ends : EndsNumber rest) :
    readTail negative gathered rest = finishFloat negative gathered rest := by
  cases rest with
  | nil => rfl
  | cons byte rest => simp [readTail, (ends byte rfl).2.2]

theorem readWhole_point {significand : Nat} (all_digits : ∀ digit ∈ fraction, digit.isDigit)
    (nonempty : fraction ≠ []) (fits : Nat.ofDigitChars 10 fraction significand ≤ maxUnsigned)
    (ends : EndsDigits rest) :
    readWhole negative significand (point :: (Text.encodeUtf8 fraction ++ rest)) =
      readTail negative ⟨Nat.ofDigitChars 10 fraction significand, -fraction.length⟩ rest := by
  have gathered_eq := gatherFraction_append 0 all_digits fits rest
  rw [gatherFraction_of_endsDigits _ ends] at gathered_eq
  rcases List.exists_cons_of_ne_nil nonempty with ⟨digit, digits, rfl⟩
  have digit_isDigit := all_digits digit List.mem_cons_self
  have point_not_digit : isDigit point = false := rfl
  rw [encodeUtf8_digit_append digit_isDigit] at gathered_eq ⊢
  simp only [readWhole, point_not_digit, Bool.false_eq_true, if_false, true_or, if_true,
    readFractionOrTail, readFraction, isDigit_ofNat_toNat digit_isDigit, gathered_eq, Int.zero_sub]

/-- Digits before and after a point are gathered together. -/
theorem readNumber_fraction (negative : Bool) {first : Char} {others : List Char}
    (all_digits : ∀ digit ∈ first :: others ++ fraction, digit.isDigit)
    (alone : first = '0' → others = []) (nonempty : fraction ≠ [])
    (fits : Nat.ofDigitChars 10 (first :: others ++ fraction) 0 ≤ maxUnsigned)
    (ends : EndsDigits rest) :
    readNumber negative (Text.encodeUtf8 (first :: others ++ '.' :: fraction) ++ rest) =
      readTail negative
        ⟨Nat.ofDigitChars 10 (first :: others ++ fraction) 0, -fraction.length⟩ rest := by
  rcases List.forall_mem_append.1 all_digits with ⟨whole_digits, fraction_digits⟩
  have written_eq : Text.encodeUtf8 (first :: others ++ '.' :: fraction) ++ rest =
      Text.encodeUtf8 (first :: others) ++ point :: (Text.encodeUtf8 fraction ++ rest) := by
    have point_eq : String.utf8EncodeChar '.' = [point] := rfl
    rw [Text.encodeUtf8_append, Text.encodeUtf8_cons '.', point_eq, List.append_assoc]
    rfl
  have point_ends : EndsDigits (point :: (Text.encodeUtf8 fraction ++ rest)) := by
    rintro _ ⟨⟩
    rfl
  rw [Nat.ofDigitChars_append] at fits ⊢
  have whole_fits := (le_ofDigitChars fraction _).trans fits
  rw [written_eq, readNumber_append negative whole_digits alone whole_fits point_ends]
  exact readWhole_point fraction_digits nonempty fits ends

theorem readExponentDigits_of_endsDigits (exponent : Nat) (ends : EndsDigits rest) :
    readExponentDigits exponent rest = .inRange exponent rest := by
  cases rest with
  | nil => rfl
  | cons byte rest => simp [readExponentDigits, ends byte rfl]

theorem readExponentDigits_append {exponent : Nat} (all_digits : ∀ digit ∈ digits, digit.isDigit)
    (fits : Nat.ofDigitChars 10 digits exponent ≤ exponentBound) (ends : EndsDigits rest) :
    readExponentDigits exponent (Text.encodeUtf8 digits ++ rest) =
      .inRange (Nat.ofDigitChars 10 digits exponent) rest := by
  induction digits generalizing exponent with
  | nil => exact readExponentDigits_of_endsDigits exponent ends
  | cons digit digits ih =>
      rcases List.forall_mem_cons.1 all_digits with ⟨isDigit, others_digits⟩
      rw [Nat.ofDigitChars_cons, Nat.mul_comm] at fits ⊢
      have not_beyond := Nat.not_lt.2 ((le_ofDigitChars digits _).trans fits)
      rw [encodeUtf8_digit_append isDigit]
      simp only [readExponentDigits, isDigit_ofNat_toNat isDigit, digitOf_ofNat_toNat isDigit,
        not_beyond, if_true, if_false]
      exact ih others_digits fits

theorem readExponent_sign (negative shrinks : Bool) (gathered : Gathered) {power : Nat}
    (fits : power ≤ exponentBound) (ends : EndsDigits rest) :
    readExponent negative gathered
        ((if shrinks then minus else plus) :: (Text.encodeUtf8 (decimalDigits power) ++ rest)) =
      finishFloat negative
        ⟨gathered.significand, gathered.exponent + if shrinks then -(power : Int) else power⟩
        rest := by
  have all_digits : ∀ digit ∈ decimalDigits power, digit.isDigit :=
    fun digit => isDigit_of_mem_decimalDigits
  have power_eq := ofDigitChars_decimalDigits power
  rcases exists_decimalDigits_eq_cons power with ⟨first, others, digits_eq⟩
  rw [digits_eq] at all_digits power_eq ⊢
  rcases List.forall_mem_cons.1 all_digits with ⟨first_digit, others_digits⟩
  rw [Nat.ofDigitChars_cons, Nat.mul_zero, Nat.zero_add, ← digitOf_ofNat_toNat first_digit]
    at power_eq
  have read := readExponentDigits_append others_digits (by rwa [power_eq]) ends
  rw [power_eq] at read
  rw [encodeUtf8_digit_append first_digit]
  have minus_ne_plus : minus ≠ plus := by decide
  cases shrinks <;>
    simp [readExponent, isDigit_ofNat_toNat first_digit, read, minus_ne_plus]

/-- One digit, and the others after a point, are gathered together before a power of ten. -/
theorem readNumber_mantissa (negative : Bool) {first : Char} {others : List Char} (mark : UInt8)
    (all_digits : ∀ digit ∈ first :: others, digit.isDigit)
    (fits : Nat.ofDigitChars 10 (first :: others) 0 ≤ maxUnsigned)
    (isMark : isExponentMark mark) (rest : List UInt8) :
    readNumber negative
        (Text.encodeUtf8 ([first] ++ if others.length + 1 = 1 then [] else '.' :: others) ++
          mark :: rest) =
      readTail negative ⟨Nat.ofDigitChars 10 (first :: others) 0, -others.length⟩
        (mark :: rest) := by
  have other_byte : isDigit mark = false ∧ mark ≠ point := by
    simp only [isExponentMark, Bool.or_eq_true, decide_eq_true_eq] at isMark
    rcases isMark with rfl | rfl <;> decide
  have mark_ends : EndsDigits (mark :: rest) := by
    rintro _ ⟨⟩
    exact other_byte.1
  cases others with
  | nil =>
      rw [List.length_nil, if_pos rfl, List.append_nil,
        readNumber_append negative all_digits (fun _ => rfl) fits mark_ends]
      simp [readWhole, readFractionOrTail, other_byte, isMark]
  | cons second others =>
      rw [if_neg (by simp)]
      exact readNumber_fraction negative all_digits (fun _ => rfl) (by simp) fits mark_ends

/-- A power of ten is read with its sign, if it is not absurdly large. -/
theorem readTail_power (negative : Bool) (gathered : Gathered) {power : Int}
    (fits : power.natAbs ≤ exponentBound) (ends : EndsDigits rest) :
    readTail negative gathered
        (Text.encodeUtf8
          ('e' :: (if power < 0 then '-' else '+') :: decimalDigits power.natAbs) ++ rest) =
      finishFloat negative ⟨gathered.significand, gathered.exponent + power⟩ rest := by
  have read := readExponent_sign negative (decide (power < 0)) gathered fits ends
  have change_eq : (if power < 0 then -(power.natAbs : Int) else power.natAbs) = power := by
    split_ifs <;> omega
  simp only [decide_eq_true_eq, change_eq] at read
  rw [← read]
  split_ifs <;> rfl

/-- A text from which some digits and a power of ten are gathered, whatever comes after it. -/
structure IsTextOf (text : List Char) (gathered : Gathered) : Prop where
  starts : ∃ first others, text = first :: others ∧ first.isDigit
  reads : ∀ negative rest, EndsNumber rest →
    readNumber negative (Text.encodeUtf8 text ++ rest) = finishFloat negative gathered rest

/-- Digits with a point among them are the text of what is gathered from them. -/
theorem isTextOf_fraction {first : Char} {others : List Char} {gathered : Gathered}
    (all_digits : ∀ digit ∈ first :: others ++ fraction, digit.isDigit)
    (alone : first = '0' → others = []) (nonempty : fraction ≠ [])
    (significand_eq : Nat.ofDigitChars 10 (first :: others ++ fraction) 0 = gathered.significand)
    (exponent_eq : -fraction.length = gathered.exponent)
    (fits : gathered.significand ≤ maxUnsigned) :
    IsTextOf (first :: others ++ '.' :: fraction) gathered := by
  have first_digit : first.isDigit := all_digits first (by simp)
  refine ⟨⟨first, others ++ '.' :: fraction, rfl, first_digit⟩, ?_⟩
  intro negative rest ends
  rw [← significand_eq] at fits
  rw [readNumber_fraction negative all_digits alone nonempty fits ends.endsDigits,
    readTail_of_endsNumber ends, significand_eq, exponent_eq]

end Text

section Decimal

variable {decimal : Decimal}

theorem isDigit_of_mem_replicate_zero {count : Nat} {digit : Char}
    (digit_mem : digit ∈ List.replicate count '0') : digit.isDigit := by
  rw [List.eq_of_mem_replicate digit_mem]
  rfl

theorem significand_mul_le (few : leadingPower decimal ≤ 15) {power : Nat}
    (exponent_eq : decimal.exponent = power) :
    decimal.significand * 10 ^ (power + 1) ≤ 10 ^ 17 := by
  have significand_lt := lt_pow_length_decimalDigits decimal.significand
  rw [leadingPower] at few
  calc decimal.significand * 10 ^ (power + 1)
    _ ≤ 10 ^ (decimalDigits decimal.significand).length * 10 ^ (power + 1) :=
      Nat.mul_le_mul_right _ significand_lt.le
    _ = 10 ^ ((decimalDigits decimal.significand).length + (power + 1)) := (Nat.pow_add _ _ _).symm
    _ ≤ 10 ^ 17 := Nat.pow_le_pow_right (by omega) (by omega)

/-- One more zero is gathered than a whole decimal has, and taken back by a division by ten. -/
theorem isTextOf_whole (fits : decimal.FitsFormat) (few : leadingPower decimal ≤ 15)
    {power : Nat} (exponent_eq : decimal.exponent = power) :
    IsTextOf (decimalDigits decimal.significand ++ List.replicate power '0' ++ ['.', '0'])
      ⟨decimal.significand * 10 ^ (power + 1), -1⟩ := by
  have larger_le := significand_mul_le few exponent_eq
  rcases exists_decimalDigits_eq decimal.significand with
    ⟨first, others, digits_eq, all_digits, alone, value_eq⟩
  have text_eq : decimalDigits decimal.significand ++ List.replicate power '0' ++ ['.', '0'] =
      first :: (others ++ List.replicate power '0') ++ '.' :: ['0'] := by
    simp [digits_eq]
  have gathered_eq : first :: (others ++ List.replicate power '0') ++ ['0'] =
      first :: others ++ List.replicate (power + 1) '0' := by
    simp [List.replicate_succ']
  rw [text_eq]
  refine isTextOf_fraction ?_ ?_ (by simp) ?_ rfl ?_
  · rw [gathered_eq]
    intro digit digit_mem
    rcases List.mem_append.1 digit_mem with digit_mem | digit_mem
    · exact all_digits digit digit_mem
    · exact isDigit_of_mem_replicate_zero digit_mem
  · rintro rfl
    have others_eq := alone rfl
    rw [others_eq] at value_eq
    have exponent_zero := fits.exponent_eq_zero value_eq.symm
    have power_zero : power = 0 := by omega
    simp [others_eq, power_zero]
  · rw [gathered_eq, Nat.ofDigitChars_append, value_eq, ofDigitChars_replicate_zero]
  · exact larger_le.trans (by decide)

theorem isTextOf_point (fits : decimal.FitsFormat) (isFraction : decimal.exponent < 0)
    {count : Nat} (positive : 0 < count)
    (count_eq : (decimalDigits decimal.significand).length + decimal.exponent = count) :
    IsTextOf ((decimalDigits decimal.significand).take count ++
      '.' :: (decimalDigits decimal.significand).drop count)
      ⟨decimal.significand, decimal.exponent⟩ := by
  rcases exists_decimalDigits_eq decimal.significand with
    ⟨first, others, digits_eq, all_digits, alone, value_eq⟩
  rcases Nat.exists_eq_succ_of_ne_zero positive.ne' with ⟨before, rfl⟩
  rw [digits_eq] at count_eq ⊢
  rw [List.length_cons] at count_eq
  have digits_split : first :: others.take before ++ others.drop before = first :: others := by
    simp
  refine isTextOf_fraction ?_ ?_ ?_ ?_ ?_ ?_
  · rwa [List.drop_succ_cons, digits_split]
  · intro isZero
    simp [alone isZero]
  · rw [List.drop_succ_cons, ne_eq, List.drop_eq_nil_iff]
    omega
  · rw [List.drop_succ_cons, digits_split, value_eq]
  · simp only [List.drop_succ_cons, List.length_drop]
    omega
  · exact fits.few_digits.trans (by decide)

theorem isTextOf_leadingZeros (fits : decimal.FitsFormat) {count : Nat}
    (count_eq : (decimalDigits decimal.significand).length + decimal.exponent = -count) :
    IsTextOf ('0' :: '.' :: List.replicate count '0' ++ decimalDigits decimal.significand)
      ⟨decimal.significand, decimal.exponent⟩ := by
  have text_eq : '0' :: '.' :: List.replicate count '0' ++ decimalDigits decimal.significand =
      '0' :: [] ++ '.' :: (List.replicate count '0' ++ decimalDigits decimal.significand) := rfl
  rw [text_eq]
  refine isTextOf_fraction ?_ (fun _ => rfl) ?_ ?_ ?_ ?_
  · intro digit digit_mem
    simp only [List.singleton_append, List.mem_cons, List.mem_append] at digit_mem
    rcases digit_mem with rfl | digit_mem | digit_mem
    · rfl
    · exact isDigit_of_mem_replicate_zero digit_mem
    · exact isDigit_of_mem_decimalDigits digit_mem
  · apply List.append_ne_nil_of_right_ne_nil
    exact Nat.toDigits_ne_nil
  · rw [List.singleton_append, Nat.ofDigitChars_cons, Nat.ofDigitChars_append,
      ofDigitChars_replicate_zero, Nat.sub_self, Nat.mul_zero, Nat.zero_mul,
      ofDigitChars_decimalDigits]
  · simp only [List.length_append, List.length_replicate]
    omega
  · exact fits.few_digits.trans (by decide)

/--
The digits and the power of ten that are gathered from the text of a decimal. A whole decimal with
its point in place has one zero more than it needs.
-/
def writtenDigits (decimal : Decimal) : Gathered :=
  if 0 ≤ decimal.exponent ∧ leadingPower decimal ≤ 15 then
    ⟨decimal.significand * 10 ^ (decimal.exponent.toNat + 1), -1⟩
  else ⟨decimal.significand, decimal.exponent⟩

theorem writtenDigits_of_whole (isWhole : 0 ≤ decimal.exponent) (few : leadingPower decimal ≤ 15) :
    writtenDigits decimal = ⟨decimal.significand * 10 ^ (decimal.exponent.toNat + 1), -1⟩ :=
  if_pos ⟨isWhole, few⟩

theorem writtenDigits_of_not_whole
    (not_whole : ¬(0 ≤ decimal.exponent ∧ leadingPower decimal ≤ 15)) :
    writtenDigits decimal = ⟨decimal.significand, decimal.exponent⟩ :=
  if_neg not_whole

theorem isTextOf_positionalText (fits : decimal.FitsFormat) (few : leadingPower decimal ≤ 15) :
    IsTextOf (positionalText decimal) (writtenDigits decimal) := by
  simp only [positionalText]
  split_ifs with isWhole hasPoint
  · rw [writtenDigits_of_whole isWhole few]
    exact isTextOf_whole fits few (Int.toNat_of_nonneg isWhole).symm
  · rw [writtenDigits_of_not_whole fun whole => isWhole whole.1]
    exact isTextOf_point fits (by omega) (by omega) (Int.toNat_of_nonneg hasPoint.le).symm
  · rw [writtenDigits_of_not_whole fun whole => isWhole whole.1]
    exact isTextOf_leadingZeros fits (by omega)

theorem isTextOf_scientificText (fits : decimal.FitsFormat) :
    IsTextOf (scientificText decimal) ⟨decimal.significand, decimal.exponent⟩ := by
  have length_le := (length_decimalDigits_le_iff (show 0 < 19 by omega)).2
    (fits.few_digits.trans_lt (by omega))
  have power_eq : leadingPower decimal =
      decimal.exponent + (decimalDigits decimal.significand).length - 1 := rfl
  rcases exists_decimalDigits_eq decimal.significand with
    ⟨first, others, digits_eq, all_digits, alone, value_eq⟩
  have first_digit : first.isDigit := all_digits first List.mem_cons_self
  have significand_le : decimal.significand ≤ maxUnsigned := fits.few_digits.trans (by decide)
  rw [digits_eq, List.length_cons] at length_le power_eq
  have power_fits : (leadingPower decimal).natAbs ≤ exponentBound := by
    have least_le := fits.least_le
    have exponent_le := fits.exponent_le
    rw [power_eq, exponentBound]
    rw [shortestPlaces] at least_le
    omega
  simp only [scientificText, digits_eq, List.length_cons]
  generalize leadingPower decimal = power at power_eq power_fits
  refine ⟨⟨first, _, rfl, first_digit⟩, ?_⟩
  intro negative rest ends
  have mark_eq : Text.encodeUtf8
      ('e' :: (if power < 0 then '-' else '+') :: decimalDigits power.natAbs) ++ rest =
      0x65 :: (Text.encodeUtf8 ((if power < 0 then '-' else '+') :: decimalDigits power.natAbs) ++
        rest) := rfl
  have read := readNumber_mantissa negative 0x65 all_digits (by rwa [value_eq]) rfl
    (Text.encodeUtf8 ((if power < 0 then '-' else '+') :: decimalDigits power.natAbs) ++ rest)
  rw [← mark_eq, readTail_power negative _ power_fits ends.endsDigits, value_eq] at read
  have exponent_eq : -(others.length : Int) + power = decimal.exponent := by omega
  rw [exponent_eq] at read
  rw [Text.encodeUtf8_append, List.append_assoc]
  exact read

theorem isTextOf_magnitudeText (magnitude : Magnitude) :
    IsTextOf (magnitudeText magnitude) (writtenDigits magnitude.shortest) := by
  have fits := magnitude.fitsFormat_shortest
  simp only [magnitudeText]
  split_ifs with isPositional
  · exact isTextOf_positionalText fits isPositional.2
  · rw [writtenDigits_of_not_whole]
    · exact isTextOf_scientificText fits
    · rintro ⟨isWhole, few⟩
      rcases exists_decimalDigits_eq_cons magnitude.shortest.significand with ⟨_, _, digits_eq⟩
      refine isPositional ⟨?_, few⟩
      rw [leadingPower, digits_eq, List.length_cons]
      omega

/-- What is gathered from the text of a number is not too large for the format. -/
theorem exists_magnitude?_writtenDigits (magnitude : Magnitude) :
    ∃ read, (writtenDigits magnitude.shortest).magnitude? = some read := by
  by_cases isWhole : 0 ≤ magnitude.shortest.exponent ∧ leadingPower magnitude.shortest ≤ 15
  · rw [writtenDigits_of_whole isWhole.1 isWhole.2]
    have larger_le := significand_mul_le isWhole.2 (Int.toNat_of_nonneg isWhole.1).symm
    exact exists_magnitude?_of_negSucc (larger_le.trans (by omega)) 0
  · rw [writtenDigits_of_not_whole isWhole]
    exact exists_magnitude?_of_fitsFormat magnitude.fitsFormat_shortest

end Decimal

section Reading

theorem finishFloat_of_magnitude? {gathered : Gathered} {magnitude : Magnitude}
    (found : gathered.magnitude? = some magnitude) (negative : Bool) (rest : List UInt8) :
    finishFloat negative gathered rest = .ok (.float (.finite negative magnitude), rest) := by
  rw [finishFloat, found, finishMagnitude]

/-- A finite number is read from its text with its sign, as what its digits stand for. -/
theorem reads_floatText {magnitude read : Magnitude} (negative : Bool)
    (found : (writtenDigits magnitude.shortest).magnitude? = some read) :
    Reads readFloat (floatText (.finite negative magnitude)) (.ok (.finite negative read)) := by
  have isText := isTextOf_magnitudeText magnitude
  rcases isText.starts with ⟨first, others, text_eq, first_digit⟩
  have digits_read (rest : List UInt8) (ends : EndsNumber rest) :
      readNumber negative (Text.encodeUtf8 (first :: others) ++ rest) =
        .ok (.float (.finite negative read), rest) := by
    rw [← text_eq, isText.reads negative rest ends, finishFloat_of_magnitude? found]
  have reads := reads_readNumberAs_of_readNumber "f64" negative first_digit digits_read
  rw [← text_eq] at reads
  refine ⟨reads.starts, ?_⟩
  intro rest ends
  rw [readFloat, floatText, reads.mapError_bind ends]
  rfl

/-- A number that is not finite is written as the word for nothing, which is no number. -/
theorem reads_floatText_of_not_isFinite {number : Binary64} (not_finite : number.isFinite = false) :
    Reads readFloat (floatText number) (.error (.wrongType .null "f64")) := by
  have text_eq : floatText number = "null".toList := by
    cases number with
    | finite negative magnitude => cases not_finite
    | infinite negative => rfl
    | nan => rfl
  have written_eq : Text.encodeUtf8 "null".toList = letterN :: wordNull := by decide
  rw [text_eq]
  refine ⟨⟨letterN, wordNull, written_eq, by decide⟩, ?_⟩
  intro rest ends
  rw [written_eq]
  rfl

end Reading

end Json

end ScriptedFeed
