import ScriptedFeed.Proofs.Json.Gathering

/-!
# Numbers are read as what their digits say

What is gathered from the digits of a number is not far from the number, and what is read from it is
not far from that. If 53 bits hold all digits and their power of ten is small as well, the number is
rounded once only, and no number of the format is nearer to it. A number that is clearly within the
format is never refused.
-/

namespace ScriptedFeed

namespace Json

variable {gathered : Gathered} {read : Magnitude} {numeral : Numeral} {text : List Char}
  {negative : Bool} {speed : Binary64}

section Units

theorem exists_unitBits_eq : ∃ unitBits, unitBits = 1074 ∧ unitsPerOne = 2 ^ unitBits :=
  ⟨1074, rfl, by decide +kernel⟩

theorem cast_unitsPerOne : (unitsPerOne : ℚ) = 2 ^ 1074 := by
  rcases exists_unitBits_eq with ⟨unitBits, unitBits_eq, unitsPerOne_eq⟩
  rw [unitsPerOne_eq, ← unitBits_eq, Nat.cast_pow, Nat.cast_ofNat]

/-- How far a number is from another, in units. -/
theorem abs_value_sub (magnitude : Magnitude) (value : ℚ) :
    |magnitude.value - value| = |magnitude.units - value * unitsPerOne| / unitsPerOne := by
  have one_pos : (0 : ℚ) < unitsPerOne := Nat.cast_pos.2 unitsPerOne_pos
  rw [Magnitude.value, eq_div_iff one_pos.ne', ← abs_of_pos one_pos, ← abs_mul,
    abs_of_pos one_pos, sub_mul, div_mul_cancel₀ _ one_pos.ne']

end Units

section Near

theorem Gathered.value_nonneg (gathered : Gathered) : 0 ≤ gathered.value := by
  rw [value]
  positivity

theorem two_pow_mul_unitsPerOne_le {power : ℕ} (many : 2 ≤ power / largestPower) :
    2 ^ (1 + 3 * (power / largestPower + 1)) * (2 ^ 64 * unitsPerOne) * 10 ≤
      10 ^ (power + 1) := by
  rcases exists_unitBits_eq with ⟨unitBits, unitBits_eq, unitsPerOne_eq⟩
  rw [largestPower] at many ⊢
  rw [unitsPerOne_eq, ← Nat.pow_add, ← Nat.pow_add, Nat.pow_succ]
  apply Nat.mul_le_mul_right
  calc 2 ^ (1 + 3 * (power / 308 + 1) + (64 + unitBits))
    _ ≤ 2 ^ (3 * power) := Nat.pow_le_pow_right Nat.two_pos (by omega)
    _ = 8 ^ power := by rw [Nat.pow_mul]
    _ ≤ 10 ^ power := Nat.pow_le_pow_left (by omega) power

/-- Where more than two divisions are needed, next to nothing is left of the number. -/
theorem isNearly_of_many_divisions {significand power : ℕ} (fits : significand ≤ 2 ^ 64)
    (many : 2 ≤ power / largestPower)
    (nearly : IsNearly (1 + 3 * (power / largestPower + 1)) (3 / 5) read.units
      (significand * unitsPerOne / 10 ^ (power + 1))) :
    IsNearly 7 (7 / 10) read.units (significand * unitsPerOne / 10 ^ (power + 1)) := by
  have exact_le : (2 : ℚ) ^ (1 + 3 * (power / largestPower + 1)) *
      (significand * unitsPerOne / 10 ^ (power + 1)) ≤ 1 / 10 := by
    have scaled_le : 2 ^ (1 + 3 * (power / largestPower + 1)) * (significand * unitsPerOne) * 10 ≤
        10 ^ (power + 1) := by
      refine le_trans ?_ (two_pow_mul_unitsPerOne_le many)
      gcongr
    rw [← mul_div_assoc, div_le_div_iff₀ (by positivity) (by norm_num), one_mul]
    exact_mod_cast scaled_le
  have exact_nonneg : (0 : ℚ) ≤ significand * unitsPerOne / 10 ^ (power + 1) :=
    div_nonneg (mul_nonneg (Nat.cast_nonneg _) (Nat.cast_nonneg _)) (by positivity)
  generalize (significand * unitsPerOne / 10 ^ (power + 1) : ℚ) = exact at *
  have roundings_le : (1 + roundoff) ^ (1 + 3 * (power / largestPower + 1)) ≤
      2 ^ (1 + 3 * (power / largestPower + 1)) := by
    apply pow_le_pow_left₀ <;> norm_num [roundoff]
  have share_nonneg : 0 ≤ (1 + roundoff) ^ 7 - 1 := sub_nonneg.2 (IsRoundedFrom.one_le_pow 7)
  calc |(read.units : ℚ) - exact|
    _ ≤ ((1 + roundoff) ^ (1 + 3 * (power / largestPower + 1)) - 1) * exact + 3 / 5 := nearly
    _ ≤ 2 ^ (1 + 3 * (power / largestPower + 1)) * exact + 3 / 5 := by
      gcongr
      linarith
    _ ≤ 1 / 10 + 3 / 5 := by gcongr
    _ ≤ ((1 + roundoff) ^ 7 - 1) * exact + 7 / 10 := by
      have share := mul_nonneg share_nonneg exact_nonneg
      linarith

/-- Whatever the power of ten is, what 64 bits hold is read with few roundings. -/
theorem isNearly_of_magnitude?_of_le (fits : gathered.significand ≤ maxUnsigned)
    (found : gathered.magnitude? = some read) :
    IsNearly 7 (7 / 10) read.units (gathered.value * unitsPerOne) := by
  have exact_nonneg : 0 ≤ gathered.value * unitsPerOne :=
    mul_nonneg gathered.value_nonneg (Nat.cast_nonneg _)
  by_cases few : -(2 * largestPower) ≤ gathered.exponent
  · exact (isNearly_of_magnitude? few found).mono exact_nonneg le_rfl (by norm_num)
  · rcases gathered with ⟨significand, power | power⟩
    · exact absurd (show -(2 * (largestPower : ℤ)) ≤ power by omega) few
    · have many : 2 ≤ power / largestPower := by
        simp only [largestPower] at few ⊢
        omega
      rw [Gathered.value, mul_right_comm, zpow_negSucc, ← div_eq_mul_inv]
      exact isNearly_of_many_divisions (fits.trans (by decide)) many
        (isNearly_of_magnitude?_negSucc found)

/-- What is read from a number is near to it. -/
theorem Gathered.IsCut.abs_value_sub_le (isCut : gathered.IsCut numeral)
    (found : gathered.magnitude? = some read) :
    |read.value - numeral.value| ≤ numeral.value / 2 ^ 50 + 1 / 2 ^ 1074 := by
  have nearly := isNearly_of_magnitude?_of_le isCut.fits found
  have cut_near := isCut.near
  have numeral_nonneg := numeral.value_nonneg
  have one_pos : (0 : ℚ) < unitsPerOne := Nat.cast_pos.2 unitsPerOne_pos
  have share_le : (1 + roundoff) ^ 7 - 1 ≤ 15 / 2 ^ 54 := by norm_num [roundoff]
  have read_near : |read.value - gathered.value| ≤
      15 / 2 ^ 54 * gathered.value + 1 / unitsPerOne := by
    rw [abs_value_sub, div_le_iff₀ one_pos, add_mul, div_mul_cancel₀ _ one_pos.ne', mul_assoc]
    calc |read.units - gathered.value * unitsPerOne|
      _ ≤ ((1 + roundoff) ^ 7 - 1) * (gathered.value * unitsPerOne) + 7 / 10 := nearly
      _ ≤ 15 / 2 ^ 54 * (gathered.value * unitsPerOne) + 1 := by
        have gathered_nonneg := gathered.value_nonneg
        gcongr
        norm_num
  have gathered_le : gathered.value ≤ numeral.value + numeral.value / 2 ^ 60 := by
    linarith [(abs_le.1 cut_near).2]
  rw [← cast_unitsPerOne]
  calc |read.value - numeral.value|
    _ ≤ |read.value - gathered.value| + |gathered.value - numeral.value| := abs_sub_le _ _ _
    _ ≤ 15 / 2 ^ 54 * (numeral.value + numeral.value / 2 ^ 60) + 1 / unitsPerOne +
          numeral.value / 2 ^ 60 := by
      apply add_le_add (read_near.trans _) cut_near
      gcongr
    _ ≤ numeral.value / 2 ^ 50 + 1 / unitsPerOne := by linarith

end Near

section Nearest

/-- No number of the format is nearer to exact digits than the one that is read from them. -/
theorem Gathered.IsExact.abs_value_sub_le (isExact : gathered.IsExact)
    (found : gathered.magnitude? = some read) (other : Magnitude) :
    |read.value - gathered.value| ≤ |other.value - gathered.value| := by
  rcases isExact.exists_quotient found with
    ⟨numerator, denominator, positive, quotient_eq, read_eq⟩
  rw [abs_value_sub, abs_value_sub, quotient_eq, read_eq]
  exact div_le_div_of_nonneg_right (abs_roundUnits_sub_le_abs positive other) (Nat.cast_nonneg _)

theorem Gathered.IsCut.abs_value_sub_le_abs (isCut : gathered.IsCut numeral)
    (found : gathered.magnitude? = some read) (significand_le : numeral.significand ≤ 2 ^ 53)
    (power_le : (numeral.power - numeral.places).natAbs ≤ 22) (other : Magnitude) :
    |read.value - numeral.value| ≤ |other.value - numeral.value| := by
  have gathered_eq := isCut.eq_of_le (significand_le.trans (by decide))
  have isExact : gathered.IsExact := by
    rw [gathered_eq]
    exact ⟨significand_le, power_le⟩
  have value_eq : gathered.value = numeral.value := by
    rw [gathered_eq, Gathered.value, Numeral.value]
  rw [← value_eq]
  exact isExact.abs_value_sub_le found other

end Nearest

section Range

/-- Rounding a whole number of units does not double it. -/
theorem roundUnits_one_le (units : ℕ) : roundUnits units 1 ≤ 2 * units := by
  have isRounded := isRoundedFrom_roundUnits_one units
  rw [IsRoundedFrom, pow_one, add_sub_cancel_left] at isRounded
  have units_nonneg : (0 : ℚ) ≤ units := Nat.cast_nonneg units
  have difference_le : (roundUnits units 1 : ℚ) - units ≤ units := by
    calc (roundUnits units 1 : ℚ) - units
      _ ≤ roundoff * units := (abs_le.1 isRounded).2
      _ ≤ 1 * units := by
        gcongr
        norm_num [roundoff]
      _ = units := one_mul _
  have units_le : (roundUnits units 1 : ℚ) ≤ 2 * units := by linarith
  exact_mod_cast units_le

/-- Digits times a power of ten do not overflow where their number is clearly within the format. -/
theorem exists_mul?_of_value_le {significand power limit bits : ℕ} {whole scale : Magnitude}
    (whole_eq : Magnitude.ofNat? significand = some whole)
    (scale_eq : Magnitude.ofNat? (10 ^ power) = some scale)
    (value_le : significand * 10 ^ power ≤ limit) (room : 4 * limit ≤ 2 ^ bits)
    (bits_lt : bits < 1024) :
    ∃ magnitude, whole.mul? scale = some magnitude := by
  have whole_le : whole.units ≤ 2 * (significand * unitsPerOne) := by
    rw [Magnitude.units_of_ofNat? whole_eq]
    exact roundUnits_one_le _
  have scale_le : scale.units ≤ 2 * (10 ^ power * unitsPerOne) := by
    rw [Magnitude.units_of_ofNat? scale_eq]
    exact roundUnits_one_le _
  have product_le : whole.units * scale.units ≤ unitsPerOne * (2 ^ bits * unitsPerOne) := by
    calc whole.units * scale.units
      _ ≤ 2 * (significand * unitsPerOne) * (2 * (10 ^ power * unitsPerOne)) :=
        Nat.mul_le_mul whole_le scale_le
      _ = 4 * (significand * 10 ^ power) * (unitsPerOne * unitsPerOne) := by ring
      _ ≤ 4 * limit * (unitsPerOne * unitsPerOne) := by gcongr
      _ ≤ 2 ^ bits * (unitsPerOne * unitsPerOne) := Nat.mul_le_mul_right _ room
      _ = unitsPerOne * (2 ^ bits * unitsPerOne) := by ring
  rcases Magnitude.exists_nearestUnits? unitsPerOne_pos product_le bits_lt with
    ⟨magnitude, found, -⟩
  exact ⟨magnitude, found⟩

/-- Digits whose number is clearly within the format are a number of the format. -/
theorem exists_magnitude?_of_value_le (fits : gathered.significand ≤ maxUnsigned)
    (value_le : gathered.value ≤ 2 * 10 ^ 307) :
    ∃ magnitude, gathered.magnitude? = some magnitude := by
  have significand_le : gathered.significand ≤ 2 ^ 64 := fits.trans (by decide)
  rcases gathered with ⟨significand, power | power⟩
  · rcases Magnitude.exists_ofNat? significand_le (by omega) with ⟨whole, whole_eq, units_eq, -⟩
    rw [Gathered.value, Int.ofNat_eq_natCast, zpow_natCast] at value_le
    have value_le : significand * 10 ^ power ≤ 2 * 10 ^ 307 := by exact_mod_cast value_le
    by_cases inRange : power ≤ largestPower
    · rcases exists_ofNat?_pow inRange with ⟨scale, scale_eq, -⟩
      have room : 4 * (2 * 10 ^ 307) ≤ 2 ^ 1023 := by decide +kernel
      rcases exists_mul?_of_value_le whole_eq scale_eq value_le room (by omega) with
        ⟨magnitude, found⟩
      refine ⟨magnitude, ?_⟩
      simp only [Gathered.magnitude?, whole_eq, inRange, if_true, scale_eq, found,
        Option.bind_eq_bind, Option.bind_some]
    · have isZero : significand = 0 := by
        have power_gt : largestPower + 1 ≤ power := Nat.not_le.1 inRange
        by_contra nonzero
        apply value_le.not_gt
        calc 2 * 10 ^ 307
          _ < 10 ^ (largestPower + 1) := by decide +kernel
          _ ≤ 10 ^ power := Nat.pow_le_pow_right (by omega) power_gt
          _ ≤ significand * 10 ^ power := Nat.le_mul_of_pos_left _ (Nat.pos_of_ne_zero nonzero)
      have units_zero : whole.units = 0 := by
        rw [units_eq]
        simp [isZero, roundUnits_eq, roundHalfEven]
      refine ⟨whole, ?_⟩
      simp only [Gathered.magnitude?, whole_eq, inRange, if_false, units_zero, if_true,
        Option.bind_eq_bind, Option.bind_some]
  · exact exists_magnitude?_of_negSucc significand_le power

theorem Gathered.IsCut.exists_magnitude? (isCut : gathered.IsCut numeral)
    (value_le : numeral.value ≤ 10 ^ 307) : ∃ magnitude, gathered.magnitude? = some magnitude := by
  apply exists_magnitude?_of_value_le isCut.fits
  have near := (abs_le.1 isCut.near).2
  have numeral_nonneg := numeral.value_nonneg
  generalize (10 : ℚ) ^ 307 = limit at value_le ⊢
  linarith

end Range

section Reading

/-- After its sign a number is read as its digits are. -/
theorem exists_readNumberAs_eq (spells : SpellsNumber text negative numeral) :
    ∃ unsigned, SpellsNumeral unsigned numeral ∧
      (IsNumeral (Text.encodeUtf8 unsigned) → IsNumber (Text.encodeUtf8 text)) ∧
      readNumberAs "f64" (Text.encodeUtf8 text) =
        readNumber negative (Text.encodeUtf8 unsigned) := by
  cases spells with
  | positive spells =>
      refine ⟨text, spells, .positive, ?_⟩
      rcases spells with ⟨all_digits, -, -, -⟩
      have first_digit := all_digits _ List.mem_cons_self
      rw [Text.encodeUtf8_append, encodeUtf8_digit_append first_digit]
      exact readNumberAs_digit "f64" (isDigit_ofNat_toNat first_digit) _
  | @negative unsigned _ spells =>
      exact ⟨unsigned, spells, .negative, readNumberAs_minus "f64" (Text.encodeUtf8 unsigned)⟩

theorem readFloat_eq_ok_iff {bytes others : List UInt8}
    (same : readNumberAs "f64" bytes = readNumber negative others) :
    readFloat bytes = .ok (speed, []) ↔ GivesFloat (readNumber negative others) speed := by
  simp only [readFloat_eq, same, bind_eq_ok_iff, Prod.exists, Except.ok.injEq, Prod.mk.injEq,
    GivesFloat]
  constructor
  · rintro ⟨number, rest, read, rfl, rfl⟩
    exact ⟨number, read, rfl⟩
  · rintro ⟨number, read, rfl⟩
    exact ⟨number, [], read, rfl, rfl⟩

/-- What is read from a number is exact as far as that is to be expected. -/
theorem exists_isReadAs (spells : SpellsNumber text negative numeral)
    (read : readFloat (Text.encodeUtf8 text) = .ok (speed, [])) :
    ∃ magnitude, speed = .finite negative magnitude ∧ numeral.IsReadAs magnitude := by
  rcases exists_readNumberAs_eq spells with ⟨unsigned, spells, -, same⟩
  rcases exists_isCut spells with ⟨gathered, isCut, gives_iff, gives_zero⟩
  rw [readFloat_eq_ok_iff same] at read
  rcases Nat.lt_or_ge numeral.power.natAbs (2 ^ 31) with inRange | beyond
  · rcases (gives_iff inRange negative speed).1 read with ⟨magnitude, found, speed_eq⟩
    refine ⟨magnitude, speed_eq, ?beyond, ?near, ?nearest⟩
    case beyond =>
      intro beyond
      exact absurd inRange (Nat.not_lt.2 beyond)
    case near =>
      intro _
      exact isCut.abs_value_sub_le found
    case nearest =>
      intro _ significand_le power_le other
      exact isCut.abs_value_sub_le_abs found significand_le power_le other
  · refine ⟨.zero, gives_zero beyond negative speed read, fun _ => rfl, ?_, ?_⟩ <;>
    · intro inRange
      exact absurd inRange (Nat.not_lt.2 beyond)

/-- A number that is clearly within the format is read. -/
theorem exists_readFloat (spells : SpellsNumber text negative numeral)
    (inRange : numeral.power.natAbs < 2 ^ 31) (value_le : numeral.value ≤ 10 ^ 307) :
    ∃ speed, IsNumber (Text.encodeUtf8 text) ∧
      readFloat (Text.encodeUtf8 text) = .ok (speed, []) := by
  rcases exists_readNumberAs_eq spells with ⟨unsigned, spells, isNumber, same⟩
  rcases exists_isCut spells with ⟨gathered, isCut, gives_iff, -⟩
  rcases isCut.exists_magnitude? value_le with ⟨magnitude, found⟩
  have gives := (gives_iff inRange negative _).2 ⟨magnitude, found, rfl⟩
  refine ⟨_, isNumber ?_, (readFloat_eq_ok_iff same).2 gives⟩
  rcases gives with ⟨number, read, -⟩
  rcases takesForm_readNumber negative read with ⟨written, written_eq, isNumeral, -⟩
  rwa [written_eq, List.append_nil]

end Reading

end Json

end ScriptedFeed
