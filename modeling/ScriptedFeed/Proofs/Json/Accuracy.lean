import ScriptedFeed.Proofs.Json.Float
import ScriptedFeed.Proofs.Number.Nearest

/-!
# How exactly a number is read from its text

The digits of a text and their power of ten are rounded to the format, each by itself, before one is
multiplied or divided by the other and the result is rounded again. Digits of 53 bits and powers of
ten up to the 22nd are numbers of the format. Then only the last rounding is left, and it takes the
shortest decimal of a number to the number. In all other cases too the number that is read is the
same or at most eight steps away.
-/

namespace ScriptedFeed

namespace Json

variable {significand power : ℕ} {magnitude read : Magnitude}

/-- The number that gathered digits stand for, before any rounding. -/
def Gathered.value (gathered : Gathered) : ℚ :=
  gathered.significand * 10 ^ gathered.exponent

theorem value_writtenDigits (decimal : Decimal) :
    (writtenDigits decimal).value = decimal.value := by
  by_cases isWhole : 0 ≤ decimal.exponent ∧ leadingPower decimal ≤ 15
  · have power_eq : (10 : ℚ) ^ decimal.exponent = 10 ^ decimal.exponent.toNat := by
      rw [← zpow_natCast, Int.toNat_of_nonneg isWhole.1]
    rw [writtenDigits_of_whole isWhole.1 isWhole.2, Gathered.value, Decimal.value, power_eq]
    push_cast
    ring
  · rw [writtenDigits_of_not_whole isWhole, Gathered.value, Decimal.value]

section Steps

theorem overPower?_spec (found : overPower? magnitude power = some read) :
    ∃ scale, Magnitude.ofNat? (10 ^ power) = some scale ∧ 0 < scale.units ∧
      read.units = roundUnits (magnitude.units * unitsPerOne) scale.units := by
  rw [overPower?, Option.bind_eq_bind, Option.bind_eq_some_iff] at found
  rcases found with ⟨scale, scale_eq, div_eq⟩
  rw [Magnitude.div?] at div_eq
  split_ifs at div_eq with isZero
  exact ⟨scale, scale_eq, Nat.pos_of_ne_zero isZero, Magnitude.units_of_nearestUnits? div_eq⟩

theorem magnitude?_ofNat_spec
    (found : (Gathered.mk significand (.ofNat power)).magnitude? = some read) :
    (∃ whole scale, Magnitude.ofNat? significand = some whole ∧
      Magnitude.ofNat? (10 ^ power) = some scale ∧
        read.units = roundUnits (whole.units * scale.units) unitsPerOne) ∨
      (largestPower < power ∧ significand = 0 ∧ read.units = 0) := by
  simp only [Gathered.magnitude?, Option.bind_eq_bind, Option.bind_eq_some_iff] at found
  rcases found with ⟨whole, whole_eq, found⟩
  split_ifs at found with inRange isZero
  · rw [Option.bind_eq_some_iff] at found
    rcases found with ⟨scale, scale_eq, mul_eq⟩
    exact .inl ⟨whole, scale, whole_eq, scale_eq, Magnitude.units_of_nearestUnits? mul_eq⟩
  · cases found
    refine .inr ⟨Nat.not_le.1 inRange, ?_, isZero⟩
    by_contra nonzero
    have one_le := Magnitude.unitsPerOne_le_of_ofNat? (Nat.pos_of_ne_zero nonzero) whole_eq
    rw [isZero] at one_le
    exact unitsPerOne_pos.not_ge one_le

theorem magnitude?_negSucc_spec
    (found : (Gathered.mk significand (.negSucc power)).magnitude? = some read) :
    ∃ whole, Magnitude.ofNat? significand = some whole ∧
      scaleDown? (power / largestPower) (power % largestPower + 1) whole = some read := by
  simpa only [Gathered.magnitude?, Option.bind_eq_bind, Option.bind_eq_some_iff] using found

end Steps

section Exact

/-- Digits and a power of ten that are both numbers of the format. -/
structure Gathered.IsExact (gathered : Gathered) : Prop where
  significand_le : gathered.significand ≤ 2 ^ 53
  power_le : gathered.exponent.natAbs ≤ 22

instance (gathered : Gathered) : Decidable gathered.IsExact :=
  decidable_of_iff (gathered.significand ≤ 2 ^ 53 ∧ gathered.exponent.natAbs ≤ 22)
    ⟨fun both => ⟨both.1, both.2⟩, fun isExact => ⟨isExact.significand_le, isExact.power_le⟩⟩

theorem units_of_ofNat?_le (found : Magnitude.ofNat? significand = some magnitude)
    (le : significand ≤ 2 ^ 53) : magnitude.units = significand * unitsPerOne := by
  rw [Magnitude.units_of_ofNat? found, roundUnits_whole le]

/-- Powers of ten up to the 22nd are numbers of the format, as those of five fit into 53 bits. -/
theorem units_of_ofNat?_pow (found : Magnitude.ofNat? (10 ^ power) = some magnitude)
    (le : power ≤ 22) : magnitude.units = 10 ^ power * unitsPerOne := by
  rcases exists_unitBits with ⟨unitBits, -, unitsPerOne_eq, -⟩
  have five_le : 5 ^ power ≤ 2 ^ 53 := (Nat.pow_le_pow_right (by omega) le).trans (by norm_num)
  have units_eq : 10 ^ power * unitsPerOne = 5 ^ power * 2 ^ (power + unitBits) := by
    rw [unitsPerOne_eq, show 10 = 5 * 2 from rfl, Nat.mul_pow, Nat.pow_add, Nat.mul_assoc]
  rw [Magnitude.units_of_ofNat? found, units_eq]
  exact roundUnits_one (grid_dvd_of_le five_le)

/-- Of what exact digits stand for, only a quotient is rounded. -/
theorem Gathered.IsExact.exists_quotient {gathered : Gathered} (isExact : gathered.IsExact)
    (found : gathered.magnitude? = some read) :
    ∃ numerator denominator : ℕ, 0 < denominator ∧
      gathered.value * unitsPerOne = numerator / denominator ∧
      read.units = roundUnits numerator denominator := by
  rcases isExact with ⟨significand_le, power_le⟩
  rcases gathered with ⟨significand, power | power⟩
  · rcases magnitude?_ofNat_spec found with
      ⟨whole, scale, whole_eq, scale_eq, read_eq⟩ | ⟨beyond, -, -⟩
    · refine ⟨_, _, unitsPerOne_pos, ?_, read_eq⟩
      rw [units_of_ofNat?_le whole_eq significand_le, units_of_ofNat?_pow scale_eq power_le,
        Gathered.value, Int.ofNat_eq_natCast, zpow_natCast]
      push_cast
      have one_ne : (unitsPerOne : ℚ) ≠ 0 := Nat.cast_ne_zero.2 unitsPerOne_pos.ne'
      field_simp
    · rw [largestPower] at beyond
      simp only [Int.ofNat_eq_natCast, Int.natAbs_natCast] at power_le
      omega
  · rw [Int.natAbs_negSucc] at power_le
    rcases magnitude?_negSucc_spec found with ⟨whole, whole_eq, scaled_eq⟩
    have power_lt : power < largestPower := by
      rw [largestPower]
      omega
    rw [Nat.div_eq_of_lt power_lt, Nat.mod_eq_of_lt power_lt, scaleDown?] at scaled_eq
    rcases overPower?_spec scaled_eq with ⟨scale, scale_eq, scale_pos, read_eq⟩
    refine ⟨_, _, scale_pos, ?_, read_eq⟩
    rw [units_of_ofNat?_le whole_eq significand_le, units_of_ofNat?_pow scale_eq power_le,
      Gathered.value, zpow_negSucc]
    push_cast
    have one_ne : (unitsPerOne : ℚ) ≠ 0 := Nat.cast_ne_zero.2 unitsPerOne_pos.ne'
    field_simp

/-- Exact digits that are equal to the shortest decimal of a number are read as the number. -/
theorem Gathered.IsExact.eq {gathered : Gathered} (isExact : gathered.IsExact)
    (value_eq : gathered.value = magnitude.shortest.value)
    (found : gathered.magnitude? = some read) : read = magnitude := by
  rcases isExact.exists_quotient found with
    ⟨numerator, denominator, positive, quotient_eq, read_eq⟩
  apply Magnitude.eq_of_units_eq
  rw [read_eq]
  apply Magnitude.roundUnits_shortest positive
  rw [← value_eq, quotient_eq]

end Exact

section Drift

variable {roundings steps : ℕ} {exact : ℚ} {gathered : Gathered}

theorem isRoundedFrom_of_ofNat? (found : Magnitude.ofNat? significand = some magnitude) :
    IsRoundedFrom 1 magnitude.units (significand * unitsPerOne) := by
  have isRounded := isRoundedFrom_roundUnits_one (significand * unitsPerOne)
  rwa [← Magnitude.units_of_ofNat? found, Nat.cast_mul] at isRounded

/-- The power of ten is rounded, which counts twice, and then the quotient. -/
theorem isNearly_of_overPower? (found : overPower? magnitude power = some read) :
    IsNearly 3 (1 / 2) read.units (magnitude.units / 10 ^ power) := by
  rcases overPower?_spec found with ⟨scale, scale_eq, scale_pos, read_eq⟩
  have one_pos : (0 : ℚ) < unitsPerOne := Nat.cast_pos.2 unitsPerOne_pos
  have pow_pos : (0 : ℚ) < 10 ^ power := by positivity
  have scale_rounded := isRoundedFrom_of_ofNat? scale_eq
  rw [Nat.cast_pow, Nat.cast_ofNat] at scale_rounded
  have quotient_rounded := (scale_rounded.inv (mul_pos pow_pos one_pos)).mul_right
    (Nat.cast_nonneg (magnitude.units * unitsPerOne))
  have exact_eq : 1 / (10 ^ power * unitsPerOne : ℚ) * (magnitude.units * unitsPerOne) =
      magnitude.units / 10 ^ power := by
    have one_ne := one_pos.ne'
    field_simp
  rw [one_div_mul_eq_div, Nat.cast_mul, exact_eq, ← Nat.cast_mul] at quotient_rounded
  have nearly := quotient_rounded.isNearly.trans (isNearly_roundUnits scale_pos)
  rwa [← read_eq, mul_zero, zero_add] at nearly

/-- Each division takes most of what the earlier ones have added on the grid of the least units. -/
theorem isNearly_overPower?_of_isNearly (nonneg : 0 ≤ exact) (positive : 0 < power)
    (nearly : IsNearly roundings (3 / 5) magnitude.units exact)
    (found : overPower? magnitude power = some read) :
    IsNearly (roundings + 3) (3 / 5) read.units (exact / 10 ^ power) := by
  have power_ge : (10 : ℚ) ≤ 10 ^ power := le_self_pow₀ (by norm_num) positive.ne'
  have scaled := nearly.mul_right (show 0 ≤ 1 / (10 : ℚ) ^ power by positivity)
  rw [mul_one_div, mul_one_div, mul_one_div] at scaled
  apply (scaled.trans (isNearly_of_overPower? found)).mono (by positivity) le_rfl
  calc (1 + roundoff) ^ 3 * (3 / 5 / 10 ^ power) + 1 / 2
    _ ≤ (1 + roundoff) ^ 3 * (3 / 5 / 10) + 1 / 2 := by
      have roundoff_nonneg : 0 ≤ roundoff := by norm_num [roundoff]
      gcongr
    _ ≤ 3 / 5 := by norm_num [roundoff]

theorem isNearly_of_scaleDown? (nonneg : 0 ≤ exact) (positive : 0 < power)
    (nearly : IsNearly roundings (3 / 5) magnitude.units exact)
    (found : scaleDown? steps power magnitude = some read) :
    IsNearly (roundings + 3 * (steps + 1)) (3 / 5) read.units
      (exact / 10 ^ (largestPower * steps + power)) := by
  induction steps generalizing magnitude roundings exact with
  | zero =>
      simp only [Nat.mul_zero, Nat.zero_add, Nat.mul_one]
      rw [scaleDown?] at found
      exact isNearly_overPower?_of_isNearly nonneg positive nearly found
  | succ steps ih =>
      rw [scaleDown?] at found
      split_ifs at found with isZero
      · -- Nothing is left to divide, and a smaller number is not further from nothing.
        cases found
        have power_ge : (1 : ℚ) ≤ 10 ^ (largestPower * (steps + 1) + power) :=
          one_le_pow₀ (by norm_num)
        have scaled := nearly.mul_right
          (show 0 ≤ 1 / (10 : ℚ) ^ (largestPower * (steps + 1) + power) by positivity)
        rw [isZero, Nat.cast_zero, zero_mul, mul_one_div, mul_one_div] at scaled
        rw [isZero, Nat.cast_zero]
        exact scaled.mono (by positivity) (by omega) (div_le_self (by norm_num) power_ge)
      · simp only [Option.bind_eq_bind, Option.bind_eq_some_iff] at found
        rcases found with ⟨smaller, smaller_eq, found⟩
        have largest_pos : 0 < largestPower := by decide
        have smaller_nearly :=
          isNearly_overPower?_of_isNearly nonneg largest_pos nearly smaller_eq
        have read_nearly := ih (by positivity) smaller_nearly found
        have roundings_eq : roundings + 3 * (steps + 1 + 1) = roundings + 3 + 3 * (steps + 1) := by
          ring
        have power_eq : largestPower * (steps + 1) + power =
            largestPower + (largestPower * steps + power) := by
          ring
        rwa [div_div, ← pow_add, ← power_eq, ← roundings_eq] at read_nearly

/-- Two rounded numbers are multiplied, and their product is rounded. -/
theorem isNearly_roundUnits_mul {left right one : ℕ} {leftExact factor : ℚ} (one_pos : 0 < one)
    (nonneg : 0 ≤ leftExact) (left_rounded : IsRoundedFrom 1 left leftExact)
    (right_rounded : IsRoundedFrom 1 right (factor * one)) :
    IsNearly 3 (1 / 2) (roundUnits (left * right) one) (leftExact * factor) := by
  have one_ne : (one : ℚ) ≠ 0 := Nat.cast_ne_zero.2 one_pos.ne'
  have left_scaled := left_rounded.mul_right (Nat.cast_nonneg right)
  have right_scaled := right_rounded.mul_right nonneg
  rw [mul_comm (right : ℚ)] at right_scaled
  have product_rounded := (right_scaled.trans left_scaled).mul_right
    (inv_nonneg.2 (Nat.cast_nonneg one))
  have exact_eq : factor * one * leftExact * (one : ℚ)⁻¹ = leftExact * factor := by
    field_simp
  rw [exact_eq, ← div_eq_mul_inv, ← Nat.cast_mul] at product_rounded
  have nearly := product_rounded.isNearly.trans (isNearly_roundUnits one_pos)
  rwa [mul_zero, zero_add] at nearly

/-- Each division by a power of ten counts three roundings. -/
theorem isNearly_of_magnitude?_negSucc
    (found : (Gathered.mk significand (.negSucc power)).magnitude? = some read) :
    IsNearly (1 + 3 * (power / largestPower + 1)) (3 / 5) read.units
      (significand * unitsPerOne / 10 ^ (power + 1)) := by
  have whole_nonneg : (0 : ℚ) ≤ significand * unitsPerOne :=
    mul_nonneg (Nat.cast_nonneg significand) (Nat.cast_nonneg unitsPerOne)
  rcases magnitude?_negSucc_spec found with ⟨whole, whole_eq, scaled_eq⟩
  have whole_nearly := (isRoundedFrom_of_ofNat? whole_eq).isNearly.mono whole_nonneg le_rfl
    (show (0 : ℚ) ≤ 3 / 5 by norm_num)
  have nearly := isNearly_of_scaleDown? whole_nonneg (Nat.succ_pos _) whole_nearly scaled_eq
  have power_eq : largestPower * (power / largestPower) + (power % largestPower + 1) =
      power + 1 := by
    rw [← add_assoc, Nat.div_add_mod]
  rwa [power_eq] at nearly

/-- As long as two divisions suffice, a number is rounded at most seven times. -/
theorem isNearly_of_magnitude? (exponent_ge : -(2 * largestPower) ≤ gathered.exponent)
    (found : gathered.magnitude? = some read) :
    IsNearly 7 (3 / 5) read.units (gathered.value * unitsPerOne) := by
  rcases gathered with ⟨significand, power⟩
  have whole_nonneg : (0 : ℚ) ≤ significand * unitsPerOne :=
    mul_nonneg (Nat.cast_nonneg significand) (Nat.cast_nonneg unitsPerOne)
  rw [Gathered.value, mul_right_comm]
  dsimp only at exponent_ge ⊢
  rcases power with power | power
  · rw [Int.ofNat_eq_natCast, zpow_natCast]
    rcases magnitude?_ofNat_spec found with
      ⟨whole, scale, whole_eq, scale_eq, read_eq⟩ | ⟨-, isZero, read_zero⟩
    · have scale_rounded := isRoundedFrom_of_ofNat? scale_eq
      rw [Nat.cast_pow, Nat.cast_ofNat] at scale_rounded
      have nearly := isNearly_roundUnits_mul unitsPerOne_pos whole_nonneg
        (isRoundedFrom_of_ofNat? whole_eq) scale_rounded
      rw [read_eq]
      exact nearly.mono (mul_nonneg whole_nonneg (by positivity)) (by omega) (by norm_num)
    · rw [isZero, read_zero, IsNearly, Nat.cast_zero, zero_mul, zero_mul, sub_zero, abs_zero,
        mul_zero, zero_add]
      norm_num
  · have few_steps : power / largestPower ≤ 1 := by
      simp only [largestPower] at exponent_ge ⊢
      omega
    rw [zpow_negSucc, ← div_eq_mul_inv]
    exact (isNearly_of_magnitude?_negSucc found).mono (div_nonneg whole_nonneg (by positivity))
      (by omega) le_rfl

/-- Seven roundings and the half steps are together less than eight steps and one unit. -/
theorem drift_lt {grid units : ℚ} (grid_pos : 0 < grid) (units_le : units ≤ 2 ^ 53 * grid) :
    ((1 + roundoff) ^ 7 - 1) * units + 3 / 5 + grid / 2 < 8 * grid + 1 := by
  have share_nonneg : 0 ≤ (1 + roundoff) ^ 7 - 1 :=
    sub_nonneg.2 (IsRoundedFrom.one_le_pow 7)
  have share_le : ((1 + roundoff) ^ 7 - 1) * 2 ^ 53 ≤ 15 / 2 := by norm_num [roundoff]
  calc ((1 + roundoff) ^ 7 - 1) * units + 3 / 5 + grid / 2
    _ ≤ ((1 + roundoff) ^ 7 - 1) * (2 ^ 53 * grid) + 3 / 5 + grid / 2 := by gcongr
    _ = ((1 + roundoff) ^ 7 - 1) * 2 ^ 53 * grid + 3 / 5 + grid / 2 := by ring
    _ ≤ 15 / 2 * grid + 3 / 5 + grid / 2 := by gcongr
    _ < 8 * grid + 1 := by linarith

theorem exponent_writtenDigits_ge (magnitude : Magnitude) :
    -(2 * largestPower) ≤ (writtenDigits magnitude.shortest).exponent := by
  have least_le := magnitude.fitsFormat_shortest.least_le
  rw [writtenDigits]
  simp only [largestPower, shortestPlaces] at least_le ⊢
  split_ifs
  · simp
  · dsimp only
    omega

/-- What is read from the text of a number is at most eight steps of its grid away from it. -/
theorem abs_units_sub_le (found : (writtenDigits magnitude.shortest).magnitude? = some read) :
    |(read.units : ℤ) - magnitude.units| ≤ 8 * 2 ^ unusedBits magnitude.units := by
  have nearly := isNearly_of_magnitude? (exponent_writtenDigits_ge magnitude) found
  have shortest_near := magnitude.abs_shortest_sub_le
  rcases magnitude.exists_count with ⟨bits, count, bits_eq, units_eq, count_lt, -⟩
  rw [value_writtenDigits, IsNearly] at nearly
  rw [bits_eq] at shortest_near ⊢
  generalize magnitude.shortest.value * unitsPerOne = exact at nearly shortest_near
  have grid_pos : (0 : ℚ) < 2 ^ bits := by positivity
  have exact_le : exact ≤ 2 ^ 53 * 2 ^ bits := by
    have count_le : (count : ℚ) + 1 ≤ 2 ^ 53 := by exact_mod_cast count_lt
    have difference_le := (abs_le.1 shortest_near).2
    calc exact
      _ ≤ magnitude.units + 2 ^ bits / 2 := by linarith
      _ = count * 2 ^ bits + 2 ^ bits / 2 := by
        rw [units_eq]
        push_cast
        rfl
      _ ≤ (count + 1) * 2 ^ bits := by linarith
      _ ≤ 2 ^ 53 * 2 ^ bits := by gcongr
  have drift : |(read.units : ℚ) - magnitude.units| < 8 * 2 ^ bits + 1 := by
    calc |(read.units : ℚ) - magnitude.units|
      _ ≤ |(read.units : ℚ) - exact| + |exact - magnitude.units| := abs_sub_le _ _ _
      _ ≤ ((1 + roundoff) ^ 7 - 1) * exact + 3 / 5 + 2 ^ bits / 2 :=
        add_le_add nearly shortest_near
      _ < 8 * 2 ^ bits + 1 := drift_lt grid_pos exact_le
  apply Int.lt_add_one_iff.1
  exact_mod_cast drift

end Drift

end Json

end ScriptedFeed
