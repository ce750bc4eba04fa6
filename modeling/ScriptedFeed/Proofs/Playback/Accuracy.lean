import ScriptedFeed.Proofs.Number.Value
import ScriptedFeed.Proofs.Playback.Delay

/-!
# Scaled delays are accurate

On its way from milliseconds to nanoseconds a delay is rounded three times in floating point: its
whole seconds and the rest of it, their sum, and the quotient by the speed. None of these numbers is
too small for the format, so that each rounding changes it by a small part of it only. The last step
adds half a nanosecond at most. At the authored speed nothing is divided, and up to some ninety days
all roundings together are less than that half, so that the delay comes out as it was written.
-/

namespace ScriptedFeed

namespace Speed

/-- The nanoseconds that a delay takes at a speed, without any rounding. -/
def exactNanoseconds (speed : Speed) (milliseconds : Nat) : ℚ :=
  milliseconds * 10 ^ 6 / speed.factor.value

theorem exactNanoseconds_nonneg (speed : Speed) (milliseconds : Nat) :
    0 ≤ speed.exactNanoseconds milliseconds := by
  rw [exactNanoseconds]
  apply div_nonneg
  · positivity
  · exact speed.factor.value_nonneg

theorem two_pow_le_unitsPerOne : 2 ^ 80 ≤ unitsPerOne := by
  decide +kernel

theorem unitsPerOne_cast_pos : (0 : ℚ) < unitsPerOne :=
  Nat.cast_pos.2 unitsPerOne_pos

section Seconds

theorem isRoundedFrom_wholeUnits (milliseconds : Nat) :
    IsRoundedFrom 1 (wholeUnits milliseconds)
      ((milliseconds / millisecondsPerSecond : ℕ) * unitsPerOne) := by
  have isRounded :=
    isRoundedFrom_roundUnits_one (milliseconds / millisecondsPerSecond * unitsPerOne)
  rwa [Nat.cast_mul] at isRounded

theorem isRoundedFrom_restUnits (milliseconds : Nat) :
    IsRoundedFrom 1 (restUnits milliseconds)
      ((milliseconds % millisecondsPerSecond : ℕ) / 1000 * unitsPerOne) := by
  unfold restUnits
  generalize milliseconds % millisecondsPerSecond = rest
  have one_pos := unitsPerOne_pos
  have one_ge := two_pow_le_unitsPerOne
  have one_ne := unitsPerOne_cast_pos.ne'
  generalize unitsPerOne = one at one_pos one_ge one_ne ⊢
  have fits : rest * nanosecondsPerMillisecond * one * one = 0 ∨
      nanosecondCount * one * 2 ^ 52 ≤ rest * nanosecondsPerMillisecond * one * one := by
    rcases Nat.eq_zero_or_pos rest with rfl | rest_pos
    · left
      simp
    · right
      simp only [nanosecondsPerMillisecond, nanosecondCount]
      calc 1000000000 * one * 2 ^ 52
        _ = 1000000000 * 2 ^ 52 * one := by ring
        _ ≤ 1 * 1000000 * one * one := by
          apply Nat.mul_le_mul_right
          omega
        _ ≤ rest * 1000000 * one * one := by
          gcongr
          exact rest_pos
  have isRounded := isRoundedFrom_roundUnits (Nat.mul_pos (by decide) one_pos) fits
  have exact_eq : ((rest * nanosecondsPerMillisecond * one * one : ℕ) : ℚ) /
      (nanosecondCount * one : ℕ) = rest / 1000 * one := by
    simp only [nanosecondsPerMillisecond, nanosecondCount]
    push_cast
    field_simp
    ring
  rwa [exact_eq] at isRounded

/-- The whole seconds and the rest are together the delay in seconds. -/
theorem whole_add_rest (milliseconds : Nat) (one : ℚ) :
    (milliseconds / millisecondsPerSecond : ℕ) * one +
      (milliseconds % millisecondsPerSecond : ℕ) / 1000 * one = milliseconds / 1000 * one := by
  have parts_eq : ((1000 * (milliseconds / 1000) + milliseconds % 1000 : ℕ) : ℚ) =
      milliseconds := by
    rw [Nat.div_add_mod]
  push_cast at parts_eq
  rw [← parts_eq, millisecondsPerSecond]
  ring

theorem isRoundedFrom_secondsUnits (milliseconds : Nat) :
    IsRoundedFrom 2 (secondsUnits milliseconds) (milliseconds / 1000 * unitsPerOne) := by
  have parts_rounded :=
    (isRoundedFrom_wholeUnits milliseconds).add (isRoundedFrom_restUnits milliseconds)
  rw [whole_add_rest, ← Nat.cast_add] at parts_rounded
  have sum_rounded := parts_rounded.trans (isRoundedFrom_roundUnits_one _)
  exact sum_rounded

/-- The seconds of a delay are none or many least units. -/
theorem secondsUnits_eq_zero_or_ge (milliseconds : Nat) :
    secondsUnits milliseconds = 0 ∨ 2 ^ 56 ≤ secondsUnits milliseconds := by
  rcases Nat.eq_zero_or_pos milliseconds with rfl | positive
  · left
    decide +kernel
  · right
    calc 2 ^ 56
      _ ≤ secondsUnits 1 := by decide +kernel
      _ ≤ secondsUnits milliseconds := secondsUnits_mono positive

end Seconds

/-- The quotient by the speed has been rounded three times. -/
theorem isRoundedFrom_quotient (speed : Speed) (milliseconds : Nat) :
    IsRoundedFrom 3 (roundUnits (secondsUnits milliseconds * unitsPerOne) speed.factor.units)
      (milliseconds / 1000 * unitsPerOne * (unitsPerOne / speed.factor.units)) := by
  have fits : secondsUnits milliseconds * unitsPerOne = 0 ∨
      speed.factor.units * 2 ^ 52 ≤ secondsUnits milliseconds * unitsPerOne := by
    rcases secondsUnits_eq_zero_or_ge milliseconds with isZero | large
    · left
      rw [isZero, Nat.zero_mul]
    · right
      calc speed.factor.units * 2 ^ 52
        _ ≤ 10 * unitsPerOne * 2 ^ 52 := Nat.mul_le_mul_right _ speed.le_fastest
        _ = 10 * 2 ^ 52 * unitsPerOne := Nat.mul_right_comm _ _ _
        _ ≤ secondsUnits milliseconds * unitsPerOne := by
          apply Nat.mul_le_mul_right
          omega
  have dividend_eq : (secondsUnits milliseconds : ℚ) * (unitsPerOne / speed.factor.units) =
      (secondsUnits milliseconds * unitsPerOne : ℕ) / speed.factor.units := by
    rw [Nat.cast_mul, mul_div_assoc]
  have seconds_rounded := (isRoundedFrom_secondsUnits milliseconds).mul_right
    (div_nonneg unitsPerOne_cast_pos.le (Nat.cast_nonneg speed.factor.units))
  rw [dividend_eq] at seconds_rounded
  have quotient_rounded :=
    seconds_rounded.trans (isRoundedFrom_roundUnits speed.factor_pos fits)
  exact quotient_rounded

/-- At any speed and for any delay, rounding changes the time by a small part and half a nanosecond
at most. -/
theorem abs_nanosecondsOf_sub_le (speed : Speed) (milliseconds : Nat) :
    |(speed.nanosecondsOf milliseconds : ℚ) - speed.exactNanoseconds milliseconds| ≤
      1 / 2 + speed.exactNanoseconds milliseconds / 2 ^ 51 := by
  let quotient := roundUnits (secondsUnits milliseconds * unitsPerOne) speed.factor.units
  have one_ne := unitsPerOne_cast_pos.ne'
  have factor_ne : (speed.factor.units : ℚ) ≠ 0 := Nat.cast_ne_zero.2 speed.factor_pos.ne'
  have exact_nonneg := speed.exactNanoseconds_nonneg milliseconds
  have exact_eq : (milliseconds / 1000 * unitsPerOne * (unitsPerOne / speed.factor.units) *
      (nanosecondCount / unitsPerOne) : ℚ) = speed.exactNanoseconds milliseconds := by
    rw [exactNanoseconds, Magnitude.value, nanosecondCount]
    push_cast
    field_simp
    ring
  have counted : |(speed.nanosecondsOf milliseconds : ℚ) -
      quotient * (nanosecondCount / unitsPerOne)| ≤ 1 / 2 := by
    rw [← mul_div_assoc, ← Nat.cast_mul]
    exact abs_roundHalfEven_sub_le (quotient * nanosecondCount) unitsPerOne_pos
  have rounded : |quotient * (nanosecondCount / unitsPerOne) -
      speed.exactNanoseconds milliseconds| ≤
        ((1 + roundoff) ^ 3 - 1) * speed.exactNanoseconds milliseconds := by
    rw [← exact_eq]
    apply (speed.isRoundedFrom_quotient milliseconds).mul_right
    exact div_nonneg (Nat.cast_nonneg _) unitsPerOne_cast_pos.le
  calc |(speed.nanosecondsOf milliseconds : ℚ) - speed.exactNanoseconds milliseconds|
    _ ≤ |(speed.nanosecondsOf milliseconds : ℚ) - quotient * (nanosecondCount / unitsPerOne)| +
          |quotient * (nanosecondCount / unitsPerOne) - speed.exactNanoseconds milliseconds| :=
      abs_sub_le _ _ _
    _ ≤ 1 / 2 + ((1 + roundoff) ^ 3 - 1) * speed.exactNanoseconds milliseconds :=
      add_le_add counted rounded
    _ ≤ 1 / 2 + 1 / 2 ^ 51 * speed.exactNanoseconds milliseconds := by
      gcongr
      norm_num [roundoff]
    _ = 1 / 2 + speed.exactNanoseconds milliseconds / 2 ^ 51 := by ring

section Authored

variable {milliseconds : Nat}

theorem wholeUnits_of_le (le : milliseconds ≤ 8000000000) :
    wholeUnits milliseconds = milliseconds / millisecondsPerSecond * unitsPerOne := by
  apply roundUnits_whole
  rw [millisecondsPerSecond]
  omega

theorem wholeUnits_add_restUnits_lt (le : milliseconds ≤ 8000000000) :
    wholeUnits milliseconds + restUnits milliseconds < 2 ^ 23 * unitsPerOne := by
  have whole_le : wholeUnits milliseconds ≤ 8000000 * unitsPerOne := by
    rw [wholeUnits_of_le le, millisecondsPerSecond]
    apply Nat.mul_le_mul_right
    omega
  have rest_lt := restUnits_lt milliseconds
  generalize unitsPerOne = one at whole_le rest_lt ⊢
  omega

/-- Below 2 to the power of 23 seconds the grid of the sum is finer than a nanosecond. -/
theorem abs_secondsUnits_sub_sum_le (le : milliseconds ≤ 8000000000) :
    |(secondsUnits milliseconds : ℚ) - (wholeUnits milliseconds + restUnits milliseconds : ℕ)| ≤
      1 / 2 ^ 31 * unitsPerOne := by
  have grid_le : (2 : ℚ) ^ unusedBits (wholeUnits milliseconds + restUnits milliseconds) *
      2 ^ 30 ≤ unitsPerOne := by
    exact_mod_cast two_pow_unusedBits_mul_le_unitsPerOne (by decide)
      (wholeUnits_add_restUnits_lt le)
  have sum_rounded :=
    abs_roundUnits_sub_le (wholeUnits milliseconds + restUnits milliseconds) Nat.one_pos
  rw [Nat.cast_one, div_one, Nat.div_one] at sum_rounded
  apply sum_rounded.trans
  linarith

/-- The whole seconds are exact, and the rest is less than one. -/
theorem abs_sum_sub_le (le : milliseconds ≤ 8000000000) :
    |((wholeUnits milliseconds + restUnits milliseconds : ℕ) : ℚ) -
        milliseconds / 1000 * unitsPerOne| ≤ 1 / 2 ^ 53 * unitsPerOne := by
  have rest_le : ((milliseconds % millisecondsPerSecond : ℕ) : ℚ) / 1000 ≤ 1 := by
    rw [div_le_one (by norm_num)]
    exact_mod_cast (Nat.mod_lt milliseconds (by decide : 0 < millisecondsPerSecond)).le
  have rest_rounded := isRoundedFrom_restUnits milliseconds
  rw [← whole_add_rest, wholeUnits_of_le le, Nat.cast_add, Nat.cast_mul, add_sub_add_left_eq_sub]
  calc |(restUnits milliseconds : ℚ) -
        (milliseconds % millisecondsPerSecond : ℕ) / 1000 * unitsPerOne|
    _ ≤ ((1 + roundoff) ^ 1 - 1) *
          ((milliseconds % millisecondsPerSecond : ℕ) / 1000 * unitsPerOne) := rest_rounded
    _ ≤ ((1 + roundoff) ^ 1 - 1) * (1 * unitsPerOne) := by
      apply mul_le_mul_of_nonneg_left _ (sub_nonneg.2 (IsRoundedFrom.one_le_pow 1))
      exact mul_le_mul_of_nonneg_right rest_le unitsPerOne_cast_pos.le
    _ = 1 / 2 ^ 53 * unitsPerOne := by
      rw [roundoff, pow_one, add_sub_cancel_left, one_mul]

theorem abs_seconds_sub_lt (le : milliseconds ≤ 8000000000) :
    |(secondsUnits milliseconds * nanosecondCount : ℕ) / (unitsPerOne : ℚ) -
        (milliseconds * 1000000 : ℕ)| < 1 / 2 := by
  have one_pos := unitsPerOne_cast_pos
  have scale_pos : (0 : ℚ) < nanosecondCount / unitsPerOne :=
    div_pos (by norm_num [nanosecondCount]) one_pos
  have difference_eq : (secondsUnits milliseconds * nanosecondCount : ℕ) / (unitsPerOne : ℚ) -
      (milliseconds * 1000000 : ℕ) =
        (secondsUnits milliseconds - milliseconds / 1000 * unitsPerOne) *
          (nanosecondCount / unitsPerOne) := by
    have one_ne := one_pos.ne'
    rw [nanosecondCount]
    push_cast
    field_simp
    ring
  have seconds_near : |(secondsUnits milliseconds : ℚ) - milliseconds / 1000 * unitsPerOne| ≤
      1 / 2 ^ 31 * unitsPerOne + 1 / 2 ^ 53 * unitsPerOne :=
    (abs_sub_le _ _ _).trans (add_le_add (abs_secondsUnits_sub_sum_le le) (abs_sum_sub_le le))
  rw [difference_eq, abs_mul, abs_of_pos scale_pos]
  calc |(secondsUnits milliseconds : ℚ) - milliseconds / 1000 * unitsPerOne| *
        (nanosecondCount / unitsPerOne)
    _ ≤ (1 / 2 ^ 31 * unitsPerOne + 1 / 2 ^ 53 * unitsPerOne) *
          (nanosecondCount / unitsPerOne) := mul_le_mul_of_nonneg_right seconds_near scale_pos.le
    _ = (1 / 2 ^ 31 + 1 / 2 ^ 53) * nanosecondCount := by field_simp
    _ < 1 / 2 := by norm_num [nanosecondCount]

theorem units_factor_authored : authored.factor.units = unitsPerOne := by
  decide +kernel

/-- At authored timing a delay is not rounded away from its milliseconds. -/
theorem nanosecondsOf_authored (le : milliseconds ≤ 8000000000) :
    authored.nanosecondsOf milliseconds = milliseconds * 1000000 := by
  have on_grid : 2 ^ unusedBits (secondsUnits milliseconds) ∣ secondsUnits milliseconds :=
    grid_dvd_roundUnits _ _
  have quotient_eq : roundUnits (secondsUnits milliseconds * unitsPerOne) authored.factor.units =
      secondsUnits milliseconds := by
    rw [units_factor_authored, Nat.mul_comm]
    exact roundUnits_mul unitsPerOne_pos on_grid
  rw [nanosecondsOf, quotient_eq]
  exact roundHalfEven_eq_of_abs_lt unitsPerOne_pos (abs_seconds_sub_lt le)

end Authored

end Speed

/--
At whatever number as a speed, the nanoseconds that a delay takes differ from the exact quotient by
half a nanosecond and one part in 2 to the power of 51 at most. At authored timing, a delay up to
eight million seconds takes exactly its milliseconds, and is over at that tick.
-/
theorem Speed.scaled_delays_are_accurate :
    (∀ (number : Binary64) (delay : UInt64),
      |((Speed.clamp number).scaledNanoseconds delay : ℚ) -
          (Speed.clamp number).exactNanoseconds delay.toNat| ≤
        1 / 2 + (Speed.clamp number).exactNanoseconds delay.toNat / 2 ^ 51) ∧
    (∀ number ∈ [Binary64.one, Binary64.nan], ∀ delay : UInt64, delay.toNat ≤ 8000000000 →
      (Speed.clamp number).scaledNanoseconds delay = delay.toNat * 1000000 ∧
        (Speed.clamp number).scaledTicks delay = delay.toNat) := by
  constructor
  · intro number delay
    rw [Speed.scaledNanoseconds_eq]
    exact (Speed.clamp number).abs_nanosecondsOf_sub_le delay.toNat
  · intro number number_mem delay delay_le
    have played_eq : Speed.clamp number = .authored := by
      simp only [List.mem_cons, List.not_mem_nil, or_false] at number_mem
      rcases number_mem with rfl | rfl
      · decide +kernel
      · rfl
    have nanoseconds_eq : Speed.authored.scaledNanoseconds delay = delay.toNat * 1000000 := by
      rw [Speed.scaledNanoseconds_eq, Speed.nanosecondsOf_authored delay_le]
    rw [played_eq]
    refine ⟨nanoseconds_eq, ?_⟩
    rw [Speed.scaledTicks, nanoseconds_eq, Speed.nanosecondsPerMillisecond]
    omega

/-- The last millisecond before eight million seconds, at no number as a speed. -/
theorem Speed.scaled_delays_are_accurate_at_last_millisecond :
    (Speed.clamp .nan).scaledNanoseconds 7999999999 = 7999999999000000 ∧
      (Speed.clamp .nan).scaledTicks 7999999999 = 7999999999 :=
  Speed.scaled_delays_are_accurate.2 .nan (by simp) 7999999999 (by decide)

end ScriptedFeed
