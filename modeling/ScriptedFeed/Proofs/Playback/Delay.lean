import ScriptedFeed.Playback.Speed
import ScriptedFeed.Proofs.Number.Magnitude

/-!
# Scaled delays keep order

A delay is brought to seconds, divided by the speed and brought to whole milliseconds, with a
rounding at each step. None of the steps fails, and none of them reverses the order of two delays.
The only step that is not a rounding of something that keeps order is the sum of whole seconds and
the rest: from one whole second to the next the rest starts again at zero. Up to 53 bits the whole
seconds are exact, and the rest is less than the step to the next; beyond, the rest is less than
half a step of the format and is rounded away.
-/

namespace ScriptedFeed

namespace Speed

/-- The whole seconds of a delay in milliseconds, rounded, in least units. -/
def wholeUnits (milliseconds : Nat) : Nat :=
  roundUnits (milliseconds / millisecondsPerSecond * unitsPerOne) 1

/-- The part of a delay below a second, rounded, in least units. -/
def restUnits (milliseconds : Nat) : Nat :=
  roundUnits (milliseconds % millisecondsPerSecond * nanosecondsPerMillisecond * unitsPerOne *
    unitsPerOne) (nanosecondCount * unitsPerOne)

/-- The seconds of a delay in milliseconds, rounded, in least units. -/
def secondsUnits (milliseconds : Nat) : Nat :=
  roundUnits (wholeUnits milliseconds + restUnits milliseconds) 1

section Order

variable {smaller larger milliseconds : Nat}

theorem wholeUnits_mono (le : smaller ≤ larger) : wholeUnits smaller ≤ wholeUnits larger :=
  roundUnits_mono Nat.one_pos (Nat.mul_le_mul_right _ (Nat.div_le_div_right le))

theorem restUnits_mono (le : smaller % millisecondsPerSecond ≤ larger % millisecondsPerSecond) :
    restUnits smaller ≤ restUnits larger := by
  apply roundUnits_mono (Nat.mul_pos (by decide) unitsPerOne_pos)
  gcongr

theorem restUnits_lt (milliseconds : Nat) : restUnits milliseconds < unitsPerOne := by
  rcases exists_unitBits with ⟨unitBits, unitBits_ge, unitsPerOne_eq, -⟩
  rcases (⟨unitBits - 10, by omega⟩ : ∃ spare, unitBits = spare + 10) with ⟨spare, rfl⟩
  have remainder_le : milliseconds % millisecondsPerSecond ≤ 999 :=
    Nat.le_of_lt_succ (Nat.mod_lt _ (by decide))
  unfold restUnits
  simp only [unitsPerOne_eq]
  generalize milliseconds % millisecondsPerSecond = remainder at remainder_le
  -- The number 1023 / 1024 of the format lies between 999 thousandths and one.
  have on_grid : 2 ^ unusedBits (1023 * 2 ^ spare) ∣ 1023 * 2 ^ spare :=
    grid_dvd_of_le (by decide)
  have power_pos : 0 < 2 ^ spare := Nat.two_pow_pos spare
  have denominator_pos : 0 < nanosecondCount * 2 ^ (spare + 10) :=
    Nat.mul_pos (by decide) (Nat.two_pow_pos _)
  have power_eq : 2 ^ (spare + 10) = 1024 * 2 ^ spare := by
    rw [Nat.pow_add, Nat.mul_comm]
  calc roundUnits (remainder * nanosecondsPerMillisecond * 2 ^ (spare + 10) * 2 ^ (spare + 10))
        (nanosecondCount * 2 ^ (spare + 10))
    _ ≤ roundUnits (nanosecondCount * 2 ^ (spare + 10) * (1023 * 2 ^ spare))
          (nanosecondCount * 2 ^ (spare + 10)) := by
      apply roundUnits_mono denominator_pos
      rw [Nat.mul_right_comm, Nat.mul_right_comm nanosecondCount]
      apply Nat.mul_le_mul_right
      rw [power_eq]
      simp only [nanosecondsPerMillisecond, nanosecondCount]
      calc remainder * 1000000 * (1024 * 2 ^ spare)
        _ ≤ 999 * 1000000 * (1024 * 2 ^ spare) := by gcongr
        _ ≤ 1000000000 * (1023 * 2 ^ spare) := by omega
    _ = 1023 * 2 ^ spare := roundUnits_mul denominator_pos on_grid
    _ < 2 ^ (spare + 10) := by omega

/-- Where rounding takes two numbers of whole seconds together, they have more than 53 bits. -/
theorem wholeUnits_large
    (lt : smaller / millisecondsPerSecond < larger / millisecondsPerSecond)
    (eq : wholeUnits smaller = wholeUnits larger) :
    2 ^ 53 * unitsPerOne ≤ wholeUnits smaller := by
  unfold wholeUnits at eq ⊢
  generalize smaller / millisecondsPerSecond = seconds at lt eq ⊢
  rcases Nat.lt_or_ge seconds (2 ^ 53) with small | large
  · have next_le : (seconds + 1) * unitsPerOne ≤ seconds * unitsPerOne := by
      calc (seconds + 1) * unitsPerOne
        _ = roundUnits ((seconds + 1) * unitsPerOne) 1 := (roundUnits_whole small).symm
        _ ≤ roundUnits (larger / millisecondsPerSecond * unitsPerOne) 1 :=
          roundUnits_mono Nat.one_pos (Nat.mul_le_mul_right _ lt)
        _ = roundUnits (seconds * unitsPerOne) 1 := eq.symm
        _ = seconds * unitsPerOne := roundUnits_whole small.le
    have positive := unitsPerOne_pos
    rw [Nat.succ_mul] at next_le
    omega
  · calc 2 ^ 53 * unitsPerOne
      _ = roundUnits (2 ^ 53 * unitsPerOne) 1 := (roundUnits_whole le_rfl).symm
      _ ≤ roundUnits (seconds * unitsPerOne) 1 :=
        roundUnits_mono Nat.one_pos (Nat.mul_le_mul_right _ large)

/-- Numbers of whole seconds that differ after rounding do so by one at least. -/
theorem wholeUnits_add_le (lt : wholeUnits smaller < wholeUnits larger) :
    wholeUnits smaller + unitsPerOne ≤ wholeUnits larger := by
  have smaller_whole : unitsPerOne ∣ wholeUnits smaller := unitsPerOne_dvd_roundUnits _
  have larger_whole : unitsPerOne ∣ wholeUnits larger := unitsPerOne_dvd_roundUnits _
  rcases smaller_whole with ⟨fewer, fewer_eq⟩
  rcases larger_whole with ⟨more, more_eq⟩
  rw [fewer_eq, more_eq] at lt ⊢
  rw [← Nat.mul_succ]
  exact Nat.mul_le_mul_left _ (Nat.lt_of_mul_lt_mul_left lt)

/-- The seconds of a delay keep order, also where the part below a second starts again. -/
theorem secondsUnits_mono (le : smaller ≤ larger) : secondsUnits smaller ≤ secondsUnits larger := by
  have rest_lt : restUnits smaller < unitsPerOne := restUnits_lt smaller
  have quotient_le : smaller / millisecondsPerSecond ≤ larger / millisecondsPerSecond :=
    Nat.div_le_div_right le
  unfold secondsUnits
  rcases Nat.lt_or_eq_of_le quotient_le with quotient_lt | quotient_eq
  · rcases Nat.lt_or_eq_of_le (wholeUnits_mono le) with whole_lt | whole_eq
    · have whole_add_le := wholeUnits_add_le whole_lt
      exact roundUnits_mono Nat.one_pos (by omega)
    · have step_ge := two_mul_unitsPerOne_le (wholeUnits_large quotient_lt whole_eq)
      have on_grid : 2 ^ unusedBits (wholeUnits smaller) ∣ wholeUnits smaller :=
        grid_dvd_roundUnits _ _
      calc roundUnits (wholeUnits smaller + restUnits smaller) 1
        _ = wholeUnits smaller := roundUnits_add_of_lt on_grid (by omega)
        _ = roundUnits (wholeUnits smaller) 1 := (roundUnits_one on_grid).symm
        _ ≤ roundUnits (wholeUnits larger + restUnits larger) 1 :=
          roundUnits_mono Nat.one_pos (by omega)
  · have remainder_le : smaller % millisecondsPerSecond ≤ larger % millisecondsPerSecond := by
      have smaller_eq := Nat.div_add_mod smaller millisecondsPerSecond
      have larger_eq := Nat.div_add_mod larger millisecondsPerSecond
      rw [quotient_eq] at smaller_eq
      omega
    exact roundUnits_mono Nat.one_pos
      (Nat.add_le_add (wholeUnits_mono le) (restUnits_mono remainder_le))

end Order

section Total

theorem exists_exact {number : Nat} (le : number ≤ 2 ^ 53) :
    ∃ magnitude, Magnitude.ofNat? number = some magnitude ∧
      magnitude.units = number * unitsPerOne := by
  rcases Magnitude.exists_ofNat? le (by decide) with ⟨magnitude, magnitude_eq, units_eq, -⟩
  exact ⟨magnitude, magnitude_eq, units_eq.trans (roundUnits_whole le)⟩

theorem exists_seconds? (delay : UInt64) :
    ∃ seconds, seconds? delay = some seconds ∧ seconds.units = secondsUnits delay.toNat ∧
      seconds.units ≤ 2 ^ 56 * unitsPerOne := by
  have delay_lt := delay.toNat_lt
  have remainder_lt : delay.toNat % millisecondsPerSecond < millisecondsPerSecond :=
    Nat.mod_lt _ (by decide)
  have seconds_small : delay.toNat / millisecondsPerSecond ≤ 2 ^ 55 := by
    simp only [millisecondsPerSecond]
    omega
  have rest_small : delay.toNat % millisecondsPerSecond * nanosecondsPerMillisecond ≤
      nanosecondCount := by
    simp only [millisecondsPerSecond, nanosecondsPerMillisecond, nanosecondCount] at *
    omega
  have count_small : nanosecondCount ≤ 2 ^ 53 := by decide
  rcases Magnitude.exists_ofNat? seconds_small (by decide) with
    ⟨whole, whole_eq, whole_units, whole_le⟩
  rcases exists_exact (rest_small.trans count_small) with ⟨rest, rest_eq, rest_units⟩
  rcases exists_exact count_small with ⟨count, count_eq, count_units⟩
  have count_pos : 0 < count.units := count_units ▸ Nat.mul_pos (by decide) unitsPerOne_pos
  have fraction_small : rest.units ≤ count.units * 2 ^ 0 := by
    rw [rest_units, count_units, Nat.pow_zero, Nat.mul_one]
    exact Nat.mul_le_mul_right _ rest_small
  rcases Magnitude.exists_div? count_pos fraction_small (by decide) with
    ⟨fraction, fraction_eq, fraction_units, fraction_le⟩
  have sum_small : whole.units + fraction.units ≤ 2 ^ 56 * unitsPerOne := by omega
  rcases Magnitude.exists_add? sum_small (by decide) with
    ⟨seconds, seconds_eq, seconds_units, seconds_le⟩
  refine ⟨seconds, ?_, ?_, seconds_le⟩
  · simp [seconds?, whole_eq, rest_eq, count_eq, fraction_eq, seconds_eq]
  · rw [seconds_units, whole_units, fraction_units, rest_units, count_units]
    rfl

/-- The nanoseconds of a delay at a speed, rounded. -/
def nanosecondsOf (speed : Speed) (milliseconds : Nat) : Nat :=
  roundHalfEven (roundUnits (secondsUnits milliseconds * unitsPerOne) speed.factor.units *
    nanosecondCount) unitsPerOne

theorem unitsPerOne_le_factor (speed : Speed) : unitsPerOne ≤ speed.factor.units * 2 ^ 4 :=
  calc unitsPerOne
    _ ≤ slowest.units * 2 ^ 4 := by decide +kernel
    _ ≤ speed.factor.units * 2 ^ 4 := Nat.mul_le_mul_right _ speed.slowest_le

theorem factor_pos (speed : Speed) : 0 < speed.factor.units := by
  have one_le := speed.unitsPerOne_le_factor
  have one_pos := unitsPerOne_pos
  omega

/-- Each step gives a number, at any speed and for any delay, and the last one is not too large. -/
theorem exists_quotient (speed : Speed) (delay : UInt64) :
    ∃ seconds quotient, seconds? delay = some seconds ∧
      seconds.div? speed.factor = some quotient ∧
      quotient.roundedCount nanosecondCount = speed.nanosecondsOf delay.toNat ∧
      quotient.roundedCount nanosecondCount ≤ nanosecondCount * 2 ^ 60 := by
  rcases exists_seconds? delay with ⟨seconds, seconds_eq, seconds_units, seconds_le⟩
  have quotient_small : seconds.units ≤ speed.factor.units * 2 ^ 60 := by
    have one_le := speed.unitsPerOne_le_factor
    generalize unitsPerOne = one at one_le seconds_le
    omega
  rcases Magnitude.exists_div? speed.factor_pos quotient_small (by decide) with
    ⟨quotient, quotient_eq, quotient_units, quotient_le⟩
  refine ⟨seconds, quotient, seconds_eq, quotient_eq, ?_, ?_⟩
  · rw [Magnitude.roundedCount, quotient_units, seconds_units, nanosecondsOf]
  · apply roundHalfEven_le_of_le_mul unitsPerOne_pos
    rw [Nat.mul_assoc, Nat.mul_comm]
    exact Nat.mul_le_mul_left _ quotient_le

/-- No step of the computation fails, at any speed and for any delay. -/
theorem scaledNanoseconds?_eq (speed : Speed) (delay : UInt64) :
    speed.scaledNanoseconds? delay = some (speed.nanosecondsOf delay.toNat) := by
  rcases speed.exists_quotient delay with ⟨seconds, quotient, seconds_eq, quotient_eq, count_eq, le⟩
  have seconds_bound : quotient.roundedCount nanosecondCount / nanosecondCount ≤ longestSeconds :=
    (Nat.div_le_of_le_mul le).trans (by decide)
  rw [← count_eq]
  -- Simplifying the steps away would make the kernel compute with the scale.
  unfold scaledNanoseconds?
  refine Option.bind_eq_some_iff.2 ⟨seconds, seconds_eq, ?_⟩
  refine Option.bind_eq_some_iff.2 ⟨quotient, quotient_eq, ?_⟩
  exact if_pos seconds_bound

theorem scaledNanoseconds_eq (speed : Speed) (delay : UInt64) :
    speed.scaledNanoseconds delay = speed.nanosecondsOf delay.toNat := by
  rw [scaledNanoseconds, scaledNanoseconds?_eq, Option.getD_some]

end Total

section Monotone

variable {smaller larger : UInt64}

/-- At any speed the longer of two delays does not become the shorter one. -/
theorem scaledNanoseconds_mono (speed : Speed) (le : smaller ≤ larger) :
    speed.scaledNanoseconds smaller ≤ speed.scaledNanoseconds larger := by
  rw [scaledNanoseconds_eq, scaledNanoseconds_eq]
  apply roundHalfEven_mono
  apply Nat.mul_le_mul_right
  apply roundUnits_mono speed.factor_pos
  apply Nat.mul_le_mul_right
  exact secondsUnits_mono (UInt64.le_iff_toNat_le.1 le)

/-- At any speed the longer of two delays is not over before the other one. -/
theorem scaledTicks_mono (speed : Speed) (le : smaller ≤ larger) :
    speed.scaledTicks smaller ≤ speed.scaledTicks larger :=
  Nat.div_le_div_right (Nat.add_le_add_right (speed.scaledNanoseconds_mono le) _)

end Monotone

end Speed

end ScriptedFeed
