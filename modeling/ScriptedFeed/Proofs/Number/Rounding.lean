import Mathlib.Tactic
import ScriptedFeed.Number.Binary64

/-!
# Rounding keeps order

A quotient is rounded on a grid that depends on the quotient, so that order is not evident where
the grid changes. It changes at powers of two only, and these are grid points on both sides: what
lies below a power of two is not rounded beyond it, and what lies above is not rounded below it.
-/

namespace ScriptedFeed

section HalfEven

variable {smaller larger numerator denominator count : Nat}

theorem roundHalfEven_mono (denominator : Nat) (le : smaller ≤ larger) :
    roundHalfEven smaller denominator ≤ roundHalfEven larger denominator := by
  have quotient_le : smaller / denominator ≤ larger / denominator := Nat.div_le_div_right le
  rcases Nat.lt_or_eq_of_le quotient_le with quotient_lt | quotient_eq
  · calc roundHalfEven smaller denominator
      _ ≤ smaller / denominator + 1 := roundHalfEven_le smaller denominator
      _ ≤ larger / denominator := quotient_lt
      _ ≤ roundHalfEven larger denominator := div_le_roundHalfEven larger denominator
  · have remainder_le : smaller % denominator ≤ larger % denominator := by
      have smaller_eq := Nat.div_add_mod smaller denominator
      have larger_eq := Nat.div_add_mod larger denominator
      rw [quotient_eq] at smaller_eq
      omega
    unfold roundHalfEven
    simp only [quotient_eq]
    split_ifs <;> omega

theorem roundHalfEven_mul (count : Nat) (positive : 0 < denominator) :
    roundHalfEven (count * denominator) denominator = count := by
  simp [roundHalfEven, Nat.mul_div_cancel count positive, positive]

theorem roundHalfEven_le_of_le_mul (positive : 0 < denominator)
    (le : numerator ≤ count * denominator) : roundHalfEven numerator denominator ≤ count :=
  (roundHalfEven_mono denominator le).trans_eq (roundHalfEven_mul count positive)

theorem le_roundHalfEven_of_mul_le (positive : 0 < denominator)
    (le : count * denominator ≤ numerator) : count ≤ roundHalfEven numerator denominator :=
  (roundHalfEven_mul count positive).symm.trans_le (roundHalfEven_mono denominator le)

/-- What exceeds a whole number by less than a half is rounded back to it. -/
theorem roundHalfEven_mul_add {excess : Nat} (count : Nat) (small : 2 * excess < denominator) :
    roundHalfEven (count * denominator + excess) denominator = count := by
  have excess_lt : excess < denominator := by omega
  have quotient_eq : (count * denominator + excess) / denominator = count := by
    rw [Nat.mul_comm, Nat.mul_add_div (by omega), Nat.div_eq_of_lt excess_lt, Nat.add_zero]
  have remainder_eq : (count * denominator + excess) % denominator = excess := by
    rw [Nat.mul_comm, Nat.mul_add_mod, Nat.mod_eq_of_lt excess_lt]
  simp [roundHalfEven, quotient_eq, remainder_eq, small]

theorem roundHalfEven_mul_right {factor : Nat} (numerator denominator : Nat)
    (positive : 0 < factor) :
    roundHalfEven (numerator * factor) (denominator * factor) =
      roundHalfEven numerator denominator := by
  have below_iff : 2 * (numerator % denominator * factor) < denominator * factor ↔
      2 * (numerator % denominator) < denominator := by
    rw [← Nat.mul_assoc, Nat.mul_lt_mul_right positive]
  have above_iff : denominator * factor < 2 * (numerator % denominator * factor) ↔
      denominator < 2 * (numerator % denominator) := by
    rw [← Nat.mul_assoc, Nat.mul_lt_mul_right positive]
  simp only [roundHalfEven, Nat.mul_div_mul_right _ _ positive, Nat.mul_mod_mul_right, below_iff,
    above_iff]

/-- The nearest whole number is not further away than a half. -/
theorem roundHalfEven_mul_bounds (numerator : Nat) (positive : 0 < denominator) :
    2 * (roundHalfEven numerator denominator * denominator) ≤ 2 * numerator + denominator ∧
      2 * numerator ≤ 2 * (roundHalfEven numerator denominator * denominator) + denominator := by
  have numerator_eq := Nat.div_add_mod' numerator denominator
  have remainder_lt := Nat.mod_lt numerator positive
  unfold roundHalfEven
  simp only
  split_ifs with isBelow isAbove
  · omega
  · rw [Nat.add_mul]
    omega
  · rcases Nat.mod_two_eq_zero_or_one (numerator / denominator) with isEven | isOdd
    · rw [isEven, Nat.add_zero]
      omega
    · rw [isOdd, Nat.add_mul]
      omega

end HalfEven

section Units

variable {smaller larger numerator denominator limit bits units : Nat}

theorem roundUnits_eq (numerator denominator : Nat) :
    roundUnits numerator denominator =
      roundHalfEven numerator (denominator * 2 ^ unusedBits (numerator / denominator)) *
        2 ^ unusedBits (numerator / denominator) :=
  rfl

/-- A quotient is not rounded beyond a point of its own grid. -/
theorem roundUnits_le_of_dvd (positive : 0 < denominator)
    (on_grid : 2 ^ unusedBits (numerator / denominator) ∣ limit)
    (le : numerator ≤ denominator * limit) : roundUnits numerator denominator ≤ limit := by
  rcases on_grid with ⟨count, rfl⟩
  rw [roundUnits_eq, Nat.mul_comm (2 ^ _) count]
  apply Nat.mul_le_mul_right
  apply roundHalfEven_le_of_le_mul (Nat.mul_pos positive (Nat.two_pow_pos _))
  rwa [Nat.mul_left_comm, Nat.mul_comm count]

/-- A quotient is not rounded below a point of its own grid. -/
theorem le_roundUnits_of_dvd (positive : 0 < denominator)
    (on_grid : 2 ^ unusedBits (numerator / denominator) ∣ limit)
    (le : denominator * limit ≤ numerator) : limit ≤ roundUnits numerator denominator := by
  rcases on_grid with ⟨count, rfl⟩
  rw [roundUnits_eq, Nat.mul_comm (2 ^ _) count]
  apply Nat.mul_le_mul_right
  apply le_roundHalfEven_of_mul_le (Nat.mul_pos positive (Nat.two_pow_pos _))
  rwa [Nat.mul_left_comm, Nat.mul_comm count]

theorem unusedBits_mono (le : smaller ≤ larger) : unusedBits smaller ≤ unusedBits larger := by
  have log_le : smaller.log2 ≤ larger.log2 := by
    by_cases isZero : smaller = 0
    · simp [isZero]
    · exact (Nat.le_log2 (by omega)).2 ((Nat.log2_self_le isZero).trans le)
  unfold unusedBits
  omega

theorem roundUnits_le_two_pow (positive : 0 < denominator)
    (le : numerator ≤ denominator * 2 ^ bits) : roundUnits numerator denominator ≤ 2 ^ bits := by
  apply roundUnits_le_of_dvd positive _ le
  apply Nat.pow_dvd_pow
  have quotient_le : numerator / denominator ≤ 2 ^ bits := Nat.div_le_of_le_mul le
  have unused_le := unusedBits_mono quotient_le
  have unused_eq : unusedBits (2 ^ bits) = bits - 52 := by
    unfold unusedBits
    rw [Nat.log2_two_pow]
  omega

/-- Rounding keeps order, also where the grid changes. -/
theorem roundUnits_mono (positive : 0 < denominator) (le : smaller ≤ larger) :
    roundUnits smaller denominator ≤ roundUnits larger denominator := by
  have quotient_le : smaller / denominator ≤ larger / denominator := Nat.div_le_div_right le
  rcases Nat.lt_or_eq_of_le (unusedBits_mono quotient_le) with grid_lt | grid_eq
  · -- The leading bit of the larger quotient is a point of both grids between the two.
    let bits := (larger / denominator).log2
    have log_lt : (smaller / denominator).log2 < bits := by
      unfold unusedBits at grid_lt
      omega
    have larger_ne_zero : larger / denominator ≠ 0 := by
      intro isZero
      simp [bits, isZero] at log_lt
    have smaller_lt : smaller / denominator < 2 ^ bits := by
      exact Nat.lt_log2_self.trans_le (Nat.pow_le_pow_right Nat.two_pos log_lt)
    have le_larger : 2 ^ bits ≤ larger / denominator := Nat.log2_self_le larger_ne_zero
    calc roundUnits smaller denominator
      _ ≤ 2 ^ bits := by
        apply roundUnits_le_two_pow positive
        rw [Nat.mul_comm]
        exact ((Nat.div_lt_iff_lt_mul positive).1 smaller_lt).le
      _ ≤ roundUnits larger denominator := by
        apply le_roundUnits_of_dvd positive
        · apply Nat.pow_dvd_pow
          unfold unusedBits
          omega
        · rw [Nat.mul_comm]
          exact (Nat.le_div_iff_mul_le positive).1 le_larger
  · rw [roundUnits_eq, roundUnits_eq, grid_eq]
    exact Nat.mul_le_mul_right _ (roundHalfEven_mono _ le)

theorem roundUnits_mul_right {factor : Nat} (numerator denominator : Nat) (positive : 0 < factor) :
    roundUnits (numerator * factor) (denominator * factor) = roundUnits numerator denominator := by
  rw [roundUnits_eq, roundUnits_eq, Nat.mul_div_mul_right _ _ positive, Nat.mul_right_comm,
    roundHalfEven_mul_right _ _ positive]

/-- Rounding keeps the order of quotients, whatever their denominators are. -/
theorem roundUnits_le_roundUnits {otherDenominator : Nat} (positive : 0 < denominator)
    (other_positive : 0 < otherDenominator)
    (le : smaller * otherDenominator ≤ larger * denominator) :
    roundUnits smaller denominator ≤ roundUnits larger otherDenominator := by
  calc roundUnits smaller denominator
    _ = roundUnits (smaller * otherDenominator) (denominator * otherDenominator) :=
      (roundUnits_mul_right _ _ other_positive).symm
    _ ≤ roundUnits (larger * denominator) (denominator * otherDenominator) :=
      roundUnits_mono (Nat.mul_pos positive other_positive) le
    _ = roundUnits (larger * denominator) (otherDenominator * denominator) := by
      rw [Nat.mul_comm denominator]
    _ = roundUnits larger otherDenominator := roundUnits_mul_right _ _ positive

theorem roundUnits_mul (positive : 0 < denominator) (on_grid : 2 ^ unusedBits units ∣ units) :
    roundUnits (denominator * units) denominator = units := by
  have quotient_eq : denominator * units / denominator = units :=
    Nat.mul_div_cancel_left units positive
  apply le_antisymm
  · exact roundUnits_le_of_dvd positive (by rwa [quotient_eq]) le_rfl
  · exact le_roundUnits_of_dvd positive (by rwa [quotient_eq]) le_rfl

theorem roundUnits_one (on_grid : 2 ^ unusedBits units ∣ units) : roundUnits units 1 = units := by
  simpa using roundUnits_mul Nat.one_pos on_grid

/-- Adding less than a step of its grid does not take a number to the next power of two. -/
theorem log2_add_of_lt {excess : Nat} (nonzero : units ≠ 0)
    (on_grid : 2 ^ unusedBits units ∣ units) (small : excess < 2 ^ unusedBits units) :
    (units + excess).log2 = units.log2 := by
  rcases on_grid with ⟨count, count_eq⟩
  have room : 2 ^ unusedBits units * 2 ^ (units.log2 + 1 - unusedBits units) =
      2 ^ (units.log2 + 1) := by
    rw [← Nat.pow_add]
    congr 1
    unfold unusedBits
    omega
  have count_lt : count < 2 ^ (units.log2 + 1 - unusedBits units) := by
    apply Nat.lt_of_mul_lt_mul_left (a := 2 ^ unusedBits units)
    rw [room, ← count_eq]
    exact Nat.lt_log2_self
  have below : units + excess < 2 ^ (units.log2 + 1) := by
    calc units + excess
      _ < units + 2 ^ unusedBits units := Nat.add_lt_add_left small units
      _ = 2 ^ unusedBits units * (count + 1) := by rw [Nat.mul_succ, ← count_eq]
      _ ≤ 2 ^ (units.log2 + 1) := room ▸ Nat.mul_le_mul_left _ count_lt
  apply (Nat.log2_eq_iff (by omega)).2
  exact ⟨(Nat.log2_self_le nonzero).trans (Nat.le_add_right units excess), below⟩

/-- What exceeds a number of the format by less than half a step is rounded back to it. -/
theorem roundUnits_add_of_lt {excess : Nat} (on_grid : 2 ^ unusedBits units ∣ units)
    (small : 2 * excess < 2 ^ unusedBits units) : roundUnits (units + excess) 1 = units := by
  by_cases isZero : units = 0
  · have excess_eq : excess = 0 := by
      simp [unusedBits, isZero] at small
      omega
    rw [excess_eq]
    exact roundUnits_one on_grid
  · have grid_eq : unusedBits (units + excess) = unusedBits units := by
      unfold unusedBits
      rw [log2_add_of_lt isZero on_grid (by omega)]
    rcases on_grid with ⟨count, count_eq⟩
    rw [roundUnits_eq, Nat.div_one, Nat.one_mul, grid_eq]
    nth_rewrite 1 [count_eq]
    rw [Nat.mul_comm _ count, roundHalfEven_mul_add count small, Nat.mul_comm, ← count_eq]

end Units

end ScriptedFeed
