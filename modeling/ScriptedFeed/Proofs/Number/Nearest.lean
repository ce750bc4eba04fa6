import ScriptedFeed.Proofs.Number.Shortest
import ScriptedFeed.Proofs.Number.Value

/-!
# A quotient is rounded to the nearest number

No number of the format is nearer to a quotient than the one it is rounded to. A quotient that is
equal to the shortest decimal of a number is rounded to the number, however it is written. The
decimal itself is not further from the number than half a step of its grid.
-/

namespace ScriptedFeed

/-- The decimal as a rational number. -/
def Decimal.value (decimal : Decimal) : ℚ :=
  decimal.significand * 10 ^ decimal.exponent

namespace Magnitude

variable {magnitude : Magnitude} {numerator denominator : ℕ}

/-- The shortest decimal of a positive number is a quotient of its rounding interval. -/
theorem exists_isRead_shortest (nonzero : magnitude.units ≠ 0) :
    ∃ steps scale : ℕ, 0 < scale ∧ magnitude.isReadFrom (2 * steps) scale ∧
      magnitude.shortest.value * unitsPerOne = steps / scale := by
  rcases (isNear_shortest nonzero).isRead with ⟨places, exponent_eq, isRead⟩
  refine ⟨magnitude.shortest.significand * 10 ^ places * unitsPerOne, Nat.pow 10 shortestPlaces,
    ?_, ?_, ?_⟩
  · rw [Nat.pow_eq]
    positivity
  · rw [IsRead, Nat.mul_assoc, Nat.mul_assoc, ← Nat.mul_assoc _ _ unitsPerOne] at isRead
    exact isRead
  · rw [Nat.pow_eq, Decimal.value, exponent_eq, zpow_sub₀ (by norm_num), zpow_natCast, zpow_natCast]
    push_cast
    ring

theorem value_shortest_of_zero (isZero : magnitude.units = 0) : magnitude.shortest.value = 0 := by
  rw [shortest, if_pos isZero, Decimal.value, Nat.cast_zero, zero_mul]

/-- What is equal to the shortest decimal of a number is rounded to the number. -/
theorem roundUnits_shortest (positive : 0 < denominator)
    (value_eq : (numerator : ℚ) / denominator = magnitude.shortest.value * unitsPerOne) :
    roundUnits numerator denominator = magnitude.units := by
  have denominator_ne : (denominator : ℚ) ≠ 0 := Nat.cast_ne_zero.2 positive.ne'
  by_cases isZero : magnitude.units = 0
  · rw [value_shortest_of_zero isZero, zero_mul, div_eq_zero_iff, Nat.cast_eq_zero,
      or_iff_left denominator_ne] at value_eq
    simp [value_eq, isZero, roundUnits_eq, roundHalfEven]
  · rcases exists_isRead_shortest isZero with ⟨steps, scale, scale_pos, isRead, shortest_eq⟩
    have same : (numerator : ℚ) * scale = steps * denominator := by
      rw [← div_eq_div_iff denominator_ne (Nat.cast_ne_zero.2 scale_pos.ne'), value_eq, shortest_eq]
    have same : numerator * scale = steps * denominator := by exact_mod_cast same
    apply roundUnits_of_isReadFrom positive
    apply isReadFrom_of_mul_eq scale_pos positive _ isRead
    rw [Nat.mul_assoc, Nat.mul_assoc, same]

theorem lowerReach_le (magnitude : Magnitude) :
    magnitude.lowerReach ≤ 2 ^ unusedBits magnitude.units := by
  rw [lowerReach]
  simp only [Nat.pow_eq]
  split_ifs
  · exact Nat.pow_le_pow_right Nat.two_pos (Nat.sub_le _ _)
  · exact le_rfl

/-- The shortest decimal of a number is not further from it than half a step of its grid. -/
theorem abs_shortest_sub_le (magnitude : Magnitude) :
    |magnitude.shortest.value * unitsPerOne - magnitude.units| ≤
      2 ^ unusedBits magnitude.units / 2 := by
  by_cases isZero : magnitude.units = 0
  · rw [value_shortest_of_zero isZero, isZero, zero_mul, Nat.cast_zero, sub_zero, abs_zero]
    positivity
  · rcases exists_isRead_shortest isZero with ⟨steps, scale, scale_pos, isRead, shortest_eq⟩
    rcases bounds_of_isReadFrom isRead with ⟨lower_le, le_upper, -⟩
    have reach_le := Nat.mul_le_mul_right scale magnitude.lowerReach_le
    rw [Nat.sub_mul] at lower_le
    rw [upperReach, Nat.pow_eq, Nat.add_mul] at le_upper
    have below : 2 * magnitude.units * scale ≤
        2 * steps + 2 ^ unusedBits magnitude.units * scale := by omega
    have below : 2 * (magnitude.units : ℚ) * scale ≤
        2 * steps + 2 ^ unusedBits magnitude.units * scale := by exact_mod_cast below
    have above : (2 * steps : ℚ) ≤
        2 * magnitude.units * scale + 2 ^ unusedBits magnitude.units * scale := by
      exact_mod_cast le_upper
    have scale_pos : (0 : ℚ) < scale := Nat.cast_pos.2 scale_pos
    rw [shortest_eq, abs_le]
    constructor
    · rw [neg_le_sub_iff_le_add, ← sub_le_iff_le_add, le_div_iff₀ scale_pos]
      linarith
    · rw [sub_le_iff_le_add, div_le_iff₀ scale_pos]
      linarith

end Magnitude

section Rounding

variable {numerator denominator : ℕ}

/-- No whole number is nearer to a quotient than the one it is rounded to. -/
theorem abs_roundHalfEven_sub_le_abs (numerator : ℕ) (positive : 0 < denominator) (count : ℕ) :
    |(roundHalfEven numerator denominator : ℚ) - numerator / denominator| ≤
      |(count : ℚ) - numerator / denominator| := by
  by_cases same : count = roundHalfEven numerator denominator
  · rw [same]
  · have near := abs_roundHalfEven_sub_le numerator positive
    have apart : (1 : ℚ) ≤ |(count : ℚ) - roundHalfEven numerator denominator| := by
      have apart_ne : (count : ℤ) - roundHalfEven numerator denominator ≠ 0 :=
        sub_ne_zero.2 (Nat.cast_injective.ne same)
      exact_mod_cast Int.one_le_abs apart_ne
    have parts := abs_sub_le (count : ℚ) (numerator / denominator)
      (roundHalfEven numerator denominator)
    rw [abs_sub_comm (numerator / denominator : ℚ)] at parts
    linarith

/-- No point of its grid is nearer to a quotient than the one it is rounded to. -/
theorem abs_roundUnits_sub_le_of_dvd (positive : 0 < denominator) {units : ℕ}
    (on_grid : 2 ^ unusedBits (numerator / denominator) ∣ units) :
    |(roundUnits numerator denominator : ℚ) - numerator / denominator| ≤
      |(units : ℚ) - numerator / denominator| := by
  rcases on_grid with ⟨count, rfl⟩
  rw [roundUnits_eq]
  generalize unusedBits (numerator / denominator) = bits
  have nearest := abs_roundHalfEven_sub_le_abs numerator
    (Nat.mul_pos positive (Nat.two_pow_pos bits)) count
  push_cast at nearest ⊢
  rw [mul_comm ((2 : ℚ) ^ bits), abs_mul_two_pow_sub, abs_mul_two_pow_sub]
  exact mul_le_mul_of_nonneg_right nearest (by positivity)

/-- A number that is not on the grid of a quotient is below a power of two that is. -/
theorem exists_two_pow_between {magnitude : Magnitude}
    (off_grid : ¬2 ^ unusedBits (numerator / denominator) ∣ magnitude.units) :
    ∃ bits, magnitude.units ≤ 2 ^ bits ∧ 2 ^ bits ≤ numerator / denominator ∧
      unusedBits (numerator / denominator) ≤ bits := by
  have finer : unusedBits magnitude.units < unusedBits (numerator / denominator) := by
    by_contra coarser
    exact off_grid ((Nat.pow_dvd_pow 2 (Nat.not_lt.1 coarser)).trans magnitude.isRepresentable.2)
  have nonzero : numerator / denominator ≠ 0 := by
    intro isZero
    simp [unusedBits, isZero] at finer
  refine ⟨(numerator / denominator).log2, ?_, Nat.log2_self_le nonzero, Nat.sub_le _ _⟩
  apply (lt_two_pow_unusedBits magnitude.units).le.trans
  apply Nat.pow_le_pow_right Nat.two_pos
  have unused_eq : unusedBits (numerator / denominator) = (numerator / denominator).log2 - 52 := rfl
  omega

/-- No number of the format is nearer to a quotient than the one it is rounded to. -/
theorem abs_roundUnits_sub_le_abs (positive : 0 < denominator) (other : Magnitude) :
    |(roundUnits numerator denominator : ℚ) - numerator / denominator| ≤
      |(other.units : ℚ) - numerator / denominator| := by
  by_cases on_grid : 2 ^ unusedBits (numerator / denominator) ∣ other.units
  · exact abs_roundUnits_sub_le_of_dvd positive on_grid
  · rcases exists_two_pow_between on_grid with ⟨bits, other_le, le_quotient, on_grid⟩
    have nearest := abs_roundUnits_sub_le_of_dvd positive (Nat.pow_dvd_pow 2 on_grid)
    have other_le : (other.units : ℚ) ≤ (2 ^ bits : ℕ) := Nat.cast_le.2 other_le
    have le_quotient : ((2 ^ bits : ℕ) : ℚ) ≤ numerator / denominator :=
      (Nat.cast_le.2 le_quotient).trans Nat.cast_div_le
    rw [abs_of_nonpos (sub_nonpos.2 le_quotient)] at nearest
    rw [abs_of_nonpos (sub_nonpos.2 (other_le.trans le_quotient))]
    linarith

end Rounding

end ScriptedFeed
