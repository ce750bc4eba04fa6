import ScriptedFeed.Number.Shortest
import ScriptedFeed.Proofs.Number.Rounding

/-!
# What lies in the rounding interval of a number rounds to it

The interval reaches half way to the next number on either side. Above the number, and below it
unless it is a power of two, the quotients of the interval are rounded on the grid of the number.
Below a power of two they are rounded on a grid twice as fine, and the interval is half as long.
-/

namespace ScriptedFeed

variable {numerator denominator count units bits : Nat}

/-- What is not further from a whole number than a half is rounded to it, or it is odd. -/
theorem roundHalfEven_eq_of_near (positive : 0 < denominator)
    (below : 2 * (count * denominator) ≤ 2 * numerator + denominator)
    (above : 2 * numerator ≤ 2 * (count * denominator) + denominator)
    (inside : count % 2 = 1 → 2 * (count * denominator) < 2 * numerator + denominator ∧
      2 * numerator < 2 * (count * denominator) + denominator) :
    roundHalfEven numerator denominator = count := by
  have numerator_eq := Nat.div_add_mod' numerator denominator
  have remainder_lt := Nat.mod_lt numerator positive
  unfold roundHalfEven
  generalize numerator / denominator = quotient at *
  generalize numerator % denominator = remainder at *
  have count_le : count ≤ quotient + 1 := by
    by_contra greater
    have product_le := Nat.mul_le_mul_right denominator (show quotient + 2 ≤ count by omega)
    rw [Nat.add_mul] at product_le
    omega
  have quotient_le : quotient ≤ count := by
    by_contra less
    have product_le := Nat.mul_le_mul_right denominator (show count + 1 ≤ quotient by omega)
    rw [Nat.add_mul] at product_le
    omega
  rcases Nat.lt_or_eq_of_le quotient_le with less | same
  · have count_eq : count = quotient + 1 := by omega
    subst count_eq
    rw [Nat.add_mul] at below inside
    simp only
    split_ifs <;> omega
  · subst same
    simp only
    split_ifs <;> omega

theorem lt_two_pow_unusedBits (units : Nat) : units < 2 ^ (unusedBits units + 53) := by
  apply Nat.lt_log2_self.trans_le
  apply Nat.pow_le_pow_right Nat.two_pos
  unfold unusedBits
  omega

theorem unusedBits_eq (large : bits = 0 ∨ 2 ^ (bits + 52) ≤ units)
    (small : units < 2 ^ (bits + 53)) : unusedBits units = bits := by
  apply le_antisymm (unusedBits_le_of_lt small)
  rcases large with rfl | large
  · exact Nat.zero_le _
  · have nonzero : units ≠ 0 := ((Nat.two_pow_pos _).trans_le large).ne'
    have log_ge := (Nat.le_log2 nonzero).2 large
    rw [unusedBits]
    omega

theorem unusedBits_div_eq (positive : 0 < denominator)
    (large : bits = 0 ∨ 2 ^ (bits + 52) * denominator ≤ numerator)
    (small : numerator < 2 ^ (bits + 53) * denominator) :
    unusedBits (numerator / denominator) = bits := by
  refine unusedBits_eq (large.imp_right fun large => ?_) ?_
  · exact (Nat.le_div_iff_mul_le positive).2 large
  · exact (Nat.div_lt_iff_lt_mul positive).2 small

/-- A quotient is rounded to a point of its grid if it is not further away than half a step. -/
theorem roundUnits_eq_of_near (positive : 0 < denominator)
    (bits_eq : unusedBits (numerator / denominator) = bits)
    (below : 2 * (count * 2 ^ bits * denominator) ≤ 2 * numerator + 2 ^ bits * denominator)
    (above : 2 * numerator ≤ 2 * (count * 2 ^ bits * denominator) + 2 ^ bits * denominator)
    (inside : count % 2 = 1 →
      2 * (count * 2 ^ bits * denominator) < 2 * numerator + 2 ^ bits * denominator ∧
      2 * numerator < 2 * (count * 2 ^ bits * denominator) + 2 ^ bits * denominator) :
    roundUnits numerator denominator = count * 2 ^ bits := by
  rw [roundUnits_eq, bits_eq, Nat.mul_comm denominator]
  rw [Nat.mul_assoc] at below above inside
  rw [roundHalfEven_eq_of_near (Nat.mul_pos (Nat.two_pow_pos bits) positive) below above inside]

namespace Magnitude

variable {magnitude : Magnitude}

/-- A number of the format counts steps of its grid, and it fills 53 bits unless this is one. -/
theorem exists_count (magnitude : Magnitude) :
    ∃ bits count, unusedBits magnitude.units = bits ∧ magnitude.units = count * 2 ^ bits ∧
      count < 2 ^ 53 ∧ (bits = 0 ∨ 2 ^ 52 ≤ count) := by
  rcases magnitude.isRepresentable.2 with ⟨count, units_eq⟩
  rw [Nat.pow_eq, Nat.mul_comm] at units_eq
  refine ⟨_, count, rfl, units_eq, ?_, ?_⟩
  · have units_lt := lt_two_pow_unusedBits magnitude.units
    rw [Nat.pow_add, Nat.mul_comm (2 ^ _)] at units_lt
    nth_rewrite 1 [units_eq] at units_lt
    exact Nat.lt_of_mul_lt_mul_right units_lt
  · rcases Nat.eq_zero_or_pos (unusedBits magnitude.units) with isZero | positive
    · exact .inl isZero
    · right
      have nonzero : magnitude.units ≠ 0 := by
        intro isZero
        simp [unusedBits, isZero] at positive
      have le_units := Nat.log2_self_le nonzero
      have log_eq : magnitude.units.log2 = 52 + unusedBits magnitude.units := by
        rw [unusedBits] at positive ⊢
        omega
      rw [log_eq, Nat.pow_add] at le_units
      nth_rewrite 2 [units_eq] at le_units
      exact Nat.le_of_mul_le_mul_right le_units (Nat.two_pow_pos _)

theorem includesEnds_eq (magnitude : Magnitude) (bits_eq : unusedBits magnitude.units = bits)
    (units_eq : magnitude.units = count * 2 ^ bits) :
    magnitude.includesEnds = false ↔ count % 2 = 1 := by
  rw [includesEnds, bits_eq, units_eq, Nat.pow_eq, Nat.mul_div_cancel _ (Nat.two_pow_pos bits)]
  simp

theorem bounds_of_isReadFrom (isRead : magnitude.isReadFrom numerator denominator) :
    (2 * magnitude.units - magnitude.lowerReach) * denominator ≤ numerator ∧
    numerator ≤ (2 * magnitude.units + magnitude.upperReach) * denominator ∧
    (magnitude.includesEnds = false →
      (2 * magnitude.units - magnitude.lowerReach) * denominator < numerator ∧
      numerator < (2 * magnitude.units + magnitude.upperReach) * denominator) := by
  simp only [isReadFrom] at isRead
  split_ifs at isRead with ends <;>
    simp only [Bool.and_eq_true, decide_eq_true_eq] at isRead
  · exact ⟨isRead.1, isRead.2, by simp [ends]⟩
  · exact ⟨isRead.1.le, isRead.2.le, fun _ => isRead⟩

/-- Whether a quotient lies in the interval does not depend on how it is written. -/
theorem isReadFrom_of_mul_eq {otherNumerator otherDenominator : Nat} (positive : 0 < denominator)
    (other_positive : 0 < otherDenominator)
    (same : numerator * otherDenominator = otherNumerator * denominator)
    (isRead : magnitude.isReadFrom numerator denominator) :
    magnitude.isReadFrom otherNumerator otherDenominator := by
  have le_iff (limit : Nat) :
      limit * denominator ≤ numerator ↔ limit * otherDenominator ≤ otherNumerator := by
    rw [← Nat.mul_le_mul_right_iff other_positive, same, Nat.mul_right_comm,
      Nat.mul_le_mul_right_iff positive]
  have ge_iff (limit : Nat) :
      numerator ≤ limit * denominator ↔ otherNumerator ≤ limit * otherDenominator := by
    rw [← Nat.mul_le_mul_right_iff other_positive, same, Nat.mul_right_comm,
      Nat.mul_le_mul_right_iff positive]
  simpa only [isReadFrom, le_iff, ge_iff, ← Nat.not_le] using isRead

/-- From a number on, the rounding interval is rounded on the grid of the number. -/
theorem roundUnits_of_le (positive : 0 < denominator)
    (isRead : magnitude.isReadFrom (2 * numerator) denominator)
    (le : magnitude.units * denominator ≤ numerator) :
    roundUnits numerator denominator = magnitude.units := by
  rcases magnitude.exists_count with ⟨bits, count, bits_eq, units_eq, count_lt, count_ge⟩
  rcases bounds_of_isReadFrom isRead with ⟨-, le_upper, inside⟩
  have step_pos : 0 < 2 ^ bits * denominator := Nat.mul_pos (Nat.two_pow_pos bits) positive
  have ends_eq := magnitude.includesEnds_eq bits_eq units_eq
  rw [upperReach, bits_eq, Nat.pow_eq, Nat.add_mul, Nat.mul_assoc] at le_upper inside
  have quotient_bits : unusedBits (numerator / denominator) = bits := by
    apply unusedBits_div_eq positive
    · refine count_ge.imp_right fun count_ge => le_trans ?_ le
      rw [units_eq, Nat.pow_add, Nat.mul_comm (2 ^ bits)]
      gcongr
    · have next_le : (count + 1) * (2 ^ bits * denominator) ≤ 2 ^ 53 * (2 ^ bits * denominator) :=
        Nat.mul_le_mul_right _ count_lt
      rw [units_eq, Nat.mul_assoc count] at le_upper
      rw [Nat.add_mul] at next_le
      rw [Nat.pow_add, Nat.mul_comm (2 ^ bits), Nat.mul_assoc]
      omega
  rw [units_eq] at le le_upper inside ⊢
  apply roundUnits_eq_of_near positive quotient_bits
  · omega
  · exact le_upper
  · intro isOdd
    exact ⟨by omega, (inside (ends_eq.2 isOdd)).2⟩

/-- Just below a power of two the rounding interval is rounded on a grid twice as fine. -/
theorem roundUnits_of_lt_two_pow (positive : 0 < denominator)
    (isRead : magnitude.isReadFrom (2 * numerator) denominator)
    (lt : numerator < magnitude.units * denominator)
    (bits_eq : unusedBits magnitude.units = bits + 1)
    (units_eq : magnitude.units = 2 ^ 53 * 2 ^ bits) :
    roundUnits numerator denominator = magnitude.units := by
  rcases bounds_of_isReadFrom isRead with ⟨lower_le, -, -⟩
  have isPower : magnitude.units = Nat.pow 2 (bits + 1 + 52) := by
    rw [units_eq, Nat.pow_eq, ← Nat.pow_add]
    congr 1
    omega
  rw [lowerReach, bits_eq, if_pos ⟨bits.succ_ne_zero, isPower⟩, Nat.sub_mul, Nat.pow_eq,
    Nat.add_sub_cancel] at lower_le
  rw [units_eq, Nat.mul_assoc (2 ^ 53)] at lt
  rw [units_eq, Nat.mul_assoc 2, Nat.mul_assoc (2 ^ 53)] at lower_le
  have quotient_bits : unusedBits (numerator / denominator) = bits := by
    apply unusedBits_div_eq positive
    · right
      rw [Nat.pow_add, Nat.mul_comm (2 ^ bits), Nat.mul_assoc]
      omega
    · rw [Nat.pow_add, Nat.mul_comm (2 ^ bits), Nat.mul_assoc]
      exact lt
  rw [units_eq]
  apply roundUnits_eq_of_near positive quotient_bits
  · rw [Nat.mul_assoc (2 ^ 53)]
    omega
  · rw [Nat.mul_assoc (2 ^ 53)]
    omega
  · intro isOdd
    omega

/-- Below any other number the rounding interval is rounded on the grid of the number. -/
theorem roundUnits_of_lt (positive : 0 < denominator)
    (isRead : magnitude.isReadFrom (2 * numerator) denominator)
    (lt : numerator < magnitude.units * denominator)
    (bits_eq : unusedBits magnitude.units = bits) (units_eq : magnitude.units = count * 2 ^ bits)
    (count_lt : count < 2 ^ 53) (count_gt : bits = 0 ∨ 2 ^ 52 < count) :
    roundUnits numerator denominator = magnitude.units := by
  rcases bounds_of_isReadFrom isRead with ⟨lower_le, -, inside⟩
  have ends_eq := magnitude.includesEnds_eq bits_eq units_eq
  have not_power : ¬(bits ≠ 0 ∧ magnitude.units = Nat.pow 2 (bits + 52)) := by
    rintro ⟨nonzero, isPower⟩
    rw [units_eq, Nat.pow_eq, Nat.pow_add, Nat.mul_comm (2 ^ bits)] at isPower
    have count_eq := Nat.eq_of_mul_eq_mul_right (Nat.two_pow_pos bits) isPower
    omega
  rw [lowerReach, bits_eq, if_neg not_power, Nat.sub_mul, Nat.pow_eq] at lower_le inside
  rw [units_eq, Nat.mul_assoc count] at lt
  rw [units_eq, Nat.mul_assoc 2, Nat.mul_assoc count] at lower_le inside
  have quotient_bits : unusedBits (numerator / denominator) = bits := by
    apply unusedBits_div_eq positive
    · refine count_gt.imp_right fun count_gt => ?_
      have next_le : (2 ^ 52 + 1) * (2 ^ bits * denominator) ≤ count * (2 ^ bits * denominator) :=
        Nat.mul_le_mul_right _ count_gt
      rw [Nat.add_mul] at next_le
      rw [Nat.pow_add, Nat.mul_comm (2 ^ bits), Nat.mul_assoc]
      omega
    · apply lt.trans_le
      rw [Nat.pow_add, Nat.mul_right_comm, Nat.mul_comm (2 ^ bits * denominator)]
      exact Nat.mul_le_mul_right _ count_lt.le
  rw [units_eq]
  apply roundUnits_eq_of_near positive quotient_bits
  · rw [Nat.mul_assoc count]
    omega
  · rw [Nat.mul_assoc count]
    omega
  · intro isOdd
    have strict := (inside (ends_eq.2 isOdd)).1
    rw [Nat.mul_assoc count]
    omega

/-- A quotient of the rounding interval is rounded to the number. -/
theorem roundUnits_of_isReadFrom (positive : 0 < denominator)
    (isRead : magnitude.isReadFrom (2 * numerator) denominator) :
    roundUnits numerator denominator = magnitude.units := by
  rcases Nat.lt_or_ge numerator (magnitude.units * denominator) with lt | ge
  · rcases magnitude.exists_count with ⟨bits, count, bits_eq, units_eq, count_lt, count_ge⟩
    by_cases isPower : bits ≠ 0 ∧ count = 2 ^ 52
    · rcases isPower with ⟨nonzero, rfl⟩
      rcases Nat.exists_eq_succ_of_ne_zero nonzero with ⟨bits, rfl⟩
      apply roundUnits_of_lt_two_pow positive isRead lt bits_eq
      rw [units_eq, Nat.succ_eq_add_one, Nat.pow_succ]
      ring
    · exact roundUnits_of_lt positive isRead lt bits_eq units_eq count_lt (by omega)
  · exact roundUnits_of_le positive isRead ge

end Magnitude

end ScriptedFeed
