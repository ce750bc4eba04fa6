import ScriptedFeed.Proofs.Number.Rounding

/-!
# When arithmetic does not overflow

The operations on magnitudes fail where a result is too large for the format. Below a power of two
that the format has room for they succeed, and their result is the rounded exact one. Whole numbers
stay whole when they are rounded, and up to 53 bits they are not changed.
-/

namespace ScriptedFeed

/-- One and the first number that is too large are powers of two in least units. -/
theorem exists_unitBits :
    ∃ unitBits, 64 ≤ unitBits ∧ unitsPerOne = 2 ^ unitBits ∧
      overflowBound = 2 ^ (1024 + unitBits) := by
  refine ⟨1074, ?_, ?_, ?_⟩ <;> decide +kernel

theorem unitsPerOne_pos : 0 < unitsPerOne := by
  rcases exists_unitBits with ⟨unitBits, -, unitsPerOne_eq, -⟩
  exact unitsPerOne_eq ▸ Nat.two_pow_pos unitBits

namespace Magnitude

variable {numerator denominator bits number : Nat}

theorem units_of_nearestUnits? {magnitude : Magnitude}
    (found : nearestUnits? numerator denominator = some magnitude) :
    magnitude.units = roundUnits numerator denominator := by
  rw [nearestUnits?] at found
  split_ifs at found
  rw [Option.some_inj] at found
  rw [← found]

theorem units_of_ofNat? {magnitude : Magnitude} (found : ofNat? number = some magnitude) :
    magnitude.units = roundUnits (number * unitsPerOne) 1 := by
  rw [ofNat?, ofRatio?] at found
  exact units_of_nearestUnits? found

theorem exists_nearestUnits? (positive : 0 < denominator)
    (le : numerator ≤ denominator * (2 ^ bits * unitsPerOne)) (bits_lt : bits < 1024) :
    ∃ magnitude, nearestUnits? numerator denominator = some magnitude ∧
      magnitude.units = roundUnits numerator denominator ∧
      magnitude.units ≤ 2 ^ bits * unitsPerOne := by
  rcases exists_unitBits with ⟨unitBits, -, unitsPerOne_eq, overflowBound_eq⟩
  rw [unitsPerOne_eq, ← Nat.pow_add] at le ⊢
  have units_le := roundUnits_le_two_pow positive le
  have bound : roundUnits numerator denominator < overflowBound := by
    rw [overflowBound_eq]
    exact units_le.trans_lt (Nat.pow_lt_pow_right Nat.one_lt_two (Nat.add_lt_add_right bits_lt _))
  refine ⟨⟨_, bound, grid_dvd_roundUnits _ _⟩, ?_, rfl, units_le⟩
  rw [nearestUnits?, dif_pos bound]

theorem exists_ofNat? (le : number ≤ 2 ^ bits) (bits_lt : bits < 1024) :
    ∃ magnitude, ofNat? number = some magnitude ∧
      magnitude.units = roundUnits (number * unitsPerOne) 1 ∧
      magnitude.units ≤ 2 ^ bits * unitsPerOne := by
  unfold ofNat? ofRatio?
  refine exists_nearestUnits? Nat.one_pos ?_ bits_lt
  rw [Nat.one_mul]
  exact Nat.mul_le_mul_right _ le

theorem exists_add? {left right : Magnitude}
    (le : left.units + right.units ≤ 2 ^ bits * unitsPerOne) (bits_lt : bits < 1024) :
    ∃ magnitude, left.add? right = some magnitude ∧
      magnitude.units = roundUnits (left.units + right.units) 1 ∧
      magnitude.units ≤ 2 ^ bits * unitsPerOne :=
  exists_nearestUnits? Nat.one_pos (by rwa [Nat.one_mul]) bits_lt

theorem exists_div? {left right : Magnitude} (positive : 0 < right.units)
    (le : left.units ≤ right.units * 2 ^ bits) (bits_lt : bits < 1024) :
    ∃ magnitude, left.div? right = some magnitude ∧
      magnitude.units = roundUnits (left.units * unitsPerOne) right.units ∧
      magnitude.units ≤ 2 ^ bits * unitsPerOne := by
  rw [div?, if_neg positive.ne']
  refine exists_nearestUnits? positive ?_ bits_lt
  rw [← Nat.mul_assoc]
  exact Nat.mul_le_mul_right _ le

section Monotone

variable {smaller larger : Nat} {bound : Magnitude}

theorem exists_nearestUnits?_of_le (positive : 0 < denominator) (le : smaller ≤ larger)
    (found : nearestUnits? larger denominator = some bound) :
    ∃ magnitude, nearestUnits? smaller denominator = some magnitude ∧
      magnitude.units ≤ bound.units := by
  have units_le := roundUnits_mono positive le
  rw [nearestUnits?] at found
  split_ifs at found with in_range
  rw [Option.some_inj] at found
  rw [← found]
  refine ⟨⟨_, units_le.trans_lt in_range, grid_dvd_roundUnits _ _⟩, ?_, units_le⟩
  rw [nearestUnits?, dif_pos (units_le.trans_lt in_range)]

theorem exists_ofNat?_of_le (le : smaller ≤ larger) (found : ofNat? larger = some bound) :
    ∃ magnitude, ofNat? smaller = some magnitude ∧ magnitude.units ≤ bound.units := by
  unfold ofNat? ofRatio? at found ⊢
  exact exists_nearestUnits?_of_le Nat.one_pos (Nat.mul_le_mul_right unitsPerOne le) found

theorem exists_mul?_of_le {left right greaterLeft greaterRight : Magnitude}
    (left_le : left.units ≤ greaterLeft.units) (right_le : right.units ≤ greaterRight.units)
    (found : greaterLeft.mul? greaterRight = some bound) :
    ∃ magnitude, left.mul? right = some magnitude ∧ magnitude.units ≤ bound.units := by
  unfold mul? at found ⊢
  exact exists_nearestUnits?_of_le unitsPerOne_pos (Nat.mul_le_mul left_le right_le) found

end Monotone

end Magnitude

section Whole

variable {number : Nat}

theorem roundUnits_whole (le : number ≤ 2 ^ 53) :
    roundUnits (number * unitsPerOne) 1 = number * unitsPerOne := by
  rcases exists_unitBits with ⟨unitBits, -, unitsPerOne_eq, -⟩
  rw [unitsPerOne_eq]
  exact roundUnits_one (grid_dvd_of_le le)

theorem unitsPerOne_dvd_roundUnits (number : Nat) :
    unitsPerOne ∣ roundUnits (number * unitsPerOne) 1 := by
  rcases exists_unitBits with ⟨unitBits, -, unitsPerOne_eq, -⟩
  rw [unitsPerOne_eq]
  rcases Nat.le_total (unusedBits (number * 2 ^ unitBits)) unitBits with fine | coarse
  · have on_grid : 2 ^ unusedBits (number * 2 ^ unitBits) ∣ number * 2 ^ unitBits :=
      (Nat.pow_dvd_pow 2 fine).trans (Nat.dvd_mul_left _ number)
    rw [roundUnits_one on_grid]
    exact Nat.dvd_mul_left _ number
  · rw [roundUnits_eq, Nat.div_one]
    exact (Nat.pow_dvd_pow 2 coarse).trans (Nat.dvd_mul_left _ _)

/-- From 2 to the power of 53 on, the numbers of the format are at least two apart. -/
theorem two_mul_unitsPerOne_le (le : 2 ^ 53 * unitsPerOne ≤ number) :
    2 * unitsPerOne ≤ 2 ^ unusedBits number := by
  rcases exists_unitBits with ⟨unitBits, -, unitsPerOne_eq, -⟩
  rw [unitsPerOne_eq, ← Nat.pow_add] at le
  have number_ne_zero : number ≠ 0 := ((Nat.two_pow_pos _).trans_le le).ne'
  have log_le : 53 + unitBits ≤ number.log2 := (Nat.le_log2 number_ne_zero).2 le
  calc 2 * unitsPerOne
    _ = 2 ^ (unitBits + 1) := by rw [unitsPerOne_eq, Nat.pow_succ, Nat.mul_comm]
    _ ≤ 2 ^ unusedBits number := by
      apply Nat.pow_le_pow_right Nat.two_pos
      unfold unusedBits
      omega

theorem Magnitude.unitsPerOne_le_of_ofNat? {magnitude : Magnitude} (positive : 0 < number)
    (found : ofNat? number = some magnitude) : unitsPerOne ≤ magnitude.units := by
  have one_eq : roundUnits (1 * unitsPerOne) 1 = 1 * unitsPerOne := roundUnits_whole (by omega)
  rw [units_of_ofNat? found]
  calc unitsPerOne
    _ = roundUnits (1 * unitsPerOne) 1 := by rw [one_eq, Nat.one_mul]
    _ ≤ roundUnits (number * unitsPerOne) 1 := by
      apply roundUnits_mono Nat.one_pos
      exact Nat.mul_le_mul_right unitsPerOne positive

end Whole

end ScriptedFeed
