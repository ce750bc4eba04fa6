import ScriptedFeed.Proofs.Number.Magnitude

/-!
# Numbers as rationals

Every finite number of the format is a rational number, and numbers are ordered by their values,
with an infinity at either end. A rounding takes a quotient to another number by at most half a step
of the grid. For what is not too small for the format, this is at most the part of 2 to the power of
minus 53; such parts add up over the steps of a computation, as long as nothing is subtracted. For
what may be too small, half a unit comes on top.
-/

namespace ScriptedFeed

/-- The magnitude as a rational number. -/
def Magnitude.value (magnitude : Magnitude) : ℚ :=
  magnitude.units / unitsPerOne

namespace Binary64

/-- The place of a number among the rational numbers and the two infinities. -/
def place? : Binary64 → Option (WithBot (WithTop ℚ))
  | nan => none
  | infinite true => some ⊥
  | infinite false => some ⊤
  | finite true magnitude => some ((-magnitude.value : ℚ) : WithTop ℚ)
  | finite false magnitude => some ((magnitude.value : ℚ) : WithTop ℚ)

/-- Whether a number is less than or equal to another; nothing is comparable to no number. -/
def AtMost (smaller larger : Binary64) : Prop :=
  ∃ below above, smaller.place? = some below ∧ larger.place? = some above ∧ below ≤ above

end Binary64

namespace Magnitude

theorem value_nonneg (magnitude : Magnitude) : 0 ≤ magnitude.value := by
  apply div_nonneg <;> exact Nat.cast_nonneg _

theorem value_le_value_iff {smaller larger : Magnitude} :
    smaller.value ≤ larger.value ↔ smaller.units ≤ larger.units := by
  have one_pos : (0 : ℚ) < unitsPerOne := Nat.cast_pos.2 unitsPerOne_pos
  rw [value, value, div_le_div_iff_of_pos_right one_pos, Nat.cast_le]

theorem value_eq_div {magnitude : Magnitude} {numerator denominator : ℕ} (nonzero : denominator ≠ 0)
    (units_eq : magnitude.units * denominator = numerator * unitsPerOne) :
    magnitude.value = numerator / denominator := by
  have one_ne : (unitsPerOne : ℚ) ≠ 0 := Nat.cast_ne_zero.2 unitsPerOne_pos.ne'
  rw [value, div_eq_div_iff one_ne (Nat.cast_ne_zero.2 nonzero)]
  exact_mod_cast units_eq

end Magnitude

/-- The part of a number by which rounding it changes it at most. -/
def roundoff : ℚ :=
  1 / 2 ^ 53

/-- Whether so many roundings can take a number to another. -/
def IsRoundedFrom (roundings : ℕ) (rounded exact : ℚ) : Prop :=
  |rounded - exact| ≤ ((1 + roundoff) ^ roundings - 1) * exact

namespace IsRoundedFrom

variable {roundings more : ℕ} {rounded exact otherRounded otherExact factor : ℚ}

theorem one_le_pow (roundings : ℕ) : 1 ≤ (1 + roundoff) ^ roundings := by
  apply one_le_pow₀
  norm_num [roundoff]

theorem refl (roundings : ℕ) (nonneg : 0 ≤ exact) : IsRoundedFrom roundings exact exact := by
  rw [IsRoundedFrom, sub_self, abs_zero]
  exact mul_nonneg (sub_nonneg.2 (one_le_pow roundings)) nonneg

theorem add (first : IsRoundedFrom roundings rounded exact)
    (second : IsRoundedFrom roundings otherRounded otherExact) :
    IsRoundedFrom roundings (rounded + otherRounded) (exact + otherExact) := by
  calc |rounded + otherRounded - (exact + otherExact)|
    _ = |rounded - exact + (otherRounded - otherExact)| := by rw [add_sub_add_comm]
    _ ≤ |rounded - exact| + |otherRounded - otherExact| := abs_add_le _ _
    _ ≤ ((1 + roundoff) ^ roundings - 1) * exact + ((1 + roundoff) ^ roundings - 1) * otherExact :=
      add_le_add first second
    _ = ((1 + roundoff) ^ roundings - 1) * (exact + otherExact) := (mul_add _ _ _).symm

theorem mul_right (isRounded : IsRoundedFrom roundings rounded exact) (nonneg : 0 ≤ factor) :
    IsRoundedFrom roundings (rounded * factor) (exact * factor) := by
  calc |rounded * factor - exact * factor|
    _ = |rounded - exact| * factor := by rw [← sub_mul, abs_mul, abs_of_nonneg nonneg]
    _ ≤ ((1 + roundoff) ^ roundings - 1) * exact * factor :=
      mul_le_mul_of_nonneg_right isRounded nonneg
    _ = ((1 + roundoff) ^ roundings - 1) * (exact * factor) := mul_assoc _ _ _

/-- The roundings of two steps of a computation count together. -/
theorem trans (first : IsRoundedFrom roundings rounded exact)
    (second : IsRoundedFrom more otherRounded rounded) :
    IsRoundedFrom (roundings + more) otherRounded exact := by
  have rounded_le : rounded ≤ (1 + roundoff) ^ roundings * exact := by
    have difference_le := (le_abs_self (rounded - exact)).trans first
    linarith
  have share_nonneg : 0 ≤ (1 + roundoff) ^ more - 1 := sub_nonneg.2 (one_le_pow more)
  calc |otherRounded - exact|
    _ ≤ |otherRounded - rounded| + |rounded - exact| := abs_sub_le _ _ _
    _ ≤ ((1 + roundoff) ^ more - 1) * rounded + ((1 + roundoff) ^ roundings - 1) * exact :=
      add_le_add second first
    _ ≤ ((1 + roundoff) ^ more - 1) * ((1 + roundoff) ^ roundings * exact) +
          ((1 + roundoff) ^ roundings - 1) * exact := by
      gcongr
    _ = ((1 + roundoff) ^ (roundings + more) - 1) * exact := by ring

/-- Rounding a divisor once counts twice in the quotient. -/
theorem inv (isRounded : IsRoundedFrom 1 rounded exact) (positive : 0 < exact) :
    IsRoundedFrom 2 (1 / rounded) (1 / exact) := by
  rw [IsRoundedFrom, pow_one, add_sub_cancel_left] at isRounded
  have difference := abs_le.1 isRounded
  have rounded_ge : (1 - roundoff) * exact ≤ rounded := by linarith
  have rounded_pos : 0 < rounded := by
    refine lt_of_lt_of_le (mul_pos ?_ positive) rounded_ge
    norm_num [roundoff]
  have share_le : roundoff ≤ ((1 + roundoff) ^ 2 - 1) * (1 - roundoff) := by
    norm_num [roundoff]
  have share_nonneg : 0 ≤ (1 + roundoff) ^ 2 - 1 := sub_nonneg.2 (one_le_pow 2)
  have difference_eq : 1 / rounded - 1 / exact = -(rounded - exact) / (rounded * exact) := by
    field_simp
    ring
  calc |1 / rounded - 1 / exact|
    _ = |rounded - exact| / (rounded * exact) := by
      rw [difference_eq, abs_div, abs_neg, abs_of_pos (mul_pos rounded_pos positive)]
    _ ≤ roundoff * exact / (rounded * exact) := by gcongr
    _ = roundoff / rounded := mul_div_mul_right _ _ positive.ne'
    _ ≤ ((1 + roundoff) ^ 2 - 1) * (1 / exact) := by
      rw [mul_one_div, div_le_div_iff₀ rounded_pos positive]
      calc roundoff * exact
        _ ≤ ((1 + roundoff) ^ 2 - 1) * (1 - roundoff) * exact := by gcongr
        _ = ((1 + roundoff) ^ 2 - 1) * ((1 - roundoff) * exact) := mul_assoc _ _ _
        _ ≤ ((1 + roundoff) ^ 2 - 1) * rounded := mul_le_mul_of_nonneg_left rounded_ge share_nonneg

end IsRoundedFrom

/--
Whether so many roundings can take a number to another, where some of them may be on the grid of
the least units, which does not get finer as the number gets smaller.
-/
def IsNearly (roundings : ℕ) (slack rounded exact : ℚ) : Prop :=
  |rounded - exact| ≤ ((1 + roundoff) ^ roundings - 1) * exact + slack

theorem IsRoundedFrom.isNearly {roundings : ℕ} {rounded exact : ℚ}
    (isRounded : IsRoundedFrom roundings rounded exact) : IsNearly roundings 0 rounded exact := by
  rw [IsNearly, add_zero]
  exact isRounded

namespace IsNearly

variable {roundings more : ℕ} {slack further rounded exact other factor : ℚ}

theorem mono (nearly : IsNearly roundings slack rounded exact) (nonneg : 0 ≤ exact)
    (more_le : roundings ≤ more) (slack_le : slack ≤ further) :
    IsNearly more further rounded exact := by
  have one_le : 1 ≤ 1 + roundoff := by norm_num [roundoff]
  calc |rounded - exact|
    _ ≤ ((1 + roundoff) ^ roundings - 1) * exact + slack := nearly
    _ ≤ ((1 + roundoff) ^ more - 1) * exact + further := by gcongr

theorem mul_right (nearly : IsNearly roundings slack rounded exact) (nonneg : 0 ≤ factor) :
    IsNearly roundings (slack * factor) (rounded * factor) (exact * factor) := by
  calc |rounded * factor - exact * factor|
    _ = |rounded - exact| * factor := by rw [← sub_mul, abs_mul, abs_of_nonneg nonneg]
    _ ≤ (((1 + roundoff) ^ roundings - 1) * exact + slack) * factor :=
      mul_le_mul_of_nonneg_right nearly nonneg
    _ = ((1 + roundoff) ^ roundings - 1) * (exact * factor) + slack * factor := by ring

/-- A later step of a computation enlarges what the earlier ones have added. -/
theorem trans (first : IsNearly roundings slack rounded exact)
    (second : IsNearly more further other rounded) :
    IsNearly (roundings + more) ((1 + roundoff) ^ more * slack + further) other exact := by
  have rounded_le : rounded ≤ (1 + roundoff) ^ roundings * exact + slack := by
    have difference_le := (le_abs_self (rounded - exact)).trans first
    linarith
  have share_nonneg : 0 ≤ (1 + roundoff) ^ more - 1 := sub_nonneg.2 (IsRoundedFrom.one_le_pow more)
  calc |other - exact|
    _ ≤ |other - rounded| + |rounded - exact| := abs_sub_le _ _ _
    _ ≤ (((1 + roundoff) ^ more - 1) * rounded + further) +
          (((1 + roundoff) ^ roundings - 1) * exact + slack) := add_le_add second first
    _ ≤ (((1 + roundoff) ^ more - 1) * ((1 + roundoff) ^ roundings * exact + slack) + further) +
          (((1 + roundoff) ^ roundings - 1) * exact + slack) := by gcongr
    _ = ((1 + roundoff) ^ (roundings + more) - 1) * exact +
          ((1 + roundoff) ^ more * slack + further) := by ring

end IsNearly

section Rounding

variable {numerator denominator : ℕ}

theorem abs_roundHalfEven_sub_le (numerator : ℕ) (positive : 0 < denominator) :
    |(roundHalfEven numerator denominator : ℚ) - numerator / denominator| ≤ 1 / 2 := by
  rcases roundHalfEven_mul_bounds numerator positive with ⟨above, below⟩
  have above_rat : (2 : ℚ) * (roundHalfEven numerator denominator * denominator) ≤
      2 * numerator + denominator := by exact_mod_cast above
  have below_rat : (2 : ℚ) * numerator ≤
      2 * (roundHalfEven numerator denominator * denominator) + denominator := by
    exact_mod_cast below
  have denominator_pos : (0 : ℚ) < denominator := Nat.cast_pos.2 positive
  rw [abs_le]
  constructor
  · rw [neg_le_sub_iff_le_add, div_le_iff₀ denominator_pos]
    linarith
  · rw [sub_le_iff_le_add, ← sub_le_iff_le_add', le_div_iff₀ denominator_pos]
    linarith

/-- What differs from a whole number by less than a half is rounded to it. -/
theorem roundHalfEven_eq_of_abs_lt {count : ℕ} (positive : 0 < denominator)
    (near : |(numerator : ℚ) / denominator - count| < 1 / 2) :
    roundHalfEven numerator denominator = count := by
  have apart_lt : |(roundHalfEven numerator denominator : ℚ) - count| < 1 := by
    calc |(roundHalfEven numerator denominator : ℚ) - count|
      _ ≤ |(roundHalfEven numerator denominator : ℚ) - numerator / denominator| +
            |(numerator : ℚ) / denominator - count| := abs_sub_le _ _ _
      _ < 1 / 2 + 1 / 2 :=
        add_lt_add_of_le_of_lt (abs_roundHalfEven_sub_le numerator positive) near
      _ = 1 := add_halves 1
  have apart_eq : (roundHalfEven numerator denominator : ℤ) - count = 0 := by
    apply Int.abs_lt_one_iff.1
    exact_mod_cast apart_lt
  exact Int.natCast_inj.1 (sub_eq_zero.1 apart_eq)

/-- How far so many steps of a grid are from a quotient, in steps. -/
theorem abs_mul_two_pow_sub (steps bits : ℕ) :
    |(steps : ℚ) * 2 ^ bits - numerator / denominator| =
      |(steps : ℚ) - numerator / (denominator * 2 ^ bits)| * 2 ^ bits := by
  have grid_pos : (0 : ℚ) < 2 ^ bits := by positivity
  calc |(steps : ℚ) * 2 ^ bits - numerator / denominator|
    _ = |((steps : ℚ) - numerator / (denominator * 2 ^ bits)) * 2 ^ bits| := by
      rw [sub_mul, ← div_div, div_mul_cancel₀ _ grid_pos.ne']
    _ = |(steps : ℚ) - numerator / (denominator * 2 ^ bits)| * 2 ^ bits := by
      rw [abs_mul, abs_of_pos grid_pos]

/-- A quotient is rounded by at most half a step of its grid. -/
theorem abs_roundUnits_sub_le (numerator : ℕ) (positive : 0 < denominator) :
    |(roundUnits numerator denominator : ℚ) - numerator / denominator| ≤
      2 ^ unusedBits (numerator / denominator) / 2 := by
  rw [roundUnits_eq]
  generalize unusedBits (numerator / denominator) = bits
  have grid_pos : (0 : ℚ) < 2 ^ bits := by positivity
  have near := abs_roundHalfEven_sub_le numerator (Nat.mul_pos positive (Nat.two_pow_pos bits))
  push_cast at near ⊢
  rw [abs_mul_two_pow_sub]
  calc |(roundHalfEven numerator (denominator * 2 ^ bits) : ℚ) -
        numerator / (denominator * 2 ^ bits)| * 2 ^ bits
    _ ≤ 1 / 2 * 2 ^ bits := mul_le_mul_of_nonneg_right near grid_pos.le
    _ = 2 ^ bits / 2 := by ring

theorem two_pow_unusedBits_mul_le {units : ℕ} (large : 2 ^ 52 ≤ units) :
    2 ^ unusedBits units * 2 ^ 52 ≤ units := by
  have nonzero : units ≠ 0 := by omega
  have log_ge : 52 ≤ units.log2 := (Nat.le_log2 nonzero).2 large
  calc 2 ^ unusedBits units * 2 ^ 52
    _ = 2 ^ units.log2 := by rw [unusedBits, ← Nat.pow_add, Nat.sub_add_cancel log_ge]
    _ ≤ units := Nat.log2_self_le nonzero

/-- A quotient that is not too small for the format is rounded by a small part of it only. -/
theorem isRoundedFrom_roundUnits (positive : 0 < denominator)
    (fits : numerator = 0 ∨ denominator * 2 ^ 52 ≤ numerator) :
    IsRoundedFrom 1 (roundUnits numerator denominator) (numerator / denominator) := by
  rcases fits with rfl | large
  · simp [IsRoundedFrom, roundUnits_eq, roundHalfEven]
  · have quotient_ge : 2 ^ 52 ≤ numerator / denominator := by
      rwa [Nat.le_div_iff_mul_le positive, Nat.mul_comm]
    have grid_le : (2 : ℚ) ^ unusedBits (numerator / denominator) * 2 ^ 52 ≤
        numerator / denominator := by
      calc (2 : ℚ) ^ unusedBits (numerator / denominator) * 2 ^ 52
        _ ≤ (numerator / denominator : ℕ) := by
          exact_mod_cast two_pow_unusedBits_mul_le quotient_ge
        _ ≤ numerator / denominator := Nat.cast_div_le
    calc |(roundUnits numerator denominator : ℚ) - numerator / denominator|
      _ ≤ 2 ^ unusedBits (numerator / denominator) / 2 := abs_roundUnits_sub_le numerator positive
      _ = roundoff * (2 ^ unusedBits (numerator / denominator) * 2 ^ 52) := by
        rw [roundoff]
        ring
      _ ≤ roundoff * (numerator / denominator) := by
        apply mul_le_mul_of_nonneg_left grid_le
        norm_num [roundoff]
      _ = ((1 + roundoff) ^ 1 - 1) * (numerator / denominator) := by ring

/-- Any quotient is rounded by a small part of it, or by half a unit. -/
theorem isNearly_roundUnits (positive : 0 < denominator) :
    IsNearly 1 (1 / 2) (roundUnits numerator denominator) (numerator / denominator) := by
  have exact_nonneg : (0 : ℚ) ≤ numerator / denominator := by positivity
  rcases Nat.lt_or_ge numerator (denominator * 2 ^ 52) with small | large
  · have unused_eq : unusedBits (numerator / denominator) = 0 := by
      apply Nat.le_zero.1
      apply unusedBits_le_of_lt
      rw [Nat.mul_comm, ← Nat.div_lt_iff_lt_mul positive] at small
      exact small.trans (by decide)
    have near := abs_roundUnits_sub_le numerator positive
    rw [unused_eq, pow_zero] at near
    apply near.trans
    rw [le_add_iff_nonneg_left]
    exact mul_nonneg (sub_nonneg.2 (IsRoundedFrom.one_le_pow 1)) exact_nonneg
  · exact (isRoundedFrom_roundUnits positive (.inr large)).isNearly.mono exact_nonneg le_rfl
      (by norm_num)

/-- Below a power of two the grid has room for as many bits after the point as are left of 53. -/
theorem two_pow_unusedBits_mul_le_unitsPerOne {units bits : ℕ} (bits_le : bits ≤ 53)
    (small : units < 2 ^ bits * unitsPerOne) :
    2 ^ unusedBits units * 2 ^ (53 - bits) ≤ unitsPerOne := by
  rcases exists_unitBits with ⟨unitBits, unitBits_ge, unitsPerOne_eq, -⟩
  rw [unitsPerOne_eq] at small ⊢
  have unused_le : unusedBits units ≤ unitBits - (53 - bits) := by
    apply unusedBits_le_of_lt
    rw [← Nat.pow_add] at small
    apply small.trans_le
    apply Nat.pow_le_pow_right Nat.two_pos
    omega
  rw [← Nat.pow_add]
  apply Nat.pow_le_pow_right Nat.two_pos
  omega

/-- Whole numbers of least units are never too small for the format. -/
theorem isRoundedFrom_roundUnits_one (units : ℕ) : IsRoundedFrom 1 (roundUnits units 1) units := by
  rcases Nat.lt_or_ge units (2 ^ 52) with small | large
  · have on_grid : 2 ^ unusedBits units ∣ units := by
      have unused_eq : unusedBits units = 0 := by
        apply Nat.le_zero.1
        apply unusedBits_le_of_lt
        exact small.trans (by decide)
      rw [unused_eq, Nat.pow_zero]
      exact Nat.one_dvd units
    rw [roundUnits_one on_grid]
    exact IsRoundedFrom.refl 1 (Nat.cast_nonneg units)
  · have fits : 1 * 2 ^ 52 ≤ units := by rwa [Nat.one_mul]
    have isRounded := isRoundedFrom_roundUnits Nat.one_pos (.inr fits)
    rwa [Nat.cast_one, div_one] at isRounded

end Rounding

end ScriptedFeed
