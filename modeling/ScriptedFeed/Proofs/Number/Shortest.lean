import ScriptedFeed.Proofs.Number.Digits
import ScriptedFeed.Proofs.Number.Interval
import ScriptedFeed.Proofs.Number.Magnitude

/-!
# Where the shortest decimals lie

On a decimal grid of seventeen digits some point lies in the rounding interval of a number, so the
shortest decimal of the number lies there as well. The interval ends half way to the next number,
and only the decimal of the largest number could exceed that number. It has seventeen digits, and
happens to be less.
-/

namespace ScriptedFeed

namespace Magnitude

variable {magnitude : Magnitude} {step count numerator denominator : Nat}

/-- The largest number of the format: 53 bits, all of them set, at the largest grid. -/
def largest : Magnitude :=
  ⟨(2 ^ 53 - 1) * 2 ^ 2045, by decide +kernel⟩

theorem eq_of_units_eq {left right : Magnitude} (units_eq : left.units = right.units) :
    left = right := by
  cases left
  cases right
  simp only at units_eq
  subst units_eq
  rfl

/-- What is rounded to the units of a number is that number. -/
theorem nearestUnits?_eq_some {magnitude : Magnitude} {numerator denominator : Nat}
    (rounded_eq : roundUnits numerator denominator = magnitude.units) :
    nearestUnits? numerator denominator = some magnitude := by
  have bound := magnitude.isRepresentable.1
  rw [← rounded_eq] at bound
  rw [nearestUnits?, dif_pos bound]
  exact congrArg some (eq_of_units_eq rounded_eq)

theorem exists_largestBits :
    ∃ bits, overflowBound = 2 ^ bits * 2 ^ 53 ∧ largest.units = 2 ^ bits * (2 ^ 53 - 1) := by
  refine ⟨2045, ?_, ?_⟩ <;> decide +kernel

/-- A number of the format that is not the largest is at least one step of its grid below it. -/
theorem units_add_grid_le (not_largest : magnitude.units ≠ largest.units) :
    magnitude.units + 2 ^ unusedBits magnitude.units ≤ largest.units := by
  rcases exists_largestBits with ⟨bits, overflowBound_eq, largest_eq⟩
  rcases magnitude.isRepresentable with ⟨units_lt, count, units_eq⟩
  rw [overflowBound_eq] at units_lt
  rw [largest_eq] at not_largest ⊢
  rw [Nat.pow_eq] at units_eq
  have grid_le : unusedBits magnitude.units ≤ bits := by
    apply unusedBits_le_of_lt
    rwa [Nat.pow_eq, Nat.pow_add]
  rcases Nat.lt_or_eq_of_le grid_le with finer | same
  · have below_power : magnitude.units < 2 ^ bits * 2 ^ 52 := by
      rw [← Nat.pow_add]
      apply (lt_two_pow_unusedBits magnitude.units).trans_le
      exact Nat.pow_le_pow_right Nat.two_pos (by omega)
    have step_le : 2 ^ unusedBits magnitude.units ≤ 2 ^ bits :=
      Nat.pow_le_pow_right Nat.two_pos finer.le
    omega
  · rw [same] at units_eq ⊢
    rw [units_eq] at units_lt not_largest ⊢
    have count_lt : count < 2 ^ 53 := Nat.lt_of_mul_lt_mul_left units_lt
    have count_ne : count ≠ 2 ^ 53 - 1 := by
      rintro rfl
      exact not_largest rfl
    rw [← Nat.mul_succ]
    apply Nat.mul_le_mul_left
    omega

theorem upper_le_largest (not_largest : magnitude.units ≠ largest.units) :
    2 * magnitude.units + magnitude.upperReach ≤ 2 * largest.units := by
  have next_le := units_add_grid_le not_largest
  have step_pos := Nat.two_pow_pos (unusedBits magnitude.units)
  rw [upperReach, Nat.pow_eq]
  omega

/-- So many grid steps lie in the rounding interval of the number. -/
def IsRead (magnitude : Magnitude) (step count : Nat) : Prop :=
  magnitude.isReadFrom (2 * count * step * unitsPerOne) (Nat.pow 10 shortestPlaces)

theorem candidate?_eq_some_iff {found : Nat} :
    candidate? magnitude step count = some found ↔ magnitude.IsRead step count ∧ count = found := by
  rw [candidate?, IsRead]
  split_ifs with inside
  · rw [Option.some_inj]
    exact ⟨fun same => ⟨inside, same⟩, And.right⟩
  · constructor
    · rintro ⟨⟩
    · rintro ⟨isRead, -⟩
      exact absurd isRead inside

/-- The grid step at the number, or before it. -/
def stepsBelow (magnitude : Magnitude) (step : Nat) : Nat :=
  magnitude.units * Nat.pow 10 shortestPlaces / (step * unitsPerOne)

theorem nearestCandidate?_spec (nearest : nearestCandidate? magnitude step = some count) :
    magnitude.stepsBelow step ≤ count ∧ count ≤ magnitude.stepsBelow step + 1 ∧
      magnitude.IsRead step count := by
  have below_eq : magnitude.units * Nat.pow 10 shortestPlaces / (step * unitsPerOne) =
      magnitude.stepsBelow step := rfl
  simp only [nearestCandidate?, below_eq] at nearest
  split at nearest
  · cases nearest
  · next below _ =>
      cases nearest
      rcases candidate?_eq_some_iff.1 below with ⟨isRead, rfl⟩
      exact ⟨le_rfl, Nat.le_succ _, isRead⟩
  · next _ above =>
      cases nearest
      rcases candidate?_eq_some_iff.1 above with ⟨isRead, rfl⟩
      exact ⟨Nat.le_succ _, le_rfl, isRead⟩
  · next below above =>
      rw [Option.some_inj] at nearest
      have ge :=
        div_le_roundHalfEven (magnitude.units * Nat.pow 10 shortestPlaces) (step * unitsPerOne)
      have le := roundHalfEven_le (magnitude.units * Nat.pow 10 shortestPlaces) (step * unitsPerOne)
      rw [below_eq, nearest] at ge le
      refine ⟨ge, le, ?_⟩
      rcases Nat.lt_or_eq_of_le le with less | rfl
      · have count_eq : count = magnitude.stepsBelow step := by omega
        rw [count_eq]
        exact (candidate?_eq_some_iff.1 below).1
      · exact (candidate?_eq_some_iff.1 above).1

section Seventeen

theorem units_lt_lowerReach (magnitude : Magnitude) :
    magnitude.units < 10 ^ 16 * magnitude.lowerReach := by
  rcases magnitude.exists_count with ⟨bits, count, bits_eq, units_eq, count_lt, -⟩
  simp only [lowerReach, bits_eq, Nat.pow_eq]
  split_ifs with isPower
  · rcases Nat.exists_eq_succ_of_ne_zero isPower.1 with ⟨fewer, rfl⟩
    have half_pos := Nat.two_pow_pos fewer
    rw [isPower.2, Nat.pow_add, Nat.succ_eq_add_one, Nat.pow_succ, Nat.add_sub_cancel]
    omega
  · rw [units_eq]
    exact Nat.mul_lt_mul_of_pos_right (count_lt.trans (by decide)) (Nat.two_pow_pos bits)

theorem units_lt_upperReach (magnitude : Magnitude) :
    magnitude.units < 10 ^ 16 * magnitude.upperReach := by
  rcases magnitude.exists_count with ⟨bits, count, bits_eq, units_eq, count_lt, -⟩
  rw [upperReach, bits_eq, units_eq, Nat.pow_eq]
  exact Nat.mul_lt_mul_of_pos_right (count_lt.trans (by decide)) (Nat.two_pow_pos bits)

/-- On a grid of seventeen digits, half a step stays in the rounding interval. -/
theorem isRead_of_near (positive : 0 < step)
    (fine : 10 ^ 16 * (step * unitsPerOne) ≤ magnitude.units * Nat.pow 10 shortestPlaces)
    (below : 2 * (magnitude.units * Nat.pow 10 shortestPlaces) ≤
      2 * (count * (step * unitsPerOne)) + step * unitsPerOne)
    (above : 2 * (count * (step * unitsPerOne)) ≤
      2 * (magnitude.units * Nat.pow 10 shortestPlaces) + step * unitsPerOne) :
    magnitude.IsRead step count := by
  have scale_pos : 0 < Nat.pow 10 shortestPlaces := by
    rw [Nat.pow_eq]
    positivity
  have step_pos : 0 < step * unitsPerOne := Nat.mul_pos positive unitsPerOne_pos
  have lower_gt := Nat.mul_lt_mul_of_pos_right magnitude.units_lt_lowerReach scale_pos
  have upper_gt := Nat.mul_lt_mul_of_pos_right magnitude.units_lt_upperReach scale_pos
  have steps_eq : 2 * count * step * unitsPerOne = 2 * (count * (step * unitsPerOne)) := by ring
  rw [Nat.mul_assoc] at lower_gt upper_gt
  rw [IsRead, steps_eq]
  simp only [isReadFrom, Nat.sub_mul, Nat.add_mul, Nat.mul_assoc 2 magnitude.units]
  generalize magnitude.units * Nat.pow 10 shortestPlaces = scaled at *
  generalize magnitude.lowerReach * Nat.pow 10 shortestPlaces = lower at *
  generalize magnitude.upperReach * Nat.pow 10 shortestPlaces = upper at *
  generalize count * (step * unitsPerOne) = steps at *
  generalize step * unitsPerOne = width at *
  split_ifs <;> simp only [Bool.and_eq_true, decide_eq_true_eq] <;> omega

/-- Seventeen digits are enough for every number of the format. -/
theorem exists_nearestCandidate? (positive : 0 < step)
    (fine : 10 ^ 16 * (step * unitsPerOne) ≤ magnitude.units * Nat.pow 10 shortestPlaces) :
    ∃ count, nearestCandidate? magnitude step = some count := by
  have step_pos : 0 < step * unitsPerOne := Nat.mul_pos positive unitsPerOne_pos
  have scaled_eq := Nat.div_add_mod' (magnitude.units * Nat.pow 10 shortestPlaces)
    (step * unitsPerOne)
  have excess_lt := Nat.mod_lt (magnitude.units * Nat.pow 10 shortestPlaces) step_pos
  have some_read : magnitude.IsRead step (magnitude.stepsBelow step) ∨
      magnitude.IsRead step (magnitude.stepsBelow step + 1) := by
    rw [stepsBelow]
    rcases Nat.le_total (2 * (magnitude.units * Nat.pow 10 shortestPlaces % (step * unitsPerOne)))
      (step * unitsPerOne) with small | large
    · exact .inl (isRead_of_near positive fine (by omega) (by omega))
    · refine .inr (isRead_of_near positive fine ?_ ?_) <;> rw [Nat.add_mul] <;> omega
  simp only [nearestCandidate?]
  rw [stepsBelow] at some_read
  split
  · next below above =>
      rcases some_read with isRead | isRead
      · rw [candidate?_eq_some_iff.2 ⟨isRead, rfl⟩] at below
        cases below
      · rw [candidate?_eq_some_iff.2 ⟨isRead, rfl⟩] at above
        cases above
  · exact ⟨_, rfl⟩
  · exact ⟨_, rfl⟩
  · exact ⟨_, rfl⟩

end Seventeen

theorem stepsBelow_eq (magnitude : Magnitude) (step : Nat) :
    magnitude.stepsBelow step =
      magnitude.units * Nat.pow 10 shortestPlaces / unitsPerOne / step := by
  rw [stepsBelow, Nat.mul_comm step, Nat.div_div_eq_div_mul]

/-- The number of digits before the point on the scale of the search. -/
def searchLength (magnitude : Magnitude) : Nat :=
  (decimalDigits (magnitude.units * Nat.pow 10 shortestPlaces / unitsPerOne)).length

/-- With a grid of so many digits, the number of steps has so many digits. -/
theorem stepsBelow_bounds (nonzero : magnitude.units ≠ 0) {digitCount : Nat}
    (positive : 0 < digitCount) :
    0 < magnitude.stepsBelow (10 ^ (magnitude.searchLength - digitCount)) ∧
      magnitude.stepsBelow (10 ^ (magnitude.searchLength - digitCount)) < 10 ^ digitCount := by
  have scale_le : unitsPerOne ≤ Nat.pow 10 shortestPlaces := by decide +kernel
  have whole_pos : 0 < magnitude.units * Nat.pow 10 shortestPlaces / unitsPerOne := by
    apply Nat.div_pos _ unitsPerOne_pos
    exact scale_le.trans (Nat.le_mul_of_pos_left _ (Nat.pos_of_ne_zero nonzero))
  rw [stepsBelow_eq, searchLength]
  generalize magnitude.units * Nat.pow 10 shortestPlaces / unitsPerOne = whole at whole_pos ⊢
  constructor
  · apply Nat.div_pos _ (by positivity)
    apply le_trans _ (pow_length_decimalDigits_le whole_pos)
    exact Nat.pow_le_pow_right (by omega) (by omega)
  · rw [Nat.div_lt_iff_lt_mul (by positivity), ← Nat.pow_add]
    apply lt_of_lt_of_le (lt_pow_length_decimalDigits whole)
    apply Nat.pow_le_pow_right (by omega)
    omega

/-- The grid of seventeen digits is as fine as it has to be. -/
theorem seventeenth_step_le (nonzero : magnitude.units ≠ 0) :
    10 ^ 16 * (10 ^ (magnitude.searchLength - 17) * unitsPerOne) ≤
      magnitude.units * Nat.pow 10 shortestPlaces := by
  have scale_le : 10 ^ 16 * unitsPerOne ≤ Nat.pow 10 shortestPlaces := by decide +kernel
  have whole_ge : 10 ^ 16 ≤ magnitude.units * Nat.pow 10 shortestPlaces / unitsPerOne := by
    rw [Nat.le_div_iff_mul_le unitsPerOne_pos]
    exact scale_le.trans (Nat.le_mul_of_pos_left _ (Nat.pos_of_ne_zero nonzero))
  rw [← Nat.mul_assoc, ← Nat.le_div_iff_mul_le unitsPerOne_pos, searchLength]
  generalize magnitude.units * Nat.pow 10 shortestPlaces / unitsPerOne = whole at whole_ge ⊢
  have length_gt : 16 < (decimalDigits whole).length :=
    (Nat.pow_lt_pow_iff_right (by omega)).1 (whole_ge.trans_lt (lt_pow_length_decimalDigits whole))
  calc 10 ^ 16 * 10 ^ ((decimalDigits whole).length - 17)
    _ = 10 ^ ((decimalDigits whole).length - 1) := by
      rw [← Nat.pow_add]
      congr 1
      omega
    _ ≤ whole := pow_length_decimalDigits_le (by omega)

/-- A decimal of few digits in the rounding interval of a positive number. -/
structure IsNear (magnitude : Magnitude) (decimal : Decimal) : Prop where
  positive : 0 < decimal.significand
  few_digits : decimal.significand ≤ 10 ^ 18
  isRead : ∃ places : Nat, decimal.exponent = places - shortestPlaces ∧
    magnitude.IsRead (10 ^ places) decimal.significand

theorem isNear_shortestFrom (nonzero : magnitude.units ≠ 0) {fuel digitCount : Nat}
    (positive : 0 < digitCount) (enough : digitCount ≤ 17) (left : digitCount + fuel = 18) :
    magnitude.IsNear (shortestFrom magnitude magnitude.searchLength fuel digitCount) := by
  induction fuel generalizing digitCount with
  | zero => omega
  | succ fuel ih =>
      rcases stepsBelow_bounds nonzero positive with ⟨below_pos, below_lt⟩
      have few : 10 ^ digitCount ≤ 10 ^ 18 := Nat.pow_le_pow_right (by omega) (by omega)
      rw [shortestFrom]
      split
      · next count nearest =>
          rcases nearestCandidate?_spec nearest with ⟨below_le, le_next, isRead⟩
          exact ⟨below_pos.trans_le below_le, le_next.trans (below_lt.trans_le few), _, rfl, isRead⟩
      · next none_near =>
          rcases Nat.lt_or_eq_of_le enough with fewer | rfl
          · exact ih (by omega) fewer (by omega)
          · have step_pos : 0 < 10 ^ (magnitude.searchLength - 17) := Nat.pow_pos (by omega)
            rcases exists_nearestCandidate? step_pos (seventeenth_step_le nonzero) with
              ⟨count, nearest⟩
            rw [← Nat.pow_eq, none_near] at nearest
            cases nearest

theorem IsNear.stripZeros {decimal : Decimal} (near : magnitude.IsNear decimal) (fuel : Nat) :
    magnitude.IsNear (ScriptedFeed.stripZeros fuel decimal) := by
  induction fuel generalizing decimal with
  | zero => exact near
  | succ fuel ih =>
      rw [ScriptedFeed.stripZeros]
      split_ifs with ends_in_zero
      · apply ih
        rcases near with ⟨positive, few_digits, places, exponent_eq, isRead⟩
        have quotient_eq : decimal.significand / 10 * 10 = decimal.significand :=
          Nat.div_mul_cancel (Nat.dvd_of_mod_eq_zero ends_in_zero.2)
        refine ⟨?_, ?_, places + 1, ?_, ?_⟩
        · simp only
          omega
        · simp only
          omega
        · simp only [exponent_eq]
          omega
        · have same : 2 * (decimal.significand / 10) * 10 ^ (places + 1) * unitsPerOne =
              2 * decimal.significand * 10 ^ places * unitsPerOne := by
            nth_rewrite 2 [← quotient_eq]
            ring
          rw [IsRead, same]
          exact isRead
      · exact near

/-- The shortest decimal of a number lies in the rounding interval of the number. -/
theorem isNear_shortest (nonzero : magnitude.units ≠ 0) : magnitude.IsNear magnitude.shortest := by
  rw [shortest, if_neg nonzero]
  exact (isNear_shortestFrom nonzero (by omega) (by omega) (by omega)).stripZeros 20

theorem IsNear.le_largest {decimal : Decimal} (near : magnitude.IsNear decimal)
    (not_largest : magnitude.units ≠ largest.units) {power : Nat}
    (exponent_eq : decimal.exponent = power) :
    decimal.significand * 10 ^ power * unitsPerOne ≤ largest.units := by
  rcases near.isRead with ⟨places, places_eq, isRead⟩
  have places_eq : places = power + shortestPlaces := by omega
  have le_upper := (bounds_of_isReadFrom isRead).2.1
  rw [places_eq, Nat.pow_add, Nat.pow_eq] at le_upper
  have scale_pos : 0 < 10 ^ shortestPlaces := Nat.pow_pos (by omega)
  generalize 10 ^ shortestPlaces = scale at le_upper scale_pos
  apply Nat.le_of_mul_le_mul_left _ (Nat.mul_pos Nat.two_pos scale_pos)
  calc 2 * scale * (decimal.significand * 10 ^ power * unitsPerOne)
    _ = 2 * decimal.significand * (10 ^ power * scale) * unitsPerOne := by ring
    _ ≤ (2 * magnitude.units + magnitude.upperReach) * scale := le_upper
    _ ≤ 2 * largest.units * scale := Nat.mul_le_mul_right scale (upper_le_largest not_largest)
    _ = 2 * scale * largest.units := by ring

theorem shortest_largest : largest.shortest = ⟨17976931348623157, 292⟩ := by
  decide +kernel

end Magnitude

/-- A decimal of few digits that is not larger than the largest number of the format. -/
structure Decimal.FitsFormat (decimal : Decimal) : Prop where
  few_digits : decimal.significand ≤ 10 ^ 18
  least_le : -shortestPlaces ≤ decimal.exponent
  exponent_le : decimal.exponent ≤ 308
  exponent_eq_zero : decimal.significand = 0 → decimal.exponent = 0
  le_largest : ∀ power : Nat, decimal.exponent = power →
    decimal.significand * 10 ^ power * unitsPerOne ≤ Magnitude.largest.units

theorem Decimal.exponent_le_of_le_largest {decimal : Decimal} (positive : 0 < decimal.significand)
    (le_largest : ∀ power : Nat, decimal.exponent = power →
      decimal.significand * 10 ^ power * unitsPerOne ≤ Magnitude.largest.units) :
    decimal.exponent ≤ 308 := by
  by_contra greater
  rcases Int.eq_ofNat_of_zero_le (show 0 ≤ decimal.exponent by omega) with ⟨power, exponent_eq⟩
  have too_large : ∃ least, least = 309 ∧
      Magnitude.largest.units < Nat.pow 10 least * unitsPerOne := ⟨309, rfl, by decide +kernel⟩
  rcases too_large with ⟨least, least_eq, too_large⟩
  have least_le : least ≤ power := by omega
  apply too_large.not_ge
  calc Nat.pow 10 least * unitsPerOne
    _ ≤ 10 ^ power * unitsPerOne := by
      apply Nat.mul_le_mul_right
      exact Nat.pow_le_pow_right (by omega) least_le
    _ ≤ decimal.significand * 10 ^ power * unitsPerOne := by
      apply Nat.mul_le_mul_right
      exact Nat.le_mul_of_pos_left _ positive
    _ ≤ Magnitude.largest.units := le_largest power exponent_eq

/-- The shortest decimal of a number is not larger than the largest number of the format. -/
theorem Magnitude.fitsFormat_shortest (magnitude : Magnitude) : magnitude.shortest.FitsFormat := by
  by_cases isZero : magnitude.units = 0
  · rw [shortest, if_pos isZero]
    constructor <;> simp
  by_cases isLargest : magnitude.units = largest.units
  · rw [eq_of_units_eq isLargest, shortest_largest]
    refine ⟨by simp, by simp, by simp, by simp, ?_⟩
    intro power exponent_eq
    simp only at exponent_eq
    have power_eq : power = 292 := by omega
    rw [power_eq]
    decide +kernel
  · have near := isNear_shortest isZero
    have le_largest {power : Nat} (exponent_eq : magnitude.shortest.exponent = power) :=
      near.le_largest isLargest exponent_eq
    refine ⟨near.few_digits, ?_, ?_, ?_, fun power => le_largest⟩
    · rcases near.isRead with ⟨places, exponent_eq, -⟩
      omega
    · exact Decimal.exponent_le_of_le_largest near.positive fun power => le_largest
    · intro isZero
      exact absurd isZero near.positive.ne'

end ScriptedFeed
