import ScriptedFeed.Number.Rounding

/-!
# Numbers of the 64-bit binary floating-point format

The magnitude of a finite number is kept as a natural multiple of the least positive number of the
format, which is 2 to the power of minus 1074. Arithmetic is then exact arithmetic on natural
numbers followed by one rounding, and the value of a number needs no exponent to be stated. A
magnitude carries the fact that the format has room for it, so every value of the type is a number
of the format and conversely.
-/

namespace ScriptedFeed

/-- The number of least units in one, and so the scale of every magnitude. -/
def unitsPerOne : Nat := Nat.pow 2 1074

/-- The first multiple of the least unit that is too large for the format. -/
def overflowBound : Nat := Nat.pow 2 2098

/-- The number of low bits that a multiple of the least unit cannot use, given its size. -/
def unusedBits (units : Nat) : Nat :=
  units.log2 - 52

/--
Whether the format has room for so many least units: there is an upper bound, and beyond 53 bits
only the leading 53 are kept.
-/
def IsRepresentable (units : Nat) : Prop :=
  units < overflowBound ∧ Nat.pow 2 (unusedBits units) ∣ units

instance (units : Nat) : Decidable (IsRepresentable units) :=
  inferInstanceAs (Decidable (_ ∧ _))

/-- The non-negative finite numbers of the format. -/
structure Magnitude where
  /-- The number as a multiple of the least unit. -/
  units : Nat
  /-- The format has room for the number. -/
  isRepresentable : IsRepresentable units
deriving DecidableEq

/-- The numbers of the format; all payloads of not-a-number are one value. -/
inductive Binary64 where
  | nan
  | infinite (negative : Bool)
  | finite (negative : Bool) (magnitude : Magnitude)
deriving DecidableEq

/--
The quotient rounded to 53 bits, or to a whole number of units where that is coarser. The grid is
chosen by the size of the exact quotient; a carry into the next power of two stays on the grid.
-/
def roundUnits (numerator denominator : Nat) : Nat :=
  let grid := Nat.pow 2 (unusedBits (numerator / denominator))
  roundHalfEven numerator (denominator * grid) * grid

theorem unusedBits_le_of_lt {units bits : Nat} (below : units < Nat.pow 2 (bits + 53)) :
    unusedBits units ≤ bits := by
  unfold unusedBits
  by_cases isZero : units = 0
  · simp [isZero]
  · have := (Nat.log2_lt isZero).2 below
    omega

theorem grid_dvd_of_le {significand bits : Nat} (bound : significand ≤ Nat.pow 2 53) :
    Nat.pow 2 (unusedBits (significand * Nat.pow 2 bits)) ∣ significand * Nat.pow 2 bits := by
  simp only [Nat.pow_eq] at bound ⊢
  rcases Nat.lt_or_eq_of_le bound with below | carried
  · have small : significand * 2 ^ bits < 2 ^ (bits + 53) := by
      rw [Nat.pow_add, Nat.mul_comm]
      exact Nat.mul_lt_mul_of_pos_left below (Nat.two_pow_pos bits)
    exact Nat.dvd_trans (Nat.pow_dvd_pow 2 (unusedBits_le_of_lt small))
      (Nat.dvd_mul_left _ _)
  · subst carried
    rw [← Nat.pow_add]
    apply Nat.pow_dvd_pow
    unfold unusedBits
    rw [Nat.log2_two_pow]
    omega

/-- Rounding keeps to the grid of the result, also where it carries into a further bit. -/
theorem grid_dvd_roundUnits (numerator denominator : Nat) :
    Nat.pow 2 (unusedBits (roundUnits numerator denominator)) ∣
      roundUnits numerator denominator := by
  unfold roundUnits
  apply grid_dvd_of_le
  apply Nat.le_trans (roundHalfEven_le _ _)
  apply Nat.succ_le_of_lt
  rw [← Nat.div_div_eq_div_mul]
  simp only [Nat.pow_eq]
  rw [Nat.div_lt_iff_lt_mul (Nat.two_pow_pos _), ← Nat.pow_add]
  have lt_log : numerator / denominator < 2 ^ ((numerator / denominator).log2 + 1) :=
    Nat.lt_log2_self
  apply Nat.lt_of_lt_of_le lt_log
  apply Nat.pow_le_pow_right (by decide)
  unfold unusedBits
  omega

namespace Magnitude

/-- The number of the format nearest to so many least units, unless that overflows. -/
def nearestUnits? (numerator denominator : Nat) : Option Magnitude :=
  if bound : roundUnits numerator denominator < overflowBound then
    some ⟨roundUnits numerator denominator, bound, grid_dvd_roundUnits _ _⟩
  else
    none

/-- The number of the format nearest to a quotient, unless that overflows. -/
def ofRatio? (numerator denominator : Nat) : Option Magnitude :=
  nearestUnits? (numerator * unitsPerOne) denominator

/-- The number of the format nearest to a natural number, unless that overflows. -/
def ofNat? (number : Nat) : Option Magnitude :=
  ofRatio? number 1

def zero : Magnitude :=
  ⟨0, by decide +kernel⟩

def one : Magnitude :=
  ⟨unitsPerOne, by decide +kernel⟩

/-- The sum, rounded once. -/
def add? (left right : Magnitude) : Option Magnitude :=
  nearestUnits? (left.units + right.units) 1

/-- The product, rounded once. -/
def mul? (left right : Magnitude) : Option Magnitude :=
  nearestUnits? (left.units * right.units) unitsPerOne

/-- The quotient, rounded once; a quotient by zero overflows. -/
def div? (left right : Magnitude) : Option Magnitude :=
  if right.units = 0 then none else nearestUnits? (left.units * unitsPerOne) right.units

/-- The number in the given decimal fraction of one, as the nearest whole count. -/
def roundedCount (magnitude : Magnitude) (perOne : Nat) : Nat :=
  roundHalfEven (magnitude.units * perOne) unitsPerOne

/-- The leading bit, which machine words leave out. -/
def hiddenBit : Nat := 0x10000000000000

/-- The exponent and fraction fields of the number's machine word. -/
def fields (magnitude : Magnitude) : Nat :=
  let grid := unusedBits magnitude.units
  if magnitude.units < hiddenBit then magnitude.units
  else grid * hiddenBit + magnitude.units / Nat.pow 2 grid

end Magnitude

namespace Binary64

def one : Binary64 :=
  finite false .one

/-- Whether the number is neither infinite nor the value that stands for no number. -/
def isFinite : Binary64 → Bool
  | finite _ _ => true
  | infinite _ | nan => false

def signBit (negative : Bool) : Nat :=
  if negative then 0x8000000000000000 else 0

/-- The machine word of the number: sign, exponent and fraction from the top bit down. -/
def bits : Binary64 → UInt64
  | nan => 0x7FF8000000000000
  | infinite negative => UInt64.ofNat (signBit negative + 0x7FF0000000000000)
  | finite negative magnitude => UInt64.ofNat (signBit negative + magnitude.fields)

end Binary64

end ScriptedFeed
