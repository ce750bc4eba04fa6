/-!
# Rounding a quotient

Every number of this library that is not exact is a quotient of natural numbers rounded once to
the nearest grid point. A quotient half way between two grid points goes to the even one.
-/

namespace ScriptedFeed

/-- The natural number nearest to a quotient; a half goes to the even neighbour. -/
def roundHalfEven (numerator denominator : Nat) : Nat :=
  let quotient := numerator / denominator
  let twiceRemainder := 2 * (numerator % denominator)
  if twiceRemainder < denominator then quotient
  else if denominator < twiceRemainder then quotient + 1
  else quotient + quotient % 2

theorem div_le_roundHalfEven (numerator denominator : Nat) :
    numerator / denominator ≤ roundHalfEven numerator denominator := by
  unfold roundHalfEven
  simp only
  split
  · exact Nat.le_refl _
  · split <;> omega

theorem roundHalfEven_le (numerator denominator : Nat) :
    roundHalfEven numerator denominator ≤ numerator / denominator + 1 := by
  unfold roundHalfEven
  simp only
  split
  · omega
  · split
    · omega
    · have := Nat.mod_lt (numerator / denominator) (show 0 < 2 by decide)
      omega

end ScriptedFeed
