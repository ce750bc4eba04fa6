import ScriptedFeed.Number.Decimal

/-!
# The shortest decimal that reads back

A number of the format is written with the fewest digits that single it out. All reals in an
interval around it round to it: the interval reaches half way to either neighbour, and includes
its ends when the number is the even one. For one digit, two digits and so on up to seventeen, the
two decimals next to the number with so many digits are tried; the first that lies in the interval
is taken, of two the nearer, and of two equally near the one whose last digit is even.
-/

namespace ScriptedFeed

namespace Magnitude

/-- The distance, in half units, from the number to the upper end of its rounding interval. -/
def upperReach (magnitude : Magnitude) : Nat :=
  Nat.pow 2 (unusedBits magnitude.units)

/--
The distance, in half units, from the number to the lower end of its rounding interval. Below a
power of two the numbers of the format lie twice as dense.
-/
def lowerReach (magnitude : Magnitude) : Nat :=
  let grid := unusedBits magnitude.units
  if grid ≠ 0 ∧ magnitude.units = Nat.pow 2 (grid + 52) then Nat.pow 2 (grid - 1)
  else Nat.pow 2 grid

/-- Whether the ends of the rounding interval round to the number too. -/
def includesEnds (magnitude : Magnitude) : Bool :=
  magnitude.units / Nat.pow 2 (unusedBits magnitude.units) % 2 = 0

/--
Whether a quotient of half units rounds to the number.
-/
def isReadFrom (magnitude : Magnitude) (numerator denominator : Nat) : Bool :=
  let low := (2 * magnitude.units - magnitude.lowerReach) * denominator
  let high := (2 * magnitude.units + magnitude.upperReach) * denominator
  if magnitude.includesEnds then low ≤ numerator && numerator ≤ high
  else low < numerator && numerator < high

end Magnitude

/-- The number of decimal places that bring every positive number of the format above one. -/
def shortestPlaces : Nat := 400

/-- The decimal that is so many grid steps, if it rounds to the number. -/
def candidate? (magnitude : Magnitude) (step : Nat) (count : Nat) : Option Nat :=
  if magnitude.isReadFrom (2 * count * step * unitsPerOne) (Nat.pow 10 shortestPlaces) then
    some count
  else none

/-- The number of grid steps nearest to the number among those that round to it. -/
def nearestCandidate? (magnitude : Magnitude) (step : Nat) : Option Nat :=
  let scaled := magnitude.units * Nat.pow 10 shortestPlaces
  let below := scaled / (step * unitsPerOne)
  match candidate? magnitude step below, candidate? magnitude step (below + 1) with
  | none, none => none
  | some count, none | none, some count => some count
  | some _, some _ => some (roundHalfEven scaled (step * unitsPerOne))

/-- Moves trailing zeros of the significand to the exponent; the fuel bounds their number. -/
def stripZeros : Nat → Decimal → Decimal
  | 0, decimal => decimal
  | fuel + 1, decimal =>
      if decimal.significand ≠ 0 ∧ decimal.significand % 10 = 0 then
        stripZeros fuel ⟨decimal.significand / 10, decimal.exponent + 1⟩
      else decimal

/-- The shortest decimal among those of at least so many digits and at most seventeen. -/
def shortestFrom (magnitude : Magnitude) (length : Nat) : Nat → Nat → Decimal
  | 0, digitCount =>
      let step := Nat.pow 10 (length - digitCount)
      ⟨magnitude.units * Nat.pow 10 shortestPlaces / (step * unitsPerOne),
        Int.ofNat (length - digitCount) - shortestPlaces⟩
  | fuel + 1, digitCount =>
      match nearestCandidate? magnitude (Nat.pow 10 (length - digitCount)) with
      | some count => ⟨count, Int.ofNat (length - digitCount) - shortestPlaces⟩
      | none => shortestFrom magnitude length fuel (digitCount + 1)

/-- The shortest decimal that reads back as the number; zero has no digits to spare. -/
def Magnitude.shortest (magnitude : Magnitude) : Decimal :=
  if magnitude.units = 0 then ⟨0, 0⟩
  else
    let length := (decimalDigits (magnitude.units * Nat.pow 10 shortestPlaces / unitsPerOne)).length
    stripZeros 20 (shortestFrom magnitude length 17 1)

end ScriptedFeed
