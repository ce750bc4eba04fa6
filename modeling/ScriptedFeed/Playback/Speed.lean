import ScriptedFeed.Number.Binary64

/-!
# Playback speed

A speed divides every delay of a script. Any number can be asked for as a speed; what is played is
the nearest speed from a tenth to ten, and authored timing for what is not a number. A scaled delay
is computed in floating point from whole seconds and the rest, each step rounded, and is then
brought to whole nanoseconds.
-/

namespace ScriptedFeed

/-- The lowest speed, the number of the format nearest to a tenth. -/
def slowest : Magnitude :=
  ⟨0x1999999999999A * Nat.pow 2 1018, by decide +kernel⟩

/-- The highest speed, ten. -/
def fastest : Magnitude :=
  ⟨10 * unitsPerOne, by decide +kernel⟩

structure Speed where
  /-- The number that delays are divided by. -/
  factor : Magnitude
  slowest_le : slowest.units ≤ factor.units
  le_fastest : factor.units ≤ fastest.units
deriving DecidableEq

namespace Speed

def least : Speed :=
  ⟨slowest, by decide +kernel, by decide +kernel⟩

def greatest : Speed :=
  ⟨fastest, by decide +kernel, by decide +kernel⟩

/-- Authored timing. -/
def authored : Speed :=
  ⟨.one, by decide +kernel, by decide +kernel⟩

/-- The speed that is played when a number is asked for. -/
def clamp (number : Binary64) : Speed :=
  match number with
  | .nan => authored
  | .infinite true | .finite true _ => least
  | .infinite false => greatest
  | .finite false magnitude =>
      if aboveLeast : slowest.units ≤ magnitude.units then
        if belowGreatest : magnitude.units ≤ fastest.units then
          ⟨magnitude, aboveLeast, belowGreatest⟩
        else greatest
      else least

def toNumber (speed : Speed) : Binary64 :=
  .finite false speed.factor

def millisecondsPerSecond : Nat := 1000

def nanosecondsPerMillisecond : Nat := 1000000

/-- The number of nanoseconds in a second, as a count for fractions of a second. -/
def nanosecondCount : Nat := 1000000000

/-- A delay in milliseconds as a floating-point number of seconds. -/
def seconds? (delay : UInt64) : Option Magnitude := do
  let whole ← Magnitude.ofNat? (delay.toNat / millisecondsPerSecond)
  let rest ← Magnitude.ofNat? (delay.toNat % millisecondsPerSecond * nanosecondsPerMillisecond)
  whole.add? (← rest.div? (← Magnitude.ofNat? nanosecondCount))

/-- The largest number of whole seconds that a duration can have. -/
def longestSeconds : Nat := 0xFFFFFFFFFFFFFFFF

/-- The nanoseconds that a delay takes at a speed, unless a step of the computation fails. -/
def scaledNanoseconds? (speed : Speed) (delay : UInt64) : Option Nat := do
  let quotient ← (← seconds? delay).div? speed.factor
  let nanoseconds := quotient.roundedCount nanosecondCount
  if nanoseconds / nanosecondCount ≤ longestSeconds then some nanoseconds else none

/-- The nanoseconds that a delay takes at a speed. -/
def scaledNanoseconds (speed : Speed) (delay : UInt64) : Nat :=
  (speed.scaledNanoseconds? delay).getD 0

/-- The milliseconds after which a delay is over at a speed; a timer never fires early. -/
def scaledTicks (speed : Speed) (delay : UInt64) : Nat :=
  (speed.scaledNanoseconds delay + (nanosecondsPerMillisecond - 1)) / nanosecondsPerMillisecond

/-- The speed with two places after the point, as notices show it. -/
def label (speed : Speed) : String :=
  let hundredths := speed.factor.roundedCount 100
  let places := toString (hundredths % 100)
  toString (hundredths / 100) ++ "." ++ (if places.length < 2 then "0" ++ places else places)

end Speed

end ScriptedFeed
