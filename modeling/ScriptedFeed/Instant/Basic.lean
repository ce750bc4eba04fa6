import ScriptedFeed.Instant.Calendar
import ScriptedFeed.Number.Integer

/-!
# Instants

An instant is a second, counted from the start of 1970 in universal time, and a nanosecond within
it. A leap second is written as the sixtieth second of its minute; it is kept as the second before
it with a nanosecond count of a thousand million or more, so that it lies after every nanosecond
of that second and before the next minute.
-/

namespace ScriptedFeed

def nanosecondsPerSecond : Nat := 1000000000

def secondsPerDay : Int := 86400

/-- The first second of the first year that instants are kept for. -/
def earliestSecond : Int :=
  Date.toDays ⟨Date.firstYear, 1, 1⟩ * secondsPerDay

/-- The last second of the last year that instants are kept for. -/
def latestSecond : Int :=
  (Date.toDays ⟨Date.lastYear, 12, 31⟩ + 1) * secondsPerDay - 1

/-- Whether a second and a nanosecond count name an instant. -/
def IsInstant (seconds : Int) (nanosecond : Nat) : Prop :=
  earliestSecond ≤ seconds ∧ seconds ≤ latestSecond ∧ nanosecond < 2 * nanosecondsPerSecond ∧
    (nanosecondsPerSecond ≤ nanosecond → seconds % 60 = 59)

instance (seconds : Int) (nanosecond : Nat) : Decidable (IsInstant seconds nanosecond) :=
  inferInstanceAs (Decidable (_ ∧ _))

structure Instant where
  /-- The seconds since the start of 1970, in universal time. -/
  seconds : Int
  /-- The nanosecond within the second; a thousand million and more lie in a leap second. -/
  nanosecond : Nat
  /-- The two counts name an instant. -/
  isInstant : IsInstant seconds nanosecond
deriving DecidableEq

namespace Instant

/-- The instant that the two counts name, if they name one. -/
def ofCounts? (seconds : Int) (nanosecond : Nat) : Option Instant :=
  if named : IsInstant seconds nanosecond then some ⟨seconds, nanosecond, named⟩ else none

/-- The start of 1970. -/
def epoch : Instant :=
  ⟨0, 0, by decide +kernel⟩

def date (instant : Instant) : Date :=
  Date.ofDays (instant.seconds / secondsPerDay)

/-- The second of the day, leaving leap seconds aside. -/
def secondOfDay (instant : Instant) : Nat :=
  (instant.seconds % secondsPerDay).toNat

def hour (instant : Instant) : Nat :=
  instant.secondOfDay / 3600

def minute (instant : Instant) : Nat :=
  instant.secondOfDay / 60 % 60

def isInLeapSecond (instant : Instant) : Bool :=
  nanosecondsPerSecond ≤ instant.nanosecond

/-- The second of the minute; a leap second is the sixtieth. -/
def second (instant : Instant) : Nat :=
  instant.secondOfDay % 60 + if instant.isInLeapSecond then 1 else 0

/-- The nanoseconds since the second, or the leap second, began. -/
def fraction (instant : Instant) : Nat :=
  if instant.isInLeapSecond then instant.nanosecond - nanosecondsPerSecond else instant.nanosecond

def timeLabel (instant : Instant) : String :=
  String.ofList (paddedDigits 2 instant.hour ++ ':' :: paddedDigits 2 instant.minute ++
    ':' :: paddedDigits 2 instant.second)

end Instant

end ScriptedFeed
