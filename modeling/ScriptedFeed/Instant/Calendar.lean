/-!
# The calendar

Days are counted from the first of January 1970 and named by the Gregorian calendar, extended
without limit in both directions. A calendar year is taken to begin in March, so that the leap day
is the last of its year; four hundred such years make one cycle of equal length, and within a cycle
the day is located by century, by group of four years and by year.
-/

namespace ScriptedFeed

structure Date where
  year : Int
  month : Nat
  day : Nat
deriving DecidableEq, Repr

namespace Date

/-- The number of days in four hundred years. -/
def daysPerCycle : Nat := 146097

/-- The number of days from the first of March of the year zero to the first of January 1970. -/
def daysBeforeEpoch : Int := 719468

/-- The number of days before a month of the year that begins in March. -/
def daysBeforeMonth (monthFromMarch : Nat) : Nat :=
  (153 * monthFromMarch + 2) / 5

/-- The day with the given number, counted from the first of January 1970. -/
def ofDays (days : Int) : Date :=
  let shifted := days + daysBeforeEpoch
  let cycle := shifted / daysPerCycle
  let dayOfCycle := (shifted % daysPerCycle).toNat
  let century := min 3 (dayOfCycle / 36524)
  let dayOfCentury := dayOfCycle - century * 36524
  let group := dayOfCentury / 1461
  let dayOfGroup := dayOfCentury - group * 1461
  let yearOfGroup := min 3 (dayOfGroup / 365)
  let dayOfYear := dayOfGroup - yearOfGroup * 365
  let monthFromMarch := (5 * dayOfYear + 2) / 153
  let yearFromMarch := cycle * 400 + (century * 100 + group * 4 + yearOfGroup : Nat)
  { year := if monthFromMarch < 10 then yearFromMarch else yearFromMarch + 1
    month := if monthFromMarch < 10 then monthFromMarch + 3 else monthFromMarch - 9
    day := dayOfYear - daysBeforeMonth monthFromMarch + 1 }

/-- The number of a day, counted from the first of January 1970. -/
def toDays (date : Date) : Int :=
  let yearFromMarch := if date.month ≤ 2 then date.year - 1 else date.year
  let monthFromMarch := if date.month ≤ 2 then date.month + 9 else date.month - 3
  let cycle := yearFromMarch / 400
  let yearOfCycle := (yearFromMarch % 400).toNat
  let dayOfYear := daysBeforeMonth monthFromMarch + date.day - 1
  let dayOfCycle := yearOfCycle * 365 + yearOfCycle / 4 - yearOfCycle / 100 + dayOfYear
  cycle * daysPerCycle + dayOfCycle - daysBeforeEpoch

def isLeapYear (year : Int) : Bool :=
  year % 4 = 0 && (year % 100 ≠ 0 || year % 400 = 0)

def daysInMonth (year : Int) (month : Nat) : Nat :=
  match month with
  | 2 => if isLeapYear year then 29 else 28
  | 4 | 6 | 9 | 11 => 30
  | _ => 31

/-- The first year that instants are kept for. -/
def firstYear : Int := -262143

/-- The last year that instants are kept for. -/
def lastYear : Int := 262142

/-- Whether the date is a day of the calendar within the years that instants are kept for. -/
def isValid (date : Date) : Bool :=
  firstYear ≤ date.year && date.year ≤ lastYear && 1 ≤ date.month && date.month ≤ 12 &&
    1 ≤ date.day && date.day ≤ daysInMonth date.year date.month

end Date

end ScriptedFeed
