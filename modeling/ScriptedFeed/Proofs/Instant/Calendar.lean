import Mathlib.Tactic
import ScriptedFeed.Instant.Calendar

/-!
# Days are named by one date each

The date of a day is found by locating the day first: its cycle of four hundred years, the century,
the group of four years and the year within it, and its number in a year that begins in March. Of
such a place everything else is a sum, so the date is taken back to its day by adding the same parts
again. Only the last year of a group has a leap day, and of the last group of a century only that of
the last century.
-/

namespace ScriptedFeed

namespace Date

/-- Where a day lies within the cycles of four hundred years. -/
structure Place where
  cycle : Int
  century : Nat
  group : Nat
  yearOfGroup : Nat
  dayOfYear : Nat

namespace Place

/-- The place of the day with the given number. -/
def ofDays (days : Int) : Place :=
  let shifted := days + daysBeforeEpoch
  let dayOfCycle := (shifted % daysPerCycle).toNat
  let century := min 3 (dayOfCycle / 36524)
  let dayOfCentury := dayOfCycle - century * 36524
  let group := dayOfCentury / 1461
  let dayOfGroup := dayOfCentury - group * 1461
  let yearOfGroup := min 3 (dayOfGroup / 365)
  ⟨shifted / daysPerCycle, century, group, yearOfGroup, dayOfGroup - yearOfGroup * 365⟩

/-- The number of the day at a place. -/
def days (place : Place) : Int :=
  place.cycle * daysPerCycle + (place.century * 36524 + place.group * 1461 +
    place.yearOfGroup * 365 + place.dayOfYear : Nat) - daysBeforeEpoch

def yearFromMarch (place : Place) : Int :=
  place.cycle * 400 + (place.century * 100 + place.group * 4 + place.yearOfGroup : Nat)

def monthFromMarch (place : Place) : Nat :=
  (5 * place.dayOfYear + 2) / 153

def date (place : Place) : Date where
  year := if place.monthFromMarch < 10 then place.yearFromMarch else place.yearFromMarch + 1
  month :=
    if place.monthFromMarch < 10 then place.monthFromMarch + 3 else place.monthFromMarch - 9
  day := place.dayOfYear - daysBeforeMonth place.monthFromMarch + 1

/-- There is a day at the place. -/
structure IsDay (place : Place) : Prop where
  century_le : place.century ≤ 3
  group_le : place.group ≤ 24
  yearOfGroup_le : place.yearOfGroup ≤ 3
  dayOfYear_le : place.dayOfYear ≤ 365
  leap : place.dayOfYear = 365 →
    place.yearOfGroup = 3 ∧ (place.group = 24 → place.century = 3)

variable {place other : Place}

theorem date_ofDays (number : Int) : (ofDays number).date = Date.ofDays number :=
  rfl

theorem days_ofDays (number : Int) : (ofDays number).days = number := by
  simp only [days, ofDays, daysPerCycle, daysBeforeEpoch]
  omega

theorem isDay_ofDays (number : Int) : (ofDays number).IsDay := by
  have dayOfCycle_lt : ((number + daysBeforeEpoch) % daysPerCycle).toNat < 146097 := by
    rw [daysPerCycle]
    omega
  refine ⟨?_, ?_, ?_, ?_, ?_⟩ <;> simp only [ofDays] <;> omega

section Month

theorem IsDay.monthFromMarch_lt (isDay : place.IsDay) : place.monthFromMarch < 12 := by
  have dayOfYear_le := isDay.dayOfYear_le
  rw [monthFromMarch]
  omega

theorem daysBeforeMonth_le (place : Place) :
    daysBeforeMonth place.monthFromMarch ≤ place.dayOfYear := by
  rw [daysBeforeMonth, monthFromMarch]
  omega

theorem lt_daysBeforeMonth_succ (place : Place) :
    place.dayOfYear < daysBeforeMonth (place.monthFromMarch + 1) := by
  rw [daysBeforeMonth, monthFromMarch]
  omega

end Month

/-- The number of a day is found from its date as it is from its place. -/
theorem toDays_date (isDay : place.IsDay) : place.date.toDays = place.days := by
  have month_lt := isDay.monthFromMarch_lt
  rcases isDay with ⟨century_le, group_le, yearOfGroup_le, -, -⟩
  have year_eq : (if place.date.month ≤ 2 then place.date.year - 1 else place.date.year) =
      place.yearFromMarch := by
    simp only [date]
    split_ifs <;> omega
  have month_eq : (if place.date.month ≤ 2 then place.date.month + 9 else place.date.month - 3) =
      place.monthFromMarch := by
    simp only [date]
    split_ifs <;> omega
  have day_eq : daysBeforeMonth place.monthFromMarch + place.date.day - 1 = place.dayOfYear := by
    have before_le := place.daysBeforeMonth_le
    simp only [date]
    omega
  simp only [toDays, year_eq, month_eq, day_eq, yearFromMarch, days, daysPerCycle]
  omega

section Validity

theorem isLeapYear_of_leap_day (isDay : place.IsDay) (isLast : place.dayOfYear = 365) :
    isLeapYear (place.yearFromMarch + 1) := by
  rcases isDay with ⟨century_le, group_le, -, -, leap⟩
  rcases leap isLast with ⟨yearOfGroup_eq, last_century⟩
  have divides : (place.yearFromMarch + 1) % 4 = 0 := by
    rw [yearFromMarch]
    omega
  have not_century_or : (place.yearFromMarch + 1) % 100 ≠ 0 ∨
      (place.yearFromMarch + 1) % 400 = 0 := by
    rw [yearFromMarch]
    omega
  simpa [isLeapYear, divides] using not_century_or

/-- Before February, with which the year ends, every month has its own length in all years. -/
theorem daysBeforeMonth_succ_le (year : Int) {month : Nat} (month_lt : month < 11) :
    daysBeforeMonth (month + 1) ≤ daysBeforeMonth month +
      daysInMonth year (if month < 10 then month + 3 else month - 9) := by
  interval_cases month <;> exact Nat.le_refl _

theorem IsDay.month_date_bounds (isDay : place.IsDay) :
    1 ≤ place.date.month ∧ place.date.month ≤ 12 := by
  have month_lt := isDay.monthFromMarch_lt
  simp only [date]
  split_ifs <;> omega

theorem day_date_pos (place : Place) : 1 ≤ place.date.day := by
  simp only [date]
  omega

theorem IsDay.day_date_le (isDay : place.IsDay) :
    place.date.day ≤ daysInMonth place.date.year place.date.month := by
  have before_le := place.daysBeforeMonth_le
  have lt_before_succ := place.lt_daysBeforeMonth_succ
  by_cases month_lt : place.monthFromMarch < 11
  · have succ_le := daysBeforeMonth_succ_le place.date.year month_lt
    simp only [date] at *
    omega
  · have month_eq : place.monthFromMarch = 11 := by
      have month_lt := isDay.monthFromMarch_lt
      omega
    have dayOfYear_le := isDay.dayOfYear_le
    simp only [date, month_eq, daysBeforeMonth, daysInMonth, Nat.reduceSub, Nat.reduceLT,
      reduceIte] at *
    split_ifs with isLeap
    · omega
    · have not_last := mt (isLeapYear_of_leap_day isDay) isLeap
      omega

end Validity

section Order

theorem days_lt_of_yearFromMarch_lt (isDay : place.IsDay) (other_isDay : other.IsDay)
    (year_lt : place.yearFromMarch < other.yearFromMarch) : place.days < other.days := by
  rcases isDay with ⟨century_le, group_le, yearOfGroup_le, dayOfYear_le, leap⟩
  rcases other_isDay with ⟨other_century_le, other_group_le, other_yearOfGroup_le, -, -⟩
  simp only [yearFromMarch] at year_lt
  simp only [days, daysPerCycle]
  omega

theorem days_lt_of_year_lt (isDay : place.IsDay) (other_isDay : other.IsDay)
    (year_lt : place.date.year < other.date.year) : place.days < other.days := by
  by_cases sameYear : place.yearFromMarch = other.yearFromMarch
  · have month_lt : place.monthFromMarch < other.monthFromMarch := by
      simp only [date, sameYear] at year_lt
      split_ifs at year_lt <;> omega
    rcases isDay with ⟨century_le, group_le, yearOfGroup_le, -, -⟩
    rcases other_isDay with ⟨other_century_le, other_group_le, other_yearOfGroup_le, -, -⟩
    simp only [yearFromMarch] at sameYear
    simp only [monthFromMarch] at month_lt
    simp only [days, daysPerCycle]
    omega
  · apply days_lt_of_yearFromMarch_lt isDay other_isDay
    simp only [date] at year_lt
    split_ifs at year_lt <;> omega

end Order

end Place

theorem daysInMonth_le (year : Int) (month : Nat) : daysInMonth year month ≤ 31 := by
  fun_cases daysInMonth year month <;> simp

theorem toDays_ofDays (days : Int) : (ofDays days).toDays = days := by
  have toDays_date := Place.toDays_date (Place.isDay_ofDays days)
  rwa [Place.date_ofDays, Place.days_ofDays] at toDays_date

theorem lt_of_year_ofDays_lt {day other : Int}
    (year_lt : (ofDays day).year < (ofDays other).year) : day < other := by
  have isDay := Place.isDay_ofDays day
  have days_lt := Place.days_lt_of_year_lt isDay (Place.isDay_ofDays other) year_lt
  rwa [Place.days_ofDays, Place.days_ofDays] at days_lt

/-- The days of the years that instants are kept for have valid dates. -/
theorem isValid_ofDays {days : Int} (first_le : toDays ⟨firstYear, 1, 1⟩ ≤ days)
    (le_last : days ≤ toDays ⟨lastYear, 12, 31⟩) : (ofDays days).isValid := by
  have first_eq : ofDays (toDays ⟨firstYear, 1, 1⟩) = ⟨firstYear, 1, 1⟩ := by decide +kernel
  have last_eq : ofDays (toDays ⟨lastYear, 12, 31⟩) = ⟨lastYear, 12, 31⟩ := by decide +kernel
  have firstYear_le := mt lt_of_year_ofDays_lt (Int.not_lt.2 first_le)
  have le_lastYear := mt lt_of_year_ofDays_lt (Int.not_lt.2 le_last)
  rw [first_eq, Int.not_lt] at firstYear_le
  rw [last_eq, Int.not_lt] at le_lastYear
  have isDay := Place.isDay_ofDays days
  have day_le := isDay.day_date_le
  have month_bounds := isDay.month_date_bounds
  have day_pos := (Place.ofDays days).day_date_pos
  rw [Place.date_ofDays] at day_le month_bounds day_pos
  simp [isValid, firstYear_le, le_lastYear, day_le, month_bounds, day_pos]

end Date

end ScriptedFeed
