/-!
# The calendar

Days are counted from 1 January 1970. A year of the calendar used here begins
in March, so that a leap day is the last day of its year: `dayNumber` counts
the days before a date, and `dateOf` finds the date of a day.

Dates lie in the years from -262143 to 262142.
-/

namespace MandateDesk.Calendar

/-- A day of a month of a year. -/
structure Date where
  /-- The year, which may be negative. -/
  year : Int
  /-- The month, from 1. -/
  month : Nat
  /-- The day of the month, from 1. -/
  day : Nat
deriving DecidableEq

/-- Days in four hundred years. -/
def daysPerEra : Int := 146097

/-- Days from the first of March of year 0 to 1 January 1970. -/
def epochOffset : Int := 719468

/-- The first year of the calendar. -/
def firstYear : Int := -262143

/-- The last year of the calendar. -/
def lastYear : Int := 262142

/-- Whether a year has a leap day. -/
def isLeap (year : Int) : Bool :=
  year % 4 == 0 && (year % 100 != 0 || year % 400 == 0)

/-- Number of days in a month. -/
def daysInMonth (year : Int) (month : Nat) : Nat :=
  if month = 2 then (if isLeap year then 29 else 28)
  else if month = 4 ∨ month = 6 ∨ month = 9 ∨ month = 11 then 30
  else 31

/-- Whether a date exists in the calendar. -/
def Date.isValid (date : Date) : Bool :=
  decide (firstYear ≤ date.year) && decide (date.year ≤ lastYear) &&
    decide (1 ≤ date.month) && decide (date.month ≤ 12) &&
    decide (1 ≤ date.day) &&
    decide (date.day ≤ daysInMonth date.year date.month)

/-- Days of a year that begins in March, in front of one of its months. -/
def daysBeforeMonth (monthFromMarch : Nat) : Nat :=
  (153 * monthFromMarch + 2) / 5

/-- Number of days from 1 January 1970 to a date. -/
def dayNumber (date : Date) : Int :=
  let year := if date.month ≤ 2 then date.year - 1 else date.year
  let monthFromMarch := (date.month + 9) % 12
  let era := year / 400
  let yearOfEra := year % 400
  let dayOfYear : Int := daysBeforeMonth monthFromMarch + date.day - 1
  era * daysPerEra + yearOfEra * 365 + yearOfEra / 4 - yearOfEra / 100 +
    dayOfYear - epochOffset

/-- The date of the day with a number. -/
def dateOf (day : Int) : Date :=
  let shifted := day + epochOffset
  let era := shifted / daysPerEra
  let dayOfEra := (shifted % daysPerEra).toNat
  let yearOfEra :=
    (dayOfEra - dayOfEra / 1460 + dayOfEra / 36524 - dayOfEra / 146096) / 365
  let dayOfYear :=
    dayOfEra - (365 * yearOfEra + yearOfEra / 4 - yearOfEra / 100)
  let monthFromMarch := (5 * dayOfYear + 2) / 153
  let day := dayOfYear - daysBeforeMonth monthFromMarch + 1
  let month :=
    if monthFromMarch < 10 then monthFromMarch + 3 else monthFromMarch - 9
  let year := era * 400 + yearOfEra + (if month ≤ 2 then 1 else 0)
  ⟨year, month, day⟩

/-- The first day of the calendar. -/
def firstDay : Int := dayNumber ⟨firstYear, 1, 1⟩

/-- The last day of the calendar. -/
def lastDay : Int := dayNumber ⟨lastYear, 12, 31⟩

example : dayNumber ⟨1970, 1, 1⟩ = 0 := by decide
example : dayNumber ⟨2000, 3, 1⟩ = 11017 := by decide
example : dateOf 11016 = ⟨2000, 2, 29⟩ := by decide
example : dateOf (dayNumber ⟨-1, 12, 31⟩) = ⟨-1, 12, 31⟩ := by decide

end MandateDesk.Calendar
