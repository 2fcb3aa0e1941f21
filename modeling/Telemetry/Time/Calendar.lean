/-!
# The calendar

Dates of the proleptic Gregorian calendar and their day numbers, counted from the first of January
1970. The year is taken to begin in March, so that the leap day is its last day, and four hundred
years form an era of 146097 days.
-/

namespace Telemetry

/-- A calendar date. -/
structure Date where
  year : Int
  month : Nat
  day : Nat
  deriving DecidableEq, Repr

namespace Date

/-- The year has a leap day. -/
def isLeapYear (year : Int) : Bool :=
  year % 4 = 0 && (year % 100 ≠ 0 || year % 400 = 0)

/-- The length of a month; zero for a month that does not exist. -/
def daysInMonth (year : Int) (month : Nat) : Nat :=
  if month = 2 then (if isLeapYear year then 29 else 28)
  else if month = 4 || month = 6 || month = 9 || month = 11 then 30
  else if 1 ≤ month && month ≤ 12 then 31
  else 0

/-- The day exists. -/
def isValid (d : Date) : Bool :=
  1 ≤ d.day && d.day ≤ daysInMonth d.year d.month

/-- The month counted from March. -/
def monthFromMarch (month : Nat) : Nat := (month + 9) % 12

/-- The day of the year, from zero, of a year that begins in March. -/
def dayOfYear (month day : Nat) : Nat := (153 * monthFromMarch month + 2) / 5 + day - 1

/-- The day of the era, from zero. `yearOfEra` counts years that begin in March. -/
def dayOfEra (yearOfEra dayOfYear : Nat) : Nat :=
  yearOfEra * 365 + yearOfEra / 4 - yearOfEra / 100 + dayOfYear

/-- The number of days since the first of January 1970. -/
def toDays (d : Date) : Int :=
  let year := if d.month ≤ 2 then d.year - 1 else d.year
  year / 400 * 146097 + dayOfEra (year % 400).toNat (dayOfYear d.month d.day) - 719468

/-- The year of the era in which a day of the era lies. -/
def yearOfEra (dayOfEra : Nat) : Nat :=
  (dayOfEra - dayOfEra / 1460 + dayOfEra / 36524 - dayOfEra / 146096) / 365

/-- The date with the given day number. -/
def ofDays (days : Int) : Date :=
  let shifted := days + 719468
  let doe := (shifted % 146097).toNat
  let yoe := yearOfEra doe
  let doy := doe - (365 * yoe + yoe / 4 - yoe / 100)
  let mp := (5 * doy + 2) / 153
  let month := if mp < 10 then mp + 3 else mp - 9
  let year := shifted / 146097 * 400 + yoe
  ⟨if month ≤ 2 then year + 1 else year, month, doy - (153 * mp + 2) / 5 + 1⟩

end Date

end Telemetry
