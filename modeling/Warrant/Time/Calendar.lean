/-!
# The calendar

The Gregorian calendar of the years 1 to 9999, as numbers of days counted from
the first of January of the year one, which is a Monday. A day has a month and a
day within it, or a week and a weekday: weeks begin on Monday, and the first
week of a year is the one that holds its first Thursday.
-/

namespace Warrant.Calendar

/-- Whether a year has a twenty-ninth of February. -/
def isLeap (year : Nat) : Bool :=
  year % 4 == 0 && (year % 100 != 0 || year % 400 == 0)

/-- The days of a month. -/
def daysInMonth (year month : Nat) : Nat :=
  match month with
  | 2 => if isLeap year then 29 else 28
  | 4 => 30
  | 6 => 30
  | 9 => 30
  | 11 => 30
  | _ => 31

/-- The days before the first of January of a year, counted from the year one. -/
def daysBeforeYear (year : Nat) : Nat :=
  let y := year - 1
  y * 365 + y / 4 - y / 100 + y / 400

/-- The days of a year before the first of a month. -/
def daysBeforeMonth (year : Nat) : (month : Nat) → Nat
  | 0 => 0
  | 1 => 0
  | month + 2 => daysBeforeMonth year (month + 1) + daysInMonth year (month + 1)

/-- The last year of the calendar. -/
def lastYear : Nat := 9999

/-- The number of days in the calendar. -/
def totalDays : Nat := daysBeforeYear (lastYear + 1)

/-! ## Days to dates -/

/-- The year of a day and the day within the year, searched upward from `year`. -/
def yearOfDay : (fuel : Nat) → (year day : Nat) → Nat × Nat
  | 0, year, day => (year, day)
  | fuel + 1, year, day =>
      let length := if isLeap year then 366 else 365
      if day < length then (year, day) else yearOfDay fuel (year + 1) (day - length)

/-- The month of a day within a year and the day within the month, both from one. -/
def monthOfDay (year : Nat) : (fuel : Nat) → (month day : Nat) → Nat × Nat
  | 0, month, day => (month, day + 1)
  | fuel + 1, month, day =>
      if day < daysInMonth year month then (month, day + 1)
      else monthOfDay year fuel (month + 1) (day - daysInMonth year month)

/-- Year, month and day of a day. Whole cycles of four hundred years are taken off first, so the
search is short. -/
def dateOfDay (n : Nat) : Nat × Nat × Nat :=
  let cycle := n / 146097
  let (year, dayOfYear) := yearOfDay 400 1 (n % 146097)
  let (month, day) := monthOfDay year 12 1 dayOfYear
  (year + 400 * cycle, month, day)

/-! ## Dates to days -/

/-- The day of a date by year, month and day, if there is such a date. -/
def dayOfDate? (year month day : Nat) : Option Nat :=
  if 1 ≤ year ∧ year ≤ lastYear ∧ 1 ≤ month ∧ month ≤ 12 ∧ 1 ≤ day ∧ day ≤ daysInMonth year month then
    some (daysBeforeYear year + daysBeforeMonth year month + (day - 1))
  else none

/-- The weekday of a day, Monday being zero. -/
def weekday (n : Nat) : Nat := n % 7

/-- The Monday of the first week of a year. -/
def firstMonday (year : Nat) : Nat :=
  let first := daysBeforeYear year
  if weekday first ≤ 3 then first - weekday first else first + 7 - weekday first

/-- The number of weeks of a year. -/
def weeksInYear (year : Nat) : Nat :=
  let first := weekday (daysBeforeYear year)
  if first = 3 ∨ first = 2 ∧ isLeap year then 53 else 52

/-- The day of a date by year, week and weekday, Monday being one, if there is such a date. -/
def dayOfWeek? (year week day : Nat) : Option Nat :=
  if 1 ≤ year ∧ 1 ≤ week ∧ week ≤ weeksInYear year ∧ 1 ≤ day ∧ day ≤ 7 then
    let n := firstMonday year + (week - 1) * 7 + (day - 1)
    if n < totalDays then some n else none
  else none

end Warrant.Calendar
