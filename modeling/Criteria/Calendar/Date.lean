/-!
# Calendar dates

Dates of the proleptic Gregorian calendar and their day numbers, counted from 1970-01-01. Both
directions count years from March, so that the leap day ends a year, in cycles of four hundred
years.
-/

namespace Criteria

/-- A year, a month from one to twelve and a day of the month. -/
structure Date where
  /-- The year; zero is the year before the year one. -/
  year : Int
  /-- The month. -/
  month : Nat
  /-- The day of the month. -/
  day : Nat
deriving DecidableEq, Repr

namespace Date

/-- Whether a year has a leap day. -/
def isLeap (year : Int) : Bool :=
  decide (year % 4 = 0 ∧ (year % 100 ≠ 0 ∨ year % 400 = 0))

/-- The number of days of a month; zero for a number that is no month. -/
def monthLength (year : Int) (month : Nat) : Nat :=
  match month with
  | 2 => if isLeap year then 29 else 28
  | 4 | 6 | 9 | 11 => 30
  | 1 | 3 | 5 | 7 | 8 | 10 | 12 => 31
  | _ => 0

/-- Whether month and day exist in the calendar. -/
def isValid (d : Date) : Bool := decide (1 ≤ d.day ∧ d.day ≤ monthLength d.year d.month)

/-- The number of days from 1970-01-01 to the date. -/
def toDay (d : Date) : Int :=
  let year := if d.month ≤ 2 then d.year - 1 else d.year
  let cycle := year / 400
  let yearOfCycle := year % 400
  let month : Int := (d.month + 9) % 12
  let dayOfYear := (153 * month + 2) / 5 + d.day - 1
  let dayOfCycle := yearOfCycle * 365 + yearOfCycle / 4 - yearOfCycle / 100 + dayOfYear
  cycle * 146097 + dayOfCycle - 719468

/-- The date that is `day` days after 1970-01-01. -/
def ofDay (day : Int) : Date :=
  let shifted := day + 719468
  let cycle := shifted / 146097
  let dayOfCycle := shifted % 146097
  let yearOfCycle :=
    (dayOfCycle - dayOfCycle / 1460 + dayOfCycle / 36524 - dayOfCycle / 146096) / 365
  let dayOfYear := dayOfCycle - (365 * yearOfCycle + yearOfCycle / 4 - yearOfCycle / 100)
  let month := (5 * dayOfYear + 2) / 153
  let dayOfMonth := dayOfYear - (153 * month + 2) / 5 + 1
  let calendarMonth := if month < 10 then month + 3 else month - 9
  { year := yearOfCycle + cycle * 400 + (if calendarMonth ≤ 2 then 1 else 0)
    month := calendarMonth.toNat
    day := dayOfMonth.toNat }

end Date

end Criteria
