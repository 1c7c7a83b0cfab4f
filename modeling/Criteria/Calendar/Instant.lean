import Criteria.Calendar.Date

/-!
# Instants

A point in time, in milliseconds from the beginning of 1970 in UTC, and its text: date, `T`, time of
day with three fraction digits, `Z`. Instants whose year lies outside the calendar's range have no
text.
-/

namespace Criteria

/-- A point in time. -/
structure Instant where
  /-- Milliseconds from 1970-01-01T00:00:00Z. -/
  millis : Int64
deriving DecidableEq

namespace Instant

/-- The order of time. -/
def compare (a b : Instant) : Ordering := Ord.compare a.millis.toInt b.millis.toInt

/-- The first year of the calendar's range. -/
def firstYear : Int := -262143

/-- The last year of the calendar's range. -/
def lastYear : Int := 262142

/-- The milliseconds of a day. -/
def millisPerDay : Int := 86400000

/-- A number in decimal, filled up with zeros on the left. -/
def padded (width n : Nat) : List Char :=
  let digits := Nat.toDigits 10 n
  List.replicate (width - digits.length) '0' ++ digits

/-- A year: four digits, with a sign if it is outside the years 0 to 9999. -/
def yearText (year : Int) : List Char :=
  if 0 ≤ year ∧ year ≤ 9999 then padded 4 year.natAbs
  else (if year < 0 then '-' else '+') :: padded 4 year.natAbs

/-- The instant of a date and a number of milliseconds after its midnight, in UTC. -/
def ofDate (date : Date) (millisOfDay : Int) : Instant :=
  ⟨Int64.ofInt (date.toDay * millisPerDay + millisOfDay)⟩

/-- The date in UTC. -/
def date (t : Instant) : Date := Date.ofDay (t.millis.toInt / millisPerDay)

/-- The milliseconds since midnight in UTC. -/
def millisOfDay (t : Instant) : Nat := (t.millis.toInt % millisPerDay).toNat

/-- Whether the year lies in the calendar's range. -/
def inCalendar (t : Instant) : Bool :=
  decide (firstYear ≤ t.date.year ∧ t.date.year ≤ lastYear)

/-- The text of an instant of the calendar, such as `2024-01-29T10:00:00.000Z`. -/
def toText? (t : Instant) : Option String :=
  if t.inCalendar then
    let d := t.date
    let ms := t.millisOfDay
    some (String.ofList (
      yearText d.year ++ '-' :: padded 2 d.month ++ '-' :: padded 2 d.day ++
      'T' :: padded 2 (ms / 3600000) ++ ':' :: padded 2 (ms / 60000 % 60) ++
      ':' :: padded 2 (ms / 1000 % 60) ++ '.' :: padded 3 (ms % 1000) ++ ['Z']))
  else none

end Instant

end Criteria
