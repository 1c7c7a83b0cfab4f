import Criteria.Calendar.Instant
import Criteria.Text

/-!
# Reading instants

The spellings of an instant, tried in this order after blanks around the text are dropped:

* date and time with a zone, all fields at full width: `2024-01-29T10:00:00.5+02:00`; the separator
  may be a space or a small `t`, the zone a `Z` of either case;
* date and time without a zone, joined by `T`, then joined by blanks, read as UTC;
* a date alone, read as its midnight in UTC.

In the spellings without a zone a field may have fewer digits and blanks in front of it, and the
year may have a sign and then any number of digits. A sixtieth second is read as the start of the
next minute. Digits of a fraction beyond the ninth are skipped.
-/

namespace Criteria

/-- A time of day, as it is written. -/
structure ClockTime where
  /-- The hour. -/
  hour : Nat
  /-- The minute. -/
  minute : Nat
  /-- The second; sixty is a leap second. -/
  second : Nat
  /-- The fraction of the second, in nanoseconds. -/
  nanos : Nat
deriving DecidableEq, Repr

namespace ClockTime

/-- Whether every field is in its range. -/
def isValid (t : ClockTime) : Bool := decide (t.hour ≤ 23 ∧ t.minute ≤ 59 ∧ t.second ≤ 60)

/-- Milliseconds since midnight; what is less than a millisecond is dropped. -/
def millisOfDay (t : ClockTime) : Int :=
  ((t.hour * 3600 + t.minute * 60 + t.second) * 1000 + t.nanos / 1000000 : Nat)

end ClockTime

namespace Instant

/-! ### Fields -/

/-- The value of decimal digits. -/
def digitsValue (digits : List Char) : Nat :=
  digits.foldl (fun n c => n * 10 + (c.toNat - '0'.toNat)) 0

/-- The longest run of decimal digits in front of a text, up to a number of them if there is a
limit, and the text after it. -/
def splitDigits : (limit : Option Nat) → List Char → List Char × List Char
  | _, [] => ([], [])
  | limit, c :: cs =>
    if c.isDigit ∧ limit ≠ some 0 then
      let (digits, rest) := splitDigits (limit.map (· - 1)) cs
      (c :: digits, rest)
    else ([], c :: cs)

/-- A number of at least `least` and at most `limit` digits. -/
def readNumber (least : Nat) (limit : Option Nat) (cs : List Char) : Option (Nat × List Char) :=
  let (digits, rest) := splitDigits limit cs
  if least ≤ digits.length then some (digitsValue digits, rest) else none

/-- A given character. -/
def readChar (expected : Char) : List Char → Option (List Char)
  | c :: cs => if c = expected then some cs else none
  | [] => none

/-- A fraction of a second behind a point, in nanoseconds; without a point it is zero. -/
def readFraction : List Char → Option (Nat × List Char)
  | '.' :: cs =>
    let (digits, rest) := splitDigits (some 9) cs
    if digits.isEmpty then none
    else some (digitsValue digits * Nat.pow 10 (9 - digits.length), (splitDigits none rest).2)
  | cs => some (0, cs)

/-- A year: up to four digits, or a sign and any number of digits. -/
def readYear : List Char → Option (Int × List Char)
  | '-' :: cs => (readNumber 1 none cs).map fun (n, rest) => (-(n : Int), rest)
  | '+' :: cs => (readNumber 1 none cs).map fun (n, rest) => ((n : Int), rest)
  | cs => (readNumber 1 (some 4) cs).map fun (n, rest) => ((n : Int), rest)

/-! ### Spellings without a zone -/

/-- A date whose fields may be short and padded with blanks. -/
def readDate (cs : List Char) : Option (Date × List Char) := do
  let (year, cs) ← readYear (skipBlanks cs)
  let cs ← readChar '-' cs
  let (month, cs) ← readNumber 1 (some 2) (skipBlanks cs)
  let cs ← readChar '-' cs
  let (day, cs) ← readNumber 1 (some 2) (skipBlanks cs)
  return (⟨year, month, day⟩, cs)

/-- A time of day whose fields may be short and padded with blanks. -/
def readClockTime (cs : List Char) : Option (ClockTime × List Char) := do
  let (hour, cs) ← readNumber 1 (some 2) (skipBlanks cs)
  let cs ← readChar ':' cs
  let (minute, cs) ← readNumber 1 (some 2) (skipBlanks cs)
  let cs ← readChar ':' cs
  let (second, cs) ← readNumber 1 (some 2) (skipBlanks cs)
  let (nanos, cs) ← readFraction cs
  return (⟨hour, minute, second, nanos⟩, cs)

/-- The instant of a date and a time of day that exist, `offset` minutes ahead of UTC. -/
def ofFields? (date : Date) (time : ClockTime) (offset : Int) : Option Instant :=
  if date.isValid ∧ time.isValid ∧ firstYear ≤ date.year ∧ date.year ≤ lastYear then
    some (ofDate date (time.millisOfDay - offset * 60000))
  else none

/-- Date and time of day, with `separator` reading what stands between them. -/
def readLocal (separator : List Char → Option (List Char)) (cs : List Char) : Option Instant := do
  let (date, cs) ← readDate cs
  let cs ← separator cs
  let (time, cs) ← readClockTime cs
  if cs.isEmpty then ofFields? date time 0 else none

/-- A date alone. -/
def readMidnight (cs : List Char) : Option Instant := do
  let (date, cs) ← readDate cs
  if cs.isEmpty then ofFields? date ⟨0, 0, 0, 0⟩ 0 else none

/-! ### Spellings with a zone -/

/-- The sign of a zone offset; the minus sign proper counts as well as the hyphen. -/
def readSign : List Char → Option (Int × List Char)
  | '+' :: cs => some (1, cs)
  | '-' :: cs => some (-1, cs)
  | '\u2212' :: cs => some (-1, cs)
  | _ => none

/-- A zone, in minutes ahead of UTC. -/
def readZone : List Char → Option (Int × List Char)
  | 'Z' :: cs => some (0, cs)
  | 'z' :: cs => some (0, cs)
  | cs => do
    let (sign, cs) ← readSign cs
    let (hours, cs) ← readNumber 2 (some 2) cs
    let cs ← readChar ':' cs
    let (minutes, cs) ← readNumber 2 (some 2) cs
    if hours ≤ 23 ∧ minutes ≤ 59 then
      return (sign * (hours * 60 + minutes : Nat), cs)
    else none

/-- The separator between date and time of a spelling with a zone. -/
def readSeparator : List Char → Option (List Char)
  | 'T' :: cs => some cs
  | 't' :: cs => some cs
  | ' ' :: cs => some cs
  | _ => none

/-- Date, time of day and zone, each field at full width. -/
def readZoned (cs : List Char) : Option Instant := do
  let (year, cs) ← readNumber 4 (some 4) cs
  let cs ← readChar '-' cs
  let (month, cs) ← readNumber 2 (some 2) cs
  let cs ← readChar '-' cs
  let (day, cs) ← readNumber 2 (some 2) cs
  let cs ← readSeparator cs
  let (hour, cs) ← readNumber 2 (some 2) cs
  let cs ← readChar ':' cs
  let (minute, cs) ← readNumber 2 (some 2) cs
  let cs ← readChar ':' cs
  let (second, cs) ← readNumber 2 (some 2) cs
  let (nanos, cs) ← readFraction cs
  let (offset, cs) ← readZone cs
  if cs.isEmpty then ofFields? ⟨year, month, day⟩ ⟨hour, minute, second, nanos⟩ offset else none

/-- The instant that a text spells. -/
def parse? (text : String) : Option Instant :=
  let cs := trimBlanks text.toList
  readZoned cs
    <|> readLocal (readChar 'T') cs
    <|> readLocal (fun cs => some (skipBlanks cs)) cs
    <|> readMidnight cs

end Instant

end Criteria
