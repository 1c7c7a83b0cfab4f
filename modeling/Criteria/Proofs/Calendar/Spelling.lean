import Criteria.Proofs.Calendar.Date
import Criteria.Proofs.Calendar.Field

/-!
# Spellings of a date and a time of day

A date with a year of four digits and a time of day to the millisecond can be spelled in four ways:
joined by `T` or by a space, with a `Z` behind them, or with a zone offset (`Spelling`). Each part
of such a text is read by the reader for it, whatever follows: the date
(`Instant.readDate_dateText`), the time of day (`Instant.readClockTime_clockText`) and the zone
(`Instant.readZone_text`).
-/

namespace Criteria

/-! ### What is spelled -/

/-- A time of day to the millisecond. -/
structure DayTime where
  /-- The hour. -/
  hour : Fin 24
  /-- The minute. -/
  minute : Fin 60
  /-- The second. -/
  second : Fin 60
  /-- The millisecond. -/
  milli : Fin 1000

/-- A zone offset of less than a day. -/
structure Zone where
  /-- Whether the zone is ahead of UTC. -/
  isAhead : Bool
  /-- The hours of the offset. -/
  hours : Fin 24
  /-- The minutes of the offset, besides the hours. -/
  minutes : Fin 60

/-- The ways to spell a date and a time of day together. -/
inductive Spelling where
  /-- Joined by `T`, without a zone. -/
  | joined
  /-- Joined by a space, without a zone. -/
  | spaced
  /-- Joined by `T`, in UTC. -/
  | utc
  /-- Joined by `T`, in a zone. -/
  | zoned (zone : Zone)

/-- The milliseconds since midnight. -/
def DayTime.millis (t : DayTime) : Int :=
  ((t.hour * 3600 + t.minute * 60 + t.second) * 1000 + t.milli : Nat)

/-- The signed offset of a zone, in minutes ahead of UTC. -/
def Zone.minutesAhead (zone : Zone) : Int :=
  let offset : Int := (zone.hours * 60 + zone.minutes : Nat)
  if zone.isAhead then offset else -offset

namespace Instant

/-- The text of a date. -/
def dateText (d : Date) : List Char :=
  yearText d.year ++ '-' :: padded 2 d.month ++ '-' :: padded 2 d.day

end Instant

open Instant

/-- The text of a date alone. -/
def Date.text (d : Date) : String := String.ofList (dateText d)

/-- The text of the hours, minutes and seconds of a time of day. -/
def DayTime.clockText (t : DayTime) : List Char :=
  padded 2 t.hour ++ ':' :: padded 2 t.minute ++ ':' :: padded 2 t.second

/-- The text of the fraction of a time of day. -/
def DayTime.fractionText (t : DayTime) : List Char := '.' :: padded 3 t.milli

/-- The text of a zone offset. -/
def Zone.text (zone : Zone) : List Char :=
  (if zone.isAhead then '+' else '-') :: padded 2 zone.hours ++ ':' :: padded 2 zone.minutes

namespace Spelling

/-- What stands between date and time. -/
def separator : Spelling → Char
  | .spaced => ' '
  | .joined | .utc | .zoned _ => 'T'

/-- What stands behind the time. -/
def ending : Spelling → List Char
  | .joined | .spaced => []
  | .utc => ['Z']
  | .zoned zone => zone.text

/-- The signed offset of the zone, in minutes ahead of UTC. -/
def minutesAhead : Spelling → Int
  | .joined | .spaced | .utc => 0
  | .zoned zone => zone.minutesAhead

/-- The characters of a date and a time of day. -/
def chars (s : Spelling) (d : Date) (t : DayTime) : List Char :=
  dateText d ++ s.separator :: (t.clockText ++ (t.fractionText ++ s.ending))

/-- The text of a date and a time of day. -/
def text (s : Spelling) (d : Date) (t : DayTime) : String := String.ofList (s.chars d t)

end Spelling

/-! ### Bounds -/

lemma DayTime.millis_bounds (t : DayTime) : 0 ≤ t.millis ∧ t.millis < 86400000 := by
  rw [DayTime.millis]
  omega

lemma Zone.minutesAhead_bounds (zone : Zone) :
    -1440 < zone.minutesAhead ∧ zone.minutesAhead < 1440 := by
  rw [Zone.minutesAhead]
  split <;> omega

lemma Spelling.minutesAhead_bounds (s : Spelling) :
    -1440 < s.minutesAhead ∧ s.minutesAhead < 1440 := by
  cases s with
  | joined | spaced | utc => decide
  | zoned zone => exact Zone.minutesAhead_bounds zone

/-! ### Reading the parts -/

lemma Date.lt_hundred_of_isValid {d : Date} (h : d.isValid = true) :
    d.month < 100 ∧ d.day < 100 := by
  have hmonth := Date.month_of_isValid h
  have hday := (Date.isValid_iff.1 h).2
  have hlength := Date.monthLength_le d.year d.month
  omega

namespace Instant

section

variable {d : Date} {t : DayTime} {c : Char} {cs rest zone : List Char} {nanos : Nat}

@[simp] lemma readChar_self (c : Char) (cs : List Char) : readChar c (c :: cs) = some cs :=
  if_pos rfl

lemma readNumber_two {least n : Nat} (hleast : least ≤ 2) (h : n < 100) :
    readNumber least (some 2) (padded 2 n ++ rest) = some (n, rest) :=
  readNumber_padded (by decide) hleast h

lemma readNumber_four {n : Nat} (h : n < 10000) :
    readNumber 4 (some 4) (padded 4 n ++ rest) = some (n, rest) :=
  readNumber_padded (by decide) (by decide) h

/-- A number does not begin with another character than a digit. -/
lemma readNumber_of_endsNumber {least : Nat} {limit : Option Nat} (hleast : 0 < least)
    (h : EndsNumber cs) : readNumber least limit cs = none := by
  rw [readNumber, splitDigits_of_endsNumber h]
  exact if_neg (Nat.not_le_of_lt hleast)

/-- What comes after a part of a text is read once the part is. -/
lemma bind_of_eq_some {α β : Type} {x : Option α} {a : α} {f : α → Option β} {result : Option β}
    (hx : x = some a) (hf : f a = result) : x >>= f = result := by
  rw [hx]
  exact hf

lemma readDate_dateText (h : d.isValid = true) :
    readDate (dateText d ++ rest) = some (d, rest) := by
  obtain ⟨hmonth, hday⟩ := Date.lt_hundred_of_isValid h
  simp only [dateText, List.append_assoc, List.cons_append]
  rw [readDate, skipBlanks_yearText]
  refine bind_of_eq_some (readYear_yearText _) (bind_of_eq_some (readChar_self _ _) ?_)
  dsimp only
  rw [skipBlanks_padded]
  refine bind_of_eq_some (readNumber_two (Nat.le_succ 1) hmonth)
    (bind_of_eq_some (readChar_self _ _) ?_)
  dsimp only
  rw [skipBlanks_padded]
  exact bind_of_eq_some (readNumber_two (Nat.le_succ 1) hday) rfl

lemma readClockTime_clockText (hfraction : readFraction rest = some (nanos, zone)) :
    readClockTime (t.clockText ++ rest) = some (⟨t.hour, t.minute, t.second, nanos⟩, zone) := by
  have hhour : t.hour.val < 100 := by omega
  have hminute : t.minute.val < 100 := by omega
  have hsecond : t.second.val < 100 := by omega
  simp only [DayTime.clockText, List.append_assoc, List.cons_append]
  rw [readClockTime, skipBlanks_padded]
  refine bind_of_eq_some (readNumber_two (Nat.le_succ 1) hhour)
    (bind_of_eq_some (readChar_self _ _) ?_)
  dsimp only
  rw [skipBlanks_padded]
  refine bind_of_eq_some (readNumber_two (Nat.le_succ 1) hminute)
    (bind_of_eq_some (readChar_self _ _) ?_)
  dsimp only
  rw [skipBlanks_padded]
  refine bind_of_eq_some (readNumber_two (Nat.le_succ 1) hsecond) (bind_of_eq_some hfraction rfl)

/-! ### Reading without a zone -/

lemma readLocal_dateText {separator : List Char → Option (List Char)} (h : d.isValid = true)
    (hfraction : readFraction rest = some (nanos, zone))
    (hseparator : separator cs = some (t.clockText ++ rest)) :
    readLocal separator (dateText d ++ cs) =
      if zone.isEmpty then ofFields? d ⟨t.hour, t.minute, t.second, nanos⟩ 0 else none := by
  rw [readLocal]
  exact bind_of_eq_some (readDate_dateText h)
    (bind_of_eq_some hseparator (bind_of_eq_some (readClockTime_clockText hfraction) rfl))

/-- Where no time of day follows, nothing is read. -/
lemma readLocal_eq_none {separator : List Char → Option (List Char)} (h : d.isValid = true)
    (hseparator : ∀ clock ∈ separator cs, EndsNumber (skipBlanks clock)) :
    readLocal separator (dateText d ++ cs) = none := by
  rw [readLocal]
  refine bind_of_eq_some (readDate_dateText h) ?_
  dsimp only
  cases hcs : separator cs with
  | none => rfl
  | some clock =>
    -- the hour would have to begin here
    refine bind_of_eq_some rfl ?_
    rw [readClockTime, readNumber_of_endsNumber (by decide) (hseparator clock hcs)]
    rfl

lemma readMidnight_dateText (h : d.isValid = true) :
    readMidnight (dateText d ++ rest) =
      if rest.isEmpty then ofFields? d ⟨0, 0, 0, 0⟩ 0 else none := by
  rw [readMidnight]
  exact bind_of_eq_some (readDate_dateText h) rfl

/-! ### Reading with a zone -/

/-- Time of day and zone, each field at full width, of an instant whose date is known. -/
def readZonedTime (date : Date) (cs : List Char) : Option Instant := do
  let (hour, cs) ← readNumber 2 (some 2) cs
  let cs ← readChar ':' cs
  let (minute, cs) ← readNumber 2 (some 2) cs
  let cs ← readChar ':' cs
  let (second, cs) ← readNumber 2 (some 2) cs
  let (nanos, cs) ← readFraction cs
  let (offset, cs) ← readZone cs
  if cs.isEmpty then ofFields? date ⟨hour, minute, second, nanos⟩ offset else none

/-- A date with a year of four digits is read, and then what its separator parts from it. -/
lemma readZoned_dateText (h : d.isValid = true) (hyear : 0 ≤ d.year ∧ d.year ≤ 9999) :
    readZoned (dateText d ++ cs) = readSeparator cs >>= readZonedTime d := by
  obtain ⟨hmonth, hday⟩ := Date.lt_hundred_of_isValid h
  have hfour : d.year.natAbs < 10000 := by omega
  have hdate : (⟨(d.year.natAbs : Int), d.month, d.day⟩ : Date) = d := by
    rw [Int.natAbs_of_nonneg hyear.1]
  simp only [dateText, yearText, if_pos hyear, List.append_assoc, List.cons_append]
  rw [readZoned]
  refine bind_of_eq_some (readNumber_four hfour) (bind_of_eq_some (readChar_self _ _) ?_)
  refine bind_of_eq_some (readNumber_two (Nat.le_refl 2) hmonth)
    (bind_of_eq_some (readChar_self _ _) ?_)
  refine bind_of_eq_some (readNumber_two (Nat.le_refl 2) hday) ?_
  rw [← hdate]
  rfl

/-- A year with a sign is not read with a zone. -/
lemma readZoned_eq_none (hyear : ¬ (0 ≤ d.year ∧ d.year ≤ 9999)) :
    readZoned (dateText d ++ cs) = none := by
  -- the reader wants a digit where the sign stands
  have hsign : EndsNumber (dateText d ++ cs) := by
    rw [dateText, yearText, if_neg hyear]
    split <;> exact endsNumber_cons (by decide)
  rw [readZoned, readNumber_of_endsNumber (by decide) hsign]
  rfl

lemma readZonedTime_clockText (hfraction : readFraction rest = some (nanos, zone)) :
    readZonedTime d (t.clockText ++ rest) = (readZone zone >>= fun (offset, cs) =>
      if cs.isEmpty then ofFields? d ⟨t.hour, t.minute, t.second, nanos⟩ offset else none) := by
  have hhour : t.hour.val < 100 := by omega
  have hminute : t.minute.val < 100 := by omega
  have hsecond : t.second.val < 100 := by omega
  simp only [DayTime.clockText, List.append_assoc, List.cons_append]
  rw [readZonedTime]
  refine bind_of_eq_some (readNumber_two (Nat.le_refl 2) hhour)
    (bind_of_eq_some (readChar_self _ _) ?_)
  refine bind_of_eq_some (readNumber_two (Nat.le_refl 2) hminute)
    (bind_of_eq_some (readChar_self _ _) ?_)
  exact bind_of_eq_some (readNumber_two (Nat.le_refl 2) hsecond) (bind_of_eq_some hfraction rfl)

lemma readZone_signed (zone : Zone) {sign : Int} (hzulu : c ≠ 'Z' ∧ c ≠ 'z')
    (hsign : ∀ cs, readSign (c :: cs) = some (sign, cs)) :
    readZone (c :: padded 2 zone.hours ++ ':' :: padded 2 zone.minutes) =
      some (sign * (zone.hours * 60 + zone.minutes : Nat), []) := by
  have hhours : zone.hours.val < 100 := by omega
  have hminutes : zone.minutes.val < 100 := by omega
  have hrange : zone.hours.val ≤ 23 ∧ zone.minutes.val ≤ 59 := by omega
  rw [← List.append_nil (padded 2 zone.minutes), List.cons_append, readZone]
  · refine bind_of_eq_some (hsign _) (bind_of_eq_some (readNumber_two (Nat.le_refl 2) hhours) ?_)
    refine bind_of_eq_some (readChar_self _ _) ?_
    exact bind_of_eq_some (readNumber_two (Nat.le_refl 2) hminutes) (if_pos hrange)
  · -- the sign is neither of the letters for UTC
    rintro _ ⟨⟩
    exact hzulu.1 rfl
  · rintro _ ⟨⟩
    exact hzulu.2 rfl

lemma readZone_text (zone : Zone) : readZone zone.text = some (zone.minutesAhead, []) := by
  rw [Zone.text, Zone.minutesAhead]
  cases zone.isAhead with
  | true =>
    refine (readZone_signed zone (by decide) fun _ => rfl).trans ?_
    rw [Int.one_mul]
    rfl
  | false =>
    refine (readZone_signed zone (by decide) fun _ => rfl).trans ?_
    rw [Int.neg_one_mul]
    rfl

end

end Instant

end Criteria
