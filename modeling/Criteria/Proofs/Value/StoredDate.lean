import Criteria.Predicate
import Criteria.Proofs.Calendar.Reading
import Criteria.Proofs.Value.NormalForm

/-!
# Dates in storage

JSON has no dates, so a stored date is a text or a number, and what counts is the instant that is
read from it. It is the stored one, unless the text has a year with a sign: such a year is written
but never read, and the stored item passes no date test any more (`Value.toInstant?_stored`).
-/

namespace Criteria

/-! ### Years of instants -/

namespace Instant

/-- The milliseconds at which a year begins. -/
def yearStart (year : Int) : Int := Date.toDay ⟨year, 1, 1⟩ * millisPerDay

/-- Whether an instant belongs to a year of the calendar's range that is written with a sign: one
before the year zero or after the year 9999. -/
def hasSignedYear (t : Instant) : Bool :=
  decide ((yearStart firstYear ≤ t.millis.toInt ∧ t.millis.toInt < yearStart 0) ∨
    (yearStart 10000 ≤ t.millis.toInt ∧ t.millis.toInt < yearStart (lastYear + 1)))

section

variable {t : Instant} {d : Date} {time : DayTime}

lemma toDay_date (t : Instant) : t.date.toDay = t.millis.toInt / millisPerDay := Date.toDay_ofDay _

lemma isValid_date (t : Instant) : t.date.isValid = true := Date.isValid_ofDay _

lemma le_year_iff {year : Int} : year ≤ t.date.year ↔ yearStart year ≤ t.millis.toInt := by
  rw [Date.le_year_iff t.isValid_date, toDay_date, Int.le_ediv_iff_mul_le (by decide), yearStart]

lemma year_le_iff {year : Int} : t.date.year ≤ year ↔ t.millis.toInt < yearStart (year + 1) := by
  rw [← Int.lt_add_one_iff, ← Int.not_le, le_year_iff, Int.not_le]

lemma inCalendar_iff : t.inCalendar = true ↔
    yearStart firstYear ≤ t.millis.toInt ∧ t.millis.toInt < yearStart (lastYear + 1) := by
  rw [inCalendar, decide_eq_true_eq, le_year_iff, year_le_iff]

lemma hasSignedYear_iff : t.hasSignedYear = true ↔
    t.inCalendar = true ∧ ¬ (0 ≤ t.date.year ∧ t.date.year ≤ 9999) := by
  have hhigh : t.date.year ≤ 9999 ↔ t.millis.toInt < yearStart 10000 := year_le_iff
  have hfirst : yearStart firstYear ≤ yearStart 0 := by decide
  have hlast : yearStart 10000 ≤ yearStart (lastYear + 1) := by decide
  have hmiddle : yearStart 0 ≤ yearStart 10000 := by decide
  rw [hasSignedYear, decide_eq_true_eq, inCalendar_iff, le_year_iff, hhigh]
  omega

/-! ### Written and read -/

/-- The time of day of an instant in UTC. -/
def dayTime (t : Instant) : DayTime :=
  ⟨Fin.ofNat 24 (t.millisOfDay / 3600000), Fin.ofNat 60 (t.millisOfDay / 60000),
    Fin.ofNat 60 (t.millisOfDay / 1000), Fin.ofNat 1000 t.millisOfDay⟩

/-- A day ends before its hour 24. -/
lemma hour_mod (t : Instant) : t.millisOfDay / 3600000 % 24 = t.millisOfDay / 3600000 := by
  rw [millisOfDay, millisPerDay]
  omega

lemma millis_dayTime (t : Instant) : t.dayTime.millis = t.millis.toInt % millisPerDay := by
  have hday : (t.millisOfDay : Int) = t.millis.toInt % millisPerDay := by
    rw [millisOfDay, Int.toNat_of_nonneg (Int.emod_nonneg _ (by decide))]
  rw [← hday, DayTime.millis, dayTime]
  simp only [Fin.val_ofNat, hour_mod]
  omega

/-- Date and time of day give the instant again. -/
lemma ofDate_date (t : Instant) : ofDate t.date t.dayTime.millis = t := by
  rw [ofDate, toDay_date, millis_dayTime, Int.mul_comm, Int.mul_ediv_add_emod, Int64.ofInt_toInt]

lemma toText?_eq (t : Instant) :
    t.toText? = if t.inCalendar then some (Spelling.utc.text t.date t.dayTime) else none := by
  rw [toText?, Spelling.text, Spelling.chars]
  simp only [dateText, DayTime.clockText, DayTime.fractionText, Spelling.separator, Spelling.ending,
    dayTime, Fin.val_ofNat, hour_mod, List.append_assoc, List.cons_append]

/-- A year with a sign is not read where a zone follows. -/
lemma parse?_text_eq_none (h : d.isValid = true) (hyear : ¬ (0 ≤ d.year ∧ d.year ≤ 9999)) :
    parse? (Spelling.utc.text d time) = none := by
  -- without a zone the readers take the year, but not the `Z` at the end
  have hjoined : readLocal (readChar 'T') (Spelling.utc.chars d time) = none := by
    exact readLocal_dateText h readFraction_text (readChar_self 'T' _)
  have hspaced : readLocal (fun cs => some (skipBlanks cs)) (Spelling.utc.chars d time) = none :=
    readLocal_eq_none h fun _ hclock => Option.some.inj hclock ▸ endsNumber_cons (by decide)
  have hmidnight : readMidnight (Spelling.utc.chars d time) = none := readMidnight_dateText h
  rw [parse?_text_eq, hjoined, hspaced, hmidnight, Spelling.chars, readZoned_eq_none hyear]
  rfl

end

end Instant

/-! ### Stored dates -/

namespace Value

/-- A stored date stands for the same instant as before, except for years with a sign. -/
lemma toInstant?_normal_date (t : Instant) :
    (Value.date t).normal.toInstant? = if t.hasSignedYear then none else some t := by
  rw [normal, Instant.normal, t.toText?_eq]
  by_cases hcalendar : t.inCalendar = true
  · rw [if_pos hcalendar, Option.map_some, Option.getD_some, toInstant?]
    by_cases hyear : 0 ≤ t.date.year ∧ t.date.year ≤ 9999
    · rw [if_neg fun h => (Instant.hasSignedYear_iff.1 h).2 hyear,
        Instant.parse?_text t.isValid_date hyear, Spelling.minutesAhead, Int.zero_mul, Int.sub_zero,
        t.ofDate_date]
    · rw [if_pos (Instant.hasSignedYear_iff.2 ⟨hcalendar, hyear⟩),
        Instant.parse?_text_eq_none t.isValid_date hyear]
  · -- out of range the milliseconds are stored, which are read as they are
    rw [if_neg hcalendar, if_neg fun h => hcalendar (Instant.hasSignedYear_iff.1 h).1]
    rfl

/-- Both ways to JSON and back give the same instant, that of the date, except for the years with a
sign, which give none. So an item with a stored date passes the same date tests as before or, in
those years, none at all. -/
theorem toInstant?_stored (t : Instant) :
    let stored := ofJson (Value.date t).toJson
    (Value.date t).throughJson = stored ∧
      stored.toInstant? = (if t.hasSignedYear then none else some t) ∧
      ∀ bound,
        (Test.dateBefore bound).holds (some stored) =
          (!t.hasSignedYear && (Test.dateBefore bound).holds (some (.date t))) ∧
        (Test.dateAfter bound).holds (some stored) =
          (!t.hasSignedYear && (Test.dateAfter bound).holds (some (.date t))) := by
  intro stored
  have hstored : stored = (Value.date t).normal := ofJson_toJson _
  have hinstant : stored.toInstant? = if t.hasSignedYear then none else some t := by
    rw [hstored, toInstant?_normal_date]
  refine ⟨?_, hinstant, fun bound => ?_⟩
  · rw [throughJson, emit_document]
  · have hcompare : stored.compareInstant? bound =
        if t.hasSignedYear then none else (Value.date t).compareInstant? bound := by
      rw [compareInstant?, hinstant]
      split <;> rfl
    simp only [Test.holds, Option.bind_some, hcompare]
    cases t.hasSignedYear <;> exact ⟨rfl, rfl⟩

/-- The first instant of the year 10000 is stored as a text that stands for no instant, so it does
not come after the beginning of 1970 any more. -/
theorem toInstant?_stored_year_10000 :
    let newYear : Instant := ⟨253402300800000⟩
    let stored := ofJson (Value.date newYear).toJson
    let test := Test.dateAfter (some ⟨0⟩)
    stored = .text "+10000-01-01T00:00:00.000Z" ∧ stored.toInstant? ≠ some newYear ∧
      test.holds (some (.date newYear)) = true ∧ test.holds (some stored) = false := by
  intro newYear stored test
  have htext : newYear.toText? = some "+10000-01-01T00:00:00.000Z" := by decide +kernel
  have hparse : Instant.parse? "+10000-01-01T00:00:00.000Z" = none := by decide +kernel
  have hstored : stored = .text "+10000-01-01T00:00:00.000Z" := by
    rw [show stored = newYear.normal from newYear.ofJson_toJson, Instant.normal, htext]
    rfl
  have hinstant : stored.toInstant? = none := by rw [hstored, toInstant?, hparse]
  refine ⟨hstored, ?_, by decide, ?_⟩
  · rw [hinstant]
    exact (Option.some_ne_none newYear).symm
  · rw [Test.holds, Option.bind_some, compareInstant?, hinstant]
    rfl

end Value

end Criteria
