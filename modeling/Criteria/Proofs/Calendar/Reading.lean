import Criteria.Proofs.Calendar.Date
import Criteria.Proofs.Calendar.Spelling

/-!
# One calendar of all spellings

Every spelling of a date and a time of day is read, although the readers that are tried are
different ones, and all of them give the milliseconds that the calendar gives
(`Instant.spells_calendar`).
-/

namespace Criteria

namespace Instant

/-! ### The instant that is read -/

section

variable {d : Date} {t : DayTime}

lemma ofFields?_eq (h : d.isValid = true) (hyear : 0 ≤ d.year ∧ d.year ≤ 9999) (offset : Int) :
    ofFields? d ⟨t.hour, t.minute, t.second, t.milli * 1000000⟩ offset =
      some (ofDate d (t.millis - offset * 60000)) := by
  have htime : ClockTime.isValid ⟨t.hour, t.minute, t.second, t.milli * 1000000⟩ = true := by
    simp only [ClockTime.isValid, decide_eq_true_eq]
    omega
  have hmillis : ClockTime.millisOfDay ⟨t.hour, t.minute, t.second, t.milli * 1000000⟩ =
      t.millis := by
    rw [ClockTime.millisOfDay, DayTime.millis, Nat.mul_div_cancel _ (by decide)]
  -- years of four digits are far from the ends of the range
  have hrange : firstYear ≤ d.year ∧ d.year ≤ lastYear := by
    rw [firstYear, lastYear]
    omega
  rw [ofFields?, if_pos ⟨h, htime, hrange⟩, hmillis]

lemma toDay_bounds (h : d.isValid = true) (hyear : 0 ≤ d.year ∧ d.year ≤ 9999) :
    -1000000 ≤ d.toDay ∧ d.toDay ≤ 4000000 := by
  have hmonth := Date.month_of_isValid h
  obtain ⟨hday, hday'⟩ := Date.isValid_iff.1 h
  have hlength := Date.monthLength_le d.year d.month
  rw [Date.toDay]
  omega

lemma toInt_ofDate (h : d.isValid = true) (hyear : 0 ≤ d.year ∧ d.year ≤ 9999) {millis : Int}
    (hmillis : -millisPerDay ≤ millis ∧ millis ≤ 2 * millisPerDay) :
    (ofDate d millis).millis.toInt = d.toDay * millisPerDay + millis := by
  have hbounds := toDay_bounds h hyear
  rw [millisPerDay] at hmillis
  rw [ofDate, millisPerDay]
  exact Int64.toInt_ofInt_of_le (by omega) (by omega)

end

/-! ### Whole texts -/

section

variable {d : Date} {t : DayTime} {s : Spelling}

lemma isBlank_of_mem_padded {width n : Nat} : ∀ c ∈ padded width n, isBlank c = false :=
  fun _ h => isBlank_of_isDigit (isDigit_of_mem_padded h)

lemma isBlank_of_mem_ending : ∀ c ∈ s.ending, isBlank c = false := by
  cases s with
  | joined | spaced => exact List.forall_mem_nil _
  | utc => exact List.forall_mem_singleton.2 (by decide)
  | zoned zone =>
    rw [Spelling.ending, Zone.text, List.cons_append, List.forall_mem_cons, List.forall_mem_append,
      List.forall_mem_cons]
    refine ⟨?_, isBlank_of_mem_padded, by decide, isBlank_of_mem_padded⟩
    split <;> decide

lemma endsNumber_ending : EndsNumber s.ending := by
  cases s with
  | joined | spaced => exact endsNumber_nil
  | utc => exact endsNumber_cons (by decide)
  | zoned zone =>
    rw [Spelling.ending, Zone.text, List.cons_append]
    split <;> exact endsNumber_cons (by decide)

/-- No blank goes away from the text of a date and a time of day. -/
lemma trimBlanks_chars (s : Spelling) (d : Date) (t : DayTime) :
    trimBlanks (s.chars d t) = s.chars d t := by
  -- in front stands the year and behind the fraction, neither of which has a blank
  have hparts : s.chars d t =
      (dateText d ++ s.separator :: t.clockText) ++ (t.fractionText ++ s.ending) := by
    rw [Spelling.chars, List.append_assoc, List.cons_append]
  have hhead : skipBlanks (s.chars d t) = s.chars d t := by
    simp only [Spelling.chars, dateText, List.append_assoc, skipBlanks_yearText]
  have htail : ∀ c ∈ t.fractionText ++ s.ending, isBlank c = false := by
    rw [DayTime.fractionText, List.cons_append, List.forall_mem_cons, List.forall_mem_append]
    exact ⟨by decide, isBlank_of_mem_padded, isBlank_of_mem_ending⟩
  rw [hparts] at hhead ⊢
  exact trimBlanks_append hhead (List.cons_ne_nil _ _) htail

lemma parse?_text_eq (s : Spelling) (d : Date) (t : DayTime) :
    parse? (s.text d t) = (readZoned (s.chars d t) <|> readLocal (readChar 'T') (s.chars d t)
      <|> readLocal (fun cs => some (skipBlanks cs)) (s.chars d t)
      <|> readMidnight (s.chars d t)) := by
  rw [parse?, Spelling.text, String.toList_ofList, trimBlanks_chars]

lemma readFraction_text : readFraction (t.fractionText ++ s.ending) =
    some (t.milli.val * 1000000, s.ending) :=
  readFraction_padded t.milli.isLt endsNumber_ending

lemma skipBlanks_clockText {rest : List Char} :
    skipBlanks (t.clockText ++ rest) = t.clockText ++ rest := by
  simp only [DayTime.clockText, List.append_assoc, skipBlanks_padded]

section

variable (h : d.isValid = true) (hyear : 0 ≤ d.year ∧ d.year ≤ 9999)

include h hyear

lemma readZoned_chars : readZoned (s.chars d t) = (readZone s.ending >>= fun (offset, cs) =>
    if cs.isEmpty then ofFields? d ⟨t.hour, t.minute, t.second, t.milli * 1000000⟩ offset
    else none) := by
  have hseparator : readSeparator (s.separator :: (t.clockText ++ (t.fractionText ++ s.ending))) =
      some (t.clockText ++ (t.fractionText ++ s.ending)) := by
    cases s <;> rfl
  rw [Spelling.chars, readZoned_dateText h hyear]
  exact bind_of_eq_some hseparator (readZonedTime_clockText readFraction_text)

/-- Where a zone is read, it counts. -/
lemma parse?_text_of_zone (hzone : readZone s.ending = some (s.minutesAhead, [])) :
    parse? (s.text d t) = some (ofDate d (t.millis - s.minutesAhead * 60000)) := by
  have hread := readZoned_chars (s := s) (t := t) h hyear
  rw [hzone] at hread
  rw [parse?_text_eq, hread.trans (ofFields?_eq h hyear _)]
  rfl

/-- Without an ending the time is one in UTC. -/
lemma readLocal_chars {separator : List Char → Option (List Char)} (hending : s.ending = [])
    (hseparator : ∀ rest, separator (s.separator :: (t.clockText ++ rest)) =
      some (t.clockText ++ rest)) :
    readLocal separator (s.chars d t) = some (ofDate d (t.millis - 0 * 60000)) := by
  rw [Spelling.chars, readLocal_dateText h readFraction_text (hseparator _), hending,
    ofFields?_eq h hyear 0]
  rfl

/-- A spelling of a date and a time of day is read as that time of that day, in its zone. -/
lemma parse?_text (s : Spelling) :
    parse? (s.text d t) = some (ofDate d (t.millis - s.minutesAhead * 60000)) := by
  cases s with
  | utc => exact parse?_text_of_zone h hyear rfl
  | zoned zone => exact parse?_text_of_zone h hyear (readZone_text zone)
  | joined =>
    -- the reader with a zone finds none, and the next one is for this spelling
    have hlocal : readLocal (readChar 'T') (Spelling.joined.chars d t) =
        some (ofDate d (t.millis - 0 * 60000)) :=
      readLocal_chars h hyear rfl fun _ => readChar_self 'T' _
    rw [parse?_text_eq, readZoned_chars h hyear, hlocal]
    rfl
  | spaced =>
    -- between the date and the time there is no `T`, so it takes a third reader
    have hjoined : readLocal (readChar 'T') (Spelling.spaced.chars d t) = none :=
      readLocal_eq_none h fun _ hclock => nomatch hclock
    have hlocal : readLocal (fun cs => some (skipBlanks cs)) (Spelling.spaced.chars d t) =
        some (ofDate d (t.millis - 0 * 60000)) :=
      readLocal_chars h hyear rfl fun _ => congrArg some skipBlanks_clockText
    rw [parse?_text_eq, readZoned_chars h hyear, hjoined, hlocal]
    rfl

/-- A date alone is read as its midnight in UTC. -/
lemma parse?_date : parse? d.text = some (ofDate d 0) := by
  have htrim : trimBlanks (dateText d) = dateText d := by
    refine trimBlanks_append ?_ (List.cons_ne_nil _ _) ?_
    · simp only [List.append_assoc, skipBlanks_yearText]
    · exact List.forall_mem_cons.2 ⟨by decide, isBlank_of_mem_padded⟩
  -- each of the other readers goes on behind the date, where there is nothing
  have hzoned : readZoned (dateText d ++ []) = none := readZoned_dateText h hyear
  have hjoined : readLocal (readChar 'T') (dateText d ++ []) = none :=
    readLocal_eq_none h fun _ hclock => nomatch hclock
  have hspaced : readLocal (fun cs => some (skipBlanks cs)) (dateText d ++ []) = none :=
    readLocal_eq_none h fun _ hclock => Option.some.inj hclock ▸ endsNumber_nil
  have hmidnight : readMidnight (dateText d ++ []) = some (ofDate d (0 - 0 * 60000)) :=
    (readMidnight_dateText h).trans (ofFields?_eq (t := ⟨0, 0, 0, 0⟩) h hyear 0)
  rw [List.append_nil] at hzoned hjoined hspaced hmidnight
  rw [parse?, Date.text, String.toList_ofList, htrim, hzoned, hjoined, hspaced, hmidnight]
  rfl

/-- Hours, minutes and seconds alone are enough for a time of day. -/
lemma parse?_midnight : parse? (d.text ++ "T00:00:00") = some (ofDate d 0) := by
  have hclock : "T00:00:00".toList = 'T' :: (DayTime.clockText ⟨0, 0, 0, 0⟩ ++ []) := by decide
  have hfraction : readFraction [] = some (0, []) := rfl
  have hblank : "T00:00:00".toList.all (fun c => !isBlank c) = true := by decide
  have htrim :
      trimBlanks (dateText d ++ "T00:00:00".toList) = dateText d ++ "T00:00:00".toList := by
    refine trimBlanks_append ?_ (by decide) ?_
    · simp only [dateText, List.append_assoc, skipBlanks_yearText]
    · simpa only [List.all_eq_true, Bool.not_eq_true'] using hblank
  -- without a zone the first reader fails, and the second takes the time without a fraction
  have hzoned : readZoned (dateText d ++ "T00:00:00".toList) = none := by
    rw [hclock, readZoned_dateText h hyear]
    exact bind_of_eq_some rfl (readZonedTime_clockText hfraction)
  have hlocal : readLocal (readChar 'T') (dateText d ++ "T00:00:00".toList) =
      some (ofDate d (0 - 0 * 60000)) := by
    rw [hclock, readLocal_dateText h hfraction (readChar_self 'T' _)]
    exact ofFields?_eq (t := ⟨0, 0, 0, 0⟩) h hyear 0
  rw [parse?, Date.text, String.toList_append, String.toList_ofList, htrim, hzoned, hlocal]
  rfl

end

end

/-! ### One calendar -/

/-- A text is read as the instant some milliseconds after the beginning of 1970. -/
def Spells (text : String) (millis : Int) : Prop :=
  ∃ t, parse? text = some t ∧ t.millis.toInt = millis

section

variable {d : Date} (h : d.isValid = true) (hyear : 0 ≤ d.year ∧ d.year ≤ 9999)

include h hyear

lemma spells_date : Spells d.text (d.toDay * millisPerDay) := by
  refine ⟨ofDate d 0, parse?_date h hyear, ?_⟩
  rw [toInt_ofDate h hyear (by decide), Int.add_zero]

lemma spells_text (s : Spelling) (t : DayTime) :
    Spells (s.text d t) (d.toDay * millisPerDay + t.millis - s.minutesAhead * 60000) := by
  have htime := t.millis_bounds
  have hzone := s.minutesAhead_bounds
  -- a time of day and an offset do not lead further than a day away
  have hmillis : -millisPerDay ≤ t.millis - s.minutesAhead * 60000 ∧
      t.millis - s.minutesAhead * 60000 ≤ 2 * millisPerDay := by
    rw [millisPerDay]
    omega
  refine ⟨_, parse?_text h hyear s, ?_⟩
  rw [toInt_ofDate h hyear hmillis, Int.add_sub_assoc]

end

/-- The beginning of 1970 is zero. A date of the calendar with a year of four digits is read as its
midnight in UTC, with the hour written out or not; the date of the next day, as long as its year has
four digits, as a day later. A time of that day, joined by `T` or a space, or followed by a `Z`, is
read as the midnight and the time of day together, and with a zone offset as that less the offset.
Blanks around a text, whatever it is, do not count. -/
theorem spells_calendar :
    Spells "1970-01-01" 0 ∧
    (∀ d : Date, d.isValid = true → 0 ≤ d.year ∧ d.year ≤ 9999 → ∃ midnight,
      Spells d.text midnight ∧ parse? (d.text ++ "T00:00:00") = parse? d.text ∧
      (d.next.year ≤ 9999 → Spells d.next.text (midnight + millisPerDay)) ∧
      ∀ (s : Spelling) (t : DayTime),
        Spells (s.text d t) (midnight + t.millis - s.minutesAhead * 60000)) ∧
    ∀ text before after : String, (∀ c ∈ before.toList ++ after.toList, isBlank c = true) →
      parse? (before ++ text ++ after) = parse? text := by
  refine ⟨?_, fun d h hyear => ⟨d.toDay * millisPerDay, ?_, ?_, fun hnext => ?_, ?_⟩, ?_⟩
  · exact spells_date (d := ⟨1970, 1, 1⟩) rfl (by decide)
  · exact spells_date h hyear
  · rw [parse?_midnight h hyear, parse?_date h hyear]
  · have hnextDay := spells_date (Date.isValid_next h) ⟨hyear.1.trans d.year_le_next_year, hnext⟩
    rwa [Date.toDay_next h, Int.add_mul, Int.one_mul] at hnextDay
  · exact spells_text h hyear
  · intro text before after hblank
    rw [List.forall_mem_append] at hblank
    rw [parse?, parse?, String.toList_append, String.toList_append,
      trimBlanks_surrounded hblank.1 hblank.2]

/-- The last millisecond of a year, in the zone that is furthest behind. -/
theorem spells_calendar_lastDay :
    let d : Date := ⟨1999, 12, 31⟩
    let blanks := "\t\x0d\n "
    (d.isValid = true ∧ (0 ≤ d.year ∧ d.year ≤ 9999) ∧ d.next.year ≤ 9999 ∧
      ∃ midnight, Spells "1999-12-31" midnight ∧ Spells "2000-01-01" (midnight + millisPerDay) ∧
        Spells "1999-12-31T23:59:59.999-23:59" (midnight + 172739999)) ∧
    (∀ c ∈ blanks.toList ++ blanks.toList, isBlank c = true) ∧
      parse? (blanks ++ "1999-12-31" ++ blanks) = parse? "1999-12-31" := by
  intro d blanks
  have hvalid : d.isValid = true := by decide
  have hyear : 0 ≤ d.year ∧ d.year ≤ 9999 := by decide
  have hnext : d.next.year ≤ 9999 := by decide
  have hblanks : ∀ c ∈ blanks.toList ++ blanks.toList, isBlank c = true :=
    List.all_eq_true.1 (by decide)
  have hdate : d.text = "1999-12-31" := by decide +kernel
  have hnextDate : d.next.text = "2000-01-01" := by decide +kernel
  let s : Spelling := .zoned ⟨false, 23, 59⟩
  let t : DayTime := ⟨23, 59, 59, 999⟩
  have htext : s.text d t = "1999-12-31T23:59:59.999-23:59" := by decide +kernel
  have hmillis : (t.millis : Int) - s.minutesAhead * 60000 = 172739999 := by decide
  obtain ⟨midnight, hmidnight, -, hday, htimes⟩ := spells_calendar.2.1 d hvalid hyear
  have hlast := htimes s t
  rw [htext, Int.add_sub_assoc, hmillis] at hlast
  rw [hdate] at hmidnight
  rw [hnextDate] at hday
  exact ⟨⟨hvalid, hyear, hnext, midnight, hmidnight, hday hnext, hlast⟩, hblanks,
    spells_calendar.2.2 "1999-12-31" blanks blanks hblanks⟩

end Instant

end Criteria
