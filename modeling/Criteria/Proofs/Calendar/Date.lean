import Criteria.Calendar.Date
import Mathlib.Tactic.IntervalCases
import Mathlib.Tactic.Lemma

/-!
# Day numbers

The day number of a date counts the days of the calendar: it is zero for the first of January 1970,
and the day after a date has the next number (`Date.toDay_next`). The date of a day number exists
in the calendar, and its number is that number (`Date.isValid_ofDay`, `Date.toDay_ofDay`).

Both directions go through years that begin in March, so that the leap day is the last of its year.
-/

namespace Criteria

namespace Date

/-- The day after a date: the next one of the month, else the first of the next month, else the
first of January. -/
def next (d : Date) : Date :=
  if d.day < monthLength d.year d.month then ⟨d.year, d.month, d.day + 1⟩
  else if d.month < 12 then ⟨d.year, d.month + 1, 1⟩
  else ⟨d.year + 1, 1, 1⟩

/-! ### Years and months from March on -/

/-- The number of days from the first of March of the year zero to the first of March of a year. -/
def startOfYear (year : Int) : Int := 365 * year + year / 4 - year / 100 + year / 400

/-- The number of days from the first of March to the first of a month, for months counted from
zero for March. -/
def startOfMonth (month : Int) : Int := (153 * month + 2) / 5

section

variable {year n : Int} {month day : Nat}

lemma isLeap_iff : isLeap year = true ↔ year % 4 = 0 ∧ (year % 100 ≠ 0 ∨ year % 400 = 0) := by
  simp [isLeap]

/-- In cycles of four hundred years, years start as they do without cycles. -/
lemma startOfYear_eq (year : Int) :
    startOfYear year =
      year / 400 * 146097 + (year % 400 * 365 + year % 400 / 4 - year % 400 / 100) := by
  rw [startOfYear]
  omega

lemma startOfYear_add_cycles (year cycle : Int) :
    startOfYear (year + cycle * 400) = startOfYear year + cycle * 146097 := by
  rw [startOfYear, startOfYear]
  omega

/-- The first of March comes a year after the one before; the leap day, if there is one, is in
between. -/
lemma startOfYear_eq_pred (year : Int) :
    startOfYear year = startOfYear (year - 1) + if isLeap year then 366 else 365 := by
  rw [startOfYear, startOfYear]
  split
  · rename_i hleap
    rw [isLeap_iff] at hleap
    omega
  · rename_i hleap
    rw [isLeap_iff] at hleap
    omega

/-- The day number of a date in January or February. -/
lemma toDay_early (hlow : 1 ≤ month) (hhigh : month ≤ 2) :
    toDay ⟨year, month, day⟩ =
      startOfYear (year - 1) + startOfMonth (month + 9) + day - 719469 := by
  rw [toDay, startOfYear_eq, startOfMonth]
  simp only [if_pos hhigh]
  omega

/-- The day number of a date from March on. -/
lemma toDay_late (hlow : 3 ≤ month) (hhigh : month ≤ 12) :
    toDay ⟨year, month, day⟩ = startOfYear year + startOfMonth (month - 3) + day - 719469 := by
  have hnot : ¬ month ≤ 2 := by omega
  rw [toDay, startOfYear_eq, startOfMonth]
  simp only [if_neg hnot]
  omega

end

/-! ### The next day -/

section

variable {d : Date} {year : Int} {month day : Nat}

lemma isValid_iff : d.isValid = true ↔ 1 ≤ d.day ∧ d.day ≤ monthLength d.year d.month := by
  simp [isValid]

lemma month_of_monthLength_pos (h : 0 < monthLength year month) : 1 ≤ month ∧ month ≤ 12 := by
  rw [monthLength.eq_def] at h
  split at h <;> omega

lemma month_of_isValid (h : d.isValid = true) : 1 ≤ d.month ∧ d.month ≤ 12 := by
  obtain ⟨hfirst, hlast⟩ := isValid_iff.1 h
  exact month_of_monthLength_pos (Nat.lt_of_lt_of_le hfirst hlast)

lemma monthLength_pos (hlow : 1 ≤ month) (hhigh : month ≤ 12) : 0 < monthLength year month := by
  rw [monthLength.eq_def]
  split <;> grind

lemma monthLength_le (year : Int) (month : Nat) : monthLength year month ≤ 31 := by
  rw [monthLength.eq_def]
  split <;> grind

/-- Days of one month are numbered one after the other. -/
lemma toDay_eq_first (year : Int) (month day : Nat) :
    toDay ⟨year, month, day⟩ = toDay ⟨year, month, 1⟩ + day - 1 := by
  rw [toDay, toDay]
  dsimp only
  omega

/-- The first of a month comes the length of the month before after the first of that one. -/
lemma toDay_nextMonth (hlow : 1 ≤ month) (hhigh : month < 12) :
    toDay ⟨year, month + 1, 1⟩ = toDay ⟨year, month, 1⟩ + monthLength year month := by
  rcases (show month = 1 ∨ month = 2 ∨ 3 ≤ month by omega) with rfl | rfl | hlate
  · -- both months belong to the year that began last March
    rw [toDay_early (by decide) (by decide), toDay_early (by decide) (by decide)]
    simp [startOfMonth, monthLength]
    omega
  · -- a new year begins with March, after the leap day if there is one
    rw [toDay_late (by decide) (by decide), toDay_early (by decide) (by decide),
      startOfYear_eq_pred year]
    simp [startOfMonth, monthLength]
    split <;> omega
  · -- no other month depends on the year
    rw [toDay_late (by omega) (by omega), toDay_late hlate (by omega)]
    interval_cases month <;> simp [startOfMonth, monthLength] <;> omega

lemma toDay_nextYear (year : Int) : toDay ⟨year + 1, 1, 1⟩ = toDay ⟨year, 12, 1⟩ + 31 := by
  rw [toDay_early (by decide) (by decide), toDay_late (by decide) (by decide),
    Int.add_sub_cancel]
  simp [startOfMonth]
  omega

/-- The day after a date of the calendar exists in the calendar as well. -/
lemma isValid_next (h : d.isValid = true) : d.next.isValid = true := by
  obtain ⟨hlow, hhigh⟩ := month_of_isValid h
  rw [isValid_iff] at h
  rw [next]
  split
  · exact isValid_iff.2 ⟨Nat.le_add_left 1 d.day, ‹_›⟩
  · split
    · exact isValid_iff.2 ⟨Nat.le_refl 1, monthLength_pos (Nat.le_add_left 1 d.month) ‹_›⟩
    · exact isValid_iff.2 ⟨Nat.le_refl 1, monthLength_pos (Nat.le_refl 1) (Nat.le_add_left 1 11)⟩

lemma year_le_next_year (d : Date) : d.year ≤ d.next.year := by
  rw [next]
  split
  · exact Int.le_refl d.year
  · split
    · exact Int.le_refl d.year
    · exact Int.le_add_one (Int.le_refl d.year)

/-- The day after a date has the next number. -/
theorem toDay_next (h : d.isValid = true) : d.next.toDay = d.toDay + 1 := by
  obtain ⟨hlow, hhigh⟩ := month_of_isValid h
  rw [isValid_iff] at h
  obtain ⟨year, month, day⟩ := d
  dsimp only at h hlow hhigh
  rw [next, toDay_eq_first year month day]
  dsimp only
  split
  · rw [toDay_eq_first year month (day + 1)]
    omega
  · -- the month is over
    obtain rfl : day = monthLength year month := by omega
    split
    · rw [toDay_nextMonth hlow ‹_›]
      omega
    · obtain rfl : month = 12 := by omega
      rw [toDay_nextYear, monthLength]
      omega

end

/-! ### The beginning of a year -/

section

variable {d : Date} {year other : Int}

lemma startOfYear_mono (h : year ≤ other) : startOfYear year ≤ startOfYear other := by
  rw [startOfYear, startOfYear]
  omega

/-- The day number of the first of January. -/
lemma toDay_newYear (year : Int) : toDay ⟨year, 1, 1⟩ = startOfYear (year - 1) - 719162 := by
  rw [toDay_early (by decide) (by decide)]
  simp [startOfMonth]
  omega

/-- The days of a year are numbered from its first of January up to the next one. -/
lemma toDay_newYear_bounds (h : d.isValid = true) :
    toDay ⟨d.year, 1, 1⟩ ≤ d.toDay ∧ d.toDay < toDay ⟨d.year + 1, 1, 1⟩ := by
  obtain ⟨hlow, hhigh⟩ := month_of_isValid h
  obtain ⟨hday, hday'⟩ := isValid_iff.1 h
  have hlength := monthLength_le d.year d.month
  -- from March on the days are counted from the next start, which is at least 365 days later
  have hyear : startOfYear (d.year - 1) + 365 ≤ startOfYear d.year := by
    rw [startOfYear_eq_pred d.year]
    split <;> omega
  rw [toDay_newYear, toDay_newYear, Int.add_sub_cancel]
  obtain ⟨year, month, day⟩ := d
  dsimp only at *
  by_cases hearly : month ≤ 2
  · rw [toDay_early hlow hearly, startOfMonth]
    omega
  · rw [toDay_late (by omega) hhigh, startOfMonth]
    omega

/-- A date comes in a year or later if it does not come before the year's first of January. -/
lemma le_year_iff (h : d.isValid = true) : year ≤ d.year ↔ toDay ⟨year, 1, 1⟩ ≤ d.toDay := by
  obtain ⟨hlow, hhigh⟩ := toDay_newYear_bounds h
  rw [toDay_newYear] at hlow hhigh ⊢
  constructor
  · intro hle
    have hmono : startOfYear (year - 1) ≤ startOfYear (d.year - 1) := startOfYear_mono (by omega)
    omega
  · intro hle
    -- the next year begins after the date, and no later than the year in question
    by_contra hlt
    have hmono : startOfYear (d.year + 1 - 1) ≤ startOfYear (year - 1) :=
      startOfYear_mono (by omega)
    omega

end

/-! ### Dates of day numbers -/

/-- The date that is some days after the first of a month, for months and days counted from zero and
years from March. -/
def ofMarch (year month day : Int) : Date :=
  { year := year + if month < 10 then 0 else 1
    month := (if month < 10 then month + 3 else month - 9).toNat
    day := (day + 1).toNat }

section

variable {year month day n : Int}

/-- The year of a cycle that a day of the cycle belongs to. Only the last day of a year with a leap
day comes more than a common year after the start of its year. -/
lemma yearOfCycle_bounds (hlow : 0 ≤ n) (hhigh : n < 146097) :
    let year := (n - n / 1460 + n / 36524 - n / 146096) / 365
    0 ≤ year ∧ year < 400 ∧ startOfYear year ≤ n ∧ n ≤ startOfYear year + 365 ∧
      (n = startOfYear year + 365 → isLeap (year + 1) = true) := by
  intro year
  rcases (show n < 146096 ∨ n = 146096 by omega) with hlt | rfl
  · -- The day is taken apart into a century, four years of it, a year of these and the rest.
    obtain ⟨century, r, hn, hcentury, hr⟩ : ∃ century r, n = 36524 * century + r ∧
        (0 ≤ century ∧ century ≤ 3) ∧ 0 ≤ r ∧ r < 36524 := ⟨n / 36524, n % 36524, by omega⟩
    obtain ⟨quad, s, hr', hquad, hs⟩ : ∃ quad s, r = 1461 * quad + s ∧
        (0 ≤ quad ∧ quad ≤ 24) ∧ 0 ≤ s ∧ s < 1461 := ⟨r / 1461, r % 1461, by omega⟩
    obtain ⟨single, hsingle, hlow', hhigh', hlast⟩ : ∃ single, (0 ≤ single ∧ single ≤ 3) ∧
        365 * single ≤ s ∧ s ≤ 365 * single + 365 ∧ (s = 365 * single + 365 → single = 3) :=
      ⟨if s = 1460 then 3 else s / 365, by omega⟩
    have hyear : year = 100 * century + 4 * quad + single := by
      have hcenturies : n / 36524 = century := by omega
      have hcycles : n / 146096 = 0 := by omega
      have hquads : n / 1460 =
          25 * century + quad + if 1460 ≤ 24 * century + quad + s then 1 else 0 := by omega
      simp only [year, hcenturies, hcycles, hquads]
      omega
    have hstart : startOfYear year = 36524 * century + 1461 * quad + 365 * single := by
      have hquads : year / 4 = 25 * century + quad := by omega
      have hcenturies : year / 100 = century := by omega
      have hcycles : year / 400 = 0 := by omega
      rw [startOfYear]
      omega
    clear_value year
    refine ⟨by omega, by omega, by omega, by omega, fun hleap => ?_⟩
    rw [isLeap_iff]
    omega
  · decide

lemma monthOfYear_bounds (hlow : 0 ≤ n) (hhigh : n ≤ 365) :
    let month := (5 * n + 2) / 153
    0 ≤ month ∧ month ≤ 11 ∧ startOfMonth month ≤ n ∧ n < startOfMonth (month + 1) := by
  intro month
  simp only [startOfMonth, month]
  omega

/-- The date of a day number, in terms of a year, a month and a day counted from March. -/
lemma exists_ofDay_eq_ofMarch (n : Int) : ∃ year month day,
    ofDay n = ofMarch year month day ∧ n + 719468 = startOfYear year + startOfMonth month + day ∧
      (0 ≤ month ∧ month ≤ 11) ∧ (0 ≤ day ∧ startOfMonth month + day < startOfMonth (month + 1)) ∧
      startOfMonth month + day ≤ 365 ∧
      (startOfMonth month + day = 365 → isLeap (year + 1) = true) := by
  have hshift := Int.emod_add_mul_ediv (n + 719468) 146097
  have hlow : 0 ≤ (n + 719468) % 146097 := Int.emod_nonneg _ (by decide)
  have hhigh : (n + 719468) % 146097 < 146097 := Int.emod_lt_of_pos _ (by decide)
  rw [ofDay]
  -- cycle and day of the cycle, and year and month below, are any numbers within their bounds: the
  -- divisions that give them are not looked at again
  generalize (n + 719468) / 146097 = cycle at hshift ⊢
  generalize (n + 719468) % 146097 = dayOfCycle at hshift hlow hhigh ⊢
  obtain ⟨hyear, hyear', hstart, hend, hleap⟩ := yearOfCycle_bounds hlow hhigh
  generalize (dayOfCycle - dayOfCycle / 1460 + dayOfCycle / 36524 - dayOfCycle / 146096) / 365 =
    year at hyear hyear' hstart hend hleap ⊢
  have hday : dayOfCycle - (365 * year + year / 4 - year / 100) =
      dayOfCycle - startOfYear year := by
    rw [startOfYear]
    omega
  rw [hday]
  obtain ⟨hmonth, hmonth', hfirst, hlast⟩ :=
    monthOfYear_bounds (Int.sub_nonneg_of_le hstart) (by omega)
  generalize (5 * (dayOfCycle - startOfYear year) + 2) / 153 = month
    at hmonth hmonth' hfirst hlast ⊢
  refine ⟨year + cycle * 400, month, dayOfCycle - startOfYear year - startOfMonth month, ?_,
    ?_, ⟨hmonth, hmonth'⟩, ⟨by omega, by omega⟩, by omega, fun hyearEnd => ?_⟩
  · rw [ofMarch, startOfMonth]
    congr 1
    grind
  · rw [startOfYear_add_cycles]
    omega
  · -- a cycle has no part in leap years
    have hlastDay := hleap (by omega)
    rw [isLeap_iff] at hlastDay ⊢
    omega

lemma toDay_ofMarch (hmonth : 0 ≤ month ∧ month ≤ 11) (hday : 0 ≤ day) :
    (ofMarch year month day).toDay = startOfYear year + startOfMonth month + day - 719468 := by
  rw [ofMarch]
  split
  · have hcounted : ((month + 3).toNat : Int) - 3 = month := by omega
    rw [toDay_late (by omega) (by omega), hcounted, Int.add_zero]
    omega
  · have hcounted : ((month - 9).toNat : Int) + 9 = month := by omega
    rw [toDay_early (by omega) (by omega), hcounted, Int.add_sub_cancel]
    omega

/-- The months from March to January are as long as it takes until the next month starts. -/
lemma monthLength_ofMarch (year day : Int) (hlow : 0 ≤ month) (hhigh : month ≤ 10) :
    (monthLength (ofMarch year month day).year (ofMarch year month day).month : Int) =
      startOfMonth (month + 1) - startOfMonth month := by
  rw [ofMarch]
  interval_cases month <;> rfl

lemma isValid_ofMarch (hmonth : 0 ≤ month ∧ month ≤ 11) (hday : 0 ≤ day)
    (hmonthEnd : startOfMonth month + day < startOfMonth (month + 1))
    (hyearEnd : startOfMonth month + day ≤ 365)
    (hleap : startOfMonth month + day = 365 → isLeap (year + 1) = true) :
    (ofMarch year month day).isValid = true := by
  have hcounted : ((ofMarch year month day).day : Int) = day + 1 :=
    Int.toNat_of_nonneg (by omega)
  rw [isValid_iff]
  refine ⟨by omega, ?_⟩
  rcases (show month ≤ 10 ∨ month = 11 by omega) with hle | rfl
  · have := monthLength_ofMarch year day hmonth.1 hle
    omega
  · -- February ends with the year: its last day is the leap day, or the day before.
    have hfebruary : monthLength (ofMarch year 11 day).year (ofMarch year 11 day).month =
        if isLeap (year + 1) then 29 else 28 := rfl
    have hstart : startOfMonth 11 = 337 := rfl
    rw [hstart] at hyearEnd hleap
    rw [hfebruary]
    split
    · omega
    · rename_i hcommon
      have hne : (337 : Int) + day ≠ 365 := fun hlast => hcommon (hleap hlast)
      omega

end

/-- The date of a day number exists in the calendar. -/
theorem isValid_ofDay (n : Int) : (ofDay n).isValid = true := by
  obtain ⟨year, month, day, hdate, -, hmonth, hday, hyearEnd, hleap⟩ := exists_ofDay_eq_ofMarch n
  rw [hdate]
  exact isValid_ofMarch hmonth hday.1 hday.2 hyearEnd hleap

/-- A day number is the number of its date. -/
theorem toDay_ofDay (n : Int) : (ofDay n).toDay = n := by
  obtain ⟨year, month, day, hdate, hn, hmonth, hday, -⟩ := exists_ofDay_eq_ofMarch n
  rw [hdate, toDay_ofMarch hmonth hday.1]
  omega

end Date

end Criteria
