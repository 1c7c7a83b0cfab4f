import Criteria.Calendar.Reader
import Mathlib.Data.List.TakeWhile
import Mathlib.Tactic.Lemma

/-!
# Fields of dates, written and read

A number that is filled up with zeros is read back, from a field of its width and, as long as no
digit follows, from one without a width (`readNumber_padded`, `readNumber_padded_unlimited`). A year
is read back in either of its forms (`readYear_yearText`), and three digits of a fraction are read
as milliseconds (`readFraction_padded`).

Blanks around a text go away, whatever stands between them (`trimBlanks_surrounded`).
-/

namespace Criteria

/-! ### Blanks -/

section

variable {c : Char} {cs before after : List Char}

lemma isBlank_of_isDigit (h : c.isDigit = true) : isBlank c = false := by
  have hrange : 48 ≤ c.toNat ∧ c.toNat ≤ 57 := by
    simp only [Char.isDigit, Bool.and_eq_true, decide_eq_true_eq] at h
    exact h
  simp only [isBlank, Bool.or_eq_false_iff, Bool.and_eq_false_iff, decide_eq_false_iff_not]
  omega

lemma skipBlanks_cons (h : isBlank c = false) : skipBlanks (c :: cs) = c :: cs := by
  rw [skipBlanks, List.dropWhile_cons, h]
  rfl

lemma skipBlanks_append (h : ∀ c ∈ before, isBlank c = true) :
    skipBlanks (before ++ cs) = skipBlanks cs := by
  rw [skipBlanks, List.dropWhile_append, List.dropWhile_eq_nil_iff.2 h]
  rfl

/-- Blanks around a text go away with those that the text has on its own. -/
lemma trimBlanks_surrounded (hbefore : ∀ c ∈ before, isBlank c = true)
    (hafter : ∀ c ∈ after, isBlank c = true) :
    trimBlanks (before ++ cs ++ after) = trimBlanks cs := by
  have hreverse : ∀ c ∈ after.reverse, isBlank c = true := by simpa using hafter
  rw [trimBlanks, trimBlanks, List.append_assoc, skipBlanks_append hbefore]
  cases hcs : skipBlanks cs with
  | nil =>
    -- there is nothing but blanks
    have hall : skipBlanks (cs ++ after) = [] := by
      rw [skipBlanks, List.dropWhile_append, ← skipBlanks, hcs]
      exact List.dropWhile_eq_nil_iff.2 hafter
    rw [hall]
  | cons c rest =>
    -- the text stops the search from the front, and what is behind it goes away from the other end
    have hsome : skipBlanks (cs ++ after) = c :: rest ++ after := by
      rw [skipBlanks, List.dropWhile_append, ← skipBlanks, hcs]
      rfl
    rw [hsome, List.reverse_append, skipBlanks_append hreverse]

/-- A text with no blank in front and none in its last part is left as it is. -/
lemma trimBlanks_append (hcs : skipBlanks (cs ++ after) = cs ++ after) (hne : after ≠ [])
    (hafter : ∀ c ∈ after, isBlank c = false) : trimBlanks (cs ++ after) = cs ++ after := by
  obtain ⟨c, rest, hreverse⟩ := List.exists_cons_of_ne_nil (mt List.reverse_eq_nil_iff.1 hne)
  have hlast : isBlank c = false :=
    hafter c (List.mem_reverse.1 (hreverse ▸ List.mem_cons_self ..))
  have hskip : skipBlanks (cs ++ after).reverse = (cs ++ after).reverse := by
    rw [List.reverse_append, hreverse]
    exact skipBlanks_cons hlast
  rw [trimBlanks, hcs, hskip, List.reverse_reverse]

end

namespace Instant

variable {c : Char} {cs digits rest : List Char} {least width n : Nat}

/-! ### Numbers -/

lemma isDigit_of_mem_padded (h : c ∈ padded width n) : c.isDigit = true := by
  rw [padded, List.mem_append] at h
  rcases h with hzero | hdigit
  · rw [List.eq_of_mem_replicate hzero]
    rfl
  · exact Nat.isDigit_of_mem_toDigits (by decide) (by decide) hdigit

lemma length_padded (hwidth : 0 < width) (h : n < Nat.pow 10 width) :
    (padded width n).length = width := by
  have hle : (Nat.toDigits 10 n).length ≤ width :=
    (Nat.length_toDigits_le_iff (by decide) hwidth).2 h
  rw [padded, List.length_append, List.length_replicate, Nat.sub_add_cancel hle]

lemma padded_ne_nil (width n : Nat) : padded width n ≠ [] :=
  List.append_ne_nil_of_right_ne_nil _ Nat.toDigits_ne_nil

lemma digitsValue_eq_ofDigitChars (digits : List Char) :
    digitsValue digits = Nat.ofDigitChars 10 digits 0 := by
  simp only [digitsValue, Nat.ofDigitChars_eq_foldl, Nat.mul_comm]

@[simp] lemma digitsValue_padded (width n : Nat) : digitsValue (padded width n) = n := by
  rw [digitsValue_eq_ofDigitChars, padded, Nat.ofDigitChars_append,
    Nat.ofDigitChars_replicate_zero, Nat.mul_zero, Nat.ofDigitChars_ten_toDigits]

/-- A text that does not go on with a digit. -/
def EndsNumber (cs : List Char) : Prop := ∀ c ∈ cs.head?, c.isDigit = false

lemma endsNumber_nil : EndsNumber [] := by simp [EndsNumber]

lemma endsNumber_cons (h : c.isDigit = false) : EndsNumber (c :: cs) := by simpa [EndsNumber]

lemma splitDigits_of_endsNumber {limit : Option Nat} (h : EndsNumber rest) :
    splitDigits limit rest = ([], rest) := by
  cases rest with
  | nil => rfl
  | cons c rest => simp [splitDigits, h c rfl]

/-- Digits are split off up to a limit that is their number, or is not reached before another
character. -/
lemma splitDigits_append {limit : Option Nat} (hdigits : ∀ c ∈ digits, c.isDigit = true)
    (hlimit : limit = some digits.length ∨
      (∀ k ∈ limit, digits.length ≤ k) ∧ EndsNumber rest) :
    splitDigits limit (digits ++ rest) = (digits, rest) := by
  induction digits generalizing limit with
  | nil =>
    rw [List.nil_append]
    rcases hlimit with rfl | ⟨-, hrest⟩
    · cases rest <;> simp [splitDigits]
    · exact splitDigits_of_endsNumber hrest
  | cons c digits ih =>
    rw [List.forall_mem_cons] at hdigits
    -- there is a digit left, so the limit is not used up
    have hnonzero : limit ≠ some 0 := by
      rintro rfl
      simp at hlimit
    rw [List.cons_append, splitDigits, if_pos ⟨hdigits.1, hnonzero⟩, ih hdigits.2]
    rcases hlimit with rfl | ⟨hlimit, hrest⟩
    · exact .inl rfl
    · -- a limit counts down with the digits
      refine .inr ⟨?_, hrest⟩
      simp only [Option.mem_def, Option.map_eq_some_iff, List.length_cons] at hlimit ⊢
      rintro _ ⟨k, hk, rfl⟩
      exact Nat.le_sub_of_add_le (hlimit k hk)

/-- A field of a given width is read as a whole, whatever follows. -/
lemma readNumber_padded (hwidth : 0 < width) (hleast : least ≤ width) (h : n < Nat.pow 10 width) :
    readNumber least (some width) (padded width n ++ rest) = some (n, rest) := by
  have hlength : (padded width n).length = width := length_padded hwidth h
  have hsplit : splitDigits (some width) (padded width n ++ rest) = (padded width n, rest) :=
    splitDigits_append (fun c => isDigit_of_mem_padded) (.inl (congrArg some hlength.symm))
  rw [readNumber, hsplit]
  dsimp only
  rw [hlength, if_pos hleast, digitsValue_padded]

/-- A number of any width is read up to the next character that is no digit. -/
lemma readNumber_padded_unlimited (hrest : EndsNumber rest) :
    readNumber 1 none (padded width n ++ rest) = some (n, rest) := by
  have hsplit : splitDigits none (padded width n ++ rest) = (padded width n, rest) :=
    splitDigits_append (fun c => isDigit_of_mem_padded) (.inr ⟨by simp, hrest⟩)
  have hlength : 1 ≤ (padded width n).length := List.length_pos_iff.2 (padded_ne_nil width n)
  rw [readNumber, hsplit]
  dsimp only
  rw [if_pos hlength, digitsValue_padded]

/-- A number begins with a digit. -/
lemma exists_padded_eq_cons (width n : Nat) :
    ∃ c cs, padded width n = c :: cs ∧ c.isDigit = true := by
  obtain ⟨c, cs, hcs⟩ := List.exists_cons_of_ne_nil (padded_ne_nil width n)
  have hmem : c ∈ padded width n := hcs ▸ List.mem_cons_self ..
  exact ⟨c, cs, hcs, isDigit_of_mem_padded hmem⟩

/-- There is no blank in front of a number. -/
lemma skipBlanks_padded : skipBlanks (padded width n ++ rest) = padded width n ++ rest := by
  obtain ⟨c, cs, hcs, hdigit⟩ := exists_padded_eq_cons width n
  rw [hcs, List.cons_append, skipBlanks_cons (isBlank_of_isDigit hdigit)]

/-! ### Fractions -/

/-- Three digits behind the point are milliseconds. -/
lemma readFraction_padded (h : n < 1000) (hrest : EndsNumber rest) :
    readFraction ('.' :: padded 3 n ++ rest) = some (n * 1000000, rest) := by
  have hlength : (padded 3 n).length = 3 := length_padded (by decide) h
  have hsplit : splitDigits (some 9) (padded 3 n ++ rest) = (padded 3 n, rest) :=
    splitDigits_append (fun c => isDigit_of_mem_padded) (.inr ⟨by simp [hlength], hrest⟩)
  rw [List.cons_append, readFraction, hsplit]
  simp [padded_ne_nil, hlength, splitDigits_of_endsNumber hrest]

/-! ### Years -/

/-- There is no blank in front of a year. -/
lemma skipBlanks_yearText {year : Int} :
    skipBlanks (yearText year ++ rest) = yearText year ++ rest := by
  rw [yearText]
  split
  · exact skipBlanks_padded
  · split <;> exact skipBlanks_cons (by decide)

/-- A year of four digits is read as a number of four digits. -/
lemma readYear_padded (h : n < 10000) :
    readYear (padded 4 n ++ rest) = some ((n : Int), rest) := by
  have hnumber : readNumber 1 (some 4) (padded 4 n ++ rest) = some (n, rest) :=
    readNumber_padded (by decide) (by decide) h
  obtain ⟨c, cs, hcs, hdigit⟩ := exists_padded_eq_cons 4 n
  rw [readYear, hnumber]
  · rfl
  -- what begins with a digit is in neither of the cases for a sign
  all_goals
    rw [hcs]
    rintro _ ⟨⟩
    cases hdigit

/-- A year is read up to the hyphen behind it, with its sign if it has one. -/
lemma readYear_yearText (year : Int) :
    readYear (yearText year ++ '-' :: rest) = some (year, '-' :: rest) := by
  have hrest : EndsNumber ('-' :: rest) := endsNumber_cons (by decide)
  rw [yearText]
  split
  · -- no sign: four digits are all that is read
    rename_i hfour
    have hvalue : (year.natAbs : Int) = year := Int.natAbs_of_nonneg hfour.1
    rw [readYear_padded (by omega), hvalue]
  · split
    · have hvalue : -(year.natAbs : Int) = year := by omega
      rw [List.cons_append, readYear, readNumber_padded_unlimited hrest, Option.map_some]
      dsimp only
      rw [hvalue]
    · have hvalue : (year.natAbs : Int) = year := by omega
      rw [List.cons_append, readYear, readNumber_padded_unlimited hrest, Option.map_some]
      dsimp only
      rw [hvalue]

end Instant

end Criteria
