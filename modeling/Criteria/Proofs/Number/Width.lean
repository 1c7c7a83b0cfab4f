import Criteria.Proofs.Double.Shortest
import Criteria.Proofs.Number.Order

/-!
# One value in different widths

One value can be stored in several widths. Comparing with a third number is exact in the width of
that number and goes by rounding in the others, so it tells the widths apart exactly if the third
number stands for something else and is rounded to the same (`compare?_eq_compare?_iff`); below
`2 ^ 53` there is no such number (`not_splits_of_abs_lt`). The milliseconds that are read from a
number do not depend on its width up to the end of their range (`toMillis?_eq_of_value_eq`), and
neither does its text where that is plain (`toText_eq_toText_iff`).
-/

namespace Criteria

namespace Double

open ExtendedRat

section

variable {x : Double} {q : ℚ} (hx : x.value = ofRat q)

include hx

/-- Only zero has two encodings. -/
lemma eq_of_value_eq {y : Double} (hy : y.value = ofRat q) (hq : q ≠ 0) : x = y := by
  have hvalue : x.value = y.value := hx.trans hy.symm
  rw [value_eq_value_iff (isNaN_of_isFinite (isFinite_of_value_eq hx))
    (isNaN_of_isFinite (isFinite_of_value_eq hy))] at hvalue
  -- of the ranks, only that of the zeros belongs to two encodings
  have hnonzero : x.magnitude ≠ 0 := by
    intro hzero
    have hscaled : x.scaled = 0 := by
      rw [← Int.natAbs_eq_zero, natAbs_scaled, scaledMagnitude_eq, hzero]
      rfl
    rw [value_of_isFinite (isFinite_of_value_eq hx), hscaled, ofRat_inj, Int.cast_zero,
      zero_div] at hx
    exact hq hx.symm
  exact eq_of_rank_eq hvalue hnonzero

/-- The integer part is not below an integer that the number is not below. -/
lemma le_truncate {n : Int} (hn : 0 ≤ n) (h : (n : ℚ) ≤ q) : n ≤ x.truncate := by
  have hunit : (0 : ℚ) < 2 ^ Format.double.leastExponent := by positivity
  rw [value_of_isFinite (isFinite_of_value_eq hx), ofRat_inj] at hx
  rw [← hx, le_div_iff₀ hunit] at h
  have hle : n * 2 ^ Format.double.leastExponent ≤ x.scaled := by exact_mod_cast h
  have hpos : (0 : Int) < 2 ^ Format.double.leastExponent := by positivity
  -- the integer part is a quotient rounded toward zero, which is down for what is not negative
  have hscaled : 0 ≤ x.scaled := (mul_nonneg hn hpos.le).trans hle
  rw [truncate_eq, Int.tdiv_eq_ediv_of_nonneg hscaled]
  exact Int.le_ediv_of_mul_le hpos hle

end

lemma truncate_of_value_eq {x : Double} {n : Int} (hx : x.value = ofRat n) : x.truncate = n := by
  rw [truncate_eq, scaled_of_value_eq hx, Int.mul_tdiv_cancel n (by positivity)]

end Double

namespace Number

open ExtendedRat

variable {a b c m n : Number}

/-! ### Comparisons -/

/-- A comparison with `c` tells two numbers apart that stand for the same. -/
structure Splits (c a b : Number) : Prop where
  /-- The comparison has a result. -/
  isNaN_eq : c.isNaN = false
  /-- The comparison is exact for one of the numbers only. -/
  widths : ¬ (SameWidth a c ↔ SameWidth b c)
  /-- Compared exactly, the numbers are different. -/
  value_ne : ¬ SameValue a c
  /-- Compared after rounding, they are equal. -/
  rounded_eq : a.rounded = c.rounded

lemma compare?_of_isNaN (h : c.isNaN = true) : a.compare? c = none := by
  cases hcompare : a.compare? c with
  | none => rfl
  | some order => exact absurd h (by simp [(isNaN_of_compare? hcompare).2])

/-- Comparing exactly and comparing after rounding differ for different numbers that are rounded to
the same. -/
lemma compare_value_eq_compare_rounded_iff (hm : m.isNaN = false) (hn : n.isNaN = false) :
    compare m.value n.value = compare m.rounded n.rounded ↔
      (m.rounded = n.rounded → SameValue m n) := by
  rcases lt_trichotomy m.value n.value with hlt | heq | hgt
  · rw [compare_lt_iff_lt.2 hlt, eq_comm, compare_lt_iff_lt]
    -- rounding keeps the order, so all that it can do to a strict one is to make a tie of it
    have hle := rounded_le_rounded hm hn hlt.le
    exact ⟨fun h heq => absurd heq h.ne, fun h => hle.lt_of_ne fun heq => hlt.ne (h heq)⟩
  · have hrounded : m.rounded = n.rounded := SameValue.rounded_eq heq
    rw [compare_eq_iff_eq.2 heq, compare_eq_iff_eq.2 hrounded]
    exact iff_of_true rfl fun _ => heq
  · rw [compare_gt_iff_gt.2 hgt, eq_comm, compare_gt_iff_gt]
    have hle := rounded_le_rounded hn hm hgt.le
    exact ⟨fun h heq => absurd heq h.ne', fun h => hle.lt_of_ne fun heq => hgt.ne' (h heq.symm)⟩

lemma not_splits_iff (hc : c.isNaN = false) (hwidths : ¬ (SameWidth a c ↔ SameWidth b c)) :
    ¬ Splits c a b ↔ (a.rounded = c.rounded → SameValue a c) := by
  constructor
  · intro hnot hrounded
    by_contra hvalue
    exact hnot ⟨hc, hwidths, hvalue, hrounded⟩
  · intro himp hsplits
    exact hsplits.value_ne (himp hsplits.rounded_eq)

section

variable (ha : a.isNaN = false) (hb : b.isNaN = false) (h : SameValue a b)

include ha hb h

lemma compare?_eq_compare?_iff : a.compare? c = b.compare? c ↔ ¬ Splits c a b := by
  cases hc : c.isNaN with
  | true =>
    rw [compare?_of_isNaN hc, compare?_of_isNaN hc]
    exact iff_of_true rfl fun hsplits => by simp [hsplits.isNaN_eq] at hc
  | false =>
    have hrounded := h.rounded_eq
    by_cases hac : SameWidth a c
    · by_cases hbc : SameWidth b c
      · -- both comparisons are exact
        rw [compare?_eq_compare_value ha hc hac, compare?_eq_compare_value hb hc hbc, h]
        exact iff_of_true rfl fun hsplits => hsplits.widths (iff_of_true hac hbc)
      · -- one is exact and one goes by rounding: these differ where rounding ties different values
        rw [compare?_eq_compare_value ha hc hac, compare?_eq_compare_rounded hb hc hbc, ← hrounded,
          Option.some_inj, compare_value_eq_compare_rounded_iff ha hc,
          not_splits_iff hc fun hiff => hbc (hiff.1 hac)]
    · by_cases hbc : SameWidth b c
      · rw [compare?_eq_compare_rounded ha hc hac, compare?_eq_compare_value hb hc hbc, ← h,
          Option.some_inj, eq_comm, compare_value_eq_compare_rounded_iff ha hc,
          not_splits_iff hc fun hiff => hac (hiff.2 hbc)]
      · -- both go by rounding, which cannot tell the two numbers apart
        rw [compare?_eq_compare_rounded ha hc hac, compare?_eq_compare_rounded hb hc hbc, hrounded]
        exact iff_of_true rfl fun hsplits => hsplits.widths (iff_of_false hac hbc)

/-- A number that splits two others is equal to one of them and in its true order with the other. -/
lemma Splits.compare?_cases (hsplits : Splits c a b) :
    a.compare? c = some (compare a.value c.value) ∧ b.compare? c = some .eq ∨
      a.compare? c = some .eq ∧ b.compare? c = some (compare a.value c.value) := by
  have hc := hsplits.isNaN_eq
  have hrounded : b.rounded = c.rounded := h.rounded_eq.symm.trans hsplits.rounded_eq
  by_cases hac : SameWidth a c
  · have hbc : ¬ SameWidth b c := fun hbc => hsplits.widths (iff_of_true hac hbc)
    left
    rw [compare?_eq_compare_value ha hc hac, compare?_eq_compare_rounded hb hc hbc,
      compare_eq_iff_eq.2 hrounded]
    exact ⟨rfl, rfl⟩
  · have hbc : SameWidth b c := by_contra fun hbc => hsplits.widths (iff_of_false hac hbc)
    right
    rw [compare?_eq_compare_rounded ha hc hac, compare?_eq_compare_value hb hc hbc,
      compare_eq_iff_eq.2 hsplits.rounded_eq, h]
    exact ⟨rfl, rfl⟩

end

/-! ### Values below `2 ^ 53` -/

section

variable {q : ℚ} (ha : a.value = ofRat q)

include ha

lemma isNaN_of_value_eq : a.isNaN = false := by
  cases a with
  | signed n | unsigned n => rfl
  | double x => exact Double.isNaN_of_isFinite (Double.isFinite_of_value_eq ha)

lemma isExact_of_abs_lt (hq : |q| < 2 ^ 53) : a.IsExact := by
  obtain ⟨i, hi⟩ | ⟨x, rfl⟩ := a.isInteger_or_double
  · rw [hi.value_eq, ofRat_inj] at ha
    rw [← ha, ← Int.cast_abs] at hq
    have habs : |i| < 2 ^ 53 := by exact_mod_cast hq
    rw [Int.abs_eq_natAbs] at habs
    apply isExact_of_natAbs_le
    rw [hi.integerPart_eq]
    omega
  · rfl

end

/-- Rounding keeps a number on its side of an integer that is not rounded. -/
lemma le_of_rounded {q : ℚ} {n : Int64} (hc : c.isNaN = false) (hrounded : c.rounded = ofRat q)
    (hn : n.toInt.natAbs ≤ 2 ^ 53) :
    ((Number.signed n).value ≤ c.value → (n.toInt : ℚ) ≤ q) ∧
      (c.value ≤ (Number.signed n).value → q ≤ n.toInt) := by
  have hexact : (Number.signed n).rounded = ofRat n.toInt := isExact_of_natAbs_le hn
  constructor
  · intro hle
    have hmono := rounded_le_rounded (m := .signed n) rfl hc hle
    rwa [hexact, hrounded, ofRat_le_ofRat] at hmono
  · intro hle
    have hmono := rounded_le_rounded (n := .signed n) hc rfl hle
    rwa [hexact, hrounded, ofRat_le_ofRat] at hmono

/-- An integer beyond `2 ^ 53` is not rounded to a number below. -/
lemma IsInteger.natAbs_le {i : Int} {q : ℚ} (hc : c.IsInteger i) (hrounded : c.rounded = ofRat q)
    (hq : |q| < 2 ^ 53) : i.natAbs ≤ 2 ^ 53 := by
  have hnaN := isNaN_of_value_eq hc.value_eq
  -- `2 ^ 53` itself is not rounded, so what lies beyond it is rounded to it or further
  have hbound : (9007199254740992 : Int64).toInt = 2 ^ 53 := rfl
  have hbound' : (-9007199254740992 : Int64).toInt = -2 ^ 53 := rfl
  have hhigh := (le_of_rounded hnaN hrounded (n := 9007199254740992) (by decide)).1
  have hlow := (le_of_rounded hnaN hrounded (n := -9007199254740992) (by decide)).2
  rw [hc.value_eq, value, ofRat_le_ofRat, Int.cast_le, hbound] at hhigh
  rw [hc.value_eq, value, ofRat_le_ofRat, Int.cast_le, hbound'] at hlow
  push_cast at hhigh hlow
  obtain ⟨hlo, hhi⟩ := abs_lt.1 hq
  by_contra hlt
  rcases le_total 0 i with hpos | hneg
  · exact absurd (hhigh (by omega)) (not_le.2 hhi)
  · exact absurd (hlow (by omega)) (not_le.2 hlo)

lemma not_splits_of_abs_lt {q : ℚ} (ha : a.value = ofRat q) (hq : |q| < 2 ^ 53) :
    ¬ Splits c a b := by
  intro hsplits
  have haexact := isExact_of_abs_lt ha hq
  have hrounded : c.rounded = ofRat q := by rw [← hsplits.rounded_eq, haexact, ha]
  -- a third number that is rounded to the same cannot be beyond `2 ^ 53` either, so that rounding
  -- leaves all three as they are
  have hcexact : c.IsExact := by
    obtain ⟨i, hi⟩ | ⟨x, rfl⟩ := c.isInteger_or_double
    · apply isExact_of_natAbs_le
      rw [hi.integerPart_eq]
      exact hi.natAbs_le hrounded hq
    · rfl
  exact hsplits.value_ne (sameValue_of_rounded_eq haexact hcexact hsplits.rounded_eq)

/-! ### One value in two widths -/

section

variable {q : ℚ} (ha : a.value = ofRat q) (hb : b.value = ofRat q)

include ha hb

/-- Only an integer has several numbers that stand for it. -/
lemma eq_or_exists_integer : a = b ∨ ∃ i : Int, q = i ∧ i.natAbs < 2 ^ 64 := by
  have hsigned (n : Int64) : n.toInt.natAbs < 2 ^ 64 := by
    have hlo := n.le_toInt
    have hhi := n.toInt_lt
    omega
  have hunsigned (n : UInt64) : (n.toNat : Int).natAbs < 2 ^ 64 := n.toNat_lt
  -- what is no integer has one width only, and in that width only a zero has two encodings
  match a, b with
  | .signed n, _ => exact .inr ⟨n.toInt, (ofRat_inj.1 ha).symm, hsigned n⟩
  | .unsigned n, _ => exact .inr ⟨n.toNat, (ofRat_inj.1 ha).symm, hunsigned n⟩
  | _, .signed n => exact .inr ⟨n.toInt, (ofRat_inj.1 hb).symm, hsigned n⟩
  | _, .unsigned n => exact .inr ⟨n.toNat, (ofRat_inj.1 hb).symm, hunsigned n⟩
  | .double x, .double y =>
    rcases eq_or_ne q 0 with rfl | hq
    · exact .inr ⟨0, Int.cast_zero.symm, by decide⟩
    · exact .inl (congrArg Number.double (Double.eq_of_value_eq ha hb hq))

end

/-! ### Milliseconds -/

lemma toMillis?_double {x : Double} (h : x.isFinite = true) :
    (double x).toMillis? = some (Int64.ofInt
      (max Int64.minValue.toInt (min Int64.maxValue.toInt x.truncate))) := by
  rw [toMillis?, if_pos h, Double.truncateWithin,
    if_neg (ne_true_of_eq_false (Double.isNaN_of_isFinite h)), if_pos h]

/-- An integer is read as itself, cut off at the lower end of the range. -/
lemma toMillis?_of_value_eq {i : Int} (ha : a.value = ofRat i) (hi : i ≤ Int64.maxValue.toInt) :
    a.toMillis? = some (Int64.ofInt (max Int64.minValue.toInt i)) := by
  cases a with
  | signed n =>
    rw [value, ofRat_inj, Int.cast_inj] at ha
    rw [← ha, max_eq_right n.minValue_le_toInt, Int64.ofInt_toInt]
    rfl
  | unsigned n =>
    rw [value, ofRat_inj] at ha
    have hnat : (n.toNat : Int) = i := by exact_mod_cast ha
    have hlo : Int64.minValue.toInt ≤ i := (by decide : Int64.minValue.toInt ≤ 0).trans (by omega)
    rw [toMillis?, hnat, if_pos hi, max_eq_right hlo]
  | double x =>
    rw [toMillis?_double (Double.isFinite_of_value_eq ha), Double.truncate_of_value_eq ha,
      min_eq_right hi]

lemma toMillis?_eq_of_value_eq {q : ℚ} (ha : a.value = ofRat q) (hb : b.value = ofRat q)
    (hq : q ≤ Int64.maxValue.toInt) : a.toMillis? = b.toMillis? := by
  rcases eq_or_exists_integer ha hb with rfl | ⟨i, rfl, -⟩
  · rfl
  · have hi : i ≤ Int64.maxValue.toInt := by exact_mod_cast hq
    rw [toMillis?_of_value_eq ha hi, toMillis?_of_value_eq hb hi]

/-- A number beyond the range of the milliseconds is read as the last one, or not at all. -/
lemma toMillis?_of_lt {q : ℚ} (ha : a.value = ofRat q) (hq : Int64.maxValue.toInt < q) :
    a.toMillis? = none ∨ a.toMillis? = some Int64.maxValue := by
  cases a with
  | signed n =>
    rw [value, ofRat_inj] at ha
    rw [← ha, Int.cast_lt] at hq
    exact absurd n.toInt_le (not_le.2 hq)
  | unsigned n =>
    rw [value, ofRat_inj] at ha
    rw [← ha] at hq
    -- an unsigned integer that is too great is not read at all
    left
    rw [toMillis?, if_neg]
    exact fun hle => absurd hq (not_lt.2 (by exact_mod_cast hle))
  | double x =>
    -- a double-precision number is cut off to the last one
    have hle : Int64.maxValue.toInt ≤ x.truncate := Double.le_truncate ha (by decide) hq.le
    right
    rw [toMillis?_double (Double.isFinite_of_value_eq ha), min_eq_left hle,
      max_eq_right (by decide), Int64.ofInt_toInt]

/-! ### Texts -/

/-- The text of a number denotes the number itself, and has no sign if that is zero. -/
def HasPlainText : Number → Prop
  | .signed _ | .unsigned _ => True
  | .double x => x.HasPlainText

lemma toText_eq_toString_iff {i : Int} (ha : a.value = ofRat i) (hlt : i.natAbs < 2 ^ 64) :
    a.toText = toString i ↔ a.HasPlainText := by
  cases a with
  | signed n =>
    rw [value, ofRat_inj, Int.cast_inj] at ha
    exact iff_of_true (ha ▸ rfl) trivial
  | unsigned n =>
    rw [value, ofRat_inj] at ha
    have hnat : (n.toNat : Int) = i := by exact_mod_cast ha
    exact iff_of_true (hnat ▸ rfl) trivial
  | double x => exact Double.toText_eq_toString_iff ha hlt

lemma hasPlainText_of_natAbs_lt {i : Int} (ha : a.value = ofRat i) (hlt : i.natAbs < 2 ^ 53)
    (hzero : a ≠ negativeZero) : a.HasPlainText := by
  cases a with
  | signed n | unsigned n => trivial
  | double x => exact Double.hasPlainText_of_lt ha (fun h => hzero (congrArg _ h)) hlt

section

variable {q : ℚ} (ha : a.value = ofRat q) (hb : b.value = ofRat q)

include ha hb

/-- A text that is not plain belongs to one number only. -/
lemma eq_of_not_hasPlainText (hna : ¬ a.HasPlainText) (hnb : ¬ b.HasPlainText) : a = b := by
  match a, b with
  | .signed _, _ | .unsigned _, _ => exact absurd trivial hna
  | _, .signed _ | _, .unsigned _ => exact absurd trivial hnb
  | .double x, .double y =>
    rcases eq_or_ne q 0 with rfl | hq
    · -- of the two zeros, the positive one has a plain text
      obtain ⟨negative, rfl⟩ := Double.eq_zero_of_value_eq ha
      obtain ⟨negative', rfl⟩ := Double.eq_zero_of_value_eq hb
      cases negative with
      | false => exact absurd Double.hasPlainText_zero hna
      | true =>
        cases negative' with
        | false => exact absurd Double.hasPlainText_zero hnb
        | true => rfl
    · exact congrArg Number.double (Double.eq_of_value_eq ha hb hq)

/-- Numbers that stand for the same have one text exactly if they are the same or their texts are
plain. -/
lemma toText_eq_toText_iff :
    a.toText = b.toText ↔ a = b ∨ a.HasPlainText ∧ b.HasPlainText := by
  rcases eq_or_exists_integer ha hb with rfl | ⟨i, rfl, hlt⟩
  · exact iff_of_true rfl (.inl rfl)
  · -- a text is plain exactly if it is that of the integer, which the two have in common
    have hplain := toText_eq_toString_iff ha hlt
    have hplain' := toText_eq_toString_iff hb hlt
    constructor
    · intro htext
      by_cases hp : a.HasPlainText
      · exact .inr ⟨hp, hplain'.1 (htext ▸ hplain.2 hp)⟩
      · have hp' : ¬ b.HasPlainText := fun hp' => hp (hplain.1 (htext ▸ hplain'.2 hp'))
        exact .inl (eq_of_not_hasPlainText ha hb hp hp')
    · rintro (rfl | ⟨hp, hp'⟩)
      · rfl
      · exact (hplain.2 hp).trans (hplain'.2 hp').symm

/-- Below `2 ^ 53`, only the negative zero has a text that is not plain. -/
lemma toText_eq_of_abs_lt (hq : |q| < 2 ^ 53) (hzero : a = negativeZero ↔ b = negativeZero) :
    a.toText = b.toText := by
  rw [toText_eq_toText_iff ha hb]
  rcases eq_or_exists_integer ha hb with rfl | ⟨i, rfl, -⟩
  · exact .inl rfl
  · rw [← Int.cast_abs, Int.abs_eq_natAbs] at hq
    have hlt : i.natAbs < 2 ^ 53 := by exact_mod_cast hq
    -- the negative zero is one of the two exactly if it is the other as well
    by_cases ha0 : a = negativeZero
    · exact .inl (ha0.trans (hzero.1 ha0).symm)
    · have hb0 : b ≠ negativeZero := fun hb0 => ha0 (hzero.2 hb0)
      exact .inr ⟨hasPlainText_of_natAbs_lt ha hlt ha0, hasPlainText_of_natAbs_lt hb hlt hb0⟩

end

end Number

end Criteria
