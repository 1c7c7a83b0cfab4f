import Criteria.Proofs.Double.Monotone
import Criteria.Proofs.Number.Value

/-!
# The orders of numbers

Sorting orders numbers by what they stand for, whatever their widths; only the two zeros are told
apart (`totalCompare_by_value`). Numbers that are rounded to the same encoding are ordered by their
integer parts, and these tell them apart, as only integers are rounded.

The relational order goes by what the numbers stand for within one width and by what they are
rounded to across widths. Rounding keeps the order, so a strict relational order never contradicts
sorting (`totalCompare_eq_lt_of_compare?`), and it is transitive, whatever the three widths
(`compare?_eq_lt_trans`).
-/

namespace Criteria

namespace Number

open ExtendedRat

variable {k m n : Number}

/-! ### Integers and their images -/

/-- A number is an integer, in one of the two widths for integers. -/
structure IsInteger (n : Number) (i : Int) : Prop where
  value_eq : n.value = ofRat i
  toDouble_eq : n.toDouble = .ofInt i
  integerPart_eq : n.integerPart = i
  lower : -integerPartBound < i
  upper : i < integerPartBound - 1

lemma isInteger_signed (n : Int64) : IsInteger (.signed n) n.toInt where
  value_eq := rfl
  toDouble_eq := rfl
  integerPart_eq := rfl
  lower := lt_of_lt_of_le (by decide) n.le_toInt
  upper := lt_of_lt_of_le n.toInt_lt (by decide)

lemma isInteger_unsigned (n : UInt64) : IsInteger (.unsigned n) n.toNat where
  value_eq := by rw [value, Int.cast_natCast]
  toDouble_eq := rfl
  integerPart_eq := rfl
  lower := lt_of_lt_of_le (by decide) (Int.natCast_nonneg _)
  upper := lt_of_lt_of_le (Int.ofNat_lt.2 n.toNat_lt) (by decide)

lemma isInteger_or_double (n : Number) : (∃ i, n.IsInteger i) ∨ ∃ x, n = .double x := by
  cases n with
  | signed n => exact .inl ⟨_, isInteger_signed n⟩
  | unsigned n => exact .inl ⟨_, isInteger_unsigned n⟩
  | double x => exact .inr ⟨x, rfl⟩

lemma roundsTo_value (hn : n.isNaN = false) : Double.RoundsTo n.value n.toDouble.rank := by
  obtain ⟨i, hi⟩ | ⟨x, rfl⟩ := n.isInteger_or_double
  · rw [hi.value_eq, hi.toDouble_eq]
    exact Double.roundsTo_ofInt i
  · exact Double.roundsTo_value hn

lemma value_lt_of_rank_lt (hm : m.isNaN = false) (hn : n.isNaN = false)
    (h : m.toDouble.rank < n.toDouble.rank) : m.value < n.value := by
  rw [← not_le] at h ⊢
  exact fun hle => h ((roundsTo_value hn).mono (roundsTo_value hm) hle)

/-! ### Numbers with one image -/

/-- An integer and a double-precision number that it is rounded to are ordered by their integer
parts. -/
lemma IsInteger.compare_integerPart_double {i : Int} (hn : n.IsInteger i) {x : Double}
    (hx : x.isNaN = false) (h : x.rank = n.toDouble.rank) :
    compare (Number.double x).integerPart n.integerPart = compare x.value n.value := by
  have hscaled : x.scaled = (Double.ofInt i).scaled := by
    rw [Double.scaled_eq_scaled_iff, h, hn.toDouble_eq]
  have hdvd : (2 ^ Format.double.leastExponent : Int) ∣ x.scaled :=
    hscaled ▸ Double.dvd_scaled_ofInt i
  rw [hn.integerPart_eq, hn.value_eq]
  exact Double.compare_truncateWithin hx hdvd hn.lower hn.upper

/-- Numbers that are rounded to the same are ordered by their integer parts. -/
lemma compare_integerPart (hm : m.isNaN = false) (hn : n.isNaN = false)
    (h : m.toDouble.rank = n.toDouble.rank) :
    compare m.integerPart n.integerPart = compare m.value n.value := by
  obtain ⟨i, hi⟩ | ⟨x, rfl⟩ := m.isInteger_or_double
  · obtain ⟨j, hj⟩ | ⟨y, rfl⟩ := n.isInteger_or_double
    · -- an integer is its own integer part
      rw [hi.integerPart_eq, hj.integerPart_eq, hi.value_eq, hj.value_eq]
      exact compare_congr (by simp) (by simp)
    · exact compare_congr_swap (hi.compare_integerPart_double hn h.symm)
  · obtain ⟨j, hj⟩ | ⟨y, rfl⟩ := n.isInteger_or_double
    · exact hj.compare_integerPart_double hm h
    · -- two double-precision numbers of one rank are the same, or both are zeros
      have hparts : (Number.double x).integerPart = (Number.double y).integerPart :=
        Double.truncateWithin_eq_of_rank_eq hm hn h _ _
      have hvalues : x.value = y.value := (Double.value_eq_value_iff hm hn).2 h
      rw [compare_eq_iff_eq.2 hparts, value, value, compare_eq_iff_eq.2 hvalues]

/-! ### Sorting -/

/-- The zero that comes before all others. -/
def negativeZero : Number := .double (.zero true)

lemma value_eq_zero_of_rank_eq_zero (hn : n.isNaN = false) (h : n.toDouble.rank = 0) :
    n.value = ofRat 0 := by
  have hrounds := roundsTo_value hn
  rw [h] at hrounds
  exact hrounds.eq_zero

lemma totalCompare_eq_compare_value (hm : m.isNaN = false) (hn : n.isNaN = false)
    (hzero : ¬ (m.value = ofRat 0 ∧ n.value = ofRat 0)) :
    m.totalCompare n = compare m.value n.value := by
  rw [totalCompare, Double.totalCompare]
  rcases lt_trichotomy m.toDouble.rank n.toDouble.rank with hlt | heq | hgt
  · -- the images decide, and as rounding keeps the order, so do the values
    rw [compare_lt_iff_lt.2 (Double.totalRank_lt_of_rank_lt hlt), Ordering.lt_then,
      compare_lt_iff_lt.2 (value_lt_of_rank_lt hm hn hlt)]
  · -- the images are equal and no zeros, so the sort goes on to the integer parts
    have hrank : m.toDouble.rank ≠ 0 := by
      intro hm0
      have hn0 : n.toDouble.rank = 0 := heq ▸ hm0
      exact hzero ⟨value_eq_zero_of_rank_eq_zero hm hm0, value_eq_zero_of_rank_eq_zero hn hn0⟩
    rw [compare_eq_iff_eq.2 (Double.totalRank_eq_of_rank_eq heq hrank), Ordering.eq_then,
      compare_integerPart hm hn heq]
  · rw [compare_gt_iff_gt.2 (Double.totalRank_lt_of_rank_lt hgt), Ordering.gt_then,
      compare_gt_iff_gt.2 (value_lt_of_rank_lt hn hm hgt)]

/-- A zero is placed by its sign alone, which only one zero has. -/
lemma places_of_value_eq_zero (h : n.value = ofRat 0) :
    n.toDouble.totalRank = (if n = negativeZero then -1 else 0) ∧ n.integerPart = 0 := by
  obtain ⟨i, hi⟩ | ⟨x, rfl⟩ := n.isInteger_or_double
  · have hzero : i = 0 := by
      rw [hi.value_eq, ofRat_inj] at h
      exact_mod_cast h
    subst hzero
    -- an integer has no sign to give to its zero
    have hne : n ≠ negativeZero := by
      rintro rfl
      exact absurd hi.toDouble_eq (by decide +kernel)
    rw [if_neg hne, hi.toDouble_eq, hi.integerPart_eq]
    exact ⟨by decide +kernel, rfl⟩
  · obtain ⟨negative, rfl⟩ := Double.eq_zero_of_value_eq h
    cases negative <;> decide +kernel

/-- Numbers are sorted by what they stand for, whatever their widths. Of the zeros, the negative one
comes first, and the others are tied. -/
theorem totalCompare_by_value :
    (∀ m n : Number, m.isNaN = false → n.isNaN = false →
      ¬ (m.value = ofRat 0 ∧ n.value = ofRat 0) →
        m.totalCompare n = compare m.value n.value) ∧
    ∀ m n : Number, m.value = ofRat 0 → n.value = ofRat 0 →
      m.totalCompare n =
        if m = negativeZero ∧ n ≠ negativeZero then .lt
        else if m ≠ negativeZero ∧ n = negativeZero then .gt
        else .eq := by
  constructor
  · intro m n hm hn hzero
    exact totalCompare_eq_compare_value hm hn hzero
  · intro m n hm hn
    obtain ⟨hrank, hpart⟩ := places_of_value_eq_zero hm
    obtain ⟨hrank', hpart'⟩ := places_of_value_eq_zero hn
    rw [totalCompare, Double.totalCompare, hrank, hrank', hpart, hpart']
    by_cases hm0 : m = negativeZero
    · by_cases hn0 : n = negativeZero
      · simp [hm0, hn0]
      · simp [hm0, hn0, compare_lt_iff_lt]
    · by_cases hn0 : n = negativeZero
      · simp [hm0, hn0, compare_gt_iff_gt]
      · simp [hm0, hn0]

theorem totalCompare_by_value_widths :
    let wide : Number := .signed 9007199254740993
    let image : Number := .double (.ofInt 9007199254740993)
    wide.toDouble = image.toDouble ∧ compare wide.value image.value = .gt ∧
      negativeZero.totalCompare (.unsigned 0) = .lt := by
  intro wide image
  have hzero : ¬ (wide.value = ofRat 0 ∧ image.value = ofRat 0) := by
    rintro ⟨hwide, -⟩
    have hvalue := ofRat_inj.1 hwide
    revert hvalue
    decide +kernel
  refine ⟨rfl, ?_, ?_⟩
  · rw [← totalCompare_by_value.1 wide image rfl (by decide +kernel) hzero]
    decide +kernel
  · have hnegative : negativeZero.value = ofRat 0 := by
      rw [negativeZero, value, Double.value_of_isFinite (by decide), ofRat_inj]
      decide +kernel
    have hunsigned : (Number.unsigned 0).value = ofRat 0 := ofRat_inj.2 (by decide +kernel)
    rw [totalCompare_by_value.2 negativeZero (.unsigned 0) hnegative hunsigned]
    decide +kernel

/-! ### Relational tests -/

section

variable (hm : m.isNaN = false) (hn : n.isNaN = false)

include hm hn

lemma rounded_le_rounded (h : m.value ≤ n.value) : m.rounded ≤ n.rounded := by
  rw [← not_lt, rounded, rounded, Double.value_lt_value_iff (n.isNaN_toDouble.trans hn)
    (m.isNaN_toDouble.trans hm), not_lt]
  exact (roundsTo_value hm).mono (roundsTo_value hn) h

lemma sameValue_of_totalCompare_eq (h : m.totalCompare n = .eq) : SameValue m n := by
  by_cases hzero : m.value = ofRat 0 ∧ n.value = ofRat 0
  · exact hzero.1.trans hzero.2.symm
  · rwa [totalCompare_eq_compare_value hm hn hzero, compare_eq_iff_eq] at h

end

lemma rounded_lt_rounded (hwidth : ¬ SameWidth m n) (h : m.compare? n = some .lt) :
    m.rounded < n.rounded := by
  obtain ⟨hm, hn⟩ := isNaN_of_compare? h
  rwa [compare?_eq_compare_rounded hm hn hwidth, Option.some_inj, compare_lt_iff_lt] at h

lemma value_lt_value (h : m.compare? n = some .lt) : m.value < n.value := by
  obtain ⟨hm, hn⟩ := isNaN_of_compare? h
  by_cases hwidth : SameWidth m n
  · rwa [compare?_eq_compare_value hm hn hwidth, Option.some_inj, compare_lt_iff_lt] at h
  · -- were the values the other way round, so would be their images
    have hlt := rounded_lt_rounded hwidth h
    rw [← not_le] at hlt ⊢
    exact fun hle => hlt (rounded_le_rounded hn hm hle)

/-- What a relational test finds in order is sorted in that order. -/
lemma totalCompare_eq_lt_of_compare? (h : m.compare? n = some .lt) : m.totalCompare n = .lt := by
  obtain ⟨hm, hn⟩ := isNaN_of_compare? h
  have hlt := value_lt_value h
  have hzero : ¬ (m.value = ofRat 0 ∧ n.value = ofRat 0) := by
    rintro ⟨hm0, hn0⟩
    exact hlt.ne (hm0.trans hn0.symm)
  rwa [totalCompare_eq_compare_value hm hn hzero, compare_lt_iff_lt]

lemma SameWidth.trans (h : SameWidth k m) (h' : SameWidth m n) : SameWidth k n := by
  match k, m, n, h, h' with
  | .signed _, .signed _, .signed _, _, _ => trivial
  | .unsigned _, .unsigned _, .unsigned _, _, _ => trivial
  | .double _, .double _, .double _, _, _ => trivial

lemma compare?_eq_lt_trans (h : k.compare? m = some .lt) (h' : m.compare? n = some .lt) :
    k.compare? n = some .lt := by
  obtain ⟨hk, hm⟩ := isNaN_of_compare? h
  obtain ⟨-, hn⟩ := isNaN_of_compare? h'
  have hlt := value_lt_value h
  have hlt' := value_lt_value h'
  by_cases hwidth : SameWidth k n
  · rw [compare?_eq_compare_value hk hn hwidth, Option.some_inj, compare_lt_iff_lt]
    exact hlt.trans hlt'
  · rw [compare?_eq_compare_rounded hk hn hwidth, Option.some_inj, compare_lt_iff_lt]
    have hle := rounded_le_rounded hk hm hlt.le
    have hle' := rounded_le_rounded hm hn hlt'.le
    -- the number in the middle cannot be of both widths, so one step survives the rounding
    by_cases hkm : SameWidth k m
    · exact hle.trans_lt (rounded_lt_rounded (fun hmn => hwidth (hkm.trans hmn)) h')
    · exact (rounded_lt_rounded hkm h).trans_le hle'

end Number

end Criteria
