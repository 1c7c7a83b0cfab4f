import Criteria.Proofs.Number.Width
import Criteria.Proofs.Value.TotalOrder
import Mathlib.Data.Rat.Floor

/-!
# Numbers as milliseconds

The milliseconds of a number are what it stands for, rounded toward zero and cut off at the ends of
their range (`Number.exists_value_of_toMillis?`), whatever its width. Both steps keep the order, so
numbers that are sorted one behind the other are read as instants in that order
(`Number.toMillis?_le`), and what is read as an earlier instant is sorted in front
(`Number.totalCompare_eq_lt_of_toMillis?_lt`).
-/

namespace Criteria

/-! ### Rounding toward zero -/

/-- The integer that is left of a rational when its fraction is dropped. -/
def towardZero (q : ℚ) : Int := if 0 ≤ q then ⌊q⌋ else ⌈q⌉

lemma towardZero_intCast (n : Int) : towardZero n = n := by
  rw [towardZero]
  split_ifs
  · exact Int.floor_intCast n
  · exact Int.ceil_intCast n

lemma towardZero_le_towardZero {p q : ℚ} (h : p ≤ q) : towardZero p ≤ towardZero q := by
  rw [towardZero, towardZero]
  split_ifs with hp hq hq
  · exact Int.floor_le_floor h
  · exact absurd (hp.trans h) hq
  · -- zero lies between the two
    have hlow : ⌈p⌉ ≤ 0 := Int.ceil_le.2 (by exact_mod_cast (not_le.1 hp).le)
    exact hlow.trans (Int.floor_nonneg.2 hq)
  · exact Int.ceil_le_ceil h

/-- Dropping the fraction of a quotient is division rounded toward zero. -/
lemma towardZero_div (n : Int) {d : Nat} (hd : 0 < d) : towardZero (n / d) = n.tdiv d := by
  have hsign : 0 ≤ (n / d : ℚ) ↔ 0 ≤ n := by
    rw [le_div_iff₀ (by exact_mod_cast hd), zero_mul, Int.cast_nonneg_iff]
  simp only [towardZero, hsign]
  split_ifs with hn
  · rw [Rat.floor_intCast_div_natCast, Int.tdiv_eq_ediv_of_nonneg hn]
  · -- below zero, the quotient of the opposite number is rounded down
    have hneg : (-n).tdiv d = -n / d := Int.tdiv_eq_ediv_of_nonneg (by omega)
    rw [Rat.ceil_intCast_div_natCast, ← hneg, Int.neg_tdiv, neg_neg]

lemma Double.truncate_eq_towardZero {x : Double} {q : ℚ} (hx : x.value = ExtendedRat.ofRat q) :
    x.truncate = towardZero q := by
  rw [value_of_isFinite (isFinite_of_value_eq hx), ExtendedRat.ofRat_inj] at hx
  have hdiv := towardZero_div x.scaled (Nat.two_pow_pos Format.double.leastExponent)
  push_cast at hdiv
  rw [truncate_eq, ← hx, hdiv]

namespace Number

open ExtendedRat

variable {m n : Number} {s t : Int64}

/-! ### Milliseconds -/

/-- The integer nearest to another one in the range of the milliseconds. -/
def clampMillis (i : Int) : Int := max Int64.minValue.toInt (min Int64.maxValue.toInt i)

lemma clampMillis_le_clampMillis {i j : Int} (h : i ≤ j) : clampMillis i ≤ clampMillis j :=
  max_le_max_left _ (min_le_min_left _ h)

lemma clampMillis_of_mem {i : Int} (hlow : Int64.minValue.toInt ≤ i)
    (hhigh : i ≤ Int64.maxValue.toInt) : clampMillis i = i := by
  rw [clampMillis, min_eq_right hhigh, max_eq_right hlow]

lemma clampMillis_toInt (t : Int64) : clampMillis t.toInt = t.toInt :=
  clampMillis_of_mem t.minValue_le_toInt t.toInt_le

lemma toInt_ofInt_clampMillis (i : Int) : (Int64.ofInt (clampMillis i)).toInt = clampMillis i := by
  have hlow : Int64.minValue.toInt ≤ clampMillis i := le_max_left _ _
  have hhigh : clampMillis i ≤ Int64.maxValue.toInt := max_le (by decide) (min_le_left _ _)
  exact Int64.toInt_ofInt_of_le hlow (Int.lt_add_one_of_le hhigh)

/-- The milliseconds of a number are what it stands for, without the fraction and cut off at the
ends of their range. -/
lemma exists_value_of_toMillis? (h : n.toMillis? = some t) :
    ∃ q : ℚ, n.value = ofRat q ∧ t.toInt = clampMillis (towardZero q) := by
  cases n with
  | signed n =>
    cases h
    exact ⟨t.toInt, rfl, by rw [towardZero_intCast, clampMillis_toInt]⟩
  | unsigned n =>
    rw [toMillis?] at h
    split_ifs at h with hle
    cases h
    refine ⟨(n.toNat : Int), by rw [value, Int.cast_natCast], ?_⟩
    have hlow : Int64.minValue.toInt ≤ n.toNat :=
      (by decide : Int64.minValue.toInt ≤ 0).trans (Int.natCast_nonneg _)
    -- what is too great gives no milliseconds, so there is nothing left to cut off
    rw [towardZero_intCast, ← toInt_ofInt_clampMillis, clampMillis_of_mem hlow hle]
  | double x =>
    have hfinite : x.isFinite = true := by
      rw [toMillis?] at h
      split_ifs at h with hfinite
      exact hfinite
    rw [toMillis?_double hfinite] at h
    cases h
    refine ⟨_, Double.value_of_isFinite hfinite, ?_⟩
    rw [← Double.truncate_eq_towardZero (Double.value_of_isFinite hfinite)]
    exact toInt_ofInt_clampMillis x.truncate

/-- What is not sorted behind another number does not stand for more. -/
lemma value_le_value_of_totalCompare (hm : m.isNaN = false) (hn : n.isNaN = false)
    (h : m.totalCompare n ≠ .gt) : m.value ≤ n.value := by
  by_cases hzero : m.value = ofRat 0 ∧ n.value = ofRat 0
  · -- the sort places zeros by their signs, but they stand for the same
    exact (hzero.1.trans hzero.2.symm).le
  · rwa [totalCompare_eq_compare_value hm hn hzero, compare_le_iff_le] at h

/-- Milliseconds keep the order of sorting. -/
lemma toMillis?_le (hm : m.toMillis? = some s) (hn : n.toMillis? = some t)
    (h : m.totalCompare n ≠ .gt) : s ≤ t := by
  obtain ⟨p, hp, hs⟩ := exists_value_of_toMillis? hm
  obtain ⟨q, hq, ht⟩ := exists_value_of_toMillis? hn
  have hle : m.value ≤ n.value :=
    value_le_value_of_totalCompare (isNaN_of_value_eq hp) (isNaN_of_value_eq hq) h
  rw [hp, hq, ofRat_le_ofRat] at hle
  rw [Int64.le_iff_toInt_le, hs, ht]
  exact clampMillis_le_clampMillis (towardZero_le_towardZero hle)

lemma totalCompare_eq_lt_of_toMillis?_lt (hm : m.toMillis? = some s) (hn : n.toMillis? = some t)
    (h : s < t) : m.totalCompare n = .lt := by
  by_contra hne
  rw [← Std.OrientedCmp.gt_iff_lt] at hne
  have hle : t ≤ s := toMillis?_le hn hm hne
  exact Int64.not_le.2 h hle

end Number

end Criteria
