import Criteria.Number
import Criteria.Proofs.Double.Value

/-!
# What a number stands for

An integer of either width stands for itself, a double-precision number for its value. Numbers of
one width are equal if they stand for the same. Numbers of two widths are equal if what they are
rounded to stands for the same (`compare?_eq_iff`): numbers that stand for the same are always equal
(`SameValue.agree`), and the other way round where rounding changes nothing (`Agree.sameValue`), as
it does up to `2 ^ 53` (`isExact_of_natAbs_le`).
-/

namespace Criteria

namespace Number

open ExtendedRat

/-- What a number stands for, unless it is a NaN. -/
def value : Number → ExtendedRat
  | .signed n => ofRat n.toInt
  | .unsigned n => ofRat n.toNat
  | .double x => x.value

/-- What a number rounded to double precision stands for, unless it is a NaN. -/
def rounded (n : Number) : ExtendedRat := n.toDouble.value

/-- Whether a number is a NaN. -/
def isNaN : Number → Bool
  | .double x => x.isNaN
  | _ => false

/-- Two numbers have one width. -/
def SameWidth : Number → Number → Prop
  | .signed _, .signed _ => True
  | .unsigned _, .unsigned _ => True
  | .double _, .double _ => True
  | _, _ => False

/-- Two numbers stand for the same. -/
def SameValue (m n : Number) : Prop := m.value = n.value

/-- Two numbers of one width stand for the same, or two numbers of different widths do after
rounding. -/
def Agree (m n : Number) : Prop :=
  SameWidth m n ∧ SameValue m n ∨ ¬ SameWidth m n ∧ m.rounded = n.rounded

/-- Rounding to double precision keeps the number. -/
def IsExact (n : Number) : Prop := n.rounded = n.value

variable {k m n : Number}

lemma isNaN_toDouble (n : Number) : n.toDouble.isNaN = n.isNaN := by
  cases n with
  | signed n => exact Double.isNaN_ofInt _
  | unsigned n => exact Double.isNaN_ofInt _
  | double x => rfl

lemma compare?_of_not_sameWidth (h : ¬ SameWidth m n) :
    m.compare? n = m.toDouble.compare? n.toDouble := by
  cases m <;> cases n <;> first | rfl | exact absurd trivial h

lemma isNaN_of_compare? {order : Ordering} (h : m.compare? n = some order) :
    m.isNaN = false ∧ n.isNaN = false := by
  by_cases hwidth : SameWidth m n
  · match m, n, hwidth with
    | .signed _, .signed _, _ | .unsigned _, .unsigned _, _ => exact ⟨rfl, rfl⟩
    | .double x, .double y, _ => exact Double.isNaN_of_compare? h
  · rw [compare?_of_not_sameWidth hwidth] at h
    have hnaN := Double.isNaN_of_compare? h
    rwa [isNaN_toDouble, isNaN_toDouble] at hnaN

lemma compare?_swap (m n : Number) : n.compare? m = (m.compare? n).map Ordering.swap := by
  match m, n with
  | .signed a, .signed b => exact congrArg some Std.OrientedOrd.eq_swap
  | .unsigned a, .unsigned b => exact congrArg some Std.OrientedOrd.eq_swap
  | .double _, .double _ | .signed _, .unsigned _ | .signed _, .double _ | .unsigned _, .signed _
  | .unsigned _, .double _ | .double _, .signed _ | .double _, .unsigned _ =>
    exact Double.compare?_swap _ _

section

variable (hm : m.isNaN = false) (hn : n.isNaN = false)

include hm hn

/-- Within one width, numbers are compared by what they stand for. -/
lemma compare?_eq_compare_value (h : SameWidth m n) :
    m.compare? n = some (compare m.value n.value) := by
  match m, n, h with
  | .signed a, .signed b, _ =>
    exact congrArg some (compare_congr (by simp [value]) (by simp [value]))
  | .unsigned a, .unsigned b, _ =>
    exact congrArg some (compare_congr (by simp [value]) (by simp [value]))
  | .double x, .double y, _ => exact Double.compare?_eq_some hm hn

/-- Across widths, numbers are compared by what they are rounded to. -/
lemma compare?_eq_compare_rounded (h : ¬ SameWidth m n) :
    m.compare? n = some (compare m.rounded n.rounded) := by
  rw [compare?_of_not_sameWidth h]
  exact Double.compare?_eq_some (m.isNaN_toDouble.trans hm) (n.isNaN_toDouble.trans hn)

/-- Numbers that are not NaNs are equal exactly if they agree. -/
lemma compare?_eq_iff : m.compare? n = some .eq ↔ Agree m n := by
  by_cases hwidth : SameWidth m n
  · rw [compare?_eq_compare_value hm hn hwidth, Option.some_inj, compare_eq_iff_eq]
    simp [Agree, SameValue, hwidth]
  · rw [compare?_eq_compare_rounded hm hn hwidth, Option.some_inj, compare_eq_iff_eq]
    simp [Agree, hwidth]

end

/-! ### Rounding -/

/-- A number is an integer, or rounding keeps it. -/
lemma exists_toDouble_eq_ofInt_or_isExact (n : Number) :
    (∃ i : Int, n.value = ofRat i ∧ n.toDouble = Double.ofInt i) ∨ n.IsExact := by
  cases n with
  | signed n => exact .inl ⟨n.toInt, rfl, rfl⟩
  | unsigned n => exact .inl ⟨n.toNat, by rw [value, Int.cast_natCast], rfl⟩
  | double x => exact .inr rfl

/-- An integer that stands for the same as a number that rounding keeps is kept as well. -/
lemma IsExact.of_sameValue (hm : m.IsExact) (h : SameValue m n) : n.IsExact := by
  obtain ⟨i, hvalue, hdouble⟩ | hexact := n.exists_toDouble_eq_ofInt_or_isExact
  · -- the integer is the value of a double-precision number, so there is an encoding for it
    have hm' : m.toDouble.value = ofRat i := hm.trans (h.trans hvalue)
    rw [IsExact, rounded, hdouble, hvalue]
    exact Double.value_ofInt_of_value_eq hm'
  · exact hexact

/-- Numbers that stand for the same still do after rounding. -/
lemma SameValue.rounded_eq (h : SameValue m n) : m.rounded = n.rounded := by
  obtain ⟨i, hi, hm⟩ | hm := m.exists_toDouble_eq_ofInt_or_isExact
  · obtain ⟨j, hj, hn⟩ | hn := n.exists_toDouble_eq_ofInt_or_isExact
    · have hij : i = j := by
        rw [SameValue, hi, hj, ofRat_inj] at h
        exact_mod_cast h
      rw [rounded, rounded, hm, hn, hij]
    · -- if rounding keeps the one number, it keeps the other as well
      exact (hn.of_sameValue h.symm).trans (h.trans hn.symm)
  · exact hm.trans (h.trans (hm.of_sameValue h).symm)

lemma sameValue_of_rounded_eq (hm : m.IsExact) (hn : n.IsExact) (h : m.rounded = n.rounded) :
    SameValue m n := hm.symm.trans (h.trans hn)

/-- Integers up to `2 ^ 53` are kept by rounding, and so are all numbers of double precision. -/
lemma isExact_of_natAbs_le (h : n.integerPart.natAbs ≤ 2 ^ 53) : n.IsExact := by
  have hofInt (i : Int) (hi : i.natAbs ≤ 2 ^ 53) : (Double.ofInt i).value = ofRat i := by
    rcases Nat.lt_or_eq_of_le hi with hlt | heq
    · exact Double.value_ofInt (Nat.mul_one _).symm hlt (Nat.zero_le _)
    · -- `2 ^ 53` has one bit too many, but all except the first are zero
      exact Double.value_ofInt (heq.trans (Nat.one_mul _).symm) (by decide) (by decide)
  cases n with
  | signed n => exact hofInt n.toInt h
  | unsigned n =>
    rw [IsExact, value, ← Int.cast_natCast]
    exact hofInt n.toNat h
  | double x => rfl

/-! ### Agreement -/

lemma SameValue.agree (h : SameValue m n) : Agree m n := by
  by_cases hwidth : SameWidth m n
  · exact .inl ⟨hwidth, h⟩
  · exact .inr ⟨hwidth, h.rounded_eq⟩

namespace Agree

lemma rounded_eq (h : Agree m n) : m.rounded = n.rounded := by
  rcases h with ⟨-, hvalue⟩ | ⟨-, hrounded⟩
  · exact hvalue.rounded_eq
  · exact hrounded

lemma sameValue_of_sameWidth (h : Agree m n) (hwidth : SameWidth m n) : SameValue m n := by
  rcases h with ⟨-, hvalue⟩ | ⟨hnot, -⟩
  · exact hvalue
  · exact absurd hwidth hnot

lemma sameValue (h : Agree m n) (hm : m.IsExact) (hn : n.IsExact) : SameValue m n :=
  sameValue_of_rounded_eq hm hn h.rounded_eq

/-- Two numbers that agree with a third one agree, unless they are of one width and do not stand for
the same. -/
lemma trans (hmk : Agree m k) (hkn : Agree k n) (h : SameWidth m n → SameValue m n) :
    Agree m n := by
  by_cases hwidth : SameWidth m n
  · exact .inl ⟨hwidth, h hwidth⟩
  · exact .inr ⟨hwidth, hmk.rounded_eq.trans hkn.rounded_eq⟩

end Agree

end Number

end Criteria
