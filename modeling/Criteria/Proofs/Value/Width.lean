import Criteria.Predicate
import Criteria.Proofs.Number.Width
import Criteria.Proofs.Value.Equality
import Mathlib

/-!
# Tests and the widths of numbers

Numbers that stand for one value pass the same tests, in whatever widths they are stored, as long as
the value is below `2 ^ 53` and no pattern sees the sign of the negative zero. Beyond that bound,
`Test.IgnoresWidth` says which tests still give the same result: those whose operands do not split
the two numbers, and those that see the same instant or the same text (`Test.holds_of_value_eq`).
-/

namespace Criteria

open ExtendedRat

variable {a b : Number}

namespace Value

/-- The operand of a comparison is a number that splits two others. -/
def Splits (operand : Value) (a b : Number) : Prop := ∃ c, operand = .number c ∧ c.Splits a b

/-- A comparison with an operand looks at a number only through comparisons with numbers. -/
lemma compare?_number_congr {operand : Value}
    (h : ∀ c, operand = .number c → a.compare? c = b.compare? c) :
    (number a).compare? operand = (number b).compare? operand := by
  cases operand with
  | number c => exact h c rfl
  | null | bool _ | text _ | date _ | sequence _ | record _ => rfl

lemma equal_number_congr {operand : Value}
    (h : ∀ c, operand = .number c → a.compare? c = b.compare? c) :
    (number a).equal operand = (number b).equal operand := by
  cases operand with
  | number c => rw [equal, equal, h c rfl]
  | null | bool _ | text _ | date _ | sequence _ | record _ => simp only [equal]

end Value

namespace Test

/-- What makes a test of a number independent of its width, for two numbers that stand for the
same. -/
def IgnoresWidth (a b : Number) : Test → Prop
  | .ordered op operand => ∀ c, operand = .number c → c.Splits a b →
    op.accepts (compare a.value c.value) = op.accepts .eq
  | .equal operand | .notEqual operand => ¬ operand.Splits a b
  | .oneOf candidates | .notOneOf candidates => ∀ candidate ∈ candidates, ¬ candidate.Splits a b
  | .dateAfter _ => a.value ≤ ofRat Int64.maxValue.toInt
  | .matches _ => a = b ∨ a.HasPlainText ∧ b.HasPlainText
  | .dateBefore _ | .contains _ | .notContains _ => True

section

variable {q : ℚ} (ha : a.value = ofRat q) (hb : b.value = ofRat q)

include ha hb

lemma compare?_congr {operand : Value} (h : ¬ operand.Splits a b) :
    ∀ c, operand = .number c → a.compare? c = b.compare? c := by
  rintro c rfl
  rw [Number.compare?_eq_compare?_iff (Number.isNaN_of_value_eq ha) (Number.isNaN_of_value_eq hb)
    (ha.trans hb.symm)]
  exact fun hsplits => h ⟨c, rfl, hsplits⟩

/-- An ordering test shows the widths of two numbers exactly if its operand splits them and the
operator tells the true order from equality. -/
lemma holds_ordered_eq_iff (op : Operator) (operand : Value) :
    (ordered op operand).holds (some (.number a)) = (ordered op operand).holds (some (.number b)) ↔
      (ordered op operand).IgnoresWidth a b := by
  rw [holds, holds, Option.bind_some, Option.bind_some, IgnoresWidth]
  by_cases hsplits : operand.Splits a b
  · obtain ⟨c, rfl, hc⟩ := hsplits
    have hignores : (∀ c', Value.number c = .number c' → c'.Splits a b →
        op.accepts (compare a.value c'.value) = op.accepts .eq) ↔
          op.accepts (compare a.value c.value) = op.accepts .eq :=
      ⟨fun h => h c rfl hc, fun h c' hc' _ => Value.number.inj hc' ▸ h⟩
    rw [hignores, Value.compare?, Value.compare?]
    -- one width gives the true order and the other gives equality
    rcases hc.compare?_cases (Number.isNaN_of_value_eq ha) (Number.isNaN_of_value_eq hb)
      (ha.trans hb.symm) with ⟨hac, hbc⟩ | ⟨hac, hbc⟩
    · rw [hac, hbc, Option.any_some, Option.any_some]
    · rw [hac, hbc, Option.any_some, Option.any_some, eq_comm]
  · rw [Value.compare?_number_congr (compare?_congr ha hb hsplits)]
    exact iff_of_true rfl fun c hc hcsplits => absurd ⟨c, hc, hcsplits⟩ hsplits

/-- An equality test shows the widths of two numbers exactly if its operand splits them. -/
lemma holds_equal_eq_iff (operand : Value) :
    (equal operand).holds (some (.number a)) = (equal operand).holds (some (.number b)) ↔
      (equal operand).IgnoresWidth a b := by
  rw [holds, holds, Option.any_some, Option.any_some, IgnoresWidth]
  constructor
  · rintro heq ⟨c, rfl, hc⟩
    -- split numbers are compared exactly in one width, where they differ from the operand
    have hne : compare a.value c.value ≠ .eq := fun h => hc.value_ne (compare_eq_iff_eq.1 h)
    rw [Value.equal, Value.equal] at heq
    rcases hc.compare?_cases (Number.isNaN_of_value_eq ha) (Number.isNaN_of_value_eq hb)
      (ha.trans hb.symm) with ⟨hac, hbc⟩ | ⟨hac, hbc⟩
    · rw [hac, hbc] at heq
      simp [hne] at heq
    · rw [hac, hbc] at heq
      simp [hne] at heq
  · exact fun h => Value.equal_number_congr (compare?_congr ha hb h)

lemma memberOf_congr {candidates : List Value}
    (h : ∀ candidate ∈ candidates, ¬ candidate.Splits a b) :
    (Value.number a).memberOf candidates = (Value.number b).memberOf candidates := by
  rw [Bool.eq_iff_iff]
  simp only [Value.memberOf, List.any_eq_true]
  refine exists_congr fun candidate => and_congr_right fun hmem => ?_
  rw [Value.equal_comm candidate, Value.equal_comm candidate,
    Value.equal_number_congr (compare?_congr ha hb (h candidate hmem))]

lemma compareInstant?_congr (hq : q ≤ Int64.maxValue.toInt) (bound : Option Instant) :
    (Value.number a).compareInstant? bound = (Value.number b).compareInstant? bound := by
  rw [Value.compareInstant?, Value.compareInstant?, Value.toInstant?, Value.toInstant?,
    Number.toMillis?_eq_of_value_eq ha hb hq]

omit hb in
/-- Nothing beyond the range of the milliseconds is before an instant. -/
lemma dateBefore_of_lt (hq : Int64.maxValue.toInt < q) (bound : Option Instant) :
    (dateBefore bound).holds (some (.number a)) = false := by
  rw [holds, Option.bind_some, Value.compareInstant?, Value.toInstant?]
  -- beyond the range there is no instant, or the last one
  rcases Number.toMillis?_of_lt ha hq with hnone | hlast
  · rw [hnone]
    rfl
  · rw [hlast]
    cases bound with
    | none => rfl
    | some bound =>
      have hle : bound.millis.toInt ≤ Int64.maxValue.toInt := bound.millis.toInt_le
      have hcompare : Instant.compare ⟨Int64.maxValue⟩ bound ≠ .lt := by
        rw [Instant.compare, ne_eq, compare_lt_iff_lt]
        exact not_lt.2 hle
      simpa using hcompare

lemma dateBefore_congr (bound : Option Instant) :
    (dateBefore bound).holds (some (.number a)) = (dateBefore bound).holds (some (.number b)) := by
  rcases le_or_gt q Int64.maxValue.toInt with hle | hlt
  · rw [holds, holds, Option.bind_some, Option.bind_some, compareInstant?_congr ha hb hle]
  · rw [dateBefore_of_lt ha hlt, dateBefore_of_lt hb hlt]

lemma holds_congr {test : Test} (h : test.IgnoresWidth a b) :
    test.holds (some (.number a)) = test.holds (some (.number b)) := by
  cases test with
  | ordered op operand => exact (holds_ordered_eq_iff ha hb op operand).2 h
  | equal operand | notEqual operand =>
    rw [holds, holds, Option.any_some, Option.any_some,
      Value.equal_number_congr (compare?_congr ha hb h)]
  | dateBefore bound => exact dateBefore_congr ha hb bound
  | dateAfter bound =>
    have hle : q ≤ Int64.maxValue.toInt := by rwa [IgnoresWidth, ha, ofRat_le_ofRat] at h
    rw [holds, holds, Option.bind_some, Option.bind_some, compareInstant?_congr ha hb hle]
  | oneOf candidates | notOneOf candidates =>
    rw [holds, holds, Option.any_some, Option.any_some, memberOf_congr ha hb h]
  | contains needles | notContains needles => rfl
  | «matches» pattern =>
    have htext := (Number.toText_eq_toText_iff ha hb).2 h
    rw [holds, holds, Option.bind_some, Option.bind_some, Value.toText?, Value.toText?, htext]

/-- Below `2 ^ 53`, only a pattern can tell the widths apart. -/
lemma ignoresWidth_of_abs_lt (hq : |q| < 2 ^ 53) {test : Test}
    (hzero : ∀ pattern, test = .matches pattern →
      (a = Number.negativeZero ↔ b = Number.negativeZero)) : test.IgnoresWidth a b := by
  have hsplits (operand : Value) : ¬ operand.Splits a b := by
    rintro ⟨c, -, hc⟩
    exact Number.not_splits_of_abs_lt ha hq hc
  cases test with
  | ordered op operand => exact fun c hc hcsplits => absurd ⟨c, hc, hcsplits⟩ (hsplits operand)
  | equal operand | notEqual operand => exact hsplits operand
  | oneOf candidates | notOneOf candidates => exact fun candidate _ => hsplits candidate
  | dateBefore bound | contains needles | notContains needles => trivial
  | dateAfter bound =>
    rw [IgnoresWidth, ha, ofRat_le_ofRat]
    have hlast : (2 ^ 53 : ℚ) ≤ Int64.maxValue.toInt := by decide +kernel
    exact (le_abs_self q).trans (hq.le.trans hlast)
  | «matches» pattern =>
    exact (Number.toText_eq_toText_iff ha hb).1
      (Number.toText_eq_of_abs_lt ha hb hq (hzero pattern rfl))

end

/-- Numbers that stand for the same pass the same tests, except for those in which their widths
show. Below `2 ^ 53` only a pattern can show them, and only for the negative zero. Anywhere, a test
by comparison shows them only if an operand is a number of the width of just one of them that stands
for something else and is rounded to the same; an equality test with such an operand does show them,
and an ordering test does if the operator tells the true order from equality. A pattern shows them
only in different texts, which the numbers have exactly if they are different and one of the texts
is not plain. A test for a later instant shows them only beyond the range of the milliseconds, and
the other tests never do. -/
theorem holds_of_value_eq (a b : Number) (q : ℚ) (ha : a.value = ofRat q) (hb : b.value = ofRat q) :
    (∀ test : Test, |q| < 2 ^ 53 →
      (∀ pattern, test = .matches pattern →
        (a = Number.negativeZero ↔ b = Number.negativeZero)) →
          test.holds (some (.number a)) = test.holds (some (.number b))) ∧
    (∀ test : Test, test.IgnoresWidth a b →
      test.holds (some (.number a)) = test.holds (some (.number b))) ∧
    (∀ operand : Value,
      ((equal operand).holds (some (.number a)) = (equal operand).holds (some (.number b)) ↔
        (equal operand).IgnoresWidth a b) ∧
      ∀ op : Operator,
        (ordered op operand).holds (some (.number a)) =
            (ordered op operand).holds (some (.number b)) ↔
          (ordered op operand).IgnoresWidth a b) ∧
    (a.toText = b.toText ↔ a = b ∨ a.HasPlainText ∧ b.HasPlainText) := by
  refine ⟨fun test hq hzero => ?_, fun test => holds_congr ha hb, fun operand => ?_,
    Number.toText_eq_toText_iff ha hb⟩
  · exact holds_congr ha hb (ignoresWidth_of_abs_lt ha hb hq hzero)
  · exact ⟨holds_equal_eq_iff ha hb operand, fun op => holds_ordered_eq_iff ha hb op operand⟩

theorem holds_of_value_eq_stored :
    let a : Number := .signed (-3)
    let b : Number := .double (.ofInt (-3))
    let candidates : List Value := [.number (.unsigned 3), .number (.double (.ofInt (-3)))]
    let wide : Number := .unsigned 1152921504606846976
    let image : Number := .double (.ofInt 1152921504606846976)
    let bound : Option Instant := some ⟨0⟩
    (oneOf candidates).holds (some (.number a)) = (oneOf candidates).holds (some (.number b)) ∧
      (dateAfter bound).holds (some (.number wide)) =
        (dateAfter bound).holds (some (.number image)) := by
  intro a b candidates wide image bound
  have ha : a.value = ofRat (-3) := ofRat_inj.2 (by decide +kernel)
  have hb : b.value = ofRat (-3) := by
    exact_mod_cast Double.value_ofInt (n := -3) (m := 3) (k := 0) rfl (by decide) (by decide)
  have hwide : wide.value = ofRat 1152921504606846976 := ofRat_inj.2 (by decide +kernel)
  have himage : image.value = ofRat 1152921504606846976 := by
    exact_mod_cast Double.value_ofInt (n := 1152921504606846976) (m := 1) (k := 60) (by decide)
      (by decide) (by decide)
  constructor
  · refine (holds_of_value_eq a b (-3) ha hb).1 (oneOf candidates) (by decide +kernel) ?_
    intro pattern hpattern
    cases hpattern
  · refine (holds_of_value_eq wide image 1152921504606846976 hwide himage).2.1 (dateAfter bound) ?_
    rw [IgnoresWidth, hwide, ofRat_le_ofRat]
    decide +kernel

/-- Beyond `2 ^ 53`, a neighbour that an integer is rounded to is equal to it in one width and not
in the other; and of the two zeros, one is written with a sign. -/
theorem widths_show :
    let wide : Number := .unsigned 9007199254740993
    let narrow : Number := .signed 9007199254740993
    let neighbour : Value := .number (.signed 9007199254740992)
    let minus : Pattern := ⟨"-", .atom (.chars (.single '-'))⟩
    (wide.value = ofRat 9007199254740993 ∧ narrow.value = ofRat 9007199254740993 ∧
      (equal neighbour).holds (some (.number wide)) = true ∧
      (equal neighbour).holds (some (.number narrow)) = false) ∧
    (Number.negativeZero.value = ofRat 0 ∧ (Number.unsigned 0).value = ofRat 0 ∧
      Pattern.parse? "-" = some minus ∧
      (Test.matches minus).holds (some (.number .negativeZero)) = true ∧
      (Test.matches minus).holds (some (.number (.unsigned 0))) = false) := by
  intro wide narrow neighbour minus
  have hwide : wide.value = ofRat 9007199254740993 := ofRat_inj.2 (by decide +kernel)
  have hnarrow : narrow.value = ofRat 9007199254740993 := ofRat_inj.2 (by decide +kernel)
  have hnegative : Number.negativeZero.value = ofRat 0 := Double.value_zero true
  have hzero : (Number.unsigned 0).value = ofRat 0 := ofRat_inj.2 (by decide +kernel)
  have hparse : Pattern.parse? "-" = some minus := by cbv
  refine ⟨⟨hwide, hnarrow, by decide +kernel, by decide +kernel⟩, hnegative, hzero, hparse, ?_, ?_⟩
  · decide +kernel
  · decide +kernel

end Test

end Criteria
