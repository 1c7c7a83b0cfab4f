import Criteria.Proofs.Condition.Lenient
import Criteria.Proofs.Condition.Strict
import Criteria.Proofs.Number.Milliseconds

/-!
# Date tests of numbers

In a date test, a number stands for the instant of its milliseconds, as the value of a field and as
an operand. Different numbers can stand for one instant, as fractions are dropped and large numbers
are cut off, but their order is never turned around: a number that passes a test for an earlier
(later) instant is sorted in front of (behind) the operand (`milliseconds_monotone`).
-/

namespace Criteria

namespace Value

/-- A value is ordered against a bound if both are there as instants. -/
lemma compareInstant?_eq_some_iff {v : Value} {bound : Option Instant} {order : Ordering} :
    v.compareInstant? bound = some order ↔
      ∃ s t, v.toInstant? = some s ∧ bound = some t ∧ s.compare t = order := by
  simp only [compareInstant?, Option.bind_eq_bind, Option.bind_eq_some_iff, Option.pure_def,
    Option.some_inj]
  constructor
  · rintro ⟨s, hs, t, ht, hcompare⟩
    exact ⟨s, t, hs, ht, hcompare⟩
  · rintro ⟨s, t, hs, ht, hcompare⟩
    exact ⟨s, hs, t, ht, hcompare⟩

lemma toInstant?_number_iff {n : Number} {t : Instant} :
    (number n).toInstant? = some t ↔ n.toMillis? = some t.millis := by
  rw [toInstant?, Option.map_eq_some_iff]
  constructor
  · rintro ⟨millis, hmillis, rfl⟩
    exact hmillis
  · exact fun h => ⟨t.millis, h, rfl⟩

section

variable {m n : Number}

/-- What is read as an earlier instant is sorted in front. -/
lemma totalCompare_eq_lt_of_compareInstant?
    (h : (number m).compareInstant? (number n).toInstant? = some .lt) :
    m.totalCompare n = .lt := by
  obtain ⟨s, t, hs, ht, hlt⟩ := compareInstant?_eq_some_iff.1 h
  rw [Instant.compare, compare_lt_iff_lt, ← Int64.lt_iff_toInt_lt] at hlt
  exact Number.totalCompare_eq_lt_of_toMillis?_lt (toInstant?_number_iff.1 hs)
    (toInstant?_number_iff.1 ht) hlt

lemma totalCompare_eq_gt_of_compareInstant?
    (h : (number m).compareInstant? (number n).toInstant? = some .gt) :
    m.totalCompare n = .gt := by
  obtain ⟨s, t, hs, ht, hgt⟩ := compareInstant?_eq_some_iff.1 h
  have hlt : t.compare s = .lt := Std.OrientedCmp.gt_iff_lt.1 hgt
  -- an operand is read like a field, so the two can change places
  rw [Std.OrientedCmp.gt_iff_lt]
  exact totalCompare_eq_lt_of_compareInstant? (compareInstant?_eq_some_iff.2 ⟨t, s, ht, hs, hlt⟩)

end

end Value

/-- What the operator of a field compiles to, in either mode, holds for the items that the operator
means. -/
lemma Mode.allHoldOn_of_compileOperator {mode : Mode} {field key : String} {operand : Value}
    {ps : List Predicate} (h : mode.compileOperator field key operand = .ok ps)
    (fields : String → Option Value) :
    Predicate.allHoldOn fields ps = Meaning.ofOperator (fields field) key operand := by
  -- the modes differ in their faults only, and there is none
  have hlenient : lenient.compileOperator field key operand = .ok ps := by
    cases mode with
    | lenient => exact h
    | strict => exact (agree_compileOperator field key operand).lenient_eq_ok h
  obtain ⟨qs, hqs, hmeaning⟩ := yields_compileOperator field key operand
  rw [hlenient] at hqs
  cases hqs
  exact hmeaning fields

/-- Numbers that are sorted one behind the other, or tied, are read as milliseconds in that order,
whatever their widths. So in both modes, a field with a number that passes a test for an instant
before a number is sorted in front of it, and one that passes a test for an instant after a number
is sorted behind it. -/
theorem milliseconds_monotone :
    (∀ (a b : Number) (s t : Int64), a.toMillis? = some s → b.toMillis? = some t →
      a.totalCompare b ≠ .gt → s ≤ t) ∧
    ∀ (mode : Mode) (field : String) (fields : String → Option Value) (v n : Number)
      (ps : List Predicate), fields field = some (.number v) →
        Predicate.allHoldOn fields ps = true →
          (mode.compileOperator field Operator.dateBefore.key (.number n) = .ok ps →
            v.totalCompare n = .lt) ∧
          (mode.compileOperator field Operator.dateAfter.key (.number n) = .ok ps →
            v.totalCompare n = .gt) := by
  refine ⟨fun a b s t => Number.toMillis?_le, ?_⟩
  intro mode field fields v n ps hfield hholds
  constructor
  · intro hcompile
    rw [Mode.allHoldOn_of_compileOperator hcompile, hfield,
      Meaning.ofOperator_test (Operator.ofKey?_key .dateBefore) rfl, Operator.relates,
      Option.any_some, beq_iff_eq] at hholds
    exact Value.totalCompare_eq_lt_of_compareInstant? hholds
  · intro hcompile
    rw [Mode.allHoldOn_of_compileOperator hcompile, hfield,
      Meaning.ofOperator_test (Operator.ofKey?_key .dateAfter) rfl, Operator.relates,
      Option.any_some, beq_iff_eq] at hholds
    exact Value.totalCompare_eq_gt_of_compareInstant? hholds

theorem milliseconds_monotone_widths :
    let fraction : Number := .double (.ofRatio true 1 2)
    let zero : Number := .unsigned 0
    let wide : Number := .signed 9007199254740992
    let next : Number := .unsigned 9007199254740993
    let huge : Number := .double (.ofRatio false (10 ^ 300) 1)
    let item (due : Number) := (Value.ofFields [("due", .number due)]).get?
    let bound : Option Instant := some ⟨9007199254740993⟩
    let before : List Predicate := [.field "due" (.dateBefore bound)]
    let after : List Predicate := [.field "due" (.dateAfter bound)]
    (fraction.toMillis? = some 0 ∧ zero.toMillis? = some 0 ∧ fraction.totalCompare zero ≠ .gt ∧
      (0 : Int64) ≤ 0) ∧
    (item wide "due" = some (.number wide) ∧ Predicate.allHoldOn (item wide) before = true ∧
      Mode.strict.compileOperator "due" Operator.dateBefore.key (.number next) = .ok before ∧
      wide.toDouble = next.toDouble ∧ wide.totalCompare next = .lt) ∧
    (item huge "due" = some (.number huge) ∧ Predicate.allHoldOn (item huge) after = true ∧
      Mode.lenient.compileOperator "due" Operator.dateAfter.key (.number next) = .ok after ∧
      huge.toMillis? = some Int64.maxValue ∧ huge.totalCompare next = .gt) := by
  intro fraction zero wide next huge item bound before after
  obtain ⟨hmillis, htests⟩ := milliseconds_monotone
  have hfraction : fraction.toMillis? = some 0 := by decide +kernel
  have hzero : zero.toMillis? = some 0 := by decide +kernel
  have horder : fraction.totalCompare zero ≠ .gt := by decide +kernel
  have hwide : item wide "due" = some (.number wide) := rfl
  have hhuge : item huge "due" = some (.number huge) := rfl
  have hbefore : Predicate.allHoldOn (item wide) before = true := by decide +kernel
  have hafter : Predicate.allHoldOn (item huge) after = true := by decide +kernel
  have hstrict : Mode.strict.compileOperator "due" Operator.dateBefore.key (.number next) =
      .ok before := by rfl
  have hlenient : Mode.lenient.compileOperator "due" Operator.dateAfter.key (.number next) =
      .ok after := by rfl
  refine ⟨⟨hfraction, hzero, horder, hmillis fraction zero 0 0 hfraction hzero horder⟩,
    ⟨hwide, hbefore, hstrict, by decide +kernel, ?_⟩,
    ⟨hhuge, hafter, hlenient, by decide +kernel, ?_⟩⟩
  · exact (htests .strict "due" (item wide) wide next before hwide hbefore).1 hstrict
  · exact (htests .lenient "due" (item huge) huge next after hhuge hafter).2 hlenient

end Criteria
