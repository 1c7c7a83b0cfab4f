import Criteria.Predicate
import Criteria.Proofs.Value.Consistency

/-!
# Ranges

A range is a lower and an upper bound that are tested apart from each other, each with a comparison
of its own. The strict comparison is transitive although numbers of one width are compared exactly
and numbers of different widths after rounding (`compare?_eq_lt_trans`), so a value strictly between
two bounds puts the bounds in order. The closed range from a bound to itself holds the values that
are comparable with the bound and equal to it (`ranges_sound`).
-/

namespace Criteria

namespace Value

variable {a b c : Value}

lemma compare?_eq_lt_trans (h : a.compare? b = some .lt) (h' : b.compare? c = some .lt) :
    a.compare? c = some .lt := by
  match a, b, c, kind_eq_of_compare? h, kind_eq_of_compare? h' with
  | .bool a, .bool b, .bool c, _, _ =>
    exact congrArg some (Std.TransCmp.lt_trans (Option.some.inj h) (Option.some.inj h'))
  | .number k, .number m, .number n, _, _ => exact Number.compare?_eq_lt_trans h h'
  | .text a, .text b, .text c, _, _ =>
    exact congrArg some (Std.TransCmp.lt_trans (Option.some.inj h) (Option.some.inj h'))
  | .date a, .date b, .date c, _, _ =>
    exact congrArg some (@Std.TransCmp.lt_trans _ Instant.compare _ _ _ _ (Option.some.inj h)
      (Option.some.inj h'))

end Value

namespace Test

/-- An ordering test holds for a value that is comparable with the operand, in an order that the
operator accepts. -/
lemma holds_ordered_iff {op : Operator} {operand : Value} {actual : Option Value} :
    (ordered op operand).holds actual = true ↔
      ∃ v, actual = some v ∧
        ∃ order, v.compare? operand = some order ∧ op.accepts order = true := by
  rw [holds, Option.any_eq_true]
  simp only [Option.bind_eq_some_iff]
  constructor
  · rintro ⟨order, ⟨v, hv, hcompare⟩, haccepts⟩
    exact ⟨v, hv, order, hcompare, haccepts⟩
  · rintro ⟨v, hv, order, hcompare, haccepts⟩
    exact ⟨order, ⟨v, hv, hcompare⟩, haccepts⟩

/-- A value strictly between two bounds puts them in order. -/
lemma compare?_eq_lt_of_between {lo hi : Value} {actual : Option Value}
    (hlo : (ordered .greater lo).holds actual = true)
    (hhi : (ordered .less hi).holds actual = true) : lo.compare? hi = some .lt := by
  obtain ⟨v, rfl, order, hgt, haccepts⟩ := holds_ordered_iff.1 hlo
  obtain ⟨w, hw, order', hlt, haccepts'⟩ := holds_ordered_iff.1 hhi
  cases hw
  obtain rfl : order = .gt := beq_iff_eq.1 haccepts
  obtain rfl : order' = .lt := beq_iff_eq.1 haccepts'
  have hbelow : lo.compare? v = some .lt := by
    rw [Value.compare?_swap, hgt]
    rfl
  exact Value.compare?_eq_lt_trans hbelow hlt

end Test

/-- Comparing two values the other way round gives the reverse, or nothing as before. If a value
lies strictly between two bounds, the bounds are in strict order, so nothing lies in a range whose
bounds are equal, reversed or not comparable. A value is neither below nor above a bound exactly if
it is comparable with the bound and equal to it. -/
theorem ranges_sound :
    (∀ lo hi : Value, hi.compare? lo = (lo.compare? hi).map Ordering.swap) ∧
    (∀ (lo hi : Value) (actual : Option Value),
      (Test.ordered .greater lo).holds actual = true →
        (Test.ordered .less hi).holds actual = true → lo.compare? hi = some .lt) ∧
    ∀ v bound : Value,
      ((Test.ordered .lessEqual bound).holds (some v) = true ∧
          (Test.ordered .greaterEqual bound).holds (some v) = true) ↔
        (v.compare? bound).isSome = true ∧ v.equal bound = true := by
  refine ⟨Value.compare?_swap, fun lo hi actual => Test.compare?_eq_lt_of_between, ?_⟩
  intro v bound
  cases horder : v.compare? bound with
  | none => simp [Test.holds, horder]
  | some order =>
    rw [Value.equal_iff_of_compare? horder]
    cases order <;> simp [Test.holds, horder, Operator.accepts]

theorem ranges_sound_widths :
    let lo := Value.number (.unsigned 9007199254740992)
    let v := Value.number (.signed 9007199254740994)
    let hi := Value.number (.double (.ofInt 9007199254740996))
    (Test.ordered .greater lo).holds (some v) = true ∧
      (Test.ordered .less hi).holds (some v) = true ∧ lo.compare? hi = some .lt := by
  intro lo v hi
  have hlo : (Test.ordered .greater lo).holds (some v) = true := by decide +kernel
  have hhi : (Test.ordered .less hi).holds (some v) = true := by decide +kernel
  exact ⟨hlo, hhi, ranges_sound.2.1 lo hi (some v) hlo hhi⟩

end Criteria
