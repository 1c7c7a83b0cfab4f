import Criteria.Proofs.Condition.Connective
import Criteria.Proofs.Value.Equality

/-!
# Operators over several operands

An operator over several operands says what a connective says over one operator for each of them:
membership is a disjunction of equality tests, its denial a conjunction of denied ones, and
containment a conjunction of containments of one needle each. A literal is an equality test
(`matchesCondition_desugared`).

Membership compares a candidate with the field and an equality test the field with its operand, so
the first two laws rest on the symmetry of deep equality.
-/

namespace Criteria

/-! ### Operand by operand -/

lemma Meaning.ofOperatorBranches_map_single {actual : Option Value} {test : Operator}
    (htest : test.connective? = none) (operands : List Value) :
    ofOperatorBranches actual (operands.map (.single test.key)) =
      operands.map (test.relates actual) := by
  induction operands with
  | nil => rw [List.map_nil, List.map_nil, ofOperatorBranches]
  | cons operand operands ih =>
    rw [List.map_cons, List.map_cons, Value.single, ofOperatorBranches, ih, SortedMap.single,
      ofOperators, ofOperators, Bool.and_true, ofOperator_test (Operator.ofKey?_key test) htest]

section

variable {α : Type} [Document α] (item : α) {field : String}
  (hfield : Connective.ofKey? field = none)

include hfield

lemma matchesCondition_on_test {test : Operator} (htest : test.connective? = none)
    (operand : Value) :
    matchesCondition item (test.on field operand) =
      test.relates (Document.field? item field) operand := by
  rw [matchesCondition_on item hfield, Meaning.ofOperator_test (Operator.ofKey?_key test) htest]

/-- A connective over one test for each operand. -/
lemma matchesCondition_on_each {op test : Operator} {connective : Connective}
    (hop : op.connective? = some connective) (htest : test.connective? = none)
    (operands : List Value) :
    matchesCondition item (op.on field (.sequence (operands.map (.single test.key)))) =
      connective.holds (operands.map (test.relates (Document.field? item field))) := by
  rw [matchesCondition_on item hfield, Meaning.ofOperator_branches (Operator.ofKey?_key op) hop,
    Meaning.ofOperatorBranches_map_single htest]

end

/-! ### Operators as connectives of tests -/

lemma Connective.holds_all_not {β : Type} (f : β → Bool) (xs : List β) :
    Connective.all.holds (xs.map fun x => !f x) = !Connective.any.holds (xs.map f) := by
  rw [holds, holds, List.all_map, List.any_map, List.not_any_eq_all_not]
  rfl

/-- Needles are looked for one by one; without a needle, it still matters what is searched. -/
lemma Value.containsAll_eq_all (v : Value) {needles : List Value} (h : needles ≠ []) :
    v.containsAll needles = needles.all fun needle => v.containsAll [needle] := by
  obtain ⟨needle, rest, rfl⟩ := List.exists_cons_of_ne_nil h
  cases v with
  | sequence items => simp [containsAll]
  | text s => simp [containsAll]
  -- what cannot be searched fails for the first needle already
  | _ => simp [containsAll]

namespace Operator

variable (actual : Option Value) (operands : List Value)

lemma relates_oneOf_sequence :
    oneOf.relates actual (.sequence operands) =
      Connective.any.holds (operands.map (equal.relates actual)) := by
  cases actual with
  | none => simp [relates, Connective.holds]
  | some v =>
    calc oneOf.relates (some v) (.sequence operands)
        = operands.any fun candidate => candidate.equal v := rfl
      _ = operands.any fun operand => v.equal operand := by simp only [Value.equal_comm v]
      _ = Connective.any.holds (operands.map (equal.relates (some v))) := by
          rw [Connective.holds, List.any_map]
          rfl

lemma relates_notOneOf_sequence :
    notOneOf.relates actual (.sequence operands) =
      Connective.all.holds (operands.map (not.relates actual)) := by
  calc notOneOf.relates actual (.sequence operands)
      = !oneOf.relates actual (.sequence operands) := rfl
    _ = !Connective.any.holds (operands.map (equal.relates actual)) := by
        rw [relates_oneOf_sequence]
    _ = Connective.all.holds (operands.map fun operand => !equal.relates actual operand) :=
        (Connective.holds_all_not _ _).symm

lemma relates_contains_sequence {operands : List Value} (h : operands ≠ []) :
    contains.relates actual (.sequence operands) =
      Connective.all.holds
        ((operands.map fun operand => .sequence [operand]).map (contains.relates actual)) := by
  cases actual with
  | none =>
    -- an absent field fails each test, and there is at least one
    obtain ⟨operand, rest, rfl⟩ := List.exists_cons_of_ne_nil h
    rfl
  | some v =>
    rw [List.map_map, Connective.holds, List.all_map]
    exact v.containsAll_eq_all h

end Operator

/-- An item matches a membership test exactly if it matches one of the equality tests of its
operands, and the denial of a membership test exactly if it matches all of the denied equality
tests; it contains several operands, of which there has to be one, exactly if it contains each of
them. A literal that is no record is matched exactly by what equals it. -/
theorem matchesCondition_desugared {α : Type} [Document α] (item : α) {field : String}
    (hfield : Connective.ofKey? field = none) :
    (∀ operands : List Value,
      matchesCondition item (Operator.oneOf.on field (.sequence operands)) =
        matchesCondition item
          (Operator.any.on field (.sequence (operands.map (.single Operator.equal.key))))) ∧
    (∀ operands : List Value,
      matchesCondition item (Operator.notOneOf.on field (.sequence operands)) =
        matchesCondition item
          (Operator.all.on field (.sequence (operands.map (.single Operator.not.key))))) ∧
    (∀ operands : List Value, operands ≠ [] →
      matchesCondition item (Operator.contains.on field (.sequence operands)) =
        matchesCondition item
          (Operator.all.on field (.sequence (operands.map fun operand =>
            .single Operator.contains.key (.sequence [operand]))))) ∧
    ∀ literal : Value, literal.isRecord = false →
      matchesCondition item (.single field literal) =
        matchesCondition item (Operator.equal.on field literal) := by
  refine ⟨fun operands => ?_, fun operands => ?_, fun operands hne => ?_, fun literal hrecord => ?_⟩
  · rw [matchesCondition_on_test item hfield rfl, matchesCondition_on_each item hfield rfl rfl,
      Operator.relates_oneOf_sequence]
  · rw [matchesCondition_on_test item hfield rfl, matchesCondition_on_each item hfield rfl rfl,
      Operator.relates_notOneOf_sequence]
  · have heach : (operands.map fun operand =>
        Value.single Operator.contains.key (.sequence [operand])) =
          (operands.map fun operand => .sequence [operand]).map
            (.single Operator.contains.key) := by
      rw [List.map_map]
      rfl
    rw [matchesCondition_on_test item hfield rfl, heach,
      matchesCondition_on_each item hfield rfl rfl, Operator.relates_contains_sequence _ hne]
  · have hliteral : literal.record? = none := by
      cases literal with
      | record fields => cases hrecord
      | _ => rfl
    rw [matchesCondition_on_test item hfield rfl, matchesCondition_single,
      Meaning.ofEntry_literal hfield hliteral]
    rfl

theorem matchesCondition_desugared_nested :
    let nested (age : Number) : Value := .ofFields [("ages", .sequence [.number age, .null])]
    let item := Value.ofFields [("user", nested (.signed 30)), ("note", .text "due in May")]
    let operands := [.number (.double .nan), nested (.double (.ofInt 30))]
    let needles : List Value := [.text "due", .text "May"]
    (Connective.ofKey? "user" = none ∧
      matchesCondition item (Operator.oneOf.on "user" (.sequence operands)) = true ∧
      matchesCondition item
        (Operator.any.on "user" (.sequence (operands.map (.single Operator.equal.key)))) = true) ∧
    (Connective.ofKey? "note" = none ∧ needles ≠ [] ∧
      matchesCondition item (Operator.contains.on "note" (.sequence needles)) =
        matchesCondition item (Operator.all.on "note" (.sequence (needles.map fun needle =>
          .single Operator.contains.key (.sequence [needle]))))) ∧
    (Value.text "due in May").isRecord = false ∧
      matchesCondition item (.single "note" (.text "due in May")) =
        matchesCondition item (Operator.equal.on "note" (.text "due in May")) := by
  intro nested item operands needles
  have huser : Connective.ofKey? "user" = none := by decide
  have hnote : Connective.ofKey? "note" = none := by decide
  have hne : needles ≠ [] := List.cons_ne_nil _ _
  have hin : matchesCondition item (Operator.oneOf.on "user" (.sequence operands)) = true := by
    decide +kernel
  refine ⟨⟨huser, hin, ?_⟩, ⟨hnote, hne, ?_⟩, rfl, ?_⟩
  · rw [← (matchesCondition_desugared item huser).1 operands, hin]
  · exact (matchesCondition_desugared item hnote).2.2.1 needles hne
  · exact (matchesCondition_desugared item hnote).2.2.2 (.text "due in May") rfl

end Criteria
