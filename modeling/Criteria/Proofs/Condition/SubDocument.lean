import Criteria.Proofs.Condition.Connective

/-!
# Nested conditions and records

A nested condition lets a field through if its value is not null and matches the nested condition.
That the value is a record is not asked for: any other value is matched like a record without
fields. So only records are let through exactly by those nested conditions that do not match the
record without fields (`matchesCondition_nested_iff`); one that only denies is not among them.
-/

namespace Criteria

/-- A value that is no record has the fields of the record without fields. -/
lemma Value.get?_of_isRecord_false {v : Value} (h : v.isRecord = false) :
    v.get? = (Value.record .nil).get? := by
  funext name
  cases v with
  | record fields => cases h
  | _ => rfl

lemma matchesCondition_of_isRecord_false {v : Value} (h : v.isRecord = false)
    (condition : Value) :
    matchesCondition v condition = matchesCondition (Value.record .nil) condition := by
  have hfields : Document.field? v = Document.field? (Value.record .nil) :=
    Value.get?_of_isRecord_false h
  rw [matchesCondition, matchesCondition, Filter.holds_ofCondition, Filter.holds_ofCondition,
    hfields]

section

variable {field : String} {sub : Record} {α : Type} [Document α]

lemma matchesCondition_nested (hfield : Connective.ofKey? field = none)
    (hsub : hasOperator sub = false) (item : α) :
    matchesCondition item (.single field (.record sub)) =
      (Document.field? item field).any fun v => !v.isNull && matchesCondition v (.record sub) := by
  have hvalue (v : Value) :
      matchesCondition v (.record sub) = Meaning.ofEntries v.get? sub := by
    rw [matchesCondition, Filter.holds_ofCondition, Meaning.ofCondition]
    rfl
  simp only [matchesCondition_single, Meaning.ofEntry_nested hfield hsub, hvalue]

/-- A value of a field that a nested condition lets through is a record, or the nested condition
matches the record without fields. -/
lemma isRecord_or_of_matchesCondition_nested (hfield : Connective.ofKey? field = none)
    (hsub : hasOperator sub = false) {item : α}
    (h : matchesCondition item (.single field (.record sub)) = true) :
    (Document.field? item field).any Value.isRecord = true ∨
      matchesCondition (Value.record .nil) (.record sub) = true := by
  rw [matchesCondition_nested hfield hsub, Option.any_eq_true] at h
  obtain ⟨v, hv, hmatch⟩ := h
  rw [Bool.and_eq_true] at hmatch
  cases hrecord : v.isRecord with
  | true =>
    left
    rw [hv, Option.any_some, hrecord]
  | false =>
    right
    rw [← matchesCondition_of_isRecord_false hrecord]
    exact hmatch.2

/-- A nested condition that matches the record without fields lets a truth value through. -/
lemma matchesCondition_nested_bool (hfield : Connective.ofKey? field = none)
    (hsub : hasOperator sub = false)
    (h : matchesCondition (Value.record .nil) (.record sub) = true) :
    matchesCondition (Value.single field (.bool true)) (.single field (.record sub)) = true := by
  have hvalue : Document.field? (Value.single field (.bool true)) field = some (.bool true) :=
    if_pos rfl
  rw [matchesCondition_nested hfield hsub, hvalue, Option.any_some,
    matchesCondition_of_isRecord_false rfl, h]
  rfl

end

/-- A record without operators among its keys is put on a field as a nested condition. An item
matches if the value of the field is not null and is a record that matches the nested condition, or
is no record while a record without fields would match it; so the field of a matching item always
holds a record exactly if the nested condition does not match the record without fields. -/
theorem matchesCondition_nested_iff {field : String} (hfield : Connective.ofKey? field = none)
    {sub : Record} (hsub : hasOperator sub = false) :
    (∀ (α : Type) [Document α] (item : α),
      matchesCondition item (.single field (.record sub)) = true ↔
        ∃ v, Document.field? item field = some v ∧ v.isNull = false ∧
          (v.isRecord = true ∧ matchesCondition v (.record sub) = true ∨
            v.isRecord = false ∧ matchesCondition (Value.record .nil) (.record sub) = true)) ∧
    ((∀ (α : Type) [Document α] (item : α),
        matchesCondition item (.single field (.record sub)) = true →
          (Document.field? item field).any Value.isRecord = true) ↔
      matchesCondition (Value.record .nil) (.record sub) = false) := by
  constructor
  · intro α _ item
    simp only [matchesCondition_nested hfield hsub, Option.any_eq_true, Bool.and_eq_true,
      Bool.not_eq_true']
    refine exists_congr fun v => and_congr_right fun _ => and_congr_right fun _ => ?_
    cases hrecord : v.isRecord with
    | true => simp
    | false => simp [matchesCondition_of_isRecord_false hrecord]
  · constructor
    · intro hrecords
      cases hnil : matchesCondition (Value.record .nil) (.record sub) with
      | false => rfl
      | true =>
        -- a truth value is let through as well, against the assumption
        have hrecord := hrecords Value _ (matchesCondition_nested_bool hfield hsub hnil)
        have hvalue : Document.field? (Value.single field (.bool true)) field =
            some (.bool true) := if_pos rfl
        rw [hvalue] at hrecord
        cases hrecord
    · intro hnil α _ item hmatch
      rcases isRecord_or_of_matchesCondition_nested hfield hsub hmatch with hrecord | hmatches
      · exact hrecord
      · rw [hnil] at hmatches
        cases hmatches

/-- A text passes for a record in which nothing is banned. -/
theorem matchesCondition_nested_text :
    let sub : Record := .single "banned" (.single "$not" (.bool true))
    let item := Value.single "user" (.text "Ada")
    hasOperator sub = false ∧ matchesCondition item (.single "user" (.record sub)) = true ∧
      (item.get? "user").any Value.isRecord = false := by
  decide +kernel

theorem matchesCondition_nested_denial_not_only_records :
    let denial : Record := .single "banned" (.single "$not" (.bool true))
    let sub : Record := .ofList [("banned", .single "$not" (.bool true)), ("name", .text "Ada")]
    (¬ ∀ (α : Type) [Document α] (item : α),
      matchesCondition item (.single "user" (.record denial)) = true →
        (Document.field? item "user").any Value.isRecord = true) ∧
    ∀ (α : Type) [Document α] (item : α),
      matchesCondition item (.single "user" (.record sub)) = true →
        (Document.field? item "user").any Value.isRecord = true := by
  intro denial sub
  have huser : Connective.ofKey? "user" = none := by decide
  constructor
  · have hop : hasOperator denial = false := by decide
    rw [(matchesCondition_nested_iff huser hop).2]
    decide +kernel
  · have hop : hasOperator sub = false := by decide
    rw [(matchesCondition_nested_iff huser hop).2]
    decide +kernel

end Criteria
