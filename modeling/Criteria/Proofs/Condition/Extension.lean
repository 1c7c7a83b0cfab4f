import Criteria.Proofs.Condition.Clause
import Mathlib.Data.List.Forall2
import Mathlib.Order.BooleanAlgebra.Defs

/-!
# Additional fields

A condition that denies nothing goes on matching when an item gets more fields
(`matchesCondition_of_subset`). An absent field passes none of its operators, so a field that turns
up can only help; what a nested condition says about the value of a field stays what it was.

The results of a condition are compared by the order of truth values, `false ≤ true`.
-/

namespace Criteria

/-! ### Items with more fields -/

/-- Every field that is present in the one place is present in the other, with the same value. -/
def Extends (larger fields : String → Option Value) : Prop :=
  ∀ name v, fields name = some v → larger name = some v

lemma Extends.absent_or_eq {larger fields : String → Option Value} (h : Extends larger fields)
    (name : String) : fields name = none ∨ larger name = fields name := by
  match hname : fields name with
  | none => exact .inl rfl
  | some v => exact .inr (h name v hname)

lemma Extends.any_le {larger fields : String → Option Value} (h : Extends larger fields)
    (name : String) (test : Value → Bool) :
    (fields name).any test ≤ (larger name).any test := by
  rcases h.absent_or_eq name with hname | hname
  · rw [hname, Option.any_none]
    exact Bool.false_le _
  · rw [hname]

/-! ### Connectives -/

/-- Only the connective that denies its branches can turn from true to false when branches turn from
false to true. -/
lemma Connective.holds_le {connective : Connective} (h : connective ≠ .none)
    {results others : List Bool} (hle : List.Forall₂ (· ≤ ·) results others) :
    connective.holds results ≤ connective.holds others := by
  induction hle with
  | nil => exact le_refl _
  | cons hresult _ ih =>
    cases connective with
    | none => exact absurd rfl h
    | all => exact inf_le_inf hresult ih
    | any => exact sup_le_sup hresult ih

lemma Clause.connective_ne_none {connective : Connective} {operand : Value}
    (h : (Clause.connective connective operand).isNegative = false) : connective ≠ .none := by
  rintro rfl
  cases h

/-! ### Operators of a field -/

namespace Meaning

mutual

lemma ofOperator_none_le (actual : Option Value) (key : String) (operand : Value)
    (h : ∀ clause ∈ Clauses.ofOperator key operand, clause.isNegative = false) :
    ofOperator none key operand ≤ ofOperator actual key operand := by
  cases OperatorForm.of key operand with
  | unknown hkey => rw [ofOperator_unknown hkey, ofOperator_unknown hkey]
  | test hkey hop =>
    rw [Clauses.ofOperator_test hkey hop, List.forall_mem_singleton] at h
    -- no operator but a negative one passes an absent field, so there is nothing to keep
    have habsent := (Operator.relates_none _ operand).trans h
    rw [ofOperator_test hkey hop, ofOperator_test hkey hop, habsent]
    exact Bool.false_le _
  | branches items hkey hop =>
    rw [Clauses.ofOperator_branches hkey hop, List.forall_mem_cons] at h
    rw [ofOperator_branches hkey hop, ofOperator_branches hkey hop]
    exact Connective.holds_le (Clause.connective_ne_none h.1)
      (ofOperatorBranches_none_le actual items h.2)
  | malformed hkey hop hoperand =>
    rw [ofOperator_malformed hkey hop hoperand, ofOperator_malformed hkey hop hoperand]
termination_by sizeOf operand

lemma ofOperatorBranches_none_le (actual : Option Value) (items : List Value)
    (h : ∀ clause ∈ Clauses.ofOperatorBranches items, clause.isNegative = false) :
    List.Forall₂ (· ≤ ·) (ofOperatorBranches none items) (ofOperatorBranches actual items) := by
  match items with
  | [] => exact .nil
  | v :: items =>
    cases OperatorBranchForm.of v with
    | operators operators =>
      rw [Clauses.ofOperatorBranches, List.forall_mem_cons, List.forall_mem_append] at h
      obtain ⟨-, hoperators, hrest⟩ := h
      rw [ofOperatorBranches, ofOperatorBranches]
      exact .cons (ofOperators_none_le actual operators hoperators)
        (ofOperatorBranches_none_le actual items hrest)
    | malformed hv =>
      rw [Clauses.ofOperatorBranches_malformed hv, List.forall_mem_cons] at h
      rw [ofOperatorBranches_malformed hv, ofOperatorBranches_malformed hv]
      exact .cons (le_refl _) (ofOperatorBranches_none_le actual items h.2)
termination_by sizeOf items

lemma ofOperators_none_le (actual : Option Value) {bound : Option String}
    (operators : SortedMap Value bound)
    (h : ∀ clause ∈ Clauses.ofOperators operators, clause.isNegative = false) :
    ofOperators none operators ≤ ofOperators actual operators := by
  match operators with
  | .nil => exact le_refl _
  | .cons key operand _ rest =>
    rw [Clauses.ofOperators, List.forall_mem_append] at h
    rw [ofOperators, ofOperators]
    exact inf_le_inf (ofOperator_none_le actual key operand h.1)
      (ofOperators_none_le actual rest h.2)
termination_by sizeOf operators

end

/-! ### Conditions -/

section

variable {larger fields : String → Option Value}

mutual

lemma ofCondition_le (hlarger : Extends larger fields) (condition : Value)
    (h : ∀ clause ∈ Clauses.ofCondition condition, clause.isNegative = false) :
    ofCondition fields condition ≤ ofCondition larger condition := by
  cases ConditionForm.of condition with
  | record conditions =>
    rw [Clauses.ofCondition] at h
    rw [ofCondition, ofCondition]
    exact ofEntries_le hlarger conditions h
  | null => rw [ofCondition, ofCondition]
  | malformed hrecord hnull =>
    rw [ofCondition_malformed hrecord hnull, ofCondition_malformed hrecord hnull]
termination_by sizeOf condition

lemma ofBranches_le (hlarger : Extends larger fields) (items : List Value)
    (h : ∀ clause ∈ Clauses.ofBranches items, clause.isNegative = false) :
    List.Forall₂ (· ≤ ·) (ofBranches fields items) (ofBranches larger items) := by
  match items with
  | [] => exact .nil
  | v :: items =>
    rw [Clauses.ofBranches, List.forall_mem_cons, List.forall_mem_append] at h
    obtain ⟨-, hcondition, hrest⟩ := h
    rw [ofBranches, ofBranches]
    exact .cons (ofCondition_le hlarger v hcondition) (ofBranches_le hlarger items hrest)
termination_by sizeOf items

lemma ofEntries_le (hlarger : Extends larger fields) {bound : Option String}
    (conditions : SortedMap Value bound)
    (h : ∀ clause ∈ Clauses.ofEntries conditions, clause.isNegative = false) :
    ofEntries fields conditions ≤ ofEntries larger conditions := by
  match conditions with
  | .nil => exact le_refl _
  | .cons key v _ rest =>
    rw [Clauses.ofEntries, List.forall_mem_append] at h
    rw [ofEntries, ofEntries]
    exact inf_le_inf (ofEntry_le hlarger key v h.1) (ofEntries_le hlarger rest h.2)
termination_by sizeOf conditions

/-- A nested condition and a literal look at the value of a field only, which stays the same, so
there is no restriction on what they say about it. -/
lemma ofEntry_le (hlarger : Extends larger fields) (key : String) (v : Value)
    (h : ∀ clause ∈ Clauses.ofEntry key v, clause.isNegative = false) :
    ofEntry fields key v ≤ ofEntry larger key v := by
  cases EntryForm.of key v with
  | branches items hkey =>
    rw [Clauses.ofEntry_branches hkey, List.forall_mem_cons] at h
    rw [ofEntry_branches hkey, ofEntry_branches hkey]
    exact Connective.holds_le (Clause.connective_ne_none h.1) (ofBranches_le hlarger items h.2)
  | malformed hkey hv => rw [ofEntry_malformed hkey hv, ofEntry_malformed hkey hv]
  | operators conditions hkey hop =>
    rw [Clauses.ofEntry_operators hkey hop] at h
    rw [ofEntry_operators hkey hop, ofEntry_operators hkey hop]
    -- the field has turned up, or its value is what it was
    rcases hlarger.absent_or_eq key with habsent | heq
    · rw [habsent]
      exact ofOperators_none_le (larger key) conditions h
    · rw [heq]
  | nested conditions hkey hop =>
    rw [ofEntry_nested hkey hop, ofEntry_nested hkey hop]
    exact hlarger.any_le key _
  | literal hkey hv =>
    rw [ofEntry_literal hkey hv, ofEntry_literal hkey hv]
    exact hlarger.any_le key _
termination_by sizeOf v

end

end

end Meaning

/-- Outside of nested conditions, a condition denies nothing. A record that has all the entries of
another one matches it if the other one does. -/
theorem matchesCondition_of_subset {record larger : Record}
    (hsubset : ∀ e ∈ record.toList, e ∈ larger.toList) {condition : Value}
    (hcondition : ∀ clause ∈ Clauses.ofCondition condition, clause.isNegative = false)
    (h : matchesCondition record condition = true) : matchesCondition larger condition = true := by
  have hlarger : Extends larger.find? record.find? := by
    intro name v hname
    exact (SortedMap.mem_toList_iff larger).1
      (hsubset (name, v) ((SortedMap.mem_toList_iff record).2 hname))
  rw [matchesCondition, Filter.holds_ofCondition] at h ⊢
  exact Bool.le_iff_imp.1 (Meaning.ofCondition_le hlarger condition hcondition) h

theorem matchesCondition_of_subset_nested :
    let record : Record := .single "user" (.single "age" (.number (.signed 30)))
    let larger : Record := .ofList [("age", .null), ("name", .text "Ada"),
      ("user", .single "age" (.number (.signed 30)))]
    let condition : Value := .record (.ofList [
      ("$or", .sequence [.number (.signed 1), .single "name" (.single "$greater" (.text "A")),
        .single "user" (.single "age" (.single "$not" .null))]),
      ("user", .single "name" (.single "$notIn" (.text "Ada")))])
    (∀ e ∈ record.toList, e ∈ larger.toList) ∧
      (∀ clause ∈ Clauses.ofCondition condition, clause.isNegative = false) ∧
      matchesCondition record condition = true ∧ matchesCondition larger condition = true := by
  intro record larger condition
  have hsubset : ∀ e ∈ record.toList, e ∈ larger.toList := by
    intro e he
    obtain rfl := List.mem_singleton.1 he
    exact (SortedMap.mem_toList_iff larger).2 (by rfl)
  have hcondition : ∀ clause ∈ Clauses.ofCondition condition, clause.isNegative = false := by
    decide
  have hrecord : matchesCondition record condition = true := by decide +kernel
  exact ⟨hsubset, hcondition, hrecord, matchesCondition_of_subset hsubset hcondition hrecord⟩

end Criteria
