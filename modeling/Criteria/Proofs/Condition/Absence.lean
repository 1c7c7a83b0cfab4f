import Criteria.Proofs.Condition.Clause

/-!
# Items without fields

No operator but a negative one lets an absent field through. So a condition in which nothing is
denied and nothing holds vacuously (`IsPositive`) matches no item without fields, as each of its
keys fails, and a condition that only denies (`IsDenial`) matches all of them; both are in
`matchesCondition_of_hasNoFields`.
-/

namespace Criteria

/-! ### Positive conditions -/

/-- A clause neither denies anything nor holds vacuously. -/
def Clause.IsPositive (clause : Clause) : Prop :=
  clause.isNegative = false ∧ clause.isVacuous = false

/-- A condition with at least one key, all of whose clauses are positive. -/
def IsPositive (conditions : Record) : Prop :=
  conditions.isEmpty = false ∧ ∀ clause ∈ Clauses.ofEntries conditions, clause.IsPositive

instance (clause : Clause) : Decidable clause.IsPositive :=
  inferInstanceAs (Decidable (clause.isNegative = false ∧ clause.isVacuous = false))

instance (conditions : Record) : Decidable (IsPositive conditions) :=
  inferInstanceAs (Decidable (conditions.isEmpty = false ∧
    ∀ clause ∈ Clauses.ofEntries conditions, clause.IsPositive))

lemma Connective.holds_replicate_false {connective : Connective} {items : List Value}
    (h : (Clause.connective connective (.sequence items)).IsPositive) :
    connective.holds (List.replicate items.length false) = false := by
  cases connective with
  | none => cases h.1
  | any => simp [holds]
  | all =>
    cases items with
    -- a conjunction of no branches would hold, but it is vacuous
    | nil => cases h.2
    | cons v items => rfl

namespace Meaning

mutual

lemma ofOperator_none_eq_false {key : String} (hkey : Operator.isKey key = true) (operand : Value)
    (h : ∀ clause ∈ Clauses.ofOperator key operand, clause.IsPositive) :
    ofOperator none key operand = false := by
  cases OperatorForm.of key operand with
  | unknown hunknown =>
    rw [Operator.isKey, hunknown] at hkey
    cases hkey
  | test hkey hop =>
    rw [Clauses.ofOperator_test hkey hop, List.forall_mem_singleton] at h
    rw [ofOperator_test hkey hop, Operator.relates_none]
    exact h.1
  | branches items hkey hop =>
    rw [Clauses.ofOperator_branches hkey hop, List.forall_mem_cons] at h
    rw [ofOperator_branches hkey hop, ofOperatorBranches_none_eq items h.2]
    exact Connective.holds_replicate_false h.1
  | malformed hkey hop hoperand => exact ofOperator_malformed hkey hop hoperand
termination_by sizeOf operand

lemma ofOperatorBranches_none_eq (items : List Value)
    (h : ∀ clause ∈ Clauses.ofOperatorBranches items, clause.IsPositive) :
    ofOperatorBranches none items = List.replicate items.length false := by
  match items with
  | [] => rfl
  | v :: items =>
    rw [List.length_cons, List.replicate_succ]
    cases OperatorBranchForm.of v with
    | operators operators =>
      rw [Clauses.ofOperatorBranches, List.forall_mem_cons, List.forall_mem_append] at h
      obtain ⟨hbranch, hoperators, hrest⟩ := h
      have hop : hasOperator operators = true := by simpa [Clause.isVacuous] using hbranch.2
      rw [ofOperatorBranches, ofOperators_none_eq_false operators hop hoperators,
        ofOperatorBranches_none_eq items hrest]
    | malformed hv =>
      rw [Clauses.ofOperatorBranches_malformed hv, List.forall_mem_cons] at h
      rw [ofOperatorBranches_malformed hv, ofOperatorBranches_none_eq items h.2]
termination_by sizeOf items

/-- One key of an operator is enough, as each of them fails. -/
lemma ofOperators_none_eq_false {bound : Option String} (operators : SortedMap Value bound)
    (hop : operators.keys.any Operator.isKey = true)
    (h : ∀ clause ∈ Clauses.ofOperators operators, clause.IsPositive) :
    ofOperators none operators = false := by
  match operators with
  | .nil => cases hop
  | .cons key operand _ rest =>
    rw [Clauses.ofOperators, List.forall_mem_append] at h
    rw [SortedMap.keys, SortedMap.toList_cons, List.map_cons, List.any_cons, Bool.or_eq_true] at hop
    rw [ofOperators, Bool.and_eq_false_iff]
    -- the operator may be the first key or a later one
    rcases hop with hkey | hrest
    · exact .inl (ofOperator_none_eq_false hkey operand h.1)
    · exact .inr (ofOperators_none_eq_false rest hrest h.2)
termination_by sizeOf operators

end

section

variable {fields : String → Option Value}

mutual

lemma ofEntry_absent_eq_false (hfields : ∀ name, fields name = none) (key : String) (v : Value)
    (h : ∀ clause ∈ Clauses.ofEntry key v, clause.IsPositive) : ofEntry fields key v = false := by
  cases EntryForm.of key v with
  | branches items hkey =>
    rw [Clauses.ofEntry_branches hkey, List.forall_mem_cons] at h
    rw [ofEntry_branches hkey, ofBranches_absent_eq hfields items h.2]
    exact Connective.holds_replicate_false h.1
  | malformed hkey hv => exact ofEntry_malformed hkey hv
  | operators conditions hkey hop =>
    rw [Clauses.ofEntry_operators hkey hop] at h
    rw [ofEntry_operators hkey hop, hfields]
    exact ofOperators_none_eq_false conditions hop h
  | nested conditions hkey hop => rw [ofEntry_nested hkey hop, hfields, Option.any_none]
  | literal hkey hv => rw [ofEntry_literal hkey hv, hfields, Option.any_none]
termination_by sizeOf v

lemma ofBranches_absent_eq (hfields : ∀ name, fields name = none) (items : List Value)
    (h : ∀ clause ∈ Clauses.ofBranches items, clause.IsPositive) :
    ofBranches fields items = List.replicate items.length false := by
  match items with
  | [] => rfl
  | v :: items =>
    rw [Clauses.ofBranches, List.forall_mem_cons, List.forall_mem_append] at h
    obtain ⟨hbranch, hcondition, hrest⟩ := h
    rw [ofBranches, ofBranches_absent_eq hfields items hrest, List.length_cons,
      List.replicate_succ]
    cases ConditionForm.of v with
    | record conditions =>
      -- without keys the branch would be vacuous
      have hne : conditions.isEmpty = false := by
        cases conditions with
        | nil => cases hbranch.2
        | cons key v hbelow rest => rfl
      rw [ofCondition, ofEntries_absent_eq_false hfields conditions hne hcondition]
    | null => cases hbranch.2
    | malformed hrecord hnull => rw [ofCondition_malformed hrecord hnull]
termination_by sizeOf items

lemma ofEntries_absent_eq_false (hfields : ∀ name, fields name = none) {bound : Option String}
    (conditions : SortedMap Value bound) (hne : conditions.isEmpty = false)
    (h : ∀ clause ∈ Clauses.ofEntries conditions, clause.IsPositive) :
    ofEntries fields conditions = false := by
  match conditions with
  | .nil => cases hne
  | .cons key v _ rest =>
    rw [Clauses.ofEntries, List.forall_mem_append] at h
    rw [ofEntries, ofEntry_absent_eq_false hfields key v h.1, Bool.false_and]
termination_by sizeOf conditions

end

end

end Meaning

/-! ### Denials -/

/-- Whether there are operators among the keys of a record, and only negative ones. -/
def deniesOnly (operators : Record) : Bool :=
  hasOperator operators &&
    operators.keys.all fun key => (Operator.ofKey? key).all fun op => op.denies?.isSome

/-- A condition that puts negative operators on fields, and nothing else. -/
def IsDenial (conditions : Record) : Prop :=
  ∀ e ∈ conditions.toList, Connective.ofKey? e.1 = none ∧ e.2.record?.any deniesOnly = true

instance (conditions : Record) : Decidable (IsDenial conditions) :=
  inferInstanceAs (Decidable (∀ e ∈ conditions.toList,
    Connective.ofKey? e.1 = none ∧ e.2.record?.any deniesOnly = true))

namespace Meaning

lemma ofOperator_none_of_denies {key : String}
    (h : (Operator.ofKey? key).all (fun op => op.denies?.isSome) = true) (operand : Value) :
    ofOperator none key operand = true := by
  match hkey : Operator.ofKey? key with
  | none => exact ofOperator_unknown hkey
  | some op =>
    rw [hkey, Option.all_some] at h
    obtain ⟨denied, hdenied⟩ := Option.isSome_iff_exists.1 h
    rw [ofOperator_test hkey (Operator.connective?_of_denies? hdenied).1, Operator.relates_none, h]

lemma ofOperators_none_of_deniesOnly {operators : Record} (h : deniesOnly operators = true) :
    ofOperators none operators = true := by
  rw [deniesOnly, Bool.and_eq_true, List.all_eq_true] at h
  rw [ofOperators_eq_all, List.all_eq_true]
  intro e he
  exact ofOperator_none_of_denies (h.2 e.1 (List.mem_map_of_mem he)) e.2

lemma ofEntries_absent_of_isDenial {fields : String → Option Value}
    (hfields : ∀ name, fields name = none) {conditions : Record} (h : IsDenial conditions) :
    ofEntries fields conditions = true := by
  rw [ofEntries_eq_all, List.all_eq_true]
  rintro ⟨key, v⟩ he
  obtain ⟨hkey, hv⟩ := h (key, v) he
  cases v with
  | record operators =>
    have hdenies : deniesOnly operators = true := hv
    have hop : hasOperator operators = true := by
      rw [deniesOnly, Bool.and_eq_true] at hdenies
      exact hdenies.1
    rw [ofEntry_operators hkey hop, hfields, ofOperators_none_of_deniesOnly hdenies]
  | _ => cases hv

end Meaning

/-! ### Items without fields -/

/-- An item has no fields. -/
def HasNoFields {α : Type} [Document α] (item : α) : Prop :=
  ∀ name, Document.field? item name = none

/-- The values without fields are those that are no records, and the empty record. -/
lemma Value.hasNoFields_iff (v : Value) :
    HasNoFields v ↔ v.record? = none ∨ v = .record .nil := by
  constructor
  · intro h
    match v with
    | .record .nil => exact .inr rfl
    | .record (.cons key value hbelow rest) =>
      have hkey : (Value.record (.cons key value hbelow rest)).get? key = none := h key
      simp at hkey
    | .null | .bool _ | .number _ | .text _ | .date _ | .sequence _ => exact .inl rfl
  · intro h name
    rcases h with h | rfl
    · cases v with
      | record fields => cases h
      | _ => rfl
    · rfl

/-- A positive condition matches no item without fields, and a denial matches all of them. -/
theorem matchesCondition_of_hasNoFields {α : Type} [Document α] {item : α}
    (hitem : HasNoFields item) (conditions : Record) :
    (IsPositive conditions → matchesCondition item (.record conditions) = false) ∧
      (IsDenial conditions → matchesCondition item (.record conditions) = true) := by
  rw [matchesCondition, Filter.holds_ofCondition, Meaning.ofCondition]
  constructor
  · rintro ⟨hne, hclauses⟩
    exact Meaning.ofEntries_absent_eq_false hitem conditions hne hclauses
  · intro hdenial
    exact Meaning.ofEntries_absent_of_isDenial hitem hdenial

theorem matchesCondition_of_hasNoFields_malformed :
    let item := Value.text "Ada"
    let positive : Record := .ofList [
      ("$or", .sequence [.number (.signed 1), .single "name"
        (.record (.ofList [("$or", .sequence [.null, .single "$match" (.text "(")]),
          ("note", .null)]))]),
      ("$and", .sequence [.single "user" (.single "age" (.single "$not" .null)), .bool true]),
      ("age", .single "$and" (.text "adult"))]
    let denial : Record := .ofList [
      ("age", .record (.ofList [("$not", .null), ("$notIn", .sequence []), ("note", .null)])),
      ("name", .single "$notContains" (.text "Ada"))]
    HasNoFields item ∧ IsPositive positive ∧ IsDenial denial ∧
      matchesCondition item (.record positive) = false ∧
      matchesCondition item (.record denial) = true := by
  intro item positive denial
  have hitem : HasNoFields item := (Value.hasNoFields_iff item).2 (.inl rfl)
  have hpositive : IsPositive positive := by decide
  have hdenial : IsDenial denial := by decide
  exact ⟨hitem, hpositive, hdenial, (matchesCondition_of_hasNoFields hitem positive).1 hpositive,
    (matchesCondition_of_hasNoFields hitem denial).2 hdenial⟩

end Criteria
