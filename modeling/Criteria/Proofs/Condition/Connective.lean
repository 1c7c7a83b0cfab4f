import Criteria.Proofs.Condition.Lenient

/-!
# Laws of connectives

A connective is written over conditions, or over operators of one field. The second compiles to what
the first compiles to when each of its branches is about that field (`compile_over_operators`).

What a connective or a negative operator denies is said by another condition. Of the two, every item
matches exactly one, however malformed their operand is (`matchesCondition_negation`).
-/

namespace Criteria

/-! ### Conditions with one key -/

/-- The record with one field. -/
def Value.single (key : String) (v : Value) : Value := .record (.single key v)

/-- The condition that joins branches. -/
def Connective.over (connective : Connective) (branches : List Value) : Value :=
  .single connective.key (.sequence branches)

/-- The condition that one operator puts on one field. -/
def Operator.on (op : Operator) (field : String) (operand : Value) : Value :=
  .single field (.single op.key operand)

lemma hasOperator_single {key : String} (h : Operator.isKey key = true) (v : Value) :
    hasOperator (.single key v) = true := by
  simp [hasOperator, SortedMap.single, SortedMap.keys, h]

lemma Operator.isKey_key (op : Operator) : isKey op.key = true := by
  rw [isKey, ofKey?_key, Option.isSome_some]

lemma Connective.isKey_key (connective : Connective) : Operator.isKey connective.key = true := by
  cases connective <;> decide

namespace Mode

variable (mode : Mode)

/-- After the last key there is nothing to add to the predicates, and no fault to find. -/
lemma bind_append_nil (compiled : Compiled) :
    (do let ps ← compiled; let others ← (.ok [] : Compiled); return ps ++ others) = compiled := by
  cases compiled with
  | error fault => rfl
  | ok ps => exact congrArg Except.ok (List.append_nil ps)

lemma compileOperators_single (field key : String) (operand : Value) :
    mode.compileOperators field (.single key operand) =
      mode.compileOperator field key operand := by
  rw [SortedMap.single, compileOperators, compileOperators]
  exact bind_append_nil _

lemma compileFields_single (key : String) (v : Value) :
    mode.compileFields (.single key v) = mode.compileEntry key v := by
  rw [SortedMap.single, compileFields, compileFields]
  exact bind_append_nil _

/-! ### One field in every branch -/

/-- Branches of operators compile like branches that each put these operators on the field, index by
index. -/
lemma compileOperatorBranches_eq_compileBranches {field : String}
    (hfield : Connective.ofKey? field = none) (connective : Connective) (index : Nat)
    {sets : List Record} (hsets : ∀ operators ∈ sets, hasOperator operators = true) :
    mode.compileOperatorBranches field connective index (sets.map .record) =
      mode.compileBranches connective index
        (sets.map fun operators => .single field (.record operators)) := by
  -- at each index, as faults in branches carry it
  induction sets generalizing index with
  | nil => rw [List.map_nil, List.map_nil, compileOperatorBranches, compileBranches]
  | cons operators sets ih =>
    rw [List.forall_mem_cons] at hsets
    rw [List.map_cons, List.map_cons, Value.single, compileOperatorBranches, compileBranches,
      compileFields_single, compileEntry_operators hfield hsets.1, ih (index + 1) hsets.2]

/-- A connective over sets of operators of one field compiles to the same predicates, or stops at
the same fault, as the connective over conditions that each put one of the sets on the field. -/
theorem compile_over_operators (mode : Mode) {field : String}
    (hfield : Connective.ofKey? field = none) (connective : Connective) {sets : List Record}
    (hsets : ∀ operators ∈ sets, hasOperator operators = true) :
    mode.compile (some (.single field (connective.over (sets.map .record)))) =
      mode.compile (some (connective.over
        (sets.map fun operators => .single field (.record operators)))) := by
  obtain ⟨op, hkey, hop⟩ := connective.exists_operator
  have hoperators : hasOperator (.single connective.key (.sequence (sets.map .record))) = true :=
    hasOperator_single connective.isKey_key _
  calc
    _ = mode.compileOperator field connective.key (.sequence (sets.map .record)) := by
      rw [Value.single, compile, compileFields_single, Connective.over, Value.single,
        compileEntry_operators hfield hoperators, compileOperators_single]
    _ = (mode.compileOperatorBranches field connective 0 (sets.map .record)).map
          fun branches => [.logical connective branches] :=
      compileOperator_branches hkey hop _
    _ = (mode.compileBranches connective 0
          (sets.map fun operators => .single field (.record operators))).map
          fun branches => [.logical connective branches] := by
      rw [compileOperatorBranches_eq_compileBranches mode hfield connective 0 hsets]
    _ = _ := by
      rw [Connective.over, Value.single, compile, compileFields_single,
        compileEntry_branches (Connective.ofKey?_key connective)]

theorem compile_over_operators_fault :
    let sets : List Record :=
      [.ofList [("$less", .number (.signed 65)), ("note", .null)],
        .ofList [("$or", .sequence [.null]), ("$unlike", .null)]]
    let conditions := sets.map fun operators => Value.single "age" (.record operators)
    Connective.ofKey? "age" = none ∧ (∀ operators ∈ sets, hasOperator operators = true) ∧
      strict.compile (some (.single "age" (Connective.none.over (sets.map .record)))) =
        .error (.invalidBranch .any 0 .null) ∧
      strict.compile (some (Connective.none.over conditions)) =
        .error (.invalidBranch .any 0 .null) := by
  intro sets conditions
  have hage : Connective.ofKey? "age" = none := by decide
  have hsets : ∀ operators ∈ sets, hasOperator operators = true := by decide
  have hfault : strict.compile (some (Connective.none.over conditions)) =
      .error (.invalidBranch .any 0 .null) := by rfl
  exact ⟨hage, hsets, (compile_over_operators strict hage .none hsets).trans hfault, hfault⟩

end Mode

/-! ### Denied tests -/

/-- The operator that a negative operator denies. -/
def Operator.denies? : Operator → Option Operator
  | .not => some .equal
  | .notOneOf => some .oneOf
  | .notContains => some .contains
  | _ => Option.none

lemma Operator.relates_of_denies? {op denied : Operator} (h : op.denies? = some denied)
    (actual : Option Value) (operand : Value) :
    op.relates actual operand = !denied.relates actual operand := by
  cases op <;> cases h <;> rfl

/-- An absent field passes the negative operators and no others. -/
lemma Operator.relates_none (op : Operator) (operand : Value) :
    op.relates .none operand = op.denies?.isSome := by
  cases op <;> rfl

lemma Operator.connective?_of_denies? {op denied : Operator} (h : op.denies? = some denied) :
    op.connective? = .none ∧ denied.connective? = .none := by
  cases op <;> cases h <;> exact ⟨rfl, rfl⟩

lemma Connective.holds_none (branches : List Bool) :
    Connective.none.holds branches = !Connective.any.holds branches :=
  List.not_any_eq_all_not.symm

section

variable {α : Type} [Document α] {field : String} (item : α)

lemma matchesCondition_single (key : String) (v : Value) :
    matchesCondition item (.single key v) =
      Meaning.ofEntry (Document.field? item) key v := by
  rw [matchesCondition, Filter.holds_ofCondition, Value.single, Meaning.ofCondition,
    SortedMap.single, Meaning.ofEntries, Meaning.ofEntries, Bool.and_true]

lemma matchesCondition_over (connective : Connective) (branches : List Value) :
    matchesCondition item (connective.over branches) =
      connective.holds (Meaning.ofBranches (Document.field? item) branches) := by
  rw [Connective.over, matchesCondition_single,
    Meaning.ofEntry_branches (Connective.ofKey?_key connective)]

lemma matchesCondition_over_singleton (connective : Connective) (condition : Value) :
    matchesCondition item (connective.over [condition]) =
      connective.holds [matchesCondition item condition] := by
  rw [matchesCondition_over, Meaning.ofBranches, Meaning.ofBranches, matchesCondition,
    Filter.holds_ofCondition]

lemma matchesCondition_on (hfield : Connective.ofKey? field = none) (op : Operator)
    (operand : Value) :
    matchesCondition item (op.on field operand) =
      Meaning.ofOperator (Document.field? item field) op.key operand := by
  have hop : hasOperator (.single op.key operand) = true := hasOperator_single op.isKey_key operand
  rw [Operator.on, matchesCondition_single, Value.single, Meaning.ofEntry_operators hfield hop,
    SortedMap.single, Meaning.ofOperators, Meaning.ofOperators, Bool.and_true]

lemma matchesCondition_on_of_denies? (hfield : Connective.ofKey? field = none)
    {op denied : Operator} (h : op.denies? = some denied) (operand : Value) :
    matchesCondition item (op.on field operand) =
      !matchesCondition item (denied.on field operand) := by
  obtain ⟨hop, hdenied⟩ := Operator.connective?_of_denies? h
  rw [matchesCondition_on item hfield, matchesCondition_on item hfield,
    Meaning.ofOperator_test (Operator.ofKey?_key op) hop,
    Meaning.ofOperator_test (Operator.ofKey?_key denied) hdenied, Operator.relates_of_denies? h]

lemma matchesCondition_on_none (hfield : Connective.ofKey? field = none)
    (branches : List Value) :
    matchesCondition item (Operator.none.on field (.sequence branches)) =
      !matchesCondition item (Operator.any.on field (.sequence branches)) := by
  rw [matchesCondition_on item hfield, matchesCondition_on item hfield,
    Meaning.ofOperator_branches (Operator.ofKey?_key .none) rfl,
    Meaning.ofOperator_branches (Operator.ofKey?_key .any) rfl, Connective.holds_none]

end

/-- Negation of conditions, whatever they look like: the denial of one condition matches the items
that it does not match, alone in a conjunction or disjunction it says what it says by itself, and of
a disjunction and its denial, on the item or on one field, just one matches. Just one of a negative
operator and the operator that it denies matches, also where the field is null or absent. -/
theorem matchesCondition_negation {α : Type} [Document α] (item : α) :
    (∀ condition,
      matchesCondition item (Connective.none.over [condition]) =
          !matchesCondition item condition ∧
        matchesCondition item (Connective.any.over [condition]) =
          matchesCondition item condition ∧
        matchesCondition item (Connective.all.over [condition]) =
          matchesCondition item condition) ∧
    (∀ branches, matchesCondition item (Connective.none.over branches) =
      !matchesCondition item (Connective.any.over branches)) ∧
    ∀ field, Connective.ofKey? field = none →
      (∀ operand,
        matchesCondition item (Operator.not.on field operand) =
            !matchesCondition item (Operator.equal.on field operand) ∧
          matchesCondition item (Operator.notOneOf.on field operand) =
            !matchesCondition item (Operator.oneOf.on field operand) ∧
          matchesCondition item (Operator.notContains.on field operand) =
            !matchesCondition item (Operator.contains.on field operand)) ∧
      ∀ branches, matchesCondition item (Operator.none.on field (.sequence branches)) =
        !matchesCondition item (Operator.any.on field (.sequence branches)) := by
  refine ⟨fun condition => ?_, fun branches => ?_, fun field hfield => ⟨fun operand => ?_, ?_⟩⟩
  · simp [matchesCondition_over_singleton, Connective.holds]
  · rw [matchesCondition_over, matchesCondition_over, Connective.holds_none]
  · -- three pairs of operators, each with its own denial
    have hdenial {op denied : Operator} (h : op.denies? = some denied) :=
      matchesCondition_on_of_denies? item hfield h operand
    exact ⟨hdenial rfl, hdenial rfl, hdenial rfl⟩
  · exact matchesCondition_on_none item hfield

theorem matchesCondition_negation_malformed :
    let item := Value.ofFields [("name", .null)]
    let branches : List Value :=
      [.null, .single "$equal" (.text "Ada"), .single Operator.matches.key (.number (.signed 1))]
    Connective.ofKey? "age" = none ∧
      matchesCondition item (Operator.none.on "age" (.sequence branches)) =
        !matchesCondition item (Operator.any.on "age" (.sequence branches)) := by
  intro item branches
  have hage : Connective.ofKey? "age" = none := by decide
  exact ⟨hage, ((matchesCondition_negation item).2.2 "age" hage).2 branches⟩

end Criteria
