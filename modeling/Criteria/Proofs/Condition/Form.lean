import Criteria.Condition.Compile
import Mathlib.Tactic.Lemma

/-!
# How conditions are read

A condition, a key of it, a key among the operators of a field and a branch of a connective are each
read in one of a few forms. The forms are listed here, with what compilation does in each of them,
so that a statement about all conditions is proved form by form.
-/

namespace Criteria

/-! ### Keys of connectives -/

/-- A connective is also an operator, under the same key. -/
lemma Connective.exists_operator (connective : Connective) :
    ∃ op, Operator.ofKey? connective.key = some op ∧ op.connective? = some connective := by
  cases connective with
  | all => exact ⟨.all, Operator.ofKey?_key .all, rfl⟩
  | any => exact ⟨.any, Operator.ofKey?_key .any, rfl⟩
  | none => exact ⟨.none, Operator.ofKey?_key .none, rfl⟩

/-! ### Operators of a field -/

/-- The forms of a key and its operand among the operators of a field. -/
inductive OperatorForm (key : String) : Value → Prop where
  /-- There is no operator under the key. -/
  | unknown {operand : Value} (hkey : Operator.ofKey? key = none) : OperatorForm key operand
  /-- An operator tests the field. -/
  | test {operand : Value} {op : Operator} (hkey : Operator.ofKey? key = some op)
      (hop : op.connective? = none) : OperatorForm key operand
  /-- A connective joins further operators. -/
  | branches {op : Operator} {connective : Connective} (items : List Value)
      (hkey : Operator.ofKey? key = some op) (hop : op.connective? = some connective) :
      OperatorForm key (.sequence items)
  /-- A connective stands before an operand that is no sequence. -/
  | malformed {operand : Value} {op : Operator} {connective : Connective}
      (hkey : Operator.ofKey? key = some op) (hop : op.connective? = some connective)
      (hoperand : operand.sequence? = none) : OperatorForm key operand

lemma OperatorForm.of (key : String) (operand : Value) : OperatorForm key operand := by
  match hkey : Operator.ofKey? key with
  | none => exact .unknown hkey
  | some op =>
    match hop : op.connective?, operand with
    | none, _ => exact .test hkey hop
    | some _, .sequence items => exact .branches items hkey hop
    | some _, .null | some _, .bool _ | some _, .number _ | some _, .text _ | some _, .date _
    | some _, .record _ => exact .malformed hkey hop rfl

/-- The forms of a branch of a connective over operators of a field. -/
inductive OperatorBranchForm : Value → Prop where
  | operators (fields : Record) : OperatorBranchForm (.record fields)
  | malformed {v : Value} (hv : v.record? = none) : OperatorBranchForm v

lemma OperatorBranchForm.of (v : Value) : OperatorBranchForm v := by
  match v with
  | .record fields => exact .operators fields
  | .null | .bool _ | .number _ | .text _ | .date _ | .sequence _ => exact .malformed rfl

namespace Mode

variable {mode : Mode} {field key : String} {operand : Value} {op : Operator}
  {connective : Connective}

lemma compileOperator_unknown (hkey : Operator.ofKey? key = none) :
    mode.compileOperator field key operand =
      if mode = .strict ∧ isMarked key then .error (.unknownOperator key) else .ok [] := by
  rw [compileOperator, hkey]

lemma compileOperator_test (hkey : Operator.ofKey? key = some op) (hop : op.connective? = none) :
    mode.compileOperator field key operand = (mode.compileTest field op operand).map ([·]) := by
  simp only [compileOperator, hkey, hop]

lemma compileOperator_branches (hkey : Operator.ofKey? key = some op)
    (hop : op.connective? = some connective) (items : List Value) :
    mode.compileOperator field key (.sequence items) =
      (mode.compileOperatorBranches field connective 0 items).map fun branches =>
        [.logical connective branches] := by
  simp only [compileOperator, hkey, hop]

lemma compileOperator_malformed (hkey : Operator.ofKey? key = some op)
    (hop : op.connective? = some connective) (hoperand : operand.sequence? = none) :
    mode.compileOperator field key operand =
      (mode.reject (.expectedSequence connective operand.kind)).map ([·]) := by
  cases operand with
  | sequence items => cases hoperand
  | _ => simp only [compileOperator, hkey, hop]

lemma compileOperatorBranches_malformed {v : Value} (hv : v.record? = none) (index : Nat)
    (items : List Value) :
    mode.compileOperatorBranches field connective index (v :: items) = (do
      let branch ← mode.reject (.invalidBranch connective index v.kind)
      let branches ← mode.compileOperatorBranches field connective (index + 1) items
      return [branch] :: branches) := by
  cases v with
  | record operators => cases hv
  | _ =>
    rw [compileOperatorBranches]
    intros
    contradiction

/-! ### Tests -/

/-- The operand of a pattern test spells a pattern. -/
lemma compileTest_matches {pattern : Pattern}
    (h : operand.text?.bind Pattern.parse? = some pattern) :
    mode.compileTest field .matches operand = .ok (.field field (.matches pattern)) := by
  cases operand with
  | text source =>
    have hparse : Pattern.parse? source = some pattern := h
    rw [compileTest]
    simp only [hparse]
  | _ => cases h

/-- The operand of a pattern test is no text, or spells no pattern. -/
lemma compileTest_not_matches (h : operand.text?.bind Pattern.parse? = none) :
    ∃ fault, ∀ mode : Mode, mode.compileTest field .matches operand = mode.reject fault := by
  cases operand with
  | text source =>
    have hparse : Pattern.parse? source = none := h
    refine ⟨@ConditionError.invalidPattern source, fun mode => ?_⟩
    rw [compileTest]
    simp only [hparse]
  | _ => exact ⟨.patternOperand _, fun _ => rfl⟩

end Mode

/-! ### Keys of a condition -/

/-- The forms of a key of a condition and its value. -/
inductive EntryForm (key : String) : Value → Prop where
  /-- A connective joins conditions. -/
  | branches {connective : Connective} (items : List Value)
      (hkey : Connective.ofKey? key = some connective) : EntryForm key (.sequence items)
  /-- A connective stands before a value that is no sequence. -/
  | malformed {v : Value} {connective : Connective}
      (hkey : Connective.ofKey? key = some connective) (hv : v.sequence? = none) : EntryForm key v
  /-- A field is tested by operators. -/
  | operators (fields : Record) (hkey : Connective.ofKey? key = none)
      (hop : hasOperator fields = true) : EntryForm key (.record fields)
  /-- A field has to match a condition of its own. -/
  | nested (fields : Record) (hkey : Connective.ofKey? key = none)
      (hop : hasOperator fields = false) : EntryForm key (.record fields)
  /-- A field has to equal a literal. -/
  | literal {v : Value} (hkey : Connective.ofKey? key = none) (hv : v.record? = none) :
      EntryForm key v

lemma EntryForm.of (key : String) (v : Value) : EntryForm key v := by
  match hkey : Connective.ofKey? key, v with
  | some _, .sequence items => exact .branches items hkey
  | some _, .null | some _, .bool _ | some _, .number _ | some _, .text _ | some _, .date _
  | some _, .record _ => exact .malformed hkey rfl
  | none, .record fields =>
    match hop : hasOperator fields with
    | true => exact .operators fields hkey hop
    | false => exact .nested fields hkey hop
  | none, .null | none, .bool _ | none, .number _ | none, .text _ | none, .date _
  | none, .sequence _ => exact .literal hkey rfl

/-- The forms of a condition, and of a branch of a connective over conditions. -/
inductive ConditionForm : Value → Prop where
  | record (fields : Record) : ConditionForm (.record fields)
  | null : ConditionForm .null
  | malformed {v : Value} (hrecord : v.record? = none) (hnull : v.isNull = false) :
      ConditionForm v

lemma ConditionForm.of (v : Value) : ConditionForm v := by
  match v with
  | .null => exact .null
  | .record fields => exact .record fields
  | .bool _ | .number _ | .text _ | .date _ | .sequence _ => exact .malformed rfl rfl

namespace Mode

variable {mode : Mode} {key : String} {v : Value} {connective : Connective} {fields : Record}

lemma compileEntry_branches (hkey : Connective.ofKey? key = some connective) (items : List Value) :
    mode.compileEntry key (.sequence items) =
      (mode.compileBranches connective 0 items).map fun branches =>
        [.logical connective branches] := by
  rw [compileEntry.eq_def, hkey]

lemma compileEntry_malformed (hkey : Connective.ofKey? key = some connective)
    (hv : v.sequence? = none) :
    mode.compileEntry key v = (mode.reject (.expectedSequence connective v.kind)).map ([·]) := by
  cases v with
  | sequence items => cases hv
  | _ => rw [compileEntry.eq_def, hkey]

lemma compileEntry_operators (hkey : Connective.ofKey? key = none)
    (hop : hasOperator fields = true) :
    mode.compileEntry key (.record fields) = mode.compileOperators key fields := by
  rw [compileEntry.eq_def, hkey]
  exact if_pos hop

lemma compileEntry_nested (hkey : Connective.ofKey? key = none)
    (hop : hasOperator fields = false) :
    mode.compileEntry key (.record fields) =
      (mode.compileFields fields).map fun predicates => [.nested key predicates] := by
  rw [compileEntry.eq_def, hkey]
  exact if_neg (ne_true_of_eq_false hop)

lemma compileEntry_literal (hkey : Connective.ofKey? key = none) (hv : v.record? = none) :
    mode.compileEntry key v = .ok [.literal key v] := by
  cases v with
  | record fields => cases hv
  | _ => rw [compileEntry.eq_def, hkey]

lemma compileBranches_malformed (hrecord : v.record? = none) (hnull : v.isNull = false)
    (index : Nat) (items : List Value) :
    mode.compileBranches connective index (v :: items) = (do
      let branch ← mode.reject (.invalidBranch connective index v.kind)
      let branches ← mode.compileBranches connective (index + 1) items
      return [branch] :: branches) := by
  cases v with
  | record fields => cases hrecord
  | null => cases hnull
  | _ => rw [compileBranches] <;> (intros; contradiction)

lemma compile_malformed (hrecord : v.record? = none) (hnull : v.isNull = false) :
    mode.compile (some v) = (mode.reject (.invalidCondition v.kind)).map ([·]) := by
  cases v with
  | record fields => cases hrecord
  | null => cases hnull
  | _ => rw [compile] <;> (intros; contradiction)

end Mode

end Criteria
