import Criteria.Proofs.Condition.Connective

/-!
# Clauses

What a condition says about the item itself is said in clauses: tests of its fields, connectives,
and the branches that these join, over conditions and over the operators of a field. What it says
about the values of fields, in nested conditions, is left out.

`Clauses.ofCondition` lists the clauses of a condition. A clause can deny something
(`Clause.isNegative`) or hold for want of anything to check (`Clause.isVacuous`).
-/

namespace Criteria

/-- A clause of a condition. -/
inductive Clause where
  /-- An operator tests a field. -/
  | test (op : Operator)
  /-- A connective joins the branches that are its operand. -/
  | connective (connective : Connective) (operand : Value)
  /-- A branch of a connective over conditions. -/
  | branch (v : Value)
  /-- A branch of a connective over operators of a field. -/
  | operatorBranch (v : Value)

namespace Clause

/-- Whether a clause denies something. -/
def isNegative : Clause → Bool
  | .test op => op.denies?.isSome
  | .connective c _ => c == .none
  | .branch _ | .operatorBranch _ => false

/-- Whether a clause holds for want of anything to check: a conjunction of no branches, a branch
without keys, or a branch without operators where operators are read. -/
def isVacuous : Clause → Bool
  | .connective .all (.sequence []) => true
  | .branch .null | .branch (.record .nil) => true
  | .operatorBranch (.record operators) => !hasOperator operators
  | _ => false

end Clause

namespace Clauses

mutual

/-- The clauses in one key among the operators of a field. -/
def ofOperator (key : String) (operand : Value) : List Clause :=
  match Operator.ofKey? key with
  | none => []
  | some op =>
    match op.connective?, operand with
    | none, _ => [.test op]
    | some connective, .sequence items =>
      .connective connective (.sequence items) :: ofOperatorBranches items
    | some connective, v => [.connective connective v]

/-- The clauses in the branches of a connective over operators of a field. -/
def ofOperatorBranches : List Value → List Clause
  | [] => []
  | .record operators :: items =>
    .operatorBranch (.record operators) :: (ofOperators operators ++ ofOperatorBranches items)
  | v :: items => .operatorBranch v :: ofOperatorBranches items

/-- The clauses in the operators of a field. -/
def ofOperators : {bound : Option String} → SortedMap Value bound → List Clause
  | _, .nil => []
  | _, .cons key operand _ rest => ofOperator key operand ++ ofOperators rest

end

mutual

/-- The clauses of a condition. -/
def ofCondition : Value → List Clause
  | .record conditions => ofEntries conditions
  | _ => []

/-- The clauses in the branches of a connective over conditions. -/
def ofBranches : List Value → List Clause
  | [] => []
  | branch :: branches => .branch branch :: (ofCondition branch ++ ofBranches branches)

/-- The clauses in the entries of a condition. -/
def ofEntries : {bound : Option String} → SortedMap Value bound → List Clause
  | _, .nil => []
  | _, .cons key v _ rest => ofEntry key v ++ ofEntries rest

/-- The clauses in one key of a condition. A literal and a nested condition have none. -/
def ofEntry (key : String) (v : Value) : List Clause :=
  match Connective.ofKey? key, v with
  | some connective, .sequence items =>
    .connective connective (.sequence items) :: ofBranches items
  | some connective, v => [.connective connective v]
  | none, .record conditions => if hasOperator conditions then ofOperators conditions else []
  | none, _ => []

end

/-! ### Form by form -/

section

variable {key : String} {operand v : Value} {op : Operator} {connective : Connective}

lemma ofOperator_test (hkey : Operator.ofKey? key = some op) (hop : op.connective? = none) :
    ofOperator key operand = [.test op] := by
  simp only [ofOperator.eq_def, hkey, hop]

lemma ofOperator_branches (hkey : Operator.ofKey? key = some op)
    (hop : op.connective? = some connective) (items : List Value) :
    ofOperator key (.sequence items) =
      .connective connective (.sequence items) :: ofOperatorBranches items := by
  simp only [ofOperator.eq_def, hkey, hop]

lemma ofOperatorBranches_malformed (hv : v.record? = none) (items : List Value) :
    ofOperatorBranches (v :: items) = .operatorBranch v :: ofOperatorBranches items := by
  cases v with
  | record operators => cases hv
  | _ =>
    rw [ofOperatorBranches]
    intros
    contradiction

lemma ofEntry_branches (hkey : Connective.ofKey? key = some connective) (items : List Value) :
    ofEntry key (.sequence items) =
      .connective connective (.sequence items) :: ofBranches items := by
  rw [ofEntry.eq_def, hkey]

lemma ofEntry_operators {conditions : Record} (hkey : Connective.ofKey? key = none)
    (hop : hasOperator conditions = true) :
    ofEntry key (.record conditions) = ofOperators conditions := by
  rw [ofEntry.eq_def, hkey]
  exact if_pos hop

end

end Clauses

end Criteria
