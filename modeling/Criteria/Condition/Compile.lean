import Criteria.Condition.Error
import Criteria.Predicate

/-!
# Compiling conditions

A condition is a record. Each of its keys gives predicates, all of which have to hold:

* the key of a connective joins conditions;
* a field with a record that has an operator among its keys is tested by these operators;
* a field with any other record is a condition on the value of the field;
* a field with any other value has to equal it.

Lenient compilation never fails: what is malformed becomes a predicate that never holds, and unknown
operators are left out. Strict compilation stops at the first fault in key order.
-/

namespace Criteria

/-- Whether faults of a condition are passed over or reported. -/
inductive Mode where
  | lenient | strict
deriving DecidableEq, Repr

/-- The predicates of a condition, or its first fault. -/
abbrev Compiled := Except ConditionError (List Predicate)

/-- Whether one of the keys of a record is the key of an operator. -/
def hasOperator (fields : Record) : Bool := fields.keys.any Operator.isKey

/-- Whether a key is marked as an operator. -/
def isMarked (key : String) : Bool := key.toList.head? == some '$'

namespace Mode

/-- Reports a fault, or puts a predicate that never holds in its place. -/
def reject (mode : Mode) (fault : ConditionError) : Except ConditionError Predicate :=
  match mode with
  | .strict => .error fault
  | .lenient => .ok .never

/-! ### Tests of one field -/

/-- The operand of a membership or containment test as a list: a sequence by its elements, any other
value alone. -/
def candidates : Value → List Value
  | .sequence items => items
  | v => [v]

/-- The bound of a date test, if the operand stands for an instant. -/
def dateBound (mode : Mode) (op : Operator) (operand : Value) :
    Except ConditionError (Option Instant) :=
  match operand.toInstant?, mode with
  | some t, _ => .ok (some t)
  | none, .strict => .error (.dateOperand op operand.kind)
  | none, .lenient => .ok none

/-- The predicate of an operator that is no connective. -/
def compileTest (mode : Mode) (field : String) (op : Operator) (operand : Value) :
    Except ConditionError Predicate :=
  match op with
  | .less | .lessEqual | .greater | .greaterEqual => .ok (.field field (.ordered op operand))
  | .equal => .ok (.field field (.equal operand))
  | .not => .ok (.field field (.notEqual operand))
  | .dateBefore => (mode.dateBound op operand).map fun bound => .field field (.dateBefore bound)
  | .dateAfter => (mode.dateBound op operand).map fun bound => .field field (.dateAfter bound)
  | .oneOf => .ok (.field field (.oneOf (candidates operand)))
  | .notOneOf => .ok (.field field (.notOneOf (candidates operand)))
  | .contains => .ok (.field field (.contains (candidates operand)))
  | .notContains => .ok (.field field (.notContains (candidates operand)))
  | .matches =>
    match operand with
    | .text source =>
      match Pattern.parse? source with
      | some pattern => .ok (.field field (.matches pattern))
      | none => mode.reject (@ConditionError.invalidPattern source)
    | v => mode.reject (.patternOperand v.kind)
  | .any | .all | .none => .ok .never

mutual

/-- The predicates of one operator of a field. A key without operator gives none; strictly it must
not look like an operator. -/
def compileOperator (mode : Mode) (field key : String) (operand : Value) : Compiled :=
  match Operator.ofKey? key with
  | none => if mode = .strict ∧ isMarked key then .error (.unknownOperator key) else .ok []
  | some op =>
    match op.connective? with
    | none => (mode.compileTest field op operand).map ([·])
    | some connective =>
      match operand with
      | .sequence items =>
        (compileOperatorBranches mode field connective 0 items).map fun branches =>
          [.logical connective branches]
      | v => (mode.reject (.expectedSequence connective v.kind)).map ([·])

/-- The branches of a connective over tests of a field, from the branch with the given index on. -/
def compileOperatorBranches (mode : Mode) (field : String) (connective : Connective)
    (index : Nat) : List Value → Except ConditionError (List (List Predicate))
  | [] => .ok []
  | .record operators :: items => do
    let branch ← compileOperators mode field operators
    let branches ← compileOperatorBranches mode field connective (index + 1) items
    return branch :: branches
  | v :: items => do
    let branch ← mode.reject (.invalidBranch connective index v.kind)
    let branches ← compileOperatorBranches mode field connective (index + 1) items
    return [branch] :: branches

/-- The predicates of the operators of a field, in key order. -/
def compileOperators (mode : Mode) (field : String) : {bound : Option String} →
    SortedMap Value bound → Compiled
  | _, .nil => .ok []
  | _, .cons key operand _ rest => do
    let predicates ← compileOperator mode field key operand
    let others ← compileOperators mode field rest
    return predicates ++ others

end

/-- Compiles the operators of a field behind predicates that are there already, up to the first
fault: the predicates up to there, and the fault if there is one. -/
def compileOperatorsInto (mode : Mode) (field : String) : {bound : Option String} →
    SortedMap Value bound → (into : List Predicate) → List Predicate × Option ConditionError
  | _, .nil, into => (into, none)
  | _, .cons key operand _ rest, into =>
    match mode.compileOperator field key operand with
    | .ok predicates => mode.compileOperatorsInto field rest (into ++ predicates)
    | .error fault => (into, some fault)

/-! ### Conditions -/

mutual

/-- The predicates of one key of a condition. -/
def compileEntry (mode : Mode) (key : String) (v : Value) : Compiled :=
  match Connective.ofKey? key, v with
  | some connective, .sequence items =>
    (compileBranches mode connective 0 items).map fun branches => [.logical connective branches]
  | some connective, v => (mode.reject (.expectedSequence connective v.kind)).map ([·])
  | none, .record fields =>
    if hasOperator fields then mode.compileOperators key fields
    else (compileFields mode fields).map fun predicates => [.nested key predicates]
  | none, v => .ok [.literal key v]

/-- The branches of a connective over conditions, from the branch with the given index on. A null
stands for a condition without keys. -/
def compileBranches (mode : Mode) (connective : Connective) (index : Nat) :
    List Value → Except ConditionError (List (List Predicate))
  | [] => .ok []
  | .record fields :: items => do
    let branch ← compileFields mode fields
    let branches ← compileBranches mode connective (index + 1) items
    return branch :: branches
  | .null :: items => do
    let branches ← compileBranches mode connective (index + 1) items
    return [] :: branches
  | v :: items => do
    let branch ← mode.reject (.invalidBranch connective index v.kind)
    let branches ← compileBranches mode connective (index + 1) items
    return [branch] :: branches

/-- The predicates of a condition, in key order. -/
def compileFields (mode : Mode) : {bound : Option String} → SortedMap Value bound → Compiled
  | _, .nil => .ok []
  | _, .cons key v _ rest => do
    let predicates ← compileEntry mode key v
    let others ← compileFields mode rest
    return predicates ++ others

end

/-- The predicates of a condition. One that is absent or null has no keys. -/
def compile (mode : Mode) : Option Value → Compiled
  | none | some .null => .ok []
  | some (.record fields) => mode.compileFields fields
  | some v => (mode.reject (.invalidCondition v.kind)).map ([·])

end Mode

end Criteria
