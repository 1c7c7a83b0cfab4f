/-!
# Operators and connectives

The keys with a meaning of their own in a condition. A `Connective` joins whole conditions or whole
tests of one field; the other operators each test one field against an operand.

`ofKey?_key` says that an operator is found under its own key.
-/

namespace Criteria

/-- How the results of several branches are joined. -/
inductive Connective where
  /-- Every branch holds. -/
  | all
  /-- At least one branch holds. -/
  | any
  /-- No branch holds. -/
  | none
deriving DecidableEq, Repr

namespace Connective

/-- The key of a connective. -/
def key : Connective → String
  | .all => "$and"
  | .any => "$or"
  | .none => "$nor"

/-- The connective under a key. -/
def ofKey? (key : String) : Option Connective :=
  if key = "$and" then some .all
  else if key = "$or" then some .any
  else if key = "$nor" then some .none
  else Option.none

/-- Joins the results of branches. -/
def combine : Connective → List Bool → Bool
  | .all, results => results.all id
  | .any, results => results.any id
  | .none, results => !results.any id

/-- Whether the result of one branch settles the joint result. -/
def settledBy : Connective → Bool → Bool
  | .all, result => !result
  | .any, result => result
  | .none, result => result

/-- How many branches, taken in order, have to be looked at to know the joint result. -/
def consulted (c : Connective) : List Bool → Nat
  | [] => 0
  | result :: results => if c.settledBy result then 1 else c.consulted results + 1

@[simp] theorem ofKey?_key (c : Connective) : ofKey? c.key = some c := by cases c <;> rfl

@[simp] theorem combine_nil (c : Connective) : c.combine [] = (c != .any) := by cases c <;> rfl

/-- The branches after the first settling one do not count. -/
theorem combine_take_consulted (c : Connective) (results : List Bool) :
    c.combine (results.take (c.consulted results)) = c.combine results := by
  induction results with
  | nil => simp [consulted]
  | cons result results ih => cases c <;> cases result <;> simp_all [consulted, settledBy, combine]

end Connective

/-- An operator in the condition of a field. -/
inductive Operator where
  | less | lessEqual | greater | greaterEqual
  | equal | not
  | dateBefore | dateAfter
  | oneOf | notOneOf
  | contains | notContains
  | matches
  | any | all | none
deriving DecidableEq, Repr

namespace Operator

/-- The key of an operator. -/
def key : Operator → String
  | .less => "$less"
  | .lessEqual => "$lessEqual"
  | .greater => "$greater"
  | .greaterEqual => "$greaterEqual"
  | .equal => "$equal"
  | .not => "$not"
  | .dateBefore => "$dateBefore"
  | .dateAfter => "$dateAfter"
  | .oneOf => "$in"
  | .notOneOf => "$notIn"
  | .contains => "$contains"
  | .notContains => "$notContains"
  | .matches => "$match"
  | .any => "$or"
  | .all => "$and"
  | .none => "$nor"

/-- Every operator. -/
def every : List Operator :=
  [.less, .lessEqual, .greater, .greaterEqual, .equal, .not, .dateBefore, .dateAfter, .oneOf,
    .notOneOf, .contains, .notContains, .matches, .any, .all, .none]

/-- The operator under a key. -/
def ofKey? (key : String) : Option Operator := every.find? fun op => op.key = key

/-- Whether a key is the key of an operator. -/
def isKey (key : String) : Bool := (ofKey? key).isSome

/-- Whether the operator asks for the order of two values. -/
def isRelational : Operator → Bool
  | .less | .lessEqual | .greater | .greaterEqual => true
  | _ => false

/-- The connective of an operator that joins further tests of the field. -/
def connective? : Operator → Option Connective
  | .any => some .any
  | .all => some .all
  | .none => some .none
  | _ => Option.none

/-- Whether the operator holds between a value and an operand in the given order; an operator that
is not relational never does. -/
def accepts : Operator → Ordering → Bool
  | .less, order => order == .lt
  | .lessEqual, order => order != .gt
  | .greater, order => order == .gt
  | .greaterEqual, order => order != .lt
  | _, _ => false

@[simp] theorem ofKey?_key (op : Operator) : ofKey? op.key = some op := by cases op <;> decide

theorem key_eq_of_ofKey? {key : String} {op : Operator} (h : ofKey? key = some op) :
    op.key = key := by
  simpa using List.find?_some h

end Operator

end Criteria
