import Criteria.Filter

/-!
# Building conditions

Conditions put together key by key, without writing the record by hand. `Operators` is the condition
of one field, `Condition` a whole one; a key that is set again keeps the last value. What is built
is an ordinary record and is compiled like any other.

A sequence of building steps is a value too, a list of `Operators.Step` or of `Condition.Step`, so
that statements about all that can be built are statements about lists of steps.
-/

namespace Criteria

/-! ### Operators of one field -/

/-- The operators of one field. -/
structure Operators where
  /-- The operands by operator key. -/
  entries : Record

namespace Operators

/-- No operators. -/
def empty : Operators := ⟨.nil⟩

/-- The number of operators. -/
def size (ops : Operators) : Nat := ops.entries.size

/-- Whether there are no operators. -/
def isEmpty (ops : Operators) : Bool := ops.entries.isEmpty

/-- The record of the operators. -/
def build (ops : Operators) : Value := .record ops.entries

/-- Sets the operand of an operator. -/
def set (ops : Operators) (op : Operator) (operand : Value) : Operators :=
  ⟨ops.entries.insert op.key operand⟩

/-- Sets the operand of an operator if there is one. -/
def setIfSome (ops : Operators) (op : Operator) : Option Value → Operators
  | some operand => ops.set op operand
  | none => ops

/-- Some set of operators has to hold. -/
def anyOf (ops : Operators) (sets : List Operators) : Operators :=
  ops.set .any (.sequence (sets.map build))

/-- Every set of operators has to hold. -/
def allOf (ops : Operators) (sets : List Operators) : Operators :=
  ops.set .all (.sequence (sets.map build))

/-- No set of operators may hold. -/
def noneOf (ops : Operators) (sets : List Operators) : Operators :=
  ops.set .none (.sequence (sets.map build))

/-- One step of building the operators of a field. -/
inductive Step where
  /-- Sets any operator, if there is an operand. -/
  | setIfSome (op : Operator) (operand : Option Value)
  | less (operand : Value)
  | lessEqual (operand : Value)
  | greater (operand : Value)
  | greaterEqual (operand : Value)
  | equal (operand : Value)
  | not (operand : Value)
  | dateBefore (operand : Value)
  | dateAfter (operand : Value)
  | oneOf (candidates : List Value)
  | notOneOf (candidates : List Value)
  | contains (operand : Value)
  | notContains (operand : Value)
  | matches (pattern : String)
  | anyOf (sets : List (List Step))
  | allOf (sets : List (List Step))
  | noneOf (sets : List (List Step))

mutual

/-- Takes one step. -/
def apply (ops : Operators) : Step → Operators
  | .setIfSome op operand => ops.setIfSome op operand
  | .less operand => ops.set .less operand
  | .lessEqual operand => ops.set .lessEqual operand
  | .greater operand => ops.set .greater operand
  | .greaterEqual operand => ops.set .greaterEqual operand
  | .equal operand => ops.set .equal operand
  | .not operand => ops.set .not operand
  | .dateBefore operand => ops.set .dateBefore operand
  | .dateAfter operand => ops.set .dateAfter operand
  | .oneOf candidates => ops.set .oneOf (.sequence candidates)
  | .notOneOf candidates => ops.set .notOneOf (.sequence candidates)
  | .contains operand => ops.set .contains operand
  | .notContains operand => ops.set .notContains operand
  | .matches pattern => ops.set .matches (.text pattern)
  | .anyOf sets => ops.anyOf (runEach sets)
  | .allOf sets => ops.allOf (runEach sets)
  | .noneOf sets => ops.noneOf (runEach sets)

/-- Takes steps in order. -/
def run (ops : Operators) : List Step → Operators
  | [] => ops
  | step :: steps => run (apply ops step) steps

/-- Builds one set of operators from each list of steps. -/
def runEach : List (List Step) → List Operators
  | [] => []
  | steps :: others => run empty steps :: runEach others

end

end Operators

/-! ### Conditions -/

/-- A condition that is being built. -/
structure Condition where
  /-- The values by key. -/
  entries : Record

namespace Condition

/-- The condition without keys, which every item matches. -/
def empty : Condition := ⟨.nil⟩

/-- Whether the condition has no keys. -/
def isEmpty (c : Condition) : Bool := c.entries.isEmpty

/-- The record of the condition. -/
def build (c : Condition) : Value := .record c.entries

/-- The filter of the condition. -/
def compile (c : Condition) : Filter := .ofCondition (some c.build)

/-- Sets the value of a key. -/
def set (c : Condition) (key : String) (v : Value) : Condition := ⟨c.entries.insert key v⟩

/-- A field has to equal a value; a record is a condition on the field instead. -/
def eq (c : Condition) (field : String) (v : Value) : Condition := c.set field v

/-- Operators have to hold for a field; without operators nothing is set. -/
def field (c : Condition) (name : String) (ops : Operators) : Condition :=
  if ops.isEmpty then c else c.set name ops.build

/-- The value of a field has to match a condition of its own. -/
def nested (c : Condition) (field : String) (inner : Condition) : Condition :=
  c.set field inner.build

/-- Joins conditions by a connective. -/
def logical (c : Condition) (connective : Connective) (branches : List Condition) : Condition :=
  c.set connective.key (.sequence (branches.map build))

/-- One step of building a condition. -/
inductive Step where
  | eq (field : String) (v : Value)
  | field (name : String) (steps : List Operators.Step)
  | nested (field : String) (steps : List Step)
  | logical (connective : Connective) (branches : List (List Step))

mutual

/-- Takes one step. -/
def apply (c : Condition) : Step → Condition
  | .eq name v => c.eq name v
  | .field name steps => c.field name (Operators.empty.run steps)
  | .nested name steps => c.nested name (run empty steps)
  | .logical connective branches => c.logical connective (runEach branches)

/-- Takes steps in order. -/
def run (c : Condition) : List Step → Condition
  | [] => c
  | step :: steps => run (apply c step) steps

/-- Builds one condition from each list of steps. -/
def runEach : List (List Step) → List Condition
  | [] => []
  | steps :: others => run empty steps :: runEach others

end

end Condition

end Criteria
