import Criteria.Operator
import Criteria.Value.Basic

/-!
# Faults of conditions

What strict compilation rejects, with the wording of each fault.
-/

namespace Criteria

/-- A fault of a condition. -/
inductive ConditionError where
  /-- The operand of a connective is no sequence. -/
  | expectedSequence (connective : Connective) (found : Kind)
  /-- A branch of a connective is no condition. -/
  | invalidBranch (connective : Connective) (index : Nat) (found : Kind)
  /-- A condition is no record. -/
  | invalidCondition (found : Kind)
  /-- The operand of a date test stands for no instant. -/
  | dateOperand (op : Operator) (found : Kind)
  /-- The operand of a pattern test is no text. -/
  | patternOperand (found : Kind)
  /-- The operand of a pattern test, the text `source`, does not spell a pattern. -/
  | invalidPattern {source : String}
  /-- A key is marked as an operator, but there is none under it. -/
  | unknownOperator (key : String)
deriving DecidableEq

namespace ConditionError

/-- The wording for an operand that its operator cannot use. -/
def operandMessage (op : Operator) (expected : String) (found : Kind) : String :=
  s!"operator '{op.key}' expects {expected}, got {found.name}"

/-- The wording of a fault; for an invalid pattern, without what the reader of patterns reports. -/
def message : ConditionError → String
  | .expectedSequence connective found =>
    s!"'{connective.key}' expects a sequence of conditions, got {found.name}"
  | .invalidBranch connective index found =>
    s!"'{connective.key}' branch {index} is not a condition document, got {found.name}"
  | .invalidCondition found => s!"condition must be a record, got {found.name}"
  | .dateOperand op found => operandMessage op "a date, timestamp or date text" found
  | .patternOperand found => operandMessage .matches "a pattern" found
  | .invalidPattern => "invalid regex pattern"
  | .unknownOperator key => s!"unknown operator '{key}'"

end ConditionError

end Criteria
