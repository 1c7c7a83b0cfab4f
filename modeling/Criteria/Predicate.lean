import Criteria.Operator
import Criteria.Pattern.Basic
import Criteria.Value.Coercion
import Criteria.Value.Order

/-!
# Predicates

What a condition compiles to. A `Test` looks at the value of one field, which may be absent; a
`Predicate` looks at a whole item through its fields. Of the tests, only the negative ones hold for
an absent field.
-/

namespace Criteria

/-! ### Tests of one field -/

/-- A test of the value of one field. -/
inductive Test where
  /-- The value is in an order with the operand that the operator accepts. -/
  | ordered (op : Operator) (operand : Value)
  /-- The value equals the operand. -/
  | equal (operand : Value)
  /-- The value is absent or does not equal the operand. -/
  | notEqual (operand : Value)
  /-- The value is an instant before the bound; without a bound nothing is. -/
  | dateBefore (bound : Option Instant)
  /-- The value is an instant after the bound; without a bound nothing is. -/
  | dateAfter (bound : Option Instant)
  /-- The value equals one of the candidates. -/
  | oneOf (candidates : List Value)
  /-- The value is absent or equals none of the candidates. -/
  | notOneOf (candidates : List Value)
  /-- The value contains all of the needles. -/
  | contains (needles : List Value)
  /-- The value is absent or does not contain all of the needles. -/
  | notContains (needles : List Value)
  /-- The value has a text in which the pattern occurs. -/
  | matches (pattern : Pattern)

/-- Whether a fragment occurs in a text. -/
def hasFragment (fragment text : List Char) : Bool :=
  fragment.isPrefixOf text ||
    match text with
    | [] => false
    | _ :: rest => hasFragment fragment rest

namespace Value

/-- Whether a value contains every needle: a sequence as elements, a text as the needles' texts. No
other value contains anything, not even when there is no needle. -/
def containsAll (v : Value) (needles : List Value) : Bool :=
  match v with
  | .sequence items => needles.all fun needle => needle.memberOf items
  | .text s => needles.all fun needle =>
    needle.toText?.any fun fragment => hasFragment fragment.toList s.toList
  | _ => false

/-- The order in time of a value that stands for an instant and a bound. -/
def compareInstant? (v : Value) (bound : Option Instant) : Option Ordering := do
  return (← v.toInstant?).compare (← bound)

end Value

namespace Test

/-- Whether a test holds for the value of a field, or for its absence. -/
def holds (test : Test) (actual : Option Value) : Bool :=
  match test with
  | .ordered op operand => (actual.bind (·.compare? operand)).any op.accepts
  | .equal operand => actual.any (·.equal operand)
  | .notEqual operand => !actual.any (·.equal operand)
  | .dateBefore bound => (actual.bind (·.compareInstant? bound)).any (· == .lt)
  | .dateAfter bound => (actual.bind (·.compareInstant? bound)).any (· == .gt)
  | .oneOf candidates => actual.any (·.memberOf candidates)
  | .notOneOf candidates => !actual.any (·.memberOf candidates)
  | .contains needles => actual.any (·.containsAll needles)
  | .notContains needles => !actual.any (·.containsAll needles)
  | .matches pattern => (actual.bind Value.toText?).any pattern.isMatch

end Test

/-! ### Items -/

/-- What has fields to be tested. -/
class Document (α : Type) where
  /-- The value of a field. -/
  field? : α → String → Option Value

instance : Document Value := ⟨Value.get?⟩

instance : Document Record := ⟨SortedMap.find?⟩

/-! ### Predicates -/

/-- A test of an item. -/
inductive Predicate where
  /-- Joins branches; a branch holds when all of its predicates do. -/
  | logical (connective : Connective) (branches : List (List Predicate))
  /-- The value of a field is present, not null, and all of the predicates hold for it. -/
  | nested (name : String) (predicates : List Predicate)
  /-- The value of a field is present and equals the given one. -/
  | literal (name : String) (value : Value)
  /-- A test holds for the value of a field. -/
  | field (name : String) (test : Test)
  /-- Holds for no item. -/
  | never

namespace Predicate

/-- The field that a predicate looks at, if it looks at exactly one. -/
def field? : Predicate → Option String
  | .nested name _ => some name
  | .literal name _ => some name
  | .field name _ => some name
  | .logical _ _ => none
  | .never => none

mutual

/-- Whether a predicate holds for an item with the given fields. -/
def holdsOn (fields : String → Option Value) : Predicate → Bool
  | .logical connective branches => connective.combine (branchesHoldOn fields branches)
  | .nested name predicates =>
    match fields name with
    | none | some .null => false
    | some inner => allHoldOn inner.get? predicates
  | .literal name value => (fields name).any (·.equal value)
  | .field name test => test.holds (fields name)
  | .never => false

/-- Whether all predicates of a list hold for an item with the given fields. -/
def allHoldOn (fields : String → Option Value) : List Predicate → Bool
  | [] => true
  | p :: ps => holdsOn fields p && allHoldOn fields ps

/-- Which branches hold for an item with the given fields. -/
def branchesHoldOn (fields : String → Option Value) : List (List Predicate) → List Bool
  | [] => []
  | branch :: branches => allHoldOn fields branch :: branchesHoldOn fields branches

end

variable {α : Type} [Document α]

/-- Whether a predicate holds for an item. -/
def holds (p : Predicate) (item : α) : Bool := p.holdsOn (Document.field? item)

/-- Whether all predicates of a list hold for an item. -/
def allHold (ps : List Predicate) (item : α) : Bool := allHoldOn (Document.field? item) ps

theorem allHoldOn_eq_all (fields : String → Option Value) (ps : List Predicate) :
    allHoldOn fields ps = ps.all (holdsOn fields) := by
  induction ps with
  | nil => rfl
  | cons p ps ih => simp [allHoldOn, ih]

end Predicate

end Criteria
