import Criteria.Json.Basic
import Criteria.Sort.Rule

/-!
# Sort rules as JSON

A direction is written as its name, and also read from an object with the name as its only key and
null as its value. A rule is written as an object with its field and its direction; it is also read
from an array of these two. Without a direction it is ascending; further members of the object do
not count.
-/

namespace Criteria

/-- The direction that a document stands for. -/
def Direction.ofJson? : Json → Option Direction
  | .string name => ofName? name
  | .object (.cons name .null _ .nil) => ofName? name
  | _ => none

namespace SortRule

/-- The rule that a document stands for. -/
def ofJson? : Json → Option SortRule
  | .object members => do
    let field ← (← members.find? "field").string?
    match members.find? "direction" with
    | none => return ⟨field, default⟩
    | some direction => return ⟨field, ← Direction.ofJson? direction⟩
  | .array [.string field] => some ⟨field, default⟩
  | .array [.string field, direction] => (Direction.ofJson? direction).map (SortRule.mk field)
  | _ => none

/-- The rules that a document stands for. -/
def listOfJson? : Json → Option (List SortRule)
  | .array items => items.mapM ofJson?
  | _ => none

/-- The document of a rule. -/
def toJson (rule : SortRule) : Json :=
  .object (SortedMap.ofList
    [("direction", .string rule.direction.name), ("field", .string rule.field)])

end SortRule

end Criteria
