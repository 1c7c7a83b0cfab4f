import Criteria.Predicate

/-!
# Sorting by fields

A rule sorts by the total order of the values of one field, in one direction; of several rules, a
later one decides where the earlier ones tie. Items whose field is absent or null come last in
either direction, and items that tie keep their order.
-/

namespace Criteria

/-- The direction of a rule. -/
inductive Direction where
  | ascending | descending
deriving DecidableEq, Repr

namespace Direction

/-- The name of a direction. -/
def name : Direction → String
  | .ascending => "asc"
  | .descending => "desc"

/-- The direction of a name. -/
def ofName? (name : String) : Option Direction :=
  if name = "asc" then some .ascending
  else if name = "desc" then some .descending
  else none

instance : Inhabited Direction := ⟨.ascending⟩

/-- Turns an ascending order into this direction. -/
def orient : Direction → Ordering → Ordering
  | .ascending, order => order
  | .descending, order => order.swap

end Direction

/-- A rule to sort by. -/
structure SortRule where
  /-- The field whose values are compared. -/
  field : String
  /-- The direction. -/
  direction : Direction
deriving DecidableEq, Repr

namespace SortRule

/-- The value of a field, if it is present and not null. -/
def present (v : Option Value) : Option Value := v.filter fun v => !v.isNull

/-- The ascending order of the values of a field, where the absent ones come last. -/
def compareAscending (a b : Option Value) : Ordering :=
  match present a, present b with
  | none, none => .eq
  | none, some _ => .gt
  | some _, none => .lt
  | some a, some b => a.totalCompare b

/-- The order of the values of a field by a rule. -/
def compare (rule : SortRule) (a b : Option Value) : Ordering :=
  match present a, present b with
  | some a, some b => rule.direction.orient (a.totalCompare b)
  | a, b => compareAscending a b

variable {α : Type} [Document α]

/-- The order of two items by rules, the first of them that tells the items apart. -/
def compareItems : List SortRule → α → α → Ordering
  | [], _, _ => .eq
  | rule :: rules, a, b =>
    (rule.compare (Document.field? a rule.field) (Document.field? b rule.field)).then
      (compareItems rules a b)

/-- Sorts items by rules. -/
def sort (rules : List SortRule) (items : List α) : List α :=
  if rules.isEmpty then items else items.mergeSort fun a b => (compareItems rules a b).isLE

end SortRule

end Criteria
