import Criteria.Condition.Compile

/-!
# Filters

A compiled condition, to be used on many items. Lenient compilation has no faults, so the predicate
that `ofCondition` falls back to is never needed.
-/

namespace Criteria

/-- A compiled condition. Without predicates it matches everything. -/
structure Filter where
  /-- The predicates, all of which have to hold. -/
  predicates : List Predicate

namespace Filter

/-- The filter that matches everything. -/
def empty : Filter := ⟨[]⟩

/-- The filter of a condition; what is malformed matches nothing. -/
def ofCondition (condition : Option Value) : Filter :=
  match Mode.lenient.compile condition with
  | .ok predicates => ⟨predicates⟩
  | .error _ => ⟨[.never]⟩

/-- The filter of a condition, or its first fault. -/
def ofCondition? (condition : Option Value) : Except ConditionError Filter :=
  (Mode.strict.compile condition).map Filter.mk

/-- The filter of a condition in either mode. -/
def compile (mode : Mode) (condition : Option Value) : Except ConditionError Filter :=
  match mode with
  | .lenient => .ok (ofCondition condition)
  | .strict => ofCondition? condition

/-- The number of predicates. -/
def size (f : Filter) : Nat := f.predicates.length

/-- Whether the filter has no predicates. -/
def isEmpty (f : Filter) : Bool := f.predicates.isEmpty

/-- Adds the predicates of a condition, taken leniently. -/
def extend (f : Filter) (condition : Option Value) : Filter :=
  ⟨f.predicates ++ (ofCondition condition).predicates⟩

variable {α : Type} [Document α]

/-- Whether an item matches. -/
def holds (f : Filter) (item : α) : Bool := Predicate.allHold f.predicates item

/-- The matching items, in order. -/
def select (f : Filter) (items : List α) : List α := items.filter f.holds

/-- The number of matching items. -/
def count (f : Filter) (items : List α) : Nat := items.countP f.holds

/-- Whether some item matches. -/
def any (f : Filter) (items : List α) : Bool := items.any f.holds

/-- Whether every item matches. -/
def all (f : Filter) (items : List α) : Bool := items.all f.holds

/-- The first matching item. -/
def find? (f : Filter) (items : List α) : Option α := items.find? f.holds

/-- The position of the first matching item. -/
def position? (f : Filter) (items : List α) : Option Nat := items.findIdx? f.holds

end Filter

/-- Whether an item matches a condition, taken leniently. -/
def matchesCondition {α : Type} [Document α] (item : α) (condition : Value) : Bool :=
  (Filter.ofCondition (some condition)).holds item

end Criteria
