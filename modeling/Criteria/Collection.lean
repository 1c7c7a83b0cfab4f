import Criteria.Filter
import Criteria.Sort.Rule

/-!
# Collections

A list of items that is filtered, sorted and added to. Every item gets an identity when it enters,
which it keeps.
-/

namespace Criteria

/-- An item and its identity. -/
structure Entry where
  /-- The identity. -/
  id : Nat
  /-- The item. -/
  item : Value

instance : Document Entry := ⟨fun e => e.item.get?⟩

/-- The items of a list with their positions as identities. -/
def Entry.number (items : List Value) : List Entry :=
  items.zipIdx.map fun (item, id) => ⟨id, item⟩

/-- Items with identities, and a filter to look at them through. -/
structure Collection where
  /-- The items. -/
  entries : List Entry
  /-- The identity of the next item that enters. -/
  nextId : Nat
  /-- The filter. -/
  filter : Filter

namespace Collection

/-- The collection of some items, with the filter that matches everything. -/
def ofItems (items : List Value) : Collection := ⟨Entry.number items, items.length, .empty⟩

/-- The identities of the items, in order. -/
def ids (c : Collection) : List Nat := c.entries.map Entry.id

/-- One step of working with a collection. -/
inductive Step where
  /-- Replaces the filter. -/
  | compile (mode : Mode) (condition : Option Value)
  /-- Adds a condition to the filter. -/
  | extend (condition : Option Value)
  /-- Adds an item at the end. -/
  | push (item : Value)
  /-- Keeps the matching items. -/
  | select
  /-- Sorts the items. -/
  | sort (rules : List SortRule)
  /-- Counts the matching items. -/
  | count
  /-- Finds the first matching item. -/
  | find
  /-- Tests each item. -/
  | each

/-- What a step answers. -/
inductive Reply where
  /-- Nothing. -/
  | done
  /-- A number. -/
  | count (n : Nat)
  /-- The position and the identity of an item. -/
  | position (found : Option (Nat × Nat))
  /-- A result for each item. -/
  | each (results : List Bool)
  /-- A fault; the step changed nothing. -/
  | fault (error : ConditionError)

/-- Takes one step. -/
def step (c : Collection) : Step → Collection × Reply
  | .compile mode condition =>
    match Filter.compile mode condition with
    | .ok f => ({ c with filter := f }, .count f.size)
    | .error fault => (c, .fault fault)
  | .extend condition =>
    let f := c.filter.extend condition
    ({ c with filter := f }, .count f.size)
  | .push item =>
    ({ c with entries := c.entries ++ [⟨c.nextId, item⟩], nextId := c.nextId + 1 }, .done)
  | .select => ({ c with entries := c.filter.select c.entries }, .done)
  | .sort rules => ({ c with entries := SortRule.sort rules c.entries }, .done)
  | .count => (c, .count (c.filter.count c.entries))
  | .find =>
    (c, .position do
      let position ← c.filter.position? c.entries
      let entry ← c.filter.find? c.entries
      return (position, entry.id))
  | .each => (c, .each (c.entries.map c.filter.holds))

end Collection

end Criteria
