import Std.Data.HashMap

/-!
# Caches with slots

A cache with a fixed number of slots. A key belongs to the slot that its hash names, and what is
stored there replaces what was stored before, so that the cache may forget.
-/

namespace Criteria

namespace Pattern

/-- The hash of a row of numbers, by the rule FNV-1a for words. -/
def wordHash (words : List Nat) : UInt64 :=
  words.foldl (fun h word => (h ^^^ UInt64.ofNat word) * 1099511628211) 14695981039346656037

/-- A cache from rows of numbers to numbers. -/
structure SlotCache where
  /-- The number of slots. -/
  slots : Nat
  /-- The keys and their values in the slots that are used. -/
  entries : Std.HashMap Nat (List Nat × Nat)

namespace SlotCache

/-- An empty cache with some slots. -/
def empty (slots : Nat) : SlotCache := ⟨slots, ∅⟩

/-- The slot of a key. -/
def slotOf (cache : SlotCache) (key : List Nat) : Nat := (wordHash key).toNat % cache.slots

/-- The value of a key, if the cache still has it. -/
def find? (cache : SlotCache) (key : List Nat) : Option Nat :=
  match cache.entries[cache.slotOf key]? with
  | some (key', value) => if key = key' then some value else none
  | none => none

/-- Stores a value under a key. -/
def insert (cache : SlotCache) (key : List Nat) (value : Nat) : SlotCache :=
  { cache with entries := cache.entries.insert (cache.slotOf key) (key, value) }

end SlotCache

end Pattern

end Criteria
