/-!
# Sets of characters

A set of characters as a list of ranges of code points. `normalize` puts ranges in order and joins
the ones that touch; the operations on sets keep that form, in which a set has only one list.
-/

namespace Criteria

/-- A set of characters: ranges of code points, each given by its first and its last one. -/
structure CharSet where
  /-- The ranges. -/
  ranges : List (Nat × Nat)
deriving DecidableEq, Repr

namespace CharSet

/-- The greatest code point. -/
def lastCode : Nat := 0x10FFFF

/-- The set without characters. -/
def empty : CharSet := ⟨[]⟩

/-- The set of all characters. -/
def full : CharSet := ⟨[(0, lastCode)]⟩

/-- The set of the characters from `first` to `last`. -/
def range (first last : Char) : CharSet := ⟨[(first.toNat, last.toNat)]⟩

/-- The set of one character. -/
def single (c : Char) : CharSet := range c c

/-- Whether a code point is in the set. -/
def hasCode (s : CharSet) (code : Nat) : Bool :=
  s.ranges.any fun (first, last) => first ≤ code && code ≤ last

/-- Whether a character is in the set. -/
def has (s : CharSet) (c : Char) : Bool := s.hasCode c.toNat

/-- Whether all characters of the set are ASCII. -/
def isAscii (s : CharSet) : Bool := s.ranges.all fun (_, last) => last < 0x80

/-- The character of a set that has just one. -/
def single? (s : CharSet) : Option Nat :=
  match s.ranges with
  | [(first, last)] => if first = last then some first else none
  | _ => none

/-! ### Normal form -/

/-- Puts a range in front of ranges that all begin after it, joining it with those it touches. -/
def consRange (first last : Nat) : List (Nat × Nat) → List (Nat × Nat)
  | [] => [(first, last)]
  | (first', last') :: rest =>
    if first' ≤ last + 1 then consRange first (max last last') rest
    else (first, last) :: (first', last') :: rest

/-- Joins the ranges that touch in a list in order. -/
def joinRanges : List (Nat × Nat) → List (Nat × Nat)
  | [] => []
  | (first, last) :: rest => consRange first last (joinRanges rest)

/-- The set of ranges in any order. -/
def normalize (ranges : List (Nat × Nat)) : CharSet :=
  ⟨joinRanges (ranges.mergeSort fun a b => a.1 ≤ b.1)⟩

/-! ### Operations -/

/-- The characters in either set. -/
def union (s t : CharSet) : CharSet := normalize (s.ranges ++ t.ranges)

/-- The code points from `next` on that are in none of some ranges in order. -/
def gaps (next : Nat) : List (Nat × Nat) → List (Nat × Nat)
  | [] => if next ≤ lastCode then [(next, lastCode)] else []
  | (first, last) :: rest =>
    if next < first then (next, first - 1) :: gaps (last + 1) rest else gaps (last + 1) rest

/-- The characters not in the set. -/
def complement (s : CharSet) : CharSet := ⟨gaps 0 s.ranges⟩

/-- The characters in both sets. -/
def inter (s t : CharSet) : CharSet := (s.complement.union t.complement).complement

/-- The characters in the first set only. -/
def diff (s t : CharSet) : CharSet := s.inter t.complement

/-- The characters in exactly one of the sets. -/
def symmDiff (s t : CharSet) : CharSet := (s.union t).diff (s.inter t)

/-- The union of sets. -/
def unionAll (sets : List CharSet) : CharSet := normalize (sets.flatMap ranges)

end CharSet

end Criteria
