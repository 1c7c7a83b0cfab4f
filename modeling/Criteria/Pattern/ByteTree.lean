import Criteria.Unicode.CharSet

/-!
# Encodings of sets of characters

The encodings in UTF-8 of the characters of a set, as rows of ranges of bytes: a row stands for all
ways to choose one byte from each of its ranges. Rows in order make a tree, in which neighbours that
begin alike share their beginning.
-/

namespace Criteria

namespace Pattern

/-! ### Rows -/

/-- The ranges of bytes in a row that encode the code points from `first` to `last`, written as a
leading digit and `digits` digits of base 64. -/
def byteRows : (digits : Nat) → (lead first last : Nat) → List (List (Nat × Nat))
  | 0, lead, first, last => [[(lead + first, lead + last)]]
  | digits + 1, lead, first, last =>
    let unit := Nat.pow 64 (digits + 1)
    let low := first / unit
    let high := last / unit
    let under (n : Nat) (rows : List (List (Nat × Nat))) := rows.map ((lead + n, lead + n) :: ·)
    if low = high then under low (byteRows digits 0x80 (first % unit) (last % unit))
    else
      let cutLow := first % unit ≠ 0
      let cutHigh := last % unit ≠ unit - 1
      let low' := if cutLow then low + 1 else low
      let high' := if cutHigh then high - 1 else high
      let full := List.replicate (digits + 1) (0x80, 0xBF)
      (if cutLow then under low (byteRows digits 0x80 (first % unit) (unit - 1)) else []) ++
        (if low' ≤ high' then [(lead + low', lead + high') :: full] else []) ++
        (if cutHigh then under high (byteRows digits 0x80 0 (last % unit)) else [])

/-- The lengths of encodings: the number of digits behind the leading one, the leading byte without
its digit, and the code points. -/
def encodings : List (Nat × Nat × Nat × Nat) :=
  [(0, 0, 0, 0x7F), (1, 0xC0, 0x80, 0x7FF), (2, 0xE0, 0x800, 0xD7FF), (2, 0xE0, 0xE000, 0xFFFF),
    (3, 0xF0, 0x10000, 0x10FFFF)]

/-- The ranges of bytes in a row that encode a range of code points. -/
def rangeRows (first last : Nat) : List (List (Nat × Nat)) :=
  encodings.flatMap fun (digits, lead, least, greatest) =>
    if max first least ≤ min last greatest then
      byteRows digits lead (max first least) (min last greatest)
    else []

/-- The ranges of bytes in a row that encode the characters of a set, in order. -/
def setRows (s : CharSet) : List (List (Nat × Nat)) :=
  s.ranges.flatMap fun (first, last) => rangeRows first last

/-! ### Trees -/

/-- Ranges of bytes, each with what may follow them; a tree without ranges is the end of an
encoding. -/
inductive ByteTree where
  /-- The ranges and what follows each. -/
  | node (children : List ((Nat × Nat) × ByteTree))

namespace ByteTree

/-- The tree of one row. -/
def ofRow : List (Nat × Nat) → ByteTree
  | [] => .node []
  | range :: row => .node [(range, ofRow row)]

/-- Adds a row that comes before all rows of a tree. -/
def insert : List (Nat × Nat) → ByteTree → ByteTree
  | [], tree => tree
  | range :: row, .node [] => .node [(range, ofRow row)]
  | range :: row, .node ((range', tree) :: children) =>
    if range = range' then .node ((range, insert row tree) :: children)
    else .node ((range, ofRow row) :: (range', tree) :: children)

/-- The tree of rows in order. -/
def ofRows (rows : List (List (Nat × Nat))) : ByteTree := rows.foldr insert (.node [])

end ByteTree

end Pattern

end Criteria
