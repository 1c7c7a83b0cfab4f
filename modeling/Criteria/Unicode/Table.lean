import Criteria.Text
import Criteria.Unicode.CharSet

/-!
# Tables of characters

The notation of the tables of character properties: rows of entries with blanks between them, each a
code point `A` in hexadecimal, a range `A-B` of code points, or `A-B/S`, the range taken in steps of
`S`.
-/

namespace Criteria

namespace Unicode

/-- The code point that hexadecimal digits spell. -/
def codeOf (digits : List Char) : Nat := (readHex? digits).getD 0

/-- The part of a text in front of a mark, and the part behind it if the mark is there. -/
def splitMark (mark : Char) (cs : List Char) : List Char × Option (List Char) :=
  match cs.dropWhile (· != mark) with
  | [] => (cs, none)
  | _ :: rest => (cs.takeWhile (· != mark), some rest)

/-- The parts of a text between the marks in it. -/
def splitMarks (mark : Char) : List Char → List (List Char)
  | [] => [[]]
  | c :: cs =>
    match splitMarks mark cs with
    | [] => [[c]]
    | part :: parts => if c = mark then [] :: part :: parts else (c :: part) :: parts

/-- The code points of an entry, as the first, the last and the step. -/
def readEntry (cs : List Char) : Nat × Nat × Nat :=
  match splitMark '-' cs with
  | (first, none) => (codeOf first, codeOf first, 1)
  | (first, some rest) =>
    match splitMark '/' rest with
    | (last, none) => (codeOf first, codeOf last, 1)
    | (last, some step) => (codeOf first, codeOf last, codeOf step)

/-- The code points from `first` to `last` in steps. -/
def steps (first last step : Nat) : List Nat :=
  (List.range ((last - first) / step + 1)).map fun n => first + n * step

/-- The ranges of an entry. -/
def entryRanges (cs : List Char) : List (Nat × Nat) :=
  match readEntry cs with
  | (first, last, 1) => [(first, last)]
  | (first, last, step) => (steps first last step).map fun code => (code, code)

/-- The entries of the rows of a table. -/
def tableEntries (table : List String) : List (List Char) :=
  table.flatMap fun row => splitMarks ' ' row.toList

end Unicode

/-- The set of the rows of a table. -/
def CharSet.ofTable (table : List String) : CharSet :=
  normalize ((Unicode.tableEntries table).flatMap Unicode.entryRanges)

end Criteria
