import Criteria.Unicode.FoldTable
import Criteria.Unicode.Table

/-!
# Sets closed under case folding

Two characters are the same but for their case if they fold to the same character. `CharSet.fold`
adds to a set all characters that are the same as one of its own but for their case.
-/

namespace Criteria

namespace Unicode

/-- The foldings of an entry of the table, from code point to code point. -/
def entryFolds (cs : List Char) : List (Nat × Nat) :=
  match splitMark '>' cs with
  | (_, none) => []
  | (sources, some target) =>
    let (first, last, step) := readEntry sources
    (steps first last step).map fun code => (code, codeOf target + (code - first))

/-- The foldings of a table. -/
def readFolds (table : List String) : List (Nat × Nat) :=
  (tableEntries table).flatMap entryFolds

/-- The simple case foldings of Unicode, from code point to code point. -/
def folds : List (Nat × Nat) := readFolds foldTable

/-- The simple case foldings within ASCII. -/
def asciiFolds : List (Nat × Nat) := readFolds ["41-5A>61"]

end Unicode

namespace CharSet

/-- Closes a set under some foldings. -/
def foldBy (folds : List (Nat × Nat)) (s : CharSet) : CharSet :=
  let reached := folds.filter fun (source, target) => s.hasCode source || s.hasCode target
  let targets := normalize (reached.map fun (_, target) => (target, target))
  let sources := folds.filter fun (_, target) => targets.hasCode target
  normalize (s.ranges ++ targets.ranges ++ sources.map fun (source, _) => (source, source))

/-- Closes a set under the simple case folding of Unicode. -/
def fold (s : CharSet) : CharSet := s.foldBy Unicode.folds

/-- Closes a set under the case folding of ASCII. -/
def foldAscii (s : CharSet) : CharSet := s.foldBy Unicode.asciiFolds

end CharSet

end Criteria
