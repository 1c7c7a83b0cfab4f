/-!
# The syntax of patterns

Patterns as trees, the way they are written: character classes by name, repetitions by their bounds,
flags where they stand. `Syntax.depth` and `ClassSet.depth` count how deep the parts that nest are
nested.
-/

namespace Criteria

namespace Pattern

/-- A flag. -/
inductive Flag where
  /-- Letters match in either case. -/
  | ignoreCase
  /-- Line ends count where text ends do. -/
  | multiLine
  /-- The dot matches line ends too. -/
  | dotAll
  /-- Repetitions prefer to be short. -/
  | swapGreed
  /-- Characters are those of Unicode and not just those of ASCII. -/
  | unicode
  /-- A carriage return counts as part of a line end. -/
  | crlf
  /-- Blanks and comments in the pattern do not count. -/
  | spaced
deriving DecidableEq, Repr

namespace Flag

/-- The flag of a letter. -/
def ofLetter? : Char → Option Flag
  | 'i' => some .ignoreCase
  | 'm' => some .multiLine
  | 's' => some .dotAll
  | 'U' => some .swapGreed
  | 'u' => some .unicode
  | 'R' => some .crlf
  | 'x' => some .spaced
  | _ => none

end Flag

/-- Flags that are set or cleared, each flag at most once. -/
abbrev FlagChanges := List (Flag × Bool)

/-- What flags change a flag to, if they do. -/
def FlagChanges.get? (changes : FlagChanges) (flag : Flag) : Option Bool :=
  (changes.find? fun (f, _) => f = flag).map Prod.snd

/-- A character that stands for itself. -/
structure Literal where
  /-- The character. -/
  char : Char
  /-- Whether it is written as the two hexadecimal digits of a byte. -/
  isByte : Bool
deriving DecidableEq, Repr

/-- A condition on a place in the text. -/
inductive Anchor where
  /-- The beginning of the text, or of a line where lines count. -/
  | lineStart
  /-- The end of the text, or of a line where lines count. -/
  | lineEnd
  /-- The beginning of the text. -/
  | textStart
  /-- The end of the text. -/
  | textEnd
  /-- Between a character of a word and one that is not. -/
  | wordBoundary
  /-- Between two characters of a word or two that are not. -/
  | notWordBoundary
  /-- At the beginning of a word. -/
  | wordStart
  /-- At the end of a word. -/
  | wordEnd
  /-- Not behind a character of a word. -/
  | wordStartHalf
  /-- Not in front of a character of a word. -/
  | wordEndHalf
deriving DecidableEq, Repr

/-- A class with a letter of its own. -/
inductive LetterClass where
  | digit | space | word
deriving DecidableEq, Repr

/-- How a property of characters is asked for. -/
inductive PropertyQuery where
  /-- By a name. -/
  | named (name : List Char)
  /-- By a property and one of its values. -/
  | valued (property value : List Char)
deriving DecidableEq, Repr

/-- An operation on two classes. -/
inductive ClassOperation where
  | inter | diff | symmDiff
deriving DecidableEq, Repr

/-- A character class between brackets. -/
inductive ClassSet where
  /-- No character. -/
  | empty
  /-- One character. -/
  | literal (l : Literal)
  /-- The characters from one to another. -/
  | range (first last : Literal)
  /-- A class of ASCII, under its name. -/
  | ascii (negated : Bool) (name : String)
  /-- A class with a letter of its own. -/
  | letter (negated : Bool) (c : LetterClass)
  /-- The characters with a property. -/
  | property (negated : Bool) (query : PropertyQuery)
  /-- A class between brackets of its own. -/
  | bracketed (negated : Bool) (set : ClassSet)
  /-- Several classes together. -/
  | union (sets : List ClassSet)
  /-- An operation on two classes. -/
  | operation (op : ClassOperation) (left right : ClassSet)

/-- A pattern as it is written. -/
inductive Syntax where
  /-- Nothing. -/
  | empty
  /-- Flags for what follows. -/
  | flags (changes : FlagChanges)
  /-- A character. -/
  | literal (l : Literal)
  /-- Any character. -/
  | dot
  /-- A condition on a place. -/
  | anchor (a : Anchor)
  /-- A class with a letter of its own. -/
  | letter (negated : Bool) (c : LetterClass)
  /-- The characters with a property. -/
  | property (negated : Bool) (query : PropertyQuery)
  /-- A class between brackets. -/
  | bracketed (negated : Bool) (set : ClassSet)
  /-- A pattern repeated at least and at most so often; without an upper bound as often as it
  matches. A greedy repetition prefers to be long, unless the flag `U` swaps that. -/
  | repetition (least : Nat) (most : Option Nat) (greedy : Bool) (body : Syntax)
  /-- A group that is captured, with flags for its inside unless it is. -/
  | group (captured : Bool) (changes : FlagChanges) (body : Syntax)
  /-- Several patterns of which one has to match. -/
  | alternation (branches : List Syntax)
  /-- Several patterns in a row. -/
  | concat (parts : List Syntax)

/-! ### Nesting -/

namespace ClassSet

/-- The class of several ones; a single one stands for itself. -/
def ofList : List ClassSet → ClassSet
  | [] => .empty
  | [set] => set
  | sets => .union sets

mutual

/-- How deep brackets, unions and operations are nested. -/
def depth : ClassSet → Nat
  | .bracketed _ set => depth set + 1
  | .union sets => depthOfAll sets + 1
  | .operation _ left right => max (depth left) (depth right) + 1
  | _ => 0

/-- The greatest depth among classes. -/
def depthOfAll : List ClassSet → Nat
  | [] => 0
  | set :: sets => max (depth set) (depthOfAll sets)

end

end ClassSet

namespace Syntax

/-- Patterns in a row; a single one stands for itself. -/
def ofParts : List Syntax → Syntax
  | [] => .empty
  | [part] => part
  | parts => .concat parts

/-- Alternative patterns; a single one stands for itself. -/
def ofBranches : List Syntax → Syntax
  | [] => .empty
  | [branch] => branch
  | branches => .alternation branches

mutual

/-- How deep the parts of a pattern are nested. -/
def depth : Syntax → Nat
  | .bracketed _ set => set.depth + 1
  | .repetition _ _ _ body => depth body + 1
  | .group _ _ body => depth body + 1
  | .alternation branches => depthOfAll branches + 1
  | .concat parts => depthOfAll parts + 1
  | _ => 0

/-- The greatest depth among patterns. -/
def depthOfAll : List Syntax → Nat
  | [] => 0
  | part :: parts => max (depth part) (depthOfAll parts)

end

end Syntax

end Pattern

end Criteria
