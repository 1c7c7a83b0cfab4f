import Criteria.Pattern.Syntax
import Criteria.Unicode.Property

/-!
# Expressions and where they match

An expression is a pattern whose classes and flags have been worked out: its atoms either read one
character of a set or ask for a place in the text. For one text every atom is a move between
positions, and a set of positions is a number whose bits are the positions; `Expr.reach` follows an
expression from all positions of a set at once.

A text of `n` characters has `n + 1` positions and no move goes back, so repeating an expression
more than `n + 1` times reaches nothing new. That bound takes the place of every greater one.
-/

namespace Criteria

namespace Pattern

/-- The flags at some point of a pattern, but for the one that its reader needs. -/
structure Flags where
  /-- Letters match in either case. -/
  ignoreCase : Bool
  /-- Line ends count where text ends do. -/
  multiLine : Bool
  /-- The dot matches line ends too. -/
  dotAll : Bool
  /-- Greedy repetitions prefer to be short, and the others to be long. -/
  swapGreed : Bool
  /-- Characters are those of Unicode and not just those of ASCII. -/
  unicode : Bool
  /-- A carriage return counts as part of a line end. -/
  crlf : Bool
deriving DecidableEq, Repr

namespace Flags

/-- The flags at the beginning of a pattern. -/
def default : Flags := ⟨false, false, false, false, true, false⟩

/-- The flags after some changes. -/
def change (f : Flags) (changes : FlagChanges) : Flags where
  ignoreCase := (changes.get? .ignoreCase).getD f.ignoreCase
  multiLine := (changes.get? .multiLine).getD f.multiLine
  dotAll := (changes.get? .dotAll).getD f.dotAll
  swapGreed := (changes.get? .swapGreed).getD f.swapGreed
  unicode := (changes.get? .unicode).getD f.unicode
  crlf := (changes.get? .crlf).getD f.crlf

end Flags

/-- A condition on a place in the text, whatever flags it was written under. -/
inductive Place where
  /-- At the beginning of the text. -/
  | textStart
  /-- At the end of the text. -/
  | textEnd
  /-- At the beginning of a line; a carriage return may count as part of a line end. -/
  | lineStart (crlf : Bool)
  /-- At the end of a line; a carriage return may count as part of a line end. -/
  | lineEnd (crlf : Bool)
  /-- At the edge of a word, whose characters are those of Unicode or just those of ASCII. -/
  | wordBoundary (unicode : Bool)
  /-- Not at the edge of a word. -/
  | notWordBoundary (unicode : Bool)
  /-- At the beginning of a word. -/
  | wordStart (unicode : Bool)
  /-- At the end of a word. -/
  | wordEnd (unicode : Bool)
  /-- Not behind a character of a word. -/
  | wordStartHalf (unicode : Bool)
  /-- Not in front of a character of a word. -/
  | wordEndHalf (unicode : Bool)
deriving DecidableEq, Repr

/-- The condition of an anchor under some flags. -/
def Anchor.place (f : Flags) : Anchor → Place
  | .lineStart => if f.multiLine then .lineStart f.crlf else .textStart
  | .lineEnd => if f.multiLine then .lineEnd f.crlf else .textEnd
  | .textStart => .textStart
  | .textEnd => .textEnd
  | .wordBoundary => .wordBoundary f.unicode
  | .notWordBoundary => .notWordBoundary f.unicode
  | .wordStart => .wordStart f.unicode
  | .wordEnd => .wordEnd f.unicode
  | .wordStartHalf => .wordStartHalf f.unicode
  | .wordEndHalf => .wordEndHalf f.unicode

/-- What an expression is made of. -/
inductive Atom where
  /-- Reads one character of a set. -/
  | chars (set : CharSet)
  /-- Asks for a place in the text. -/
  | place (p : Place)

/-- An expression over atoms of some kind. -/
inductive Expr (α : Type) where
  /-- Reads nothing. -/
  | empty
  /-- An atom. -/
  | atom (a : α)
  /-- Expressions one after the other. -/
  | concat (parts : List (Expr α))
  /-- One of several expressions. -/
  | choice (branches : List (Expr α))
  /-- An expression repeated at least and at most so often; without an upper bound any number of
  times. Where a greedy repetition matches, one that is not does too. -/
  | repetition (least : Nat) (most : Option Nat) (greedy : Bool) (body : Expr α)
  /-- A captured group. -/
  | capture (body : Expr α)

namespace Expr

variable {α β : Type}

mutual

/-- Applies `f` to every atom. -/
def map (f : α → β) : Expr α → Expr β
  | .empty => .empty
  | .atom a => .atom (f a)
  | .concat parts => .concat (mapEach f parts)
  | .choice branches => .choice (mapEach f branches)
  | .repetition least most greedy body => .repetition least most greedy (map f body)
  | .capture body => .capture (map f body)

/-- Applies `f` to every atom of every expression. -/
def mapEach (f : α → β) : List (Expr α) → List (Expr β)
  | [] => []
  | e :: es => map f e :: mapEach f es

end

end Expr

/-! ### Places -/

/-- The ASCII characters of words. -/
def asciiWord : CharSet := .ofTable ["30-39 41-5A 5F 61-7A"]

/-- Whether there is a character and it is one of words. -/
def inWord (unicode : Bool) (c : Option Char) : Bool :=
  c.any (if unicode then CharSet.word else asciiWord).has

/-- Whether a condition holds between two characters, of which there may be none at an end of the
text. -/
def Place.holds (p : Place) (before after : Option Char) : Bool :=
  match p with
  | .textStart => before.isNone
  | .textEnd => after.isNone
  | .lineStart crlf =>
    before.isNone || before == some '\n' || crlf && before == some '\r' && after != some '\n'
  | .lineEnd crlf =>
    after.isNone ||
      (if crlf then after == some '\r' || after == some '\n' && before != some '\r'
       else after == some '\n')
  | .wordBoundary unicode => inWord unicode before != inWord unicode after
  | .notWordBoundary unicode => inWord unicode before == inWord unicode after
  | .wordStart unicode => !inWord unicode before && inWord unicode after
  | .wordEnd unicode => inWord unicode before && !inWord unicode after
  | .wordStartHalf unicode => !inWord unicode before
  | .wordEndHalf unicode => !inWord unicode after

/-! ### Positions -/

/-- The positions between two characters with a property, among those of a text behind a given
character. -/
def positionsWith (p : Option Char → Option Char → Bool) (before : Option Char) :
    List Char → Nat
  | [] => if p before none then 1 else 0
  | c :: cs => (if p before (some c) then 1 else 0) + 2 * positionsWith p (some c) cs

/-- A move between the positions of a text. -/
inductive Move where
  /-- From each of some positions to the next one. -/
  | step (positions : Nat)
  /-- From each of some positions to itself. -/
  | stay (positions : Nat)

/-- Where a move leads from a set of positions. -/
def Move.from : Move → Nat → Nat
  | .step positions, starts => (starts &&& positions) * 2
  | .stay positions, starts => starts &&& positions

/-- The move of an atom in a text. -/
def Atom.move (text : List Char) : Atom → Move
  | .chars set => .step (positionsWith (fun _ after => after.any set.has) none text)
  | .place p => .stay (positionsWith p.holds none text)

/-- Where `f` leads when it is applied so many times. -/
def times (f : Nat → Nat) : Nat → Nat → Nat
  | 0, starts => starts
  | n + 1, starts => times f n (f starts)

/-- Where `f` leads when it is applied at most so many times. -/
def upTo (f : Nat → Nat) : Nat → Nat → Nat
  | 0, starts => starts
  | n + 1, starts =>
    let reached := starts ||| f starts
    if reached = starts then starts else upTo f n reached

namespace Expr

mutual

/-- The positions at which a match from one of some positions may end, in a text with at most
`limit` positions. -/
def reach (limit : Nat) : Expr Move → Nat → Nat
  | .empty, starts => starts
  | .atom move, starts => move.from starts
  | .concat parts, starts => reachThrough limit parts starts
  | .choice branches, starts => reachAny limit branches starts
  | .repetition least most _ body, starts =>
    let more := match most with
      | some most => min (most - least) limit
      | none => limit
    upTo (reach limit body) more (times (reach limit body) (min least limit) starts)
  | .capture body, starts => reach limit body starts

/-- Where expressions one after the other lead. -/
def reachThrough (limit : Nat) : List (Expr Move) → Nat → Nat
  | [], starts => starts
  | e :: es, starts => reachThrough limit es (reach limit e starts)

/-- Where one of several expressions leads. -/
def reachAny (limit : Nat) : List (Expr Move) → Nat → Nat
  | [], _ => 0
  | e :: es, starts => reach limit e starts ||| reachAny limit es starts

end

/-- Whether an expression matches somewhere in a text. -/
def matchesIn (e : Expr Atom) (text : List Char) : Bool :=
  let positions := text.length + 1
  (e.map (Atom.move text)).reach positions ((1 <<< positions) - 1) != 0

end Expr

end Pattern

end Criteria
