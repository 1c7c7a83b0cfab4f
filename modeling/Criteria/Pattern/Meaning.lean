import Criteria.Pattern.Expr
import Criteria.Unicode.CaseFolding

/-!
# The meaning of patterns

From the tree of a pattern to an expression: flags are carried from left to right and to the end of
the group they stand in, and classes become sets of characters. A pattern has no meaning if it names
a property that there is not, or if it asks without the flag `u` for characters that only Unicode
has.
-/

namespace Criteria

namespace Pattern

/-! ### Sets of characters -/

/-- The characters of a class of ASCII. -/
def asciiClass (name : String) : CharSet :=
  match name with
  | "alnum" => .ofTable ["30-39 41-5A 61-7A"]
  | "alpha" => .ofTable ["41-5A 61-7A"]
  | "ascii" => .ofTable ["0-7F"]
  | "blank" => .ofTable ["9 20"]
  | "cntrl" => .ofTable ["0-1F 7F"]
  | "digit" => .ofTable ["30-39"]
  | "graph" => .ofTable ["21-7E"]
  | "lower" => .ofTable ["61-7A"]
  | "print" => .ofTable ["20-7E"]
  | "punct" => .ofTable ["21-2F 3A-40 5B-60 7B-7E"]
  | "space" => .ofTable ["9-D 20"]
  | "upper" => .ofTable ["41-5A"]
  | "word" => asciiWord
  | "xdigit" => .ofTable ["30-39 41-46 61-66"]
  | _ => .empty

namespace Flags

/-- A set closed under case folding, if case is ignored. -/
def folded (f : Flags) (set : CharSet) : CharSet :=
  if f.ignoreCase then (if f.unicode then set.fold else set.foldAscii) else set

/-- A set, or its complement. Without Unicode a set may only have characters of ASCII. -/
def checked? (f : Flags) (negated : Bool) (set : CharSet) : Option CharSet :=
  let set := if negated then set.complement else set
  if f.unicode || set.isAscii then some set else none

/-- The character of a literal. Without Unicode a byte beyond ASCII stands for no character. -/
def literal? (f : Flags) (l : Literal) : Option Char :=
  if !f.unicode && l.isByte && 0x80 ≤ l.char.toNat then none else some l.char

/-- The character of a literal in a class. Without Unicode it has to be one of ASCII. -/
def classLiteral? (f : Flags) (l : Literal) : Option Char :=
  if !f.unicode && 0x80 ≤ l.char.toNat then none else some l.char

/-- The characters of a class with a letter of its own. -/
def letterClass? (f : Flags) (negated : Bool) (c : LetterClass) : Option CharSet :=
  f.checked? negated <|
    match c, f.unicode with
    | .digit, true => .digit
    | .space, true => .blank
    | .word, true => .word
    | .digit, false => asciiClass "digit"
    | .space, false => asciiClass "space"
    | .word, false => asciiWord

/-- The characters that a query asks for; there are none without Unicode. -/
def property? (f : Flags) (negated : Bool) (query : PropertyQuery) : Option CharSet := do
  if f.unicode then
    let set ← match query with
      | .named name => Unicode.named? name
      | .valued property value => Unicode.valued? property value
    f.checked? negated (f.folded set)
  else none

end Flags

/-- The set that an operation makes of two. -/
def ClassOperation.apply : ClassOperation → CharSet → CharSet → CharSet
  | .inter, s, t => s.inter t
  | .diff, s, t => s.diff t
  | .symmDiff, s, t => s.symmDiff t

namespace ClassSet

mutual

/-- The characters of a class between brackets. -/
def chars? (f : Flags) : ClassSet → Option CharSet
  | .empty => some .empty
  | .literal l => (f.classLiteral? l).map .single
  | .range first last => do return .range (← f.classLiteral? first) (← f.classLiteral? last)
  | .ascii negated name => f.checked? negated (f.folded (asciiClass name))
  | .letter negated c => f.letterClass? negated c
  | .property negated query => f.property? negated query
  | .bracketed negated set => do f.checked? negated (f.folded (← chars? f set))
  | .union sets => (charsOfAll? f sets).map .unionAll
  | .operation op left right => do
    let s ← chars? f left
    let t ← chars? f right
    return op.apply (f.folded s) (f.folded t)

/-- The characters of each of several classes. -/
def charsOfAll? (f : Flags) : List ClassSet → Option (List CharSet)
  | [] => some []
  | set :: sets => do
    let s ← chars? f set
    let others ← charsOfAll? f sets
    return s :: others

end

end ClassSet

/-! ### Expressions -/

/-- The characters that a dot matches, all but line ends unless they are included. -/
def Flags.dot? (f : Flags) : Option CharSet :=
  if !f.unicode then none
  else if f.dotAll then some .full
  else some ((if f.crlf then CharSet.ofTable ["A D"] else CharSet.ofTable ["A"]).complement)

namespace Syntax

mutual

/-- The expression of a pattern, with the flags in front of it and those behind it. -/
def meaning? (f : Flags) : Syntax → Option (Expr Atom × Flags)
  | .empty => some (.empty, f)
  | .flags changes => some (.empty, f.change changes)
  | .literal l => (f.literal? l).map fun c => (.atom (.chars (f.folded (.single c))), f)
  | .dot => f.dot?.map fun set => (.atom (.chars set), f)
  | .anchor a => some (.atom (.place (a.place f)), f)
  | .letter negated c => (f.letterClass? negated c).map fun set => (.atom (.chars set), f)
  | .property negated query => (f.property? negated query).map fun set => (.atom (.chars set), f)
  | .bracketed negated set => do
    let set ← f.checked? negated (f.folded (← set.chars? f))
    return (.atom (.chars set), f)
  | .repetition least most greedy body => do
    let (e, f) ← meaning? f body
    return (.repetition least most (greedy != f.swapGreed) e, f)
  | .group captured changes body => do
    let (e, _) ← meaning? (f.change changes) body
    return (if captured then .capture e else e, f)
  | .alternation branches => do
    let (es, f) ← meanings? f branches
    return (.choice es, f)
  | .concat parts => do
    let (es, f) ← meanings? f parts
    return (.concat es, f)

/-- The expressions of patterns, with the flags in front of the first and those behind the last. -/
def meanings? (f : Flags) : List Syntax → Option (List (Expr Atom) × Flags)
  | [] => some ([], f)
  | part :: parts => do
    let (e, f) ← meaning? f part
    let (es, f) ← meanings? f parts
    return (e :: es, f)

end

end Syntax

end Pattern

end Criteria
