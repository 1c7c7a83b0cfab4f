/-!
# Reading texts

What the readers of dates, patterns and documents have in common: the text that a reader leaves, the
blanks around and between the parts of a text, and numbers in hexadecimal digits.
-/

namespace Criteria

/-! ### What is left of a text

A reader takes a text apart from the front and returns, with what it read, the text that is left.
That text is shorter than the one it began with, so a loop over readers ends. -/

/-- What is left of a text after something was read from it. -/
abbrev Rest (cs : List Char) := { rest : List Char // rest.length < cs.length }

/-- What was read from a text and what is left of it, if anything was read at all. -/
def consumed {α : Type} (cs : List Char) : Option (α × List Char) → Option (α × Rest cs)
  | some (a, rest) => if h : rest.length < cs.length then some (a, ⟨rest, h⟩) else none
  | none => none

/-! ### Blanks

The characters with the Unicode property White_Space. They surround and pad dates, and separate the
parts of a pattern written in the spaced style. -/

/-- Whether a character has the property White_Space. -/
def isBlank (c : Char) : Bool :=
  let n := c.toNat
  (9 ≤ n && n ≤ 13) || n = 0x20 || n = 0x85 || n = 0xA0 || n = 0x1680 ||
  (0x2000 ≤ n && n ≤ 0x200A) || n = 0x2028 || n = 0x2029 || n = 0x202F || n = 0x205F || n = 0x3000

/-- The text without the blanks in front of it. -/
def skipBlanks (cs : List Char) : List Char := cs.dropWhile isBlank

/-- The text without the blanks around it. -/
def trimBlanks (cs : List Char) : List Char := (skipBlanks (skipBlanks cs).reverse).reverse

/-! ### Hexadecimal digits -/

/-- The value of a hexadecimal digit, with letters of either case. -/
def hexDigit? (c : Char) : Option Nat :=
  if '0' ≤ c ∧ c ≤ '9' then some (c.toNat - '0'.toNat)
  else if 'a' ≤ c ∧ c ≤ 'f' then some (c.toNat - 'a'.toNat + 10)
  else if 'A' ≤ c ∧ c ≤ 'F' then some (c.toNat - 'A'.toNat + 10)
  else none

/-- The number that some digits spell, the first digit counting most. -/
def hexValue (digits : List Nat) : Nat := digits.foldl (fun n d => n * 16 + d) 0

/-- The number that some characters spell, if all of them are hexadecimal digits. -/
def readHex? (cs : List Char) : Option Nat := (cs.mapM hexDigit?).map hexValue

end Criteria
