import Criteria.Double.Rounding
import Criteria.Json.Basic
import Criteria.Text

/-!
# Reading JSON text

The readers of the parts of a document. Arrays and objects may only be nested up to a given depth.

A number with a point or an exponent part, or beyond 64 bits, is read as a double: its significand
is cut off after the digits that fit into 64 bits, and then multiplied or divided by a power of ten.
Of two members of an object with one key the later one stays.
-/

namespace Criteria

namespace Json

/-- Reads an `α` from the front of a text. -/
abbrev Reader (α : Type) := (cs : List Char) → Option (α × Rest cs)

/-! ### Spaces -/

/-- The characters that may stand between tokens. -/
def isSpace (c : Char) : Bool := c = ' ' || c = '\n' || c = '\t' || c = '\r'

/-- The text without the spaces in front of it. -/
def skipSpaces (cs : List Char) : List Char := cs.dropWhile isSpace

theorem length_skipSpaces_le (cs : List Char) : (skipSpaces cs).length ≤ cs.length :=
  (List.dropWhile_suffix isSpace).length_le

/-- What follows the first character behind spaces is shorter than the text. -/
theorem length_lt_of_skipSpaces_eq_cons {cs rest : List Char} {c : Char}
    (h : skipSpaces cs = c :: rest) : rest.length < cs.length := by
  have hle := length_skipSpaces_le cs
  rw [h, List.length_cons] at hle
  exact hle

/-! ### Numbers -/

/-- The digits in front of a text, and the text after them. -/
def splitDigits (cs : List Char) : List Char × List Char :=
  (cs.takeWhile Char.isDigit, cs.dropWhile Char.isDigit)

/-- The value of a digit. -/
def digit (c : Char) : Nat := c.toNat - '0'.toNat

/-- A significand of at most 64 bits and a power of ten. -/
structure Scaled where
  /-- The significand. -/
  significand : Nat
  /-- The power of ten. -/
  exponent : Int

namespace Scaled

/-- Takes the digits of an integer part in: those that fit go into the significand, the others only
count as powers of ten. -/
def takeInteger (significand : Nat) : List Char → Scaled
  | [] => ⟨significand, 0⟩
  | c :: cs =>
    let next := significand * 10 + digit c
    if next < UInt64.size then takeInteger next cs else ⟨significand, cs.length + 1⟩

/-- Takes the digits of a fraction in, up to the first that does not fit. -/
def takeFraction (s : Scaled) : List Char → Scaled
  | [] => s
  | c :: cs =>
    let next := s.significand * 10 + digit c
    if next < UInt64.size then takeFraction ⟨next, s.exponent - 1⟩ cs else s

/-- The greatest power of ten of double precision. -/
def greatestPower : Nat := 308

/-- Multiplies or divides by a power of ten, one power of double precision at a time; fails when the
number gets too large. -/
def scale? (x : Double) (exponent : Int) : Option Double :=
  if exponent.natAbs ≤ greatestPower then
    let power := Double.ofInt (Nat.pow 10 exponent.natAbs)
    if 0 ≤ exponent then
      let y := x.mulFinite power
      if y.isFinite then some y else none
    else some (x.divFinite power)
  else if x.magnitude = 0 then some x
  else if 0 ≤ exponent then none
  else scale? (x.divFinite (Double.ofInt (Nat.pow 10 greatestPower))) (exponent + greatestPower)
termination_by exponent.natAbs
decreasing_by simp only [greatestPower] at *; omega

/-- The double that is read for a significand and a power of ten. -/
def toDouble? (s : Scaled) : Option Double := scale? (Double.ofInt s.significand) s.exponent

end Scaled

/-- The fraction of a number behind its point: at least one digit. -/
def splitFraction : List Char → Option (List Char × List Char)
  | '.' :: cs =>
    let (digits, rest) := splitDigits cs
    if digits.isEmpty then none else some (digits, rest)
  | cs => some ([], cs)

/-- The exponent of a number behind its mark: an optional sign and at least one digit. -/
def splitExponent (cs : List Char) : Option (Option Int × List Char) :=
  let digits (sign : Int) (cs : List Char) : Option (Option Int × List Char) :=
    let (digits, rest) := splitDigits cs
    if digits.isEmpty then none
    else some (some (sign * (digits.foldl (fun n c => n * 10 + digit c) 0 : Nat)), rest)
  let signed : List Char → Option (Option Int × List Char)
    | '+' :: cs => digits 1 cs
    | '-' :: cs => digits (-1) cs
    | cs => digits 1 cs
  match cs with
  | 'e' :: cs => signed cs
  | 'E' :: cs => signed cs
  | cs => some (none, cs)

/-- The number of an integer without fraction and exponent. A negative zero, and a negative integer
beyond 64 bits, is a double. -/
def ofInteger (negative : Bool) (n : Nat) : Json :=
  if negative then
    if n = 0 ∨ -(n : Int) < Int64.minValue.toInt then .double (-Double.ofInt n) else .integer (-n)
  else .integer n

/-- A number, behind its sign. -/
def scanNumber (negative : Bool) (cs : List Char) : Option (Json × List Char) := do
  let (digits, cs) := splitDigits cs
  if digits.isEmpty || (1 < digits.length && digits.head? = some '0') then none
  else
    let (fraction, cs) ← splitFraction cs
    let (exponent, cs) ← splitExponent cs
    let whole := Scaled.takeInteger 0 digits
    if whole.exponent = 0 ∧ fraction.isEmpty ∧ exponent.isNone then
      return (ofInteger negative whole.significand, cs)
    else
      let scaled := whole.takeFraction fraction
      let x ← Scaled.toDouble? { scaled with exponent := scaled.exponent + exponent.getD 0 }
      return (.double (if negative then -x else x), cs)

/-- A number. -/
def readNumber : Reader Json
  | '-' :: cs => consumed ('-' :: cs) (scanNumber true cs)
  | cs => consumed cs (scanNumber false cs)

/-! ### Strings -/

/-- The character that two surrogates stand for. -/
def ofSurrogates? (high low : Nat) : Option Char :=
  if 0xD800 ≤ high ∧ high < 0xDC00 ∧ 0xDC00 ≤ low ∧ low < 0xE000 then
    some (Char.ofNat (0x10000 + (high - 0xD800) * 0x400 + (low - 0xDC00)))
  else none

/-- The character of an escape, behind its backslash. A surrogate counts only in a pair. -/
def scanEscape : List Char → Option (Char × List Char)
  | '"' :: cs => some ('"', cs)
  | '\\' :: cs => some ('\\', cs)
  | '/' :: cs => some ('/', cs)
  | 'b' :: cs => some ('\x08', cs)
  | 'f' :: cs => some ('\x0c', cs)
  | 'n' :: cs => some ('\n', cs)
  | 'r' :: cs => some ('\r', cs)
  | 't' :: cs => some ('\t', cs)
  | 'u' :: a :: b :: c :: d :: cs => do
    let unit ← readHex? [a, b, c, d]
    if unit < 0xD800 ∨ 0xE000 ≤ unit then return (Char.ofNat unit, cs)
    else
      match cs with
      | '\\' :: 'u' :: a :: b :: c :: d :: cs => do
        let char ← ofSurrogates? unit (← readHex? [a, b, c, d])
        return (char, cs)
      | _ => none
  | _ => none

/-- The characters of a string up to its closing quote. -/
def readChars (cs : List Char) : Option (List Char × Rest cs) :=
  match cs with
  | [] => none
  | '"' :: cs => some ([], ⟨cs, by simp⟩)
  | '\\' :: cs =>
    match consumed cs (scanEscape cs) with
    | none => none
    | some (c, ⟨rest, h⟩) =>
      match readChars rest with
      | none => none
      | some (chars, ⟨rest', h'⟩) => some (c :: chars, ⟨rest', by simp; omega⟩)
  | c :: cs =>
    if c.toNat < 0x20 then none
    else
      match readChars cs with
      | none => none
      | some (chars, ⟨rest, h⟩) => some (c :: chars, ⟨rest, by simp; omega⟩)
termination_by cs.length

/-- A string. -/
def readString : Reader String
  | '"' :: cs =>
    match readChars cs with
    | none => none
    | some (chars, ⟨rest, h⟩) => some (String.ofList chars, ⟨rest, by simp; omega⟩)
  | _ => none

/-! ### Documents -/

/-- A literal, which stands for `j`. -/
def readLiteral (literal : String) (j : Json) : Reader Json := fun cs =>
  if literal.toList.isPrefixOf cs then consumed cs (some (j, cs.drop literal.length)) else none

/-- One or more items with commas between them, and the closing character behind them. -/
def readItems {α : Type} (close : Char) (item : Reader α) (cs : List Char) :
    Option (List α × Rest cs) :=
  match item cs with
  | none => none
  | some (a, ⟨cs₁, h₁⟩) =>
    match h : skipSpaces cs₁ with
    | [] => none
    | c :: cs₂ =>
      have h₂ : cs₂.length < cs₁.length := length_lt_of_skipSpaces_eq_cons h
      if c = close then some ([a], ⟨cs₂, by omega⟩)
      else if c = ',' then
        match readItems close item cs₂ with
        | none => none
        | some (as, ⟨cs₃, h₃⟩) => some (a :: as, ⟨cs₃, by omega⟩)
      else none
termination_by cs.length

/-- No items at all, or one or more, and the closing character behind them. -/
def readSequence {α : Type} (close : Char) (item : Reader α) : Reader (List α) := fun cs =>
  match h : skipSpaces cs with
  | [] => none
  | c :: rest =>
    if c = close then
      some ([], ⟨rest, length_lt_of_skipSpaces_eq_cons h⟩)
    else readItems close item cs

/-- Reads behind spaces. -/
def readSpaced {α : Type} (reader : Reader α) : Reader α := fun cs =>
  match reader (skipSpaces cs) with
  | none => none
  | some (a, ⟨rest, h⟩) => some (a, ⟨rest, by have := length_skipSpaces_le cs; omega⟩)

/-- A member of an object: its key, a colon and its value. -/
def readMember {α : Type} (value : Reader α) : Reader (String × α) := fun cs =>
  match readSpaced readString cs with
  | none => none
  | some (key, ⟨cs₁, h₁⟩) =>
    match h : skipSpaces cs₁ with
    | ':' :: cs₂ =>
      match value cs₂ with
      | none => none
      | some (a, ⟨cs₃, h₃⟩) =>
        some ((key, a), ⟨cs₃, by have := length_lt_of_skipSpaces_eq_cons h; omega⟩)
    | _ => none

/-- Reads behind a character that is already known. -/
def readBehind {α : Type} (reader : Reader α) : Reader α
  | [] => none
  | _ :: cs =>
    match reader cs with
    | none => none
    | some (a, ⟨rest, h⟩) => some (a, ⟨rest, by simp; omega⟩)

/-- A document whose elements and member values are read by `inner`; without `inner` it may be
neither array nor object. -/
def readWith (inner : Option (Reader Json)) : Reader Json := readSpaced fun cs =>
  match cs.head?, inner with
  | some 'n', _ => readLiteral "null" .null cs
  | some 't', _ => readLiteral "true" (.bool true) cs
  | some 'f', _ => readLiteral "false" (.bool false) cs
  | some '"', _ => (readString cs).map fun (s, rest) => (.string s, rest)
  | some '[', some element =>
    (readBehind (readSequence ']' element) cs).map fun (items, rest) => (.array items, rest)
  | some '\x7b', some value =>
    (readBehind (readSequence '\x7d' (readMember value)) cs).map
      fun (members, rest) => (.object (SortedMap.ofList members), rest)
  | _, _ => readNumber cs

/-- A document with arrays and objects nested at most `depth` deep. -/
def readDocument : (depth : Nat) → Reader Json
  | 0, cs => readWith none cs
  | depth + 1, cs => readWith (some (readDocument depth)) cs

/-- How deep arrays and objects may be nested in a text. -/
def nestingLimit : Nat := 127

/-- The document that a text spells, with arrays and objects nested at most `depth` deep. -/
def parseNested? (depth : Nat) (text : String) : Option Json :=
  match readDocument depth text.toList with
  | some (j, rest) => if (skipSpaces rest.1).isEmpty then some j else none
  | none => none

/-- The document that a text spells. -/
def parse? (text : String) : Option Json := parseNested? nestingLimit text

end Json

end Criteria
