import Criteria.Pattern.Syntax
import Criteria.Text
import Criteria.Unicode.Property

/-!
# The parts of a pattern

Readers for what a pattern is made of below groups and brackets: escapes, bounds of repetitions,
flags and names of groups. In a spaced pattern blanks and comments are passed over wherever a part
of a pattern may begin, also inside of escapes and bounds.
-/

namespace Criteria

namespace Pattern

/-! ### Blanks and comments -/

/-- The text without the blanks and comments in front of it; a comment goes to the end of its
line. -/
def skipComments (inComment : Bool) : List Char → List Char
  | [] => []
  | c :: cs =>
    if inComment then skipComments (c != '\n') cs
    else if isBlank c then skipComments false cs
    else if c = '#' then skipComments true cs
    else c :: cs

/-- The text from its next part on. -/
def skip (spaced : Bool) (cs : List Char) : List Char :=
  if spaced then skipComments false cs else cs

theorem length_skipComments_le (inComment : Bool) (cs : List Char) :
    (skipComments inComment cs).length ≤ cs.length := by
  induction cs generalizing inComment with
  | nil => simp [skipComments]
  | cons c cs ih =>
    simp only [skipComments]
    split
    · exact Nat.le_succ_of_le (ih _)
    · split
      · exact Nat.le_succ_of_le (ih _)
      · split
        · exact Nat.le_succ_of_le (ih _)
        · exact Nat.le_refl _

theorem length_skip_le (spaced : Bool) (cs : List Char) : (skip spaced cs).length ≤ cs.length := by
  unfold skip
  split
  · exact length_skipComments_le _ _
  · exact Nat.le_refl _

/-- The longest run of characters with a property in front of a text, blanks and comments after each
of them passed over, and the text behind them. -/
def takeRun (spaced : Bool) (p : Char → Bool) (cs : List Char) : List Char × List Char :=
  match cs with
  | [] => ([], [])
  | c :: cs =>
    if p c then
      let (run, rest) := takeRun spaced p (skip spaced cs)
      (c :: run, rest)
    else ([], c :: cs)
termination_by cs.length
decreasing_by have := length_skip_le spaced cs; simp; omega

/-- The first few characters of a text, blanks and comments after each of them passed over, and the
text behind them. -/
def takeCount (spaced : Bool) : (count : Nat) → List Char → Option (List Char × List Char)
  | 0, cs => some ([], cs)
  | _ + 1, [] => none
  | count + 1, c :: cs =>
    (takeCount spaced count (skip spaced cs)).map fun (run, rest) => (c :: run, rest)

/-! ### Escapes -/

/-- The character of a code point, if it has one. -/
def charOfCode? (code : Nat) : Option Char :=
  if code < 0xD800 ∨ 0xDFFF < code ∧ code < 0x110000 then some (Char.ofNat code) else none

/-- A character by its code point: so many hexadecimal digits, or any number of them in braces. -/
def readCode (spaced : Bool) (width : Nat) (cs : List Char) : Option (Syntax × List Char) :=
  match skip spaced cs with
  | '\x7b' :: cs =>
    match takeRun spaced (· != '\x7d') (skip spaced cs) with
    | (_, []) => none
    | (digits, _ :: rest) => do
      if digits.isEmpty then none
      else
        let char ← charOfCode? (← readHex? digits)
        return (.literal ⟨char, false⟩, rest)
  | cs => do
    let (digits, rest) ← takeCount spaced width cs
    let char ← charOfCode? (← readHex? digits)
    return (.literal ⟨char, width = 2⟩, rest)

/-- A query in braces: a name, or a property and a value with `!=`, `:` or `=` between them. The
result says whether the value is excluded. -/
def readQuery (text : List Char) : Bool × PropertyQuery :=
  let rec splitUnequal : List Char → Option (List Char × List Char)
    | '!' :: '=' :: value => some ([], value)
    | c :: cs => (splitUnequal cs).map fun (property, value) => (c :: property, value)
    | [] => none
  let splitAt (mark : Char) : Option (List Char × List Char) :=
    match Unicode.splitMark mark text with
    | (property, some value) => some (property, value)
    | (_, none) => none
  match splitUnequal text with
  | some (property, value) => (true, .valued property value)
  | none =>
    match splitAt ':' <|> splitAt '=' with
    | some (property, value) => (false, .valued property value)
    | none => (false, .named text)

/-- The characters with a property: a query in braces, or a name of one character. -/
def readProperty (spaced negated : Bool) (cs : List Char) : Option (Syntax × List Char) :=
  match skip spaced cs with
  | [] => none
  | '\x7b' :: cs =>
    match takeRun spaced (· != '\x7d') (skip spaced cs) with
    | (_, []) => none
    | (text, _ :: rest) =>
      let (excluded, query) := readQuery text
      some (.property (negated != excluded) query, rest)
  | c :: rest => if c = '\\' then none else some (.property negated (.named [c]), rest)

/-- The word boundary of a name. -/
def boundary? (name : List Char) : Option Anchor :=
  if name = "start".toList then some .wordStart
  else if name = "end".toList then some .wordEnd
  else if name = "start-half".toList then some .wordStartHalf
  else if name = "end-half".toList then some .wordEndHalf
  else none

/-- Whether a character may stand in the name of a word boundary. -/
def isBoundaryChar (c : Char) : Bool := c.isAlpha || c = '-'

/-- A word boundary, behind its letter: the plain one, or a special one with its name in braces.
Braces without a name are the bounds of a repetition. -/
def readBoundary (spaced : Bool) : List Char → Option (Syntax × List Char)
  | '\x7b' :: cs =>
    match skip spaced cs with
    | [] => none
    | c :: cs' =>
      if isBoundaryChar c then
        match takeRun spaced isBoundaryChar (c :: cs') with
        | (name, '\x7d' :: rest) => (boundary? name).map fun a => (.anchor a, rest)
        | _ => none
      else some (.anchor .wordBoundary, '\x7b' :: cs)
  | cs => some (.anchor .wordBoundary, cs)

/-- Whether a character that is escaped stands for itself: those of ASCII that are neither letters
nor digits nor angle brackets. -/
def isPlainEscape (c : Char) : Bool :=
  c.toNat < 0x80 && !c.isAlphanum && c != '<' && c != '>'

/-- An escape, behind its backslash. -/
def readEscape (spaced : Bool) : List Char → Option (Syntax × List Char)
  | [] => none
  | c :: cs =>
    let char (code : Char) : Option (Syntax × List Char) := some (.literal ⟨code, false⟩, cs)
    let anchor (a : Anchor) : Option (Syntax × List Char) := some (.anchor a, cs)
    let letter (negated : Bool) (l : LetterClass) : Option (Syntax × List Char) :=
      some (.letter negated l, cs)
    match c with
    | 'x' => readCode spaced 2 cs
    | 'u' => readCode spaced 4 cs
    | 'U' => readCode spaced 8 cs
    | 'p' => readProperty spaced false cs
    | 'P' => readProperty spaced true cs
    | 'd' => letter false .digit
    | 'D' => letter true .digit
    | 's' => letter false .space
    | 'S' => letter true .space
    | 'w' => letter false .word
    | 'W' => letter true .word
    | 'a' => char '\x07'
    | 'f' => char '\x0c'
    | 't' => char '\t'
    | 'n' => char '\n'
    | 'r' => char '\r'
    | 'v' => char '\x0b'
    | 'A' => anchor .textStart
    | 'z' => anchor .textEnd
    | 'b' => readBoundary spaced cs
    | 'B' => anchor .notWordBoundary
    | '<' => anchor .wordStart
    | '>' => anchor .wordEnd
    | c => if isPlainEscape c then char c else none

/-! ### Repetitions -/

/-- The greatest bound of a repetition. -/
def greatestBound : Nat := UInt32.size - 1

/-- A bound of a repetition with blanks around it; `none` inside stands for no digits at all. -/
def readBound (spaced : Bool) (cs : List Char) : Option (Option Nat × List Char) :=
  let (digits, rest) := takeRun spaced Char.isDigit (skipBlanks cs)
  let rest := (takeRun spaced isBlank rest).2
  let value := digits.foldl (fun n c => n * 10 + (c.toNat - '0'.toNat)) 0
  if digits.isEmpty then some (none, rest)
  else if value ≤ greatestBound then some (some value, rest)
  else none

/-- The bounds of a repetition, behind the opening brace and with the closing one: `n`, `n,` or
`n,m`. -/
def readBounds (spaced : Bool) (cs : List Char) : Option ((Nat × Option Nat) × List Char) := do
  let (least, cs) ← readBound spaced (skip spaced cs)
  let least ← least
  match cs with
  | '\x7d' :: rest => return ((least, some least), rest)
  | ',' :: cs =>
    match skip spaced cs with
    | '\x7d' :: rest => return ((least, none), rest)
    | cs =>
      let (most, cs) ← readBound spaced cs
      let most ← most
      match cs with
      | '\x7d' :: rest => if least ≤ most then return ((least, some most), rest) else none
      | _ => none
  | _ => none

/-! ### Groups -/

/-- Flags up to a colon or a closing parenthesis, and which of the two it is. After a hyphen flags
are cleared; `dangling` says that the hyphen was the last thing read. -/
def readFlags (cleared dangling : Bool) (changes : FlagChanges) :
    List Char → Option ((FlagChanges × Bool) × List Char)
  | [] => none
  | c :: cs =>
    if c = ':' ∨ c = ')' then
      if dangling then none else some ((changes, c = ':'), cs)
    else if c = '-' then
      if cleared then none else readFlags true true changes cs
    else
      match Flag.ofLetter? c with
      | some flag =>
        if (changes.get? flag).isSome then none
        else readFlags cleared false (changes ++ [(flag, !cleared)]) cs
      | none => none

/-- The characters that count as letters in names, those of a later version among them. -/
def letters : CharSet :=
  .union (.ofTable Unicode.laterLetterTable) ((Unicode.binary? "alphabetic").getD .empty)

/-- The characters that count as letters or as numbers in names. -/
def lettersAndNumbers : CharSet :=
  .unionAll [letters, .ofTable Unicode.laterNumberTable, (Unicode.category? "n").getD .empty]

/-- The name of a group up to its closing angle bracket: it begins with a letter or an underscore,
and goes on with letters, numbers and a few marks. -/
def readName (cs : List Char) : Option (List Char × List Char) :=
  match Unicode.splitMark '>' cs with
  | (name, some rest) =>
    match name with
    | [] => none
    | c :: more =>
      if (c = '_' || letters.has c) &&
          more.all fun c =>
            c = '_' || c = '.' || c = '[' || c = ']' || lettersAndNumbers.has c
      then some (name, rest) else none
  | (_, none) => none

end Pattern

end Criteria
