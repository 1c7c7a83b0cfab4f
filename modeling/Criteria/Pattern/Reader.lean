import Criteria.Pattern.Token
import Criteria.Text

/-!
# Reading patterns

From the text of a pattern to its tree. Groups and brackets that are open are kept on a stack, so
both readers are loops over the text, of which every turn reads at least one character.
-/

namespace Criteria

namespace Pattern

/-! ### Classes between brackets -/

/-- A bracket that is open. -/
structure OpenClass where
  /-- Whether the class is negated. -/
  negated : Bool
  /-- The operation that waits for its right side, with its left side. -/
  pending : Option (ClassOperation × ClassSet)
  /-- What was read since the bracket or the last operation, the last one first. -/
  sets : List ClassSet

namespace OpenClass

/-- Adds a class. -/
def push (o : OpenClass) (set : ClassSet) : OpenClass := { o with sets := set :: o.sets }

/-- What was read so far. -/
def inside (o : OpenClass) : ClassSet :=
  let right := ClassSet.ofList o.sets.reverse
  match o.pending with
  | some (op, left) => .operation op left right
  | none => right

/-- Begins the right side of an operation. -/
def operate (o : OpenClass) (op : ClassOperation) : OpenClass :=
  { o with pending := some (op, o.inside), sets := [] }

end OpenClass

/-- The operation of a character that is doubled. -/
def operation? (c : Char) : Option ClassOperation :=
  match c with
  | '&' => some .inter
  | '-' => some .diff
  | '~' => some .symmDiff
  | _ => none

/-- Hyphens at the beginning of a class, which stand for themselves. -/
def readHyphens (spaced : Bool) (cs : List Char) : List ClassSet × List Char :=
  let (hyphens, rest) := takeRun spaced (· == '-') cs
  (hyphens.map fun c => .literal ⟨c, false⟩, rest)

/-- The beginning of a class behind its bracket: a caret negates it, hyphens and, without hyphens, a
closing bracket stand for themselves. -/
def readOpening (spaced : Bool) (cs : List Char) : OpenClass × List Char :=
  let (negated, cs) :=
    match skip spaced cs with
    | '^' :: cs => (true, skip spaced cs)
    | cs => (false, cs)
  match readHyphens spaced cs with
  | ([], ']' :: rest) => (⟨negated, none, [.literal ⟨']', false⟩]⟩, skip spaced rest)
  | (hyphens, rest) => (⟨negated, none, hyphens.reverse⟩, rest)

/-- The names of the classes of ASCII. -/
def asciiNames : List String :=
  ["alnum", "alpha", "ascii", "blank", "cntrl", "digit", "graph", "lower", "print", "punct",
    "space", "upper", "word", "xdigit"]

/-- A class of ASCII by its name, behind the opening bracket. -/
def readAscii : List Char → Option (ClassSet × List Char)
  | ':' :: cs =>
    let (negated, cs) :=
      match cs with
      | '^' :: cs => (true, cs)
      | cs => (false, cs)
    match Unicode.splitMark ':' cs with
    | (name, some (']' :: rest)) =>
      let name := String.ofList name
      if asciiNames.contains name then some (.ascii negated name, rest) else none
    | _ => none
  | _ => none

/-- One character of a class, or one class with a letter or a property. -/
def readClassItem (spaced : Bool) : List Char → Option (Syntax × List Char)
  | [] => none
  | '\\' :: cs => readEscape spaced cs
  | c :: cs => some (.literal ⟨c, false⟩, cs)

/-- The class of what is read by `readClassItem`; conditions on places are none. -/
def classItem? : Syntax → Option ClassSet
  | .literal l => some (.literal l)
  | .letter negated c => some (.letter negated c)
  | .property negated query => some (.property negated query)
  | _ => none

/-- The next character but for blanks in a spaced pattern, and but for the mark of a comment. -/
def peek (spaced : Bool) (cs : List Char) : Option Char :=
  if spaced then
    match skipBlanks cs with
    | '#' :: cs => (skipBlanks cs).head?
    | cs => cs.head?
  else cs.head?

/-- One item of a class, or a range between two characters. A hyphen in front of a closing bracket
or of another hyphen makes no range. -/
def readClassRange (spaced : Bool) (cs : List Char) : Option (ClassSet × List Char) := do
  let (first, cs) ← readClassItem spaced cs
  match skip spaced cs with
  | [] => none
  | '-' :: behind =>
    if peek spaced behind = some ']' ∨ peek spaced behind = some '-' then
      return (← classItem? first, '-' :: behind)
    else
      let (last, cs) ← readClassItem spaced (skip spaced behind)
      match first, last with
      | .literal first, .literal last =>
        if first.char ≤ last.char then return (.range first last, cs) else none
      | _, _ => none
  | cs => return (← classItem? first, cs)

/-- One turn of reading a class: the open brackets after it, the innermost first, or the class once
its own bracket closes. -/
inductive ClassTurn where
  /-- The class goes on. -/
  | goOn (inner : OpenClass) (outer : List OpenClass)
  /-- The class is closed. -/
  | done (negated : Bool) (set : ClassSet)

/-- One turn of reading a class. -/
def readClassTurn (spaced : Bool) (inner : OpenClass) (outer : List OpenClass) (c : Char)
    (cs : List Char) : Option (ClassTurn × List Char) :=
  let item : Option (ClassTurn × List Char) :=
    (readClassRange spaced (c :: cs)).map fun (set, rest) => (.goOn (inner.push set) outer, rest)
  if c = '[' then
    match readAscii cs with
    | some (set, rest) => some (.goOn (inner.push set) outer, rest)
    | none =>
      let (opened, rest) := readOpening spaced cs
      some (.goOn opened (inner :: outer), rest)
  else if c = ']' then
    match outer with
    | [] => some (.done inner.negated inner.inside, cs)
    | parent :: outer =>
      some (.goOn (parent.push (.bracketed inner.negated inner.inside)) outer, cs)
  else
    match operation? c, cs with
    | some op, c' :: rest =>
      if c' = c then some (.goOn (inner.operate op) outer, rest) else item
    | _, _ => item

/-- A class from behind its beginning to its closing bracket. -/
def readClass (spaced : Bool) (inner : OpenClass) (outer : List OpenClass) (cs : List Char) :
    Option (Syntax × List Char) :=
  match h : skip spaced cs with
  | [] => none
  | c :: rest =>
    have _hle : (c :: rest).length ≤ cs.length := h ▸ length_skip_le spaced cs
    match consumed (c :: rest) (readClassTurn spaced inner outer c rest) with
    | none => none
    | some (.done negated set, ⟨rest, _⟩) => some (.bracketed negated set, rest)
    | some (.goOn inner outer, ⟨rest, _⟩) => readClass spaced inner outer rest
termination_by cs.length

/-! ### Groups -/

/-- Alternatives that are being read. -/
structure Level where
  /-- The finished alternatives, the last one first. -/
  branches : List Syntax
  /-- The parts of the alternative that is not finished, the last one first. -/
  parts : List Syntax

namespace Level

/-- Adds a part. -/
def push (l : Level) (part : Syntax) : Level := { l with parts := part :: l.parts }

/-- Begins another alternative. -/
def alternate (l : Level) : Level := ⟨Syntax.ofParts l.parts.reverse :: l.branches, []⟩

/-- The pattern of all alternatives. -/
def close (l : Level) : Syntax := Syntax.ofBranches l.alternate.branches.reverse

end Level

/-- A group that is open. -/
structure OpenGroup where
  /-- Whether the group is captured. -/
  captured : Bool
  /-- The flags for its inside. -/
  changes : FlagChanges
  /-- Whether the pattern around it is spaced. -/
  spaced : Bool
  /-- The alternatives around it. -/
  level : Level

/-- The state of reading a pattern. -/
structure ReadState where
  /-- Whether the pattern is spaced here. -/
  spaced : Bool
  /-- The groups that are open, the innermost first. -/
  groups : List OpenGroup
  /-- The names of groups used so far. -/
  names : List (List Char)
  /-- The alternatives of the innermost group. -/
  level : Level

namespace ReadState

/-- The state at the beginning of a pattern. -/
def start : ReadState := ⟨false, [], [], ⟨[], []⟩⟩

/-- Adds a part. -/
def push (s : ReadState) (part : Syntax) : ReadState := { s with level := s.level.push part }

/-- Begins a group. -/
def openGroup (s : ReadState) (captured : Bool) (changes : FlagChanges) : ReadState :=
  { s with
    spaced := (changes.get? .spaced).getD s.spaced
    groups := ⟨captured, changes, s.spaced, s.level⟩ :: s.groups
    level := ⟨[], []⟩ }

/-- Ends the innermost group. -/
def closeGroup? (s : ReadState) : Option ReadState :=
  match s.groups with
  | [] => none
  | group :: groups =>
    some { s with
      spaced := group.spaced
      groups := groups
      level := group.level.push (.group group.captured group.changes s.level.close) }

/-- Repeats the last part; flags cannot be repeated. -/
def repeat? (s : ReadState) (least : Nat) (most : Option Nat) (greedy : Bool) :
    Option ReadState :=
  match s.level.parts with
  | [] => none
  | .flags _ :: _ => none
  | part :: parts =>
    some { s with level := { s.level with parts := .repetition least most greedy part :: parts } }

/-- The pattern, if no group is open. -/
def finish? (s : ReadState) : Option Syntax :=
  if s.groups.isEmpty then some s.level.close else none

end ReadState

/-- What stands behind an opening parenthesis: flags alone, or the beginning of a group. Looking
around is not supported. -/
def readGroup (s : ReadState) (cs : List Char) : Option (ReadState × List Char) :=
  let named (cs : List Char) : Option (ReadState × List Char) := do
    let (name, rest) ← readName cs
    if s.names.contains name then none
    else some ({ s.openGroup true [] with names := name :: s.names }, rest)
  match skip s.spaced cs with
  | '?' :: '=' :: _ => none
  | '?' :: '!' :: _ => none
  | '?' :: '<' :: '=' :: _ => none
  | '?' :: '<' :: '!' :: _ => none
  | '?' :: 'P' :: '<' :: cs => named cs
  | '?' :: '<' :: cs => named cs
  | '?' :: cs =>
    match readFlags false false [] cs with
    | none => none
    | some ((changes, true), rest) => some (s.openGroup false changes, rest)
    | some ((changes, false), rest) =>
      if changes.isEmpty then none
      else
        let s := { s with spaced := (changes.get? .spaced).getD s.spaced }
        some (s.push (.flags changes), rest)
  | cs => some (s.openGroup true [], cs)

/-- Whether a repetition is greedy, which it is without a question mark behind it, and the text
behind that mark. -/
def readGreed : List Char → Bool × List Char
  | '?' :: cs => (false, cs)
  | cs => (true, cs)

/-- One turn of reading a pattern. -/
def readTurn (s : ReadState) (c : Char) (cs : List Char) : Option (ReadState × List Char) :=
  let repeated (least : Nat) (most : Option Nat) : Option (ReadState × List Char) :=
    let (greedy, cs) := readGreed cs
    (s.repeat? least most greedy).map fun s => (s, cs)
  let part (p : Option (Syntax × List Char)) : Option (ReadState × List Char) :=
    p.map fun (part, rest) => (s.push part, rest)
  match c with
  | '(' => readGroup s cs
  | ')' => s.closeGroup?.map fun s => (s, cs)
  | '|' => some ({ s with level := s.level.alternate }, cs)
  | '[' =>
    let (opened, rest) := readOpening s.spaced cs
    part (readClass s.spaced opened [] rest)
  | '?' => repeated 0 (some 1)
  | '*' => repeated 0 none
  | '+' => repeated 1 none
  | '\x7b' => do
    let ((least, most), rest) ← readBounds s.spaced cs
    let (greedy, rest) := readGreed (skip s.spaced rest)
    return (← s.repeat? least most greedy, rest)
  | '\\' => part (readEscape s.spaced cs)
  | '.' => part (some (.dot, cs))
  | '^' => part (some (.anchor .lineStart, cs))
  | '$' => part (some (.anchor .lineEnd, cs))
  | c => part (some (.literal ⟨c, false⟩, cs))

/-- The rest of a pattern. -/
def readFrom (s : ReadState) (cs : List Char) : Option Syntax :=
  match h : skip s.spaced cs with
  | [] => s.finish?
  | c :: rest =>
    have _hle : (c :: rest).length ≤ cs.length := h ▸ length_skip_le s.spaced cs
    match consumed (c :: rest) (readTurn s c rest) with
    | none => none
    | some (s', ⟨rest, _⟩) => readFrom s' rest
termination_by cs.length

/-- The tree of a pattern. -/
def readSyntax (text : String) : Option Syntax := readFrom .start text.toList

end Pattern

end Criteria
