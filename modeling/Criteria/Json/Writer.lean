import Criteria.Double.Shortest
import Criteria.Json.Basic

/-!
# Compact JSON text

The text of a document without any blanks. Quotes, backslashes and control characters of a string
are escaped; all else stands for itself. Numbers have the fewest digits that read back.
-/

namespace Criteria

namespace Json

/-- How JSON writes a number: positional for the exponents -5 to 15, always told apart from an
integer. -/
def numberLayout : Double.Layout := ⟨.even, some (-5, 15), true⟩

/-- A character inside a string. -/
def writeChar (c : Char) : List Char :=
  match c with
  | '"' => ['\\', '"']
  | '\\' => ['\\', '\\']
  | '\x08' => ['\\', 'b']
  | '\x0c' => ['\\', 'f']
  | '\n' => ['\\', 'n']
  | '\r' => ['\\', 'r']
  | '\t' => ['\\', 't']
  | c =>
    if c.toNat < 0x20 then
      ['\\', 'u', '0', '0', Nat.digitChar (c.toNat / 16), Nat.digitChar (c.toNat % 16)]
    else [c]

/-- A string with its quotes. -/
def writeString (s : String) : List Char := '"' :: s.toList.flatMap writeChar ++ ['"']

/-- Texts with commas between them. -/
def separate : List (List Char) → List Char
  | [] => []
  | [t] => t
  | t :: ts => t ++ ',' :: separate ts

end Json

/-- Builds compact text; an infinity or a NaN is written as `null`. -/
def Emitter.compact : Emitter (List Char) where
  null := "null".toList
  bool b := (if b then "true" else "false").toList
  integer n := (toString n).toList
  double x := if x.isFinite then (Json.numberLayout.write x).toList else "null".toList
  string := Json.writeString
  array items := '[' :: Json.separate items ++ [']']
  object members :=
    '\x7b' :: Json.separate (members.map fun (k, v) => Json.writeString k ++ ':' :: v) ++ ['\x7d']

/-- The compact text of a document. -/
def Json.write (j : Json) : String := String.ofList (j.emit Emitter.compact)

end Criteria
