import Criteria.Double.Basic
import Criteria.SortedMap

/-!
# JSON documents

A JSON document, with integers and other numbers apart. An `Emitter` says how to build something,
another document or a text, from the parts of a document; whatever can be told to an emitter can be
turned into either.
-/

namespace Criteria

/-- A JSON document. -/
inductive Json where
  /-- The literal `null`. -/
  | null
  /-- A truth literal. -/
  | bool (b : Bool)
  /-- A number written as an integer that a signed or an unsigned word of 64 bits holds. -/
  | integer (n : Int)
  /-- Any other number. -/
  | double (x : Double)
  /-- A string. -/
  | string (s : String)
  /-- An array. -/
  | array (items : List Json)
  /-- An object. -/
  | object (members : SortedMap Json none)

/-- A way of building an `α` from the parts of a document. -/
structure Emitter (α : Type) where
  /-- The literal `null`. -/
  null : α
  /-- A truth literal. -/
  bool : Bool → α
  /-- An integer. -/
  integer : Int → α
  /-- A number that is no integer of 64 bits. -/
  double : Double → α
  /-- A string. -/
  string : String → α
  /-- An array. -/
  array : List α → α
  /-- An object, with its members in order. -/
  object : List (String × α) → α

namespace Json

variable {α : Type}

/-- The string, if the document is one. -/
def string? : Json → Option String
  | .string s => some s
  | _ => none

/-- The elements, if the document is an array. -/
def array? : Json → Option (List Json)
  | .array items => some items
  | _ => none

/-- The members, if the document is an object. -/
def object? : Json → Option (SortedMap Json none)
  | .object members => some members
  | _ => none

/-- The value of a member; a document that is no object has no members. -/
def get? : Json → String → Option Json
  | .object members, key => members.find? key
  | _, _ => none

mutual

/-- Tells a document to an emitter. -/
def emit (e : Emitter α) : Json → α
  | .null => e.null
  | .bool b => e.bool b
  | .integer n => e.integer n
  | .double x => e.double x
  | .string s => e.string s
  | .array items => e.array (emitElements e items)
  | .object members => e.object (emitMembers e members)

/-- Tells the elements of an array to an emitter. -/
def emitElements (e : Emitter α) : List Json → List α
  | [] => []
  | j :: js => emit e j :: emitElements e js

/-- Tells the members of an object to an emitter. -/
def emitMembers (e : Emitter α) : {bound : Option String} → SortedMap Json bound →
    List (String × α)
  | _, .nil => []
  | _, .cons k j _ rest => (k, emit e j) :: emitMembers e rest

end

end Json

namespace Emitter

/-- Builds a document; as there is no JSON number for an infinity or a NaN, these become `null`. -/
def document : Emitter Json where
  null := .null
  bool := .bool
  integer := .integer
  double x := if x.isFinite then .double x else .null
  string := .string
  array := .array
  object members := .object (SortedMap.ofList members)

end Emitter

end Criteria
