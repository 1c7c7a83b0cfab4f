import Criteria.Json.Reader
import Criteria.Json.Writer
import Criteria.Value.Basic

/-!
# Values as JSON

Two ways out of values and one way back. `toJson` builds the document of a value; `emit` tells a
value to an emitter, which builds a document as well or writes text. `ofJson` takes a document as a
value. Dates become text and stay text on the way back; an infinity and a NaN become null.
-/

namespace Criteria

namespace Number

/-- The JSON number of a number, or null if there is none. -/
def toJson : Number → Json
  | .signed n => .integer n.toInt
  | .unsigned n => .integer n.toNat
  | .double x => if x.isFinite then .double x else .null

/-- Tells a number to an emitter. -/
def emit {α : Type} (e : Emitter α) : Number → α
  | .signed n => e.integer n.toInt
  | .unsigned n => e.integer n.toNat
  | .double x => e.double x

end Number

namespace Instant

/-- The JSON string of the text of an instant, or its milliseconds if it has none. -/
def toJson (t : Instant) : Json := (t.toText?.map .string).getD (.integer t.millis.toInt)

/-- Tells an instant to an emitter, as its text or as its milliseconds. -/
def emit {α : Type} (e : Emitter α) (t : Instant) : α :=
  (t.toText?.map e.string).getD (e.integer t.millis.toInt)

end Instant

namespace Value

/-! ### From values -/

mutual

/-- The document of a value. -/
def toJson : Value → Json
  | .null => .null
  | .bool b => .bool b
  | .number n => n.toJson
  | .text s => .string s
  | .date t => t.toJson
  | .sequence items => .array (elementsToJson items)
  | .record fields => .object (fieldsToJson fields)

/-- The documents of the elements of a sequence. -/
def elementsToJson : List Value → List Json
  | [] => []
  | v :: vs => toJson v :: elementsToJson vs

/-- The documents of the fields of a record. -/
def fieldsToJson : {bound : Option String} → SortedMap Value bound → SortedMap Json bound
  | _, .nil => .nil
  | _, .cons k v h rest => .cons k (toJson v) h (fieldsToJson rest)

end

variable {α : Type}

mutual

/-- Tells a value to an emitter. -/
def emit (e : Emitter α) : Value → α
  | .null => e.null
  | .bool b => e.bool b
  | .number n => n.emit e
  | .text s => e.string s
  | .date t => t.emit e
  | .sequence items => e.array (emitElements e items)
  | .record fields => e.object (emitFields e fields)

/-- Tells the elements of a sequence to an emitter. -/
def emitElements (e : Emitter α) : List Value → List α
  | [] => []
  | v :: vs => emit e v :: emitElements e vs

/-- Tells the fields of a record to an emitter. -/
def emitFields (e : Emitter α) : {bound : Option String} → SortedMap Value bound →
    List (String × α)
  | _, .nil => []
  | _, .cons k v _ rest => (k, emit e v) :: emitFields e rest

end

/-- The compact JSON text of a value. -/
def write (v : Value) : String := String.ofList (v.emit Emitter.compact)

/-! ### Into values -/

mutual

/-- The value of a document. An integer takes the narrowest width that holds it. -/
def ofJson : Json → Value
  | .null => .null
  | .bool b => .bool b
  | .integer n => .number (.ofInt n)
  | .double x => .number (.double x)
  | .string s => .text s
  | .array items => .sequence (elementsOfJson items)
  | .object members => .record (fieldsOfJson members)

/-- The values of the elements of an array. -/
def elementsOfJson : List Json → List Value
  | [] => []
  | j :: js => ofJson j :: elementsOfJson js

/-- The values of the members of an object. -/
def fieldsOfJson : {bound : Option String} → SortedMap Json bound → SortedMap Value bound
  | _, .nil => .nil
  | _, .cons k j h rest => .cons k (ofJson j) h (fieldsOfJson rest)

end

/-- The value that a JSON text spells. -/
def parse? (text : String) : Option Value := (Json.parse? text).map ofJson

/-- The value after its fields and dates went through JSON. -/
def throughJson (v : Value) : Value := ofJson (v.emit Emitter.document)

end Value

end Criteria
