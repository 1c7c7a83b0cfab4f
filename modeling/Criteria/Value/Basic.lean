import Criteria.Calendar.Instant
import Criteria.Number
import Criteria.SortedMap

/-!
# Values

The shapes that a field of an item, or an operand of a condition, can take. Items and conditions are
both values.
-/

namespace Criteria

/-- A value. -/
inductive Value where
  /-- The explicit null, which is not an absent field. -/
  | null
  /-- A truth value. -/
  | bool (b : Bool)
  /-- A number. -/
  | number (n : Number)
  /-- A text. -/
  | text (s : String)
  /-- A point in time. -/
  | date (t : Instant)
  /-- Values in order. -/
  | sequence (items : List Value)
  /-- Values by field name. -/
  | record (fields : SortedMap Value none)

/-- Values by field name, in the order of the names. -/
abbrev Record := SortedMap Value none

/-- The kinds of values. -/
inductive Kind where
  | null | bool | number | text | date | sequence | record
deriving DecidableEq, Repr

/-- The name of a kind. -/
def Kind.name : Kind → String
  | .null => "null"
  | .bool => "bool"
  | .number => "number"
  | .text => "text"
  | .date => "date"
  | .sequence => "sequence"
  | .record => "record"

namespace Value

/-- The kind of a value. -/
def kind : Value → Kind
  | .null => .null
  | .bool _ => .bool
  | .number _ => .number
  | .text _ => .text
  | .date _ => .date
  | .sequence _ => .sequence
  | .record _ => .record

/-! ### Parts -/

/-- Whether the value is the explicit null. -/
def isNull : Value → Bool
  | .null => true
  | _ => false

/-- Whether the value is a record. -/
def isRecord : Value → Bool
  | .record _ => true
  | _ => false

/-- Whether the value is a sequence. -/
def isSequence : Value → Bool
  | .sequence _ => true
  | _ => false

/-- The truth value, if the value is one. -/
def bool? : Value → Option Bool
  | .bool b => some b
  | _ => none

/-- The number, if the value is one. -/
def number? : Value → Option Number
  | .number n => some n
  | _ => none

/-- The text, if the value is one. -/
def text? : Value → Option String
  | .text s => some s
  | _ => none

/-- The instant, if the value is a date. -/
def date? : Value → Option Instant
  | .date t => some t
  | _ => none

/-- The elements, if the value is a sequence. -/
def sequence? : Value → Option (List Value)
  | .sequence items => some items
  | _ => none

/-- The fields, if the value is a record. -/
def record? : Value → Option Record
  | .record fields => some fields
  | _ => none

/-- The value of a field; a value that is no record has no fields. -/
def get? : Value → String → Option Value
  | .record fields, field => fields.find? field
  | _, _ => none

@[simp] theorem get?_record (fields : Record) (field : String) :
    (Value.record fields).get? field = fields.find? field := rfl

/-- The record of a list of fields; of two fields with one name the later one stays. -/
def ofFields (fields : List (String × Value)) : Value := .record (SortedMap.ofList fields)

end Value

end Criteria
