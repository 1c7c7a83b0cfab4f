import Criteria.Calendar.Reader
import Criteria.Value.Basic

/-!
# Values as text and as instants

The text that a pattern or a search for a substring sees, and the instant that a date test sees.
-/

namespace Criteria

namespace Value

mutual

/-- The text of a value: numbers in decimal, dates as date and time in UTC, sequences as their
elements joined by commas. A null, a record and a date outside the calendar have none. -/
def toText? : Value → Option String
  | .null => none
  | .bool b => some (if b then "true" else "false")
  | .number n => some n.toText
  | .text s => some s
  | .date t => t.toText?
  | .sequence items => some (String.intercalate "," (elementTexts items))
  | .record _ => none

/-- The texts of the elements of a sequence; an element without text counts as empty. -/
def elementTexts : List Value → List String
  | [] => []
  | v :: vs => (toText? v).getD "" :: elementTexts vs

end

/-- The instant that a value stands for: a date, a number of milliseconds, or a text that spells a
date. -/
def toInstant? : Value → Option Instant
  | .date t => some t
  | .number n => n.toMillis?.map Instant.mk
  | .text s => Instant.parse? s
  | _ => none

end Value

end Criteria
