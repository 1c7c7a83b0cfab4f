import Criteria.Double.Rounding
import Criteria.Double.Shortest

/-!
# Numbers

A number is a signed or an unsigned integer of 64 bits or a double-precision number, and keeps the
width it was given in. Numbers of one width compare exactly; numbers of different widths compare
after rounding to double precision. `totalCompare` orders all of them, NaNs included.
-/

namespace Criteria

/-- A number in one of three widths. -/
inductive Number where
  /-- A signed integer. -/
  | signed (n : Int64)
  /-- An unsigned integer. -/
  | unsigned (n : UInt64)
  /-- A floating-point number. -/
  | double (x : Double)
deriving DecidableEq

namespace Number

/-- The number rounded to double precision. -/
def toDouble : Number → Double
  | .signed n => .ofInt n.toInt
  | .unsigned n => .ofInt n.toNat
  | .double x => x

/-- The order of two numbers by value: exact within one width, after rounding to double precision
across widths. A NaN is comparable with nothing. -/
def compare? : Number → Number → Option Ordering
  | .signed a, .signed b => some (compare a.toInt b.toInt)
  | .unsigned a, .unsigned b => some (compare a.toNat b.toNat)
  | .double a, .double b => a.compare? b
  | a, b => a.toDouble.compare? b.toDouble

/-- The range of the integer parts that `integerPart` tells apart. -/
def integerPartBound : Int := Nat.pow 2 127

/-- The integer part of a number; beyond `integerPartBound` it is cut off, and that of a NaN is
zero. -/
def integerPart : Number → Int
  | .signed n => n.toInt
  | .unsigned n => n.toNat
  | .double x => x.truncateWithin (-integerPartBound) (integerPartBound - 1)

/-- The order of all numbers: by the encoding after rounding to double precision, then by the
integer part, which tells apart wide integers that round alike. -/
def totalCompare (a b : Number) : Ordering :=
  (a.toDouble.totalCompare b.toDouble).then (compare a.integerPart b.integerPart)

/-- Whether two numbers are the same number in the same width. -/
def identical : Number → Number → Bool
  | .signed a, .signed b => a == b
  | .unsigned a, .unsigned b => a == b
  | .double a, .double b => a.compare? b == some .eq
  | _, _ => false

/-- The number as milliseconds: a fraction is dropped, a double beyond the range of signed integers
is cut off at its ends. An unsigned integer beyond that range, an infinity or a NaN is no number of
milliseconds. -/
def toMillis? : Number → Option Int64
  | .signed n => some n
  | .unsigned n => if n.toNat ≤ Int64.maxValue.toInt then some (Int64.ofInt n.toNat) else none
  | .double x =>
    if x.isFinite then
      some (Int64.ofInt (x.truncateWithin Int64.minValue.toInt Int64.maxValue.toInt))
    else none

/-- The decimal text of a number. -/
def toText : Number → String
  | .signed n => toString n.toInt
  | .unsigned n => toString n.toNat
  | .double x => x.toText

/-- The number of an integer in the narrowest width that holds it: signed, else unsigned, else
double. -/
def ofInt (n : Int) : Number :=
  if Int64.minValue.toInt ≤ n ∧ n ≤ Int64.maxValue.toInt then .signed (Int64.ofInt n)
  else if 0 ≤ n ∧ n < UInt64.size then .unsigned (UInt64.ofNat n.toNat)
  else .double (Double.ofInt n)

end Number

end Criteria
