/-!
# Double-precision numbers

A binary floating-point number of 64 bits, held as its encoding. Everything is read off the bits in
exact integer arithmetic: a finite number is an integer multiple of `2 ^ -1074`, the least positive
one, and `scaled` is that integer.

Two orders are defined on the encoding: `compare?`, in which the two zeros are equal and a NaN is
comparable with nothing, and `totalCompare`, in which every two encodings are ordered.
-/

namespace Criteria

/-- A double-precision floating-point number, given by its encoding. -/
structure Double where
  /-- One sign bit, eleven exponent bits and fifty-two fraction bits. -/
  bits : UInt64
deriving DecidableEq

namespace Double

/-! ### The parts of an encoding -/

/-- The encoding of positive infinity: all exponent bits set, no fraction. -/
def infinityMagnitude : Nat := 2047 * Nat.pow 2 52

/-- Whether the sign bit is set. -/
def negative (x : Double) : Bool := decide (Nat.pow 2 63 ≤ x.bits.toNat)

/-- The encoding without the sign bit; it grows with the absolute value. -/
def magnitude (x : Double) : Nat := x.bits.toNat % Nat.pow 2 63

/-- Whether the encoding stands for no number. -/
def isNaN (x : Double) : Bool := decide (infinityMagnitude < x.magnitude)

/-- Whether the encoding stands for a real number. -/
def isFinite (x : Double) : Bool := decide (x.magnitude < infinityMagnitude)

/-- The number of a sign and a magnitude. -/
def ofMagnitude (negative : Bool) (magnitude : Nat) : Double :=
  ⟨UInt64.ofNat (magnitude + if negative then Nat.pow 2 63 else 0)⟩

/-- The not-a-number encoding without payload. -/
def nan : Double := ofMagnitude false (infinityMagnitude + Nat.pow 2 51)

/-- The infinity of the given sign. -/
def infinity (negative : Bool) : Double := ofMagnitude negative infinityMagnitude

/-- The zero of the given sign. -/
def zero (negative : Bool) : Double := ofMagnitude negative 0

/-- The same number with the other sign. -/
def neg (x : Double) : Double := ofMagnitude (!x.negative) x.magnitude

instance : Neg Double := ⟨neg⟩

/-! ### Exact values -/

/-- The significand of a magnitude, with the leading bit that a normal encoding leaves out. -/
def significand (magnitude : Nat) : Nat :=
  if magnitude < Nat.pow 2 52 then magnitude else Nat.pow 2 52 + magnitude % Nat.pow 2 52

/-- The power of two that the significand of a magnitude is multiplied by, in units of the least
positive number. -/
def shift (magnitude : Nat) : Nat := magnitude / Nat.pow 2 52 - 1

/-- The absolute value of a finite number, in units of `2 ^ -1074`. -/
def scaledMagnitude (x : Double) : Nat := significand x.magnitude * Nat.pow 2 (shift x.magnitude)

/-- The value of a finite number, in units of `2 ^ -1074`. -/
def scaled (x : Double) : Int :=
  if x.negative then -(x.scaledMagnitude : Int) else (x.scaledMagnitude : Int)

/-- The integer part of a finite number, rounded toward zero. -/
def truncate (x : Double) : Int := x.scaled.tdiv (Nat.pow 2 1074)

/-- The integer part, cut off at the ends of the range from `lo` to `hi`; a NaN gives zero. -/
def truncateWithin (lo hi : Int) (x : Double) : Int :=
  if x.isNaN then 0
  else if x.isFinite then max lo (min hi x.truncate)
  else if x.negative then lo
  else hi

/-! ### Orders -/

/-- The position of a number among all numbers that are not NaN; the two zeros share one. -/
def rank (x : Double) : Int :=
  if x.negative then -(x.magnitude : Int) else (x.magnitude : Int)

/-- The order of the values; a NaN is comparable with nothing. -/
def compare? (x y : Double) : Option Ordering :=
  if x.isNaN || y.isNaN then none else some (compare x.rank y.rank)

/-- The position of an encoding among all encodings: negative NaNs, negative numbers, negative zero,
positive zero, positive numbers, positive NaNs. -/
def totalRank (x : Double) : Int :=
  if x.negative then -(x.magnitude : Int) - 1 else (x.magnitude : Int)

/-- The total order of the encodings. -/
def totalCompare (x y : Double) : Ordering := compare x.totalRank y.totalRank

end Double

end Criteria
