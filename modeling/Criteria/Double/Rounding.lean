import Criteria.Double.Basic

/-!
# Rounding to a binary format

The encoding of the number of a binary format that is nearest to a fraction; a fraction halfway
between two numbers goes to the one with the even encoding. Integers, quotients of integers,
products and narrower formats all round through `Format.round`.
-/

namespace Criteria

/-- The integer nearest to `num / den`; from halfway it goes to the even neighbour. -/
def roundHalfEven (num den : Nat) : Nat :=
  let quotient := num / den
  let rest := num % den
  if 2 * rest < den then quotient
  else if den < 2 * rest then quotient + 1
  else quotient + quotient % 2

/-- A binary floating-point format, as far as rounding to it goes. -/
structure Format where
  /-- The number of fraction bits. -/
  fractionBits : Nat
  /-- The least positive number is `2 ^ -leastExponent`. -/
  leastExponent : Nat
  /-- The encoding of infinity. -/
  infinity : Nat

namespace Format

/-- The format of double precision. -/
def double : Format := ⟨52, 1074, Double.infinityMagnitude⟩

/-- The format of single precision. -/
def single : Format := ⟨23, 149, 255 * Nat.pow 2 23⟩

/-- The encoding of the number of the format that is nearest to `num / den`. Encodings of one
binade count its numbers in order, and the next binade goes on where it ends, so a significand that
rounds up to the next power of two needs no case of its own. -/
def round (f : Format) (num den : Nat) : Nat :=
  let scaled := num * Nat.pow 2 f.leastExponent
  let shift := (scaled / den).log2 - f.fractionBits
  min f.infinity (shift * Nat.pow 2 f.fractionBits + roundHalfEven scaled (den * Nat.pow 2 shift))

/-- The value of an encoding of the format, in units of `2 ^ -leastExponent`. -/
def scaledValue (f : Format) (encoding : Nat) : Nat :=
  let unit := Nat.pow 2 f.fractionBits
  if encoding < unit then encoding
  else (unit + encoding % unit) * Nat.pow 2 (encoding / unit - 1)

end Format

namespace Double

/-- The number nearest to `num / den`, with the given sign. -/
def ofRatio (negative : Bool) (num den : Nat) : Double :=
  ofMagnitude negative (Format.double.round num den)

/-- The number nearest to an integer. -/
def ofInt (n : Int) : Double := ofRatio (decide (n < 0)) n.natAbs 1

/-- The product of two finite numbers, rounded. -/
def mulFinite (x y : Double) : Double :=
  ofRatio (x.negative != y.negative) (x.scaledMagnitude * y.scaledMagnitude) (Nat.pow 2 2148)

/-- The quotient of two finite numbers, rounded. -/
def divFinite (x y : Double) : Double :=
  ofRatio (x.negative != y.negative) x.scaledMagnitude y.scaledMagnitude

/-- The single-precision number nearest to `x`, as a double-precision number again. -/
def roundToSingle (x : Double) : Double :=
  if x.isFinite then
    let encoding := Format.single.round x.scaledMagnitude (Nat.pow 2 1074)
    if encoding = Format.single.infinity then infinity x.negative
    else ofRatio x.negative (Format.single.scaledValue encoding) (Nat.pow 2 149)
  else x

end Double

end Criteria
