import Criteria.Double.Basic

/-!
# Shortest decimal digits

Among the decimals that a reader rounds back to a given finite number, the ones with the fewest
digits, and among those the one nearest to the number. A multiple of `10 ^ e` lies among them
exactly if one of the number's two neighbours on that grid does, so it is enough to try these two on
ever finer grids.
-/

namespace Criteria

/-- The decimal number `digits * 10 ^ exponent`. -/
structure Decimal where
  /-- The digits, as one integer. -/
  digits : Nat
  /-- The power of ten that the last digit counts. -/
  exponent : Int
deriving DecidableEq, Repr

/-- Which of two equally near decimals is taken. -/
inductive Tie where
  /-- The larger one. -/
  | up
  /-- The one whose last digit is even. -/
  | even
deriving DecidableEq, Repr

namespace Double

/-- The part of the real line that rounds to a positive finite number, in units of `2 ^ -1076`, a
quarter of the least positive number. -/
structure RoundingInterval where
  /-- The lower end. -/
  lo : Nat
  /-- The number itself. -/
  mid : Nat
  /-- The upper end. -/
  hi : Nat
  /-- Whether the ends belong to the interval. -/
  closed : Bool

namespace RoundingInterval

/-- The interval of the number with the given magnitude. Below a power of two the neighbouring
numbers lie closer together, so its lower half is narrower. -/
def ofMagnitude (magnitude : Nat) : RoundingInterval :=
  let m := significand magnitude
  let unit := Nat.pow 2 (shift magnitude)
  let narrow := m = Nat.pow 2 52 ∧ 0 < shift magnitude
  { lo := (if narrow then 4 * m - 1 else 4 * m - 2) * unit
    mid := 4 * m * unit
    hi := (4 * m + 2) * unit
    closed := m % 2 = 0 }

/-- Whether `point / scale` lies in the interval. -/
def holds (i : RoundingInterval) (point scale : Nat) : Bool :=
  if i.closed then decide (i.lo * scale ≤ point ∧ point ≤ i.hi * scale)
  else decide (i.lo * scale < point ∧ point < i.hi * scale)

/-- The nearest multiple of `10 ^ exponent` to the middle that lies in the interval. -/
def onGrid? (i : RoundingInterval) (tie : Tie) (exponent : Int) : Option Decimal :=
  let scale := Nat.pow 10 (-exponent).toNat
  let step := Nat.pow 2 1076 * Nat.pow 10 exponent.toNat
  let below := i.mid * scale / step
  let rest := i.mid * scale % step
  let pick (digits : Nat) : Option Decimal := some ⟨digits, exponent⟩
  match i.holds (below * step) scale, i.holds ((below + 1) * step) scale with
  | true, true =>
    if 2 * rest < step then pick below
    else if step < 2 * rest then pick (below + 1)
    else match tie with
      | .up => pick (below + 1)
      | .even => pick (below + below % 2)
  | true, false => pick below
  | false, true => pick (below + 1)
  | false, false => none

/-- A power of ten that no point of the interval reaches. -/
def exponentBound (i : RoundingInterval) : Int :=
  (((i.mid.log2 : Int) + 1 - 1076) * 30103).fdiv 100000 + 2

end RoundingInterval

/-- The shortest decimal that rounds to the number with the given magnitude, the nearest one if
there are several. Seventeen digits always suffice, so the grids tried run out only for a magnitude
that is no positive finite number. -/
def shortest (tie : Tie) (magnitude : Nat) : Decimal :=
  let interval := RoundingInterval.ofMagnitude magnitude
  let exponents := (List.range 24).map fun (n : Nat) => interval.exponentBound - (n : Int)
  (exponents.findSome? (interval.onGrid? tie)).getD ⟨0, 0⟩

/-! ### Layout -/

/-- How a finite number is written. -/
structure Layout where
  /-- Which of two equally near decimals is written. -/
  tie : Tie
  /-- The least and the greatest decimal exponent that is written without an exponent part; all are
  if there are no bounds. -/
  positional : Option (Int × Int)
  /-- Whether an integer ends in `.0`. -/
  pointZero : Bool

namespace Layout

/-- The digits of a decimal with the point at its place. -/
def writePositional (layout : Layout) (d : Decimal) : List Char :=
  let digits := Nat.toDigits 10 d.digits
  if 0 ≤ d.exponent then
    digits ++ List.replicate d.exponent.toNat '0' ++ (if layout.pointZero then ['.', '0'] else [])
  else
    let places := (-d.exponent).toNat
    if places < digits.length then
      digits.take (digits.length - places) ++ '.' :: digits.drop (digits.length - places)
    else
      '0' :: '.' :: List.replicate (places - digits.length) '0' ++ digits

/-- One digit before the point and the decimal exponent after the digits. -/
def writeScientific (d : Decimal) : List Char :=
  let digits := Nat.toDigits 10 d.digits
  let exponent := d.exponent + digits.length - 1
  let fraction := digits.drop 1
  digits.take 1 ++ (if fraction.isEmpty then [] else '.' :: fraction) ++
    'e' :: (if exponent < 0 then '-' else '+') :: Nat.toDigits 10 exponent.natAbs

/-- The text of a finite number. -/
def write (layout : Layout) (x : Double) : String :=
  let sign := if x.negative then ['-'] else []
  let body :=
    if x.magnitude = 0 then layout.writePositional ⟨0, 0⟩
    else
      let d := shortest layout.tie x.magnitude
      let exponent := d.exponent + (Nat.toDigits 10 d.digits).length - 1
      match layout.positional with
      | some (least, greatest) =>
        if least ≤ exponent ∧ exponent ≤ greatest then layout.writePositional d
        else writeScientific d
      | none => layout.writePositional d
  String.ofList (sign ++ body)

end Layout

/-- The plain text of a number: no exponent part and no `.0`. -/
def plainLayout : Layout := ⟨.up, none, false⟩

/-- The text of a number that is read as text: positional for all numbers, with words for the
encodings that are not finite. -/
def toText (x : Double) : String :=
  if x.isNaN then "NaN"
  else if x.isFinite then plainLayout.write x
  else if x.negative then "-Infinity"
  else "Infinity"

end Double

end Criteria
