import Criteria.Proofs.Comparison
import Criteria.Proofs.Double.Rounding
import Mathlib.Algebra.Order.Field.Rat
import Mathlib.Data.Rat.Cast.Order
import Mathlib.Order.WithBot
import Mathlib.Tactic.Positivity

/-!
# What a double-precision number stands for

A finite number stands for a rational, and the two infinities stand for the ends of the line. The
order of the encodings is the order of what they stand for (`value_lt_value_iff`), so two numbers
are equal exactly if they stand for the same (`compare?_eq_iff`).

Rounding an integer to double precision keeps it if some number stands for it
(`value_ofInt_of_value_eq`), as one does for all integers of up to fifty-three significant bits
(`value_ofInt`).
-/

namespace Criteria

/-! ### Extended rationals -/

/-- The rational numbers with the two ends of the line. -/
abbrev ExtendedRat := WithBot (WithTop ℚ)

namespace ExtendedRat

/-- A rational number. -/
def ofRat (q : ℚ) : ExtendedRat := ((q : WithTop ℚ) : WithBot (WithTop ℚ))

variable {p q : ℚ}

@[simp] lemma ofRat_lt_ofRat : ofRat p < ofRat q ↔ p < q := by
  rw [ofRat, ofRat, WithBot.coe_lt_coe, WithTop.coe_lt_coe]

@[simp] lemma ofRat_le_ofRat : ofRat p ≤ ofRat q ↔ p ≤ q := by
  rw [← not_lt, ofRat_lt_ofRat, not_lt]

@[simp] lemma ofRat_inj : ofRat p = ofRat q ↔ p = q := by
  rw [ofRat, ofRat, WithBot.coe_inj, WithTop.coe_inj]

@[simp] lemma bot_lt_ofRat : ⊥ < ofRat q := WithBot.bot_lt_coe _

@[simp] lemma ofRat_lt_top : ofRat q < ⊤ := by
  rw [ofRat, ← WithBot.coe_top, WithBot.coe_lt_coe]
  exact WithTop.coe_lt_top q

end ExtendedRat

namespace Double

open ExtendedRat

/-! ### Parts of encodings -/

section

variable {magnitude : Nat} (negative : Bool)

lemma toNat_bits_ofMagnitude (h : magnitude < 2 ^ 63) :
    (ofMagnitude negative magnitude).bits.toNat =
      magnitude + if negative then 2 ^ 63 else 0 := by
  rw [ofMagnitude, UInt64.toNat_ofNat', Nat.pow_eq]
  apply Nat.mod_eq_of_lt
  split <;> omega

lemma magnitude_ofMagnitude (h : magnitude < 2 ^ 63) :
    (ofMagnitude negative magnitude).magnitude = magnitude := by
  rw [Double.magnitude, toNat_bits_ofMagnitude negative h, Nat.pow_eq]
  cases negative with
  | false => simpa using h
  | true => simpa using h

lemma negative_ofMagnitude (h : magnitude < 2 ^ 63) :
    (ofMagnitude negative magnitude).negative = negative := by
  rw [Double.negative, toNat_bits_ofMagnitude negative h, Nat.pow_eq]
  cases negative with
  | false => simpa using h
  | true => simp

end

/-- A number is given by its sign and its magnitude. -/
lemma ofMagnitude_magnitude (x : Double) : ofMagnitude x.negative x.magnitude = x := by
  have hbits : (ofMagnitude x.negative x.magnitude).bits = x.bits := by
    have hlt : x.magnitude < 2 ^ 63 := Nat.mod_lt _ (Nat.two_pow_pos 63)
    have hsize := x.bits.toNat_lt
    apply UInt64.toNat_inj.1
    rw [toNat_bits_ofMagnitude _ hlt]
    simp only [Double.negative, magnitude, Nat.pow_eq, decide_eq_true_eq]
    -- the bits are the magnitude below the sign, so one division takes them apart
    split_ifs <;> omega
  cases x
  exact congrArg Double.mk hbits

lemma scaledMagnitude_eq (x : Double) :
    x.scaledMagnitude = Format.double.scaledValue x.magnitude := by
  by_cases h : x.magnitude < Nat.pow 2 52
  · have hsignificand : significand x.magnitude = x.magnitude := if_pos h
    have hshift : shift x.magnitude = 0 := by rw [shift, Nat.div_eq_of_lt h]
    have hvalue : Format.double.scaledValue x.magnitude = x.magnitude := if_pos h
    rw [scaledMagnitude, hsignificand, hshift, hvalue]
    exact Nat.mul_one _
  · have hsignificand : significand x.magnitude = Nat.pow 2 52 + x.magnitude % Nat.pow 2 52 :=
      if_neg h
    rw [scaledMagnitude, hsignificand]
    exact (if_neg h).symm

lemma isFinite_iff (x : Double) : x.isFinite = true ↔ x.magnitude < infinityMagnitude :=
  decide_eq_true_iff

lemma isNaN_eq_false_iff (x : Double) : x.isNaN = false ↔ x.magnitude ≤ infinityMagnitude := by
  rw [isNaN, decide_eq_false_iff_not, Nat.not_lt]

lemma isNaN_of_isFinite {x : Double} (h : x.isFinite = true) : x.isNaN = false :=
  x.isNaN_eq_false_iff.2 (x.isFinite_iff.1 h).le

lemma magnitude_of_infinite {x : Double} (hx : x.isNaN = false) (h : x.isFinite = false) :
    x.magnitude = infinityMagnitude := by
  have hle := x.isNaN_eq_false_iff.1 hx
  have hnot : ¬ x.magnitude < infinityMagnitude := by simp [← isFinite_iff, h]
  omega

/-! ### Values -/

/-- What a number stands for, unless it is a NaN. -/
def value (x : Double) : ExtendedRat :=
  if x.isFinite then ofRat (x.scaled / 2 ^ Format.double.leastExponent)
  else if x.negative then ⊥
  else ⊤

lemma natAbs_scaled (x : Double) : x.scaled.natAbs = x.scaledMagnitude := by
  rw [scaled]
  split <;> simp

/-- The values grow with the ranks of the encodings. -/
lemma scaled_lt_scaled_iff (x y : Double) : x.scaled < y.scaled ↔ x.rank < y.rank := by
  have hmono := Format.double.strictMono_scaledValue
  have hxy := hmono.lt_iff_lt (a := x.magnitude) (b := y.magnitude)
  have hyx := hmono.lt_iff_lt (a := y.magnitude) (b := x.magnitude)
  have hx := Format.double.scaledValue_eq_zero_iff x.magnitude
  have hy := Format.double.scaledValue_eq_zero_iff y.magnitude
  simp only [scaled, rank, scaledMagnitude_eq]
  -- each sign apart; a zero has rank and value zero with either
  cases x.negative <;> cases y.negative <;> simp <;> omega

lemma scaled_eq_scaled_iff (x y : Double) : x.scaled = y.scaled ↔ x.rank = y.rank := by
  simp only [le_antisymm_iff, ← not_lt, scaled_lt_scaled_iff]

section

variable {x y : Double}

lemma value_of_isFinite (h : x.isFinite = true) :
    x.value = ofRat (x.scaled / 2 ^ Format.double.leastExponent) := if_pos h

lemma value_of_infinite (h : x.isFinite = false) :
    x.value = if x.negative then ⊥ else ⊤ := if_neg (ne_true_of_eq_false h)

/-- The order of the encodings is the order of the values. -/
lemma value_lt_value_iff (hx : x.isNaN = false) (hy : y.isNaN = false) :
    x.value < y.value ↔ x.rank < y.rank := by
  have hinfinity : 0 < infinityMagnitude := by decide
  cases hfx : x.isFinite with
  | true =>
    have hmx := x.isFinite_iff.1 hfx
    rw [value_of_isFinite hfx]
    cases hfy : y.isFinite with
    | true =>
      have hunit : (0 : ℚ) < 2 ^ Format.double.leastExponent := by positivity
      rw [value_of_isFinite hfy, ofRat_lt_ofRat, div_lt_div_iff_of_pos_right hunit, Int.cast_lt,
        scaled_lt_scaled_iff]
    | false =>
      -- the infinities have the greatest magnitude of all that is no NaN
      have hmy := magnitude_of_infinite hy hfy
      rw [value_of_infinite hfy, rank, rank]
      cases x.negative <;> cases y.negative <;> simp <;> omega
  | false =>
    have hmx := magnitude_of_infinite hx hfx
    rw [value_of_infinite hfx]
    cases hfy : y.isFinite with
    | true =>
      have hmy := y.isFinite_iff.1 hfy
      rw [value_of_isFinite hfy, rank, rank]
      cases x.negative <;> cases y.negative <;> simp <;> omega
    | false =>
      have hmy := magnitude_of_infinite hy hfy
      rw [value_of_infinite hfy, rank, rank, hmx, hmy]
      cases x.negative <;> cases y.negative <;> simp [hinfinity]

lemma value_eq_value_iff (hx : x.isNaN = false) (hy : y.isNaN = false) :
    x.value = y.value ↔ x.rank = y.rank := by
  simp only [le_antisymm_iff, ← not_lt, value_lt_value_iff hx hy, value_lt_value_iff hy hx]

/-- Numbers are compared by what they stand for. -/
lemma compare?_eq_some (hx : x.isNaN = false) (hy : y.isNaN = false) :
    x.compare? y = some (compare x.value y.value) := by
  have hcompare : compare x.rank y.rank = compare x.value y.value :=
    compare_congr (value_lt_value_iff hx hy).symm (value_lt_value_iff hy hx).symm
  rw [compare?, hx, hy, ← hcompare]
  rfl

lemma isNaN_of_compare? {order : Ordering} (h : x.compare? y = some order) :
    x.isNaN = false ∧ y.isNaN = false := by
  rw [compare?] at h
  split at h
  · cases h
  · rename_i hnot
    simpa using hnot

lemma compare?_swap (x y : Double) : y.compare? x = (x.compare? y).map Ordering.swap := by
  rw [compare?, compare?, Bool.or_comm]
  split
  · rfl
  · exact congrArg some Std.OrientedOrd.eq_swap

/-- Two numbers are equal exactly if they stand for the same. -/
lemma compare?_eq_iff (hx : x.isNaN = false) (hy : y.isNaN = false) :
    x.compare? y = some .eq ↔ x.value = y.value := by
  rw [compare?_eq_some hx hy, Option.some_inj, compare_eq_iff_eq]

lemma compare?_self (hx : x.isNaN = false) : x.compare? x = some .eq :=
  (compare?_eq_iff hx hx).2 rfl

end

/-! ### Integers -/

lemma round_le_infinity (num den : Nat) : Format.double.round num den ≤ infinityMagnitude :=
  Nat.min_le_left _ _

lemma round_lt (num den : Nat) : Format.double.round num den < 2 ^ 63 :=
  Nat.lt_of_le_of_lt (round_le_infinity num den) (by decide)

lemma isNaN_ofInt (n : Int) : (ofInt n).isNaN = false := by
  rw [isNaN_eq_false_iff, ofInt, ofRatio, magnitude_ofMagnitude _ (round_lt _ _)]
  exact round_le_infinity _ _

lemma natAbs_mul_unit (n : Int) :
    (n * 2 ^ Format.double.leastExponent).natAbs =
      n.natAbs * 2 ^ Format.double.leastExponent := by
  rw [Int.natAbs_mul, Int.natAbs_pow, show (2 : Int).natAbs = 2 from rfl]

lemma scaledValue_infinityMagnitude :
    Format.double.scaledValue infinityMagnitude = 2 ^ (Format.double.fractionBits + 2046) := by
  have hencoding : infinityMagnitude = (2046 + 1) * 2 ^ Format.double.fractionBits + 0 := rfl
  rw [hencoding, Format.double.scaledValue_add 2046 (Nat.two_pow_pos _), Nat.add_zero,
    ← Nat.pow_add]

/-- An integer that has a finite encoding is not rounded. -/
lemma value_ofInt_of_scaledValue_eq {n : Int} {encoding : Nat}
    (h : n.natAbs * 2 ^ Format.double.leastExponent = Format.double.scaledValue encoding)
    (hfinite : encoding < infinityMagnitude) : (ofInt n).value = ofRat n := by
  have hround : Format.double.round n.natAbs 1 = encoding :=
    Format.double.round_eq_of_scaledValue_eq h hfinite.le
  have hlt : encoding < 2 ^ 63 := hfinite.trans (by decide)
  have hofInt : ofInt n = ofMagnitude (decide (n < 0)) encoding := by rw [ofInt, ofRatio, hround]
  have hisFinite : (ofInt n).isFinite = true := by
    rw [hofInt, isFinite_iff, magnitude_ofMagnitude _ hlt]
    exact hfinite
  have hscaled : (ofInt n).scaled = n * 2 ^ Format.double.leastExponent := by
    rw [scaled, scaledMagnitude_eq, hofInt, negative_ofMagnitude _ hlt, magnitude_ofMagnitude _ hlt,
      ← h]
    push_cast
    rcases lt_or_ge n 0 with hn | hn
    · rw [if_pos (decide_eq_true hn), abs_of_neg hn, Int.neg_mul, Int.neg_neg]
    · rw [if_neg (by simpa using hn), abs_of_nonneg hn]
  rw [value_of_isFinite hisFinite, ofRat_inj, hscaled, div_eq_iff (by positivity)]
  push_cast
  rfl

lemma isFinite_of_value_eq {x : Double} {q : ℚ} (h : x.value = ofRat q) : x.isFinite = true := by
  cases hx : x.isFinite with
  | true => rfl
  | false =>
    rw [value_of_infinite hx] at h
    split at h
    · exact absurd h (bot_lt_ofRat (q := q)).ne
    · exact absurd h (ofRat_lt_top (q := q)).ne'

lemma value_zero (negative : Bool) : (zero negative).value = ofRat 0 := by
  cases negative <;> rw [value_of_isFinite (by decide), ofRat_inj] <;> decide +kernel

lemma eq_zero_of_value_eq {x : Double} (h : x.value = ofRat 0) : ∃ negative, x = zero negative := by
  have hfinite := isFinite_of_value_eq h
  rw [value_of_isFinite hfinite, ofRat_inj, div_eq_zero_iff, Int.cast_eq_zero] at h
  have hscaled : x.scaled = 0 := h.resolve_right (by positivity)
  -- only the encoding zero has the value zero
  have hmagnitude : x.magnitude = 0 := by
    rw [← Format.double.scaledValue_eq_zero_iff, ← scaledMagnitude_eq, ← natAbs_scaled, hscaled,
      Int.natAbs_zero]
  refine ⟨x.negative, ?_⟩
  rw [zero, ← hmagnitude, ofMagnitude_magnitude]

section

variable {n : Int} {x : Double} (h : x.value = ofRat n)

include h

lemma scaled_of_value_eq : x.scaled = n * 2 ^ Format.double.leastExponent := by
  rw [value_of_isFinite (isFinite_of_value_eq h), ofRat_inj, div_eq_iff (by positivity)] at h
  rw [← Int.cast_inj (α := ℚ), h, Int.cast_mul, Int.cast_pow, Int.cast_ofNat]

lemma scaledMagnitude_of_value_eq :
    x.scaledMagnitude = n.natAbs * 2 ^ Format.double.leastExponent := by
  rw [← natAbs_scaled, scaled_of_value_eq h, natAbs_mul_unit]

/-- A number that stands for an integer stands for the same as what the integer is rounded to. -/
lemma value_ofInt_of_value_eq : (ofInt n).value = ofRat n := by
  have hmagnitude : n.natAbs * 2 ^ Format.double.leastExponent =
      Format.double.scaledValue x.magnitude := by
    rw [← scaledMagnitude_eq, scaledMagnitude_of_value_eq h]
  exact value_ofInt_of_scaledValue_eq hmagnitude (x.isFinite_iff.1 (isFinite_of_value_eq h))

end

/-- Integers of up to fifty-three significant bits are not rounded. -/
lemma value_ofInt {n : Int} {m k : Nat} (hn : n.natAbs = m * 2 ^ k) (hm : m < 2 ^ 53)
    (hk : k ≤ 971) : (ofInt n).value = ofRat n := by
  have hsplit : n.natAbs * 2 ^ Format.double.leastExponent =
      m * 2 ^ (k + Format.double.leastExponent) := by rw [hn, Nat.mul_assoc, Nat.pow_add]
  -- `m` fits into the significand, so the step of the binade divides the value
  have hdvd : 2 ^ Format.double.binade (m * 2 ^ (k + Format.double.leastExponent)) ∣
      m * 2 ^ (k + Format.double.leastExponent) :=
    Nat.dvd_mul_left_of_dvd (Nat.pow_dvd_pow 2 (Format.double.binade_mul_le hm _)) m
  have hvalue := Format.double.scaledValue_nearest_of_dvd hdvd
  refine value_ofInt_of_scaledValue_eq (hsplit.trans hvalue.symm) ?_
  rw [← Format.double.strictMono_scaledValue.lt_iff_lt, hvalue, scaledValue_infinityMagnitude]
  calc m * 2 ^ (k + Format.double.leastExponent)
      < 2 ^ 53 * 2 ^ (k + Format.double.leastExponent) :=
        Nat.mul_lt_mul_of_pos_right hm (Nat.two_pow_pos _)
    _ ≤ 2 ^ (Format.double.fractionBits + 2046) := by
        have hleast : Format.double.leastExponent = 1074 := rfl
        have hfraction : Format.double.fractionBits = 52 := rfl
        rw [← Nat.pow_add]
        exact Nat.pow_le_pow_right (by decide) (by omega)

end Double

end Criteria
