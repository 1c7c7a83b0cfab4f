import Criteria.Double.Shortest
import Criteria.Proofs.Double.Value
import Mathlib.Algebra.Order.Field.Power

/-!
# The texts of integers in double precision

A number is written with the shortest decimal that is read back as the number, and not with its own
digits. For a number that stands for an integer of up to sixty-four bits, that decimal has no places
after the point (`Double.shortest_of_value_eq`), so the text is that of an integer as well
(`Double.toText_of_value_eq`). It is the text of the number itself exactly if the decimal is the
number (`Double.toText_eq_toString_iff`), as it is below `2 ^ 53` (`Double.hasPlainText_of_lt`).
-/

namespace Criteria

/-- The number that a decimal denotes. -/
def Decimal.value (d : Decimal) : ℚ := d.digits * 10 ^ d.exponent

lemma Decimal.value_of_exponent_nonneg {d : Decimal} (h : 0 ≤ d.exponent) :
    d.value = (d.digits * 10 ^ d.exponent.toNat : Nat) := by
  obtain ⟨k, hk⟩ := Int.eq_ofNat_of_zero_le h
  rw [value, hk, Int.toNat_natCast]
  push_cast
  rw [zpow_natCast]

/-- Zeros after the last digit count for powers of ten. -/
lemma toDigits_append_replicate {n : Nat} (hn : 0 < n) (k : Nat) :
    Nat.toDigits 10 n ++ List.replicate k '0' = Nat.toDigits 10 (n * 10 ^ k) := by
  induction k with
  | zero => simp
  | succ k ih =>
    have hpos : 0 < n * 10 ^ k := Nat.mul_pos hn (Nat.pow_pos (by decide))
    have hzero : Nat.toDigits 10 0 = ['0'] := Nat.toDigits_zero 10
    rw [List.replicate_succ', ← List.append_assoc, ih, ← hzero,
      Nat.toDigits_append_toDigits (by decide) hpos (by decide), Nat.add_zero, Nat.pow_succ',
      Nat.mul_left_comm]

lemma toDigits_inj {m n : Nat} : Nat.toDigits 10 m = Nat.toDigits 10 n ↔ m = n := by
  constructor
  · intro h
    rw [← @Nat.ofDigitChars_ten_toDigits m, h, Nat.ofDigitChars_ten_toDigits]
  · exact congrArg _

/-- The first result is found no later than any given one. -/
lemma findSome?_range {α : Type} {f : Nat → Option α} {n k : Nat} (hn : n < k)
    (h : (f n).isSome = true) :
    ∃ m ≤ n, ∃ a, f m = some a ∧ (List.range k).findSome? f = some a := by
  have hsome : ((List.range k).findSome? f).isSome = true :=
    List.findSome?_isSome_iff.2 ⟨n, List.mem_range.2 hn, h⟩
  obtain ⟨d, hd⟩ := Option.isSome_iff_exists.1 hsome
  obtain ⟨before, m, after, hrange, hm, hbefore⟩ := List.findSome?_eq_some_iff.1 hd
  refine ⟨m, ?_, d, hm, hd⟩
  -- nothing is found before `m`, and all after it is greater, so `n` can only be `m` or later
  have hsorted : (before ++ m :: after).Pairwise (· < ·) := hrange ▸ List.pairwise_lt_range
  have hafter := List.pairwise_cons.1 (List.pairwise_append.1 hsorted).2.1
  have hmem : n ∈ before ++ m :: after := hrange ▸ List.mem_range.2 hn
  rcases List.mem_append.1 hmem with hmem | hmem
  · rw [hbefore n hmem] at h
    cases h
  · rcases List.mem_cons.1 hmem with rfl | hmem
    · exact le_rfl
    · exact (hafter.1 n hmem).le

namespace Double

open ExtendedRat

namespace RoundingInterval

/-- The number one, in the units of the intervals. -/
def scaledOne : Nat := 2 ^ (Format.double.leastExponent + 2)

lemma pow_eq_scaledOne : Nat.pow 2 1076 = scaledOne := by
  have hexponent : 1076 = Format.double.leastExponent + 2 := rfl
  rw [hexponent, Nat.pow_eq, scaledOne]

lemma scaledOne_eq : scaledOne = 4 * 2 ^ Format.double.leastExponent := by
  rw [scaledOne, Nat.pow_add, Nat.mul_comm]

lemma scaledOne_pos : 0 < scaledOne := Nat.two_pow_pos _

variable {i : RoundingInterval} {point scale : Nat}

lemma holds_of_between (hlo : i.lo * scale < point) (hhi : point < i.hi * scale) :
    i.holds point scale = true := by
  rw [holds]
  split
  · exact decide_eq_true ⟨hlo.le, hhi.le⟩
  · exact decide_eq_true ⟨hlo, hhi⟩

lemma between_of_holds (h : i.holds point scale = true) :
    i.lo * scale ≤ point ∧ point ≤ i.hi * scale := by
  rw [holds] at h
  split at h
  · exact of_decide_eq_true h
  · have hlt := of_decide_eq_true h
    exact ⟨hlt.1.le, hlt.2.le⟩

/-- A decimal that is found on a grid lies in the interval. -/
lemma holds_of_onGrid? {tie : Tie} {exponent : Int} {d : Decimal}
    (h : i.onGrid? tie exponent = some d) :
    d.exponent = exponent ∧
      i.holds (d.digits * (scaledOne * Nat.pow 10 exponent.toNat))
        (Nat.pow 10 (-exponent).toNat) = true := by
  simp only [onGrid?, pow_eq_scaledOne] at h
  generalize scaledOne * Nat.pow 10 exponent.toNat = step at h ⊢
  generalize Nat.pow 10 (-exponent).toNat = scale at h ⊢
  split at h
  · rename_i hbelow habove
    split_ifs at h
    · cases h
      exact ⟨rfl, hbelow⟩
    · cases h
      exact ⟨rfl, habove⟩
    · cases tie with
      | up =>
        cases h
        exact ⟨rfl, habove⟩
      | even =>
        cases h
        refine ⟨rfl, ?_⟩
        -- the even one of the two multiples
        rcases Nat.mod_two_eq_zero_or_one (i.mid * scale / step) with heven | hodd
        · rw [heven]
          exact hbelow
        · rw [hodd]
          exact habove
  · rename_i hbelow _
    cases h
    exact ⟨rfl, hbelow⟩
  · rename_i _ habove
    cases h
    exact ⟨rfl, habove⟩
  · cases h

/-- If the middle is on a grid, there is a decimal on that grid. -/
lemma isSome_onGrid? {tie : Tie} {exponent : Int} {digits : Nat}
    (hmid : i.mid * Nat.pow 10 (-exponent).toNat =
      digits * (scaledOne * Nat.pow 10 exponent.toNat))
    (hholds : i.holds (digits * (scaledOne * Nat.pow 10 exponent.toNat))
      (Nat.pow 10 (-exponent).toNat) = true) : (i.onGrid? tie exponent).isSome = true := by
  have hstep : 0 < scaledOne * Nat.pow 10 exponent.toNat :=
    Nat.mul_pos scaledOne_pos (Nat.pow_pos (by decide))
  simp only [onGrid?, pow_eq_scaledOne]
  generalize scaledOne * Nat.pow 10 exponent.toNat = step at hmid hholds hstep ⊢
  -- the multiple of the step below the middle is then the middle itself
  rw [hmid, Nat.mul_div_cancel _ hstep, Nat.mul_mod_left, hholds]
  cases i.holds ((digits + 1) * step) (Nat.pow 10 (-exponent).toNat) with
  | false => rfl
  | true => simp [hstep]

/-! ### The interval of a number -/

section

variable (x : Double)

lemma mid_ofMagnitude : (ofMagnitude x.magnitude).mid = 4 * x.scaledMagnitude := by
  rw [ofMagnitude, scaledMagnitude, Nat.mul_assoc]

/-- The interval reaches to both sides, not further than two quarters of a unit. -/
lemma bounds_ofMagnitude (h : 0 < x.scaledMagnitude) :
    let i := ofMagnitude x.magnitude
    let unit := 2 ^ shift x.magnitude
    0 < i.lo ∧ i.lo < i.mid ∧ i.mid < i.hi ∧ i.mid ≤ i.lo + 2 * unit ∧ i.hi = i.mid + 2 * unit := by
  intro i unit
  have hunit : 0 < unit := Nat.two_pow_pos _
  have hsignificand : 0 < significand x.magnitude := Nat.pos_of_mul_pos_right h
  have hle : unit ≤ significand x.magnitude * unit := Nat.le_mul_of_pos_left _ hsignificand
  have hmid : i.mid = 4 * (significand x.magnitude * unit) := Nat.mul_assoc _ _ _
  have hhi : i.hi = 4 * (significand x.magnitude * unit) + 2 * unit := by
    rw [← Nat.mul_assoc, ← Nat.add_mul]
    rfl
  -- downward the interval is half as wide where a binade begins
  have hlo : i.lo = 4 * (significand x.magnitude * unit) - 1 * unit ∨
      i.lo = 4 * (significand x.magnitude * unit) - 2 * unit := by
    rw [← Nat.mul_assoc, ← Nat.sub_mul, ← Nat.sub_mul]
    simp only [i, ofMagnitude]
    split_ifs
    · exact .inl rfl
    · exact .inr rfl
  omega

end

end RoundingInterval

/-! ### The shortest decimal -/

open RoundingInterval

/-- The grids are tried from the coarsest on, so the shortest decimal is on no finer grid than any
decimal in the interval. -/
lemma exists_onGrid?_shortest {tie : Tie} {magnitude : Nat} {exponent : Int} :
    let i := RoundingInterval.ofMagnitude magnitude
    exponent ≤ i.exponentBound → i.exponentBound < exponent + 24 →
      (i.onGrid? tie exponent).isSome = true →
        ∃ e ≥ exponent, i.onGrid? tie e = some (shortest tie magnitude) := by
  intro i hle hlt hsome
  -- the grids are numbered from the bound of the exponent downward
  obtain ⟨n, hn⟩ := Int.eq_ofNat_of_zero_le (Int.sub_nonneg.2 hle)
  have hexponent : i.exponentBound - (n : Int) = exponent := by omega
  obtain ⟨m, hm, d, hd, hfind⟩ := findSome?_range (k := 24) (n := n)
    (f := i.onGrid? tie ∘ fun n : Nat => i.exponentBound - (n : Int)) (by omega)
    (by rwa [Function.comp_apply, hexponent])
  have hshortest : shortest tie magnitude = d := by
    rw [shortest, List.findSome?_map, hfind, Option.getD_some]
  rw [Function.comp_apply] at hd
  rw [hshortest]
  exact ⟨i.exponentBound - (m : Int), by omega, hd⟩

/-! ### Integers -/

section

variable {x : Double} {n : Int} (hx : x.value = ofRat n)

include hx

/-- An integer is the middle of its interval. -/
lemma mid_of_value_eq :
    (RoundingInterval.ofMagnitude x.magnitude).mid = n.natAbs * scaledOne := by
  rw [mid_ofMagnitude, scaledMagnitude_of_value_eq hx, scaledOne_eq, Nat.mul_left_comm]

variable (hn : n ≠ 0)

include hn

lemma scaledMagnitude_pos : 0 < x.scaledMagnitude := by
  rw [scaledMagnitude_of_value_eq hx]
  exact Nat.mul_pos (Int.natAbs_pos.2 hn) (Nat.two_pow_pos _)

/-- An integer lies on the grid of the integers. -/
lemma isSome_onGrid?_zero (tie : Tie) :
    ((RoundingInterval.ofMagnitude x.magnitude).onGrid? tie 0).isSome = true := by
  obtain ⟨-, hlo, hhi, -⟩ := bounds_ofMagnitude x (scaledMagnitude_pos hx hn)
  have hmid : (RoundingInterval.ofMagnitude x.magnitude).mid * Nat.pow 10 (-0 : Int).toNat =
      n.natAbs * (scaledOne * Nat.pow 10 (0 : Int).toNat) := by
    rw [mid_of_value_eq hx]
    simp
  apply isSome_onGrid? hmid
  rw [← hmid]
  exact holds_of_between (Nat.mul_lt_mul_of_pos_right hlo (by decide))
    (Nat.mul_lt_mul_of_pos_right hhi (by decide))

/-- The grid of the integers is among those tried for an integer of up to sixty-four bits. -/
lemma exponentBound_of_value_eq (hlt : n.natAbs < 2 ^ 64) :
    0 ≤ (RoundingInterval.ofMagnitude x.magnitude).exponentBound ∧
      (RoundingInterval.ofMagnitude x.magnitude).exponentBound < 24 := by
  have hmid := mid_of_value_eq hx
  have hpos : 0 < n.natAbs := Int.natAbs_pos.2 hn
  have hne : n.natAbs * scaledOne ≠ 0 := (Nat.mul_pos hpos scaledOne_pos).ne'
  have hleast : Format.double.leastExponent = 1074 := rfl
  -- the bound is read off the number of bits of the middle
  have hlo : Format.double.leastExponent + 2 ≤ (n.natAbs * scaledOne).log2 := by
    rw [Nat.le_log2 hne, ← scaledOne]
    exact Nat.le_mul_of_pos_left _ hpos
  have hhi : (n.natAbs * scaledOne).log2 < 64 + (Format.double.leastExponent + 2) := by
    rw [Nat.log2_lt hne, Nat.pow_add, ← scaledOne]
    exact Nat.mul_lt_mul_of_pos_right hlt scaledOne_pos
  rw [RoundingInterval.exponentBound, hmid, Int.fdiv_eq_ediv_of_nonneg _ (by decide)]
  omega

/-- The shortest decimal of an integer of up to sixty-four bits is an integer in its interval. -/
lemma shortest_of_value_eq (hlt : n.natAbs < 2 ^ 64) (tie : Tie) :
    let d := shortest tie x.magnitude
    0 ≤ d.exponent ∧ (RoundingInterval.ofMagnitude x.magnitude).holds
      (d.digits * 10 ^ d.exponent.toNat * scaledOne) 1 = true := by
  intro d
  obtain ⟨hlo, hhi⟩ := exponentBound_of_value_eq hx hn hlt
  obtain ⟨e, he, hgrid⟩ :=
    exists_onGrid?_shortest hlo (by omega) (isSome_onGrid?_zero hx hn tie)
  obtain ⟨hexponent, hholds⟩ := holds_of_onGrid? hgrid
  -- a grid of integers or a coarser one: what is found on it is an integer itself
  have hscale : (-e).toNat = 0 := Int.toNat_of_nonpos (by omega)
  rw [hscale, Nat.pow_eq, Nat.pow_eq, Nat.pow_zero] at hholds
  refine ⟨hexponent.symm ▸ he, ?_⟩
  rw [hexponent, Nat.mul_assoc, Nat.mul_comm (10 ^ _)]
  exact hholds

end

/-! ### Texts -/

/-- The number that the text of a finite number denotes. -/
def textValue (x : Double) : ℚ :=
  if x.negative then -(shortest .up x.magnitude).value else (shortest .up x.magnitude).value

/-- The text of a number denotes the number itself, and has no sign if that is zero. -/
def HasPlainText (x : Double) : Prop := x ≠ zero true ∧ x.value = ofRat x.textValue

/-- The integer that is written for the absolute value of an integer. -/
def writtenInteger (x : Double) : Nat :=
  (shortest .up x.magnitude).digits * 10 ^ (shortest .up x.magnitude).exponent.toNat

lemma toString_eq (n : Int) :
    toString n = String.ofList ((if n < 0 then ['-'] else []) ++ Nat.toDigits 10 n.natAbs) := by
  rw [Int.toString_eq_repr, Int.repr_eq_if, Nat.repr_eq_ofList_toDigits,
    Nat.repr_eq_ofList_toDigits]
  rcases lt_or_ge n 0 with hneg | hnonneg
  · have habs : (-n).toNat = n.natAbs := by omega
    rw [if_neg (by omega), if_pos hneg, habs, String.ofList_append]
  · have habs : n.toNat = n.natAbs := by omega
    rw [if_pos hnonneg, if_neg (by omega), habs, List.nil_append]

section

variable {x : Double} {n : Int} (hx : x.value = ofRat n) (hn : n ≠ 0)

include hx hn

lemma negative_of_value_eq : x.negative = decide (n < 0) := by
  have hscaled := scaled_of_value_eq hx
  have hunit : (0 : Int) < 2 ^ Format.double.leastExponent := by positivity
  rcases hn.lt_or_gt with hneg | hpos
  · rw [decide_eq_true hneg]
    have hlt : x.scaled < 0 := hscaled ▸ Int.mul_neg_of_neg_of_pos hneg hunit
    rw [scaled] at hlt
    split at hlt
    · assumption
    · omega
  · rw [decide_eq_false (by omega)]
    have hlt : 0 < x.scaled := hscaled ▸ Int.mul_pos hpos hunit
    rw [scaled] at hlt
    split at hlt
    · omega
    · rename_i hnot
      exact eq_false_of_ne_true hnot

lemma magnitude_ne_zero : x.magnitude ≠ 0 := by
  have hpos := scaledMagnitude_pos hx hn
  rw [scaledMagnitude_eq] at hpos
  exact fun h => hpos.ne' ((Format.double.scaledValue_eq_zero_iff _).2 h)

variable (hlt : n.natAbs < 2 ^ 64)

include hlt

lemma digits_pos : 0 < (shortest .up x.magnitude).digits := by
  have hlo := (bounds_ofMagnitude x (scaledMagnitude_pos hx hn)).1
  obtain ⟨-, hholds⟩ := shortest_of_value_eq hx hn hlt .up
  have hle := (between_of_holds hholds).1
  rw [Nat.mul_one] at hle
  have hpos := lt_of_lt_of_le hlo hle
  exact Nat.pos_of_mul_pos_right (Nat.pos_of_mul_pos_right hpos)

lemma toText_of_value_eq : x.toText =
    String.ofList ((if n < 0 then ['-'] else []) ++ Nat.toDigits 10 x.writtenInteger) := by
  have hfinite := isFinite_of_value_eq hx
  obtain ⟨hexponent, -⟩ := shortest_of_value_eq hx hn hlt .up
  have hdigits : plainLayout.writePositional (shortest .up x.magnitude) =
      Nat.toDigits 10 x.writtenInteger := by
    rw [Layout.writePositional, if_pos hexponent, writtenInteger,
      ← toDigits_append_replicate (digits_pos hx hn hlt)]
    exact List.append_nil _
  rw [toText, isNaN_of_isFinite hfinite, if_neg Bool.false_ne_true, if_pos hfinite, Layout.write,
    negative_of_value_eq hx hn, if_neg (magnitude_ne_zero hx hn), ← hdigits]
  simp only [decide_eq_true_eq]
  rfl

/-- An integer has a plain text if it is what is written. -/
lemma hasPlainText_iff : x.HasPlainText ↔ x.writtenInteger = n.natAbs := by
  have hzero : x ≠ zero true := by
    rintro rfl
    exact magnitude_ne_zero hx hn (by decide)
  have htext : x.textValue = if n < 0 then -(x.writtenInteger : ℚ) else x.writtenInteger := by
    obtain ⟨hexponent, -⟩ := shortest_of_value_eq hx hn hlt .up
    rw [textValue, negative_of_value_eq hx hn, Decimal.value_of_exponent_nonneg hexponent]
    simp only [decide_eq_true_eq]
    rfl
  rw [HasPlainText, and_iff_right hzero, hx, ofRat_inj, htext]
  -- the sign is written before the digits in either case, so these alone are compared
  rcases lt_or_ge n 0 with hneg | hge
  · have habs : (n : ℚ) = -(n.natAbs : ℚ) := by
      rw [Nat.cast_natAbs, abs_of_neg hneg, Int.cast_neg, neg_neg]
    rw [if_pos hneg, habs, neg_inj, Nat.cast_inj, eq_comm]
  · have habs : (n : ℚ) = n.natAbs := by rw [Nat.cast_natAbs, abs_of_nonneg hge]
    rw [if_neg (by omega), habs, Nat.cast_inj, eq_comm]

end

lemma hasPlainText_zero : (zero false).HasPlainText := by
  have hdigits : (shortest .up (zero false).magnitude).digits = 0 := by decide +kernel
  refine ⟨by decide, ?_⟩
  rw [value_zero, textValue, if_neg (by decide), Decimal.value, hdigits, Nat.cast_zero, zero_mul]

section

variable {x : Double} {n : Int} (hx : x.value = ofRat n)

include hx

/-- The text of a number that stands for an integer is that of the integer exactly if it is
plain. -/
lemma toText_eq_toString_iff (hlt : n.natAbs < 2 ^ 64) :
    x.toText = toString n ↔ x.HasPlainText := by
  rcases eq_or_ne n 0 with rfl | hn
  · rw [Int.cast_zero] at hx
    obtain ⟨negative, rfl⟩ := eq_zero_of_value_eq hx
    cases negative with
    | false => exact iff_of_true (by decide) hasPlainText_zero
    | true => exact iff_of_false (by decide) fun h => h.1 rfl
  · rw [toText_of_value_eq hx hn hlt, toString_eq, hasPlainText_iff hx hn hlt, String.ofList_inj,
      List.append_cancel_left_eq, toDigits_inj]

/-- The interval of an integer below `2 ^ 53` reaches less than one to either side. -/
lemma unit_lt_scaledOne (hlt : n.natAbs < 2 ^ 53) : 2 * 2 ^ shift x.magnitude < scaledOne := by
  have hscaled := scaledMagnitude_of_value_eq hx
  have hone := scaledOne_eq
  have hunit : 0 < 2 ^ Format.double.leastExponent := Nat.two_pow_pos _
  by_cases hsmall : x.magnitude < 2 ^ 52
  · -- the unit is the least positive number
    have hshift : shift x.magnitude = 0 := by
      rw [shift, Nat.pow_eq, Nat.div_eq_of_lt hsmall]
    rw [hshift, Nat.pow_zero]
    omega
  · have hsignificand : 2 ^ 52 ≤ significand x.magnitude := by
      rw [significand, Nat.pow_eq, if_neg hsmall]
      exact Nat.le_add_right _ _
    -- the significand has all fifty-three bits, so the unit has to be small
    have hbound : 2 ^ 52 * 2 ^ shift x.magnitude < 2 ^ 53 * 2 ^ Format.double.leastExponent :=
      calc 2 ^ 52 * 2 ^ shift x.magnitude ≤ x.scaledMagnitude := Nat.mul_le_mul_right _ hsignificand
        _ = n.natAbs * 2 ^ Format.double.leastExponent := hscaled
        _ < 2 ^ 53 * 2 ^ Format.double.leastExponent := Nat.mul_lt_mul_of_pos_right hlt hunit
    omega

/-- Integers below `2 ^ 53` are written as they are, except for the negative zero. -/
lemma hasPlainText_of_lt (hzero : x ≠ zero true) (hlt : n.natAbs < 2 ^ 53) : x.HasPlainText := by
  rcases eq_or_ne n 0 with rfl | hn
  · rw [Int.cast_zero] at hx
    obtain ⟨negative, rfl⟩ := eq_zero_of_value_eq hx
    cases negative with
    | false => exact hasPlainText_zero
    | true => exact absurd rfl hzero
  · have hlt64 : n.natAbs < 2 ^ 64 := by omega
    obtain ⟨-, -, -, hlo, hhi⟩ := bounds_ofMagnitude x (scaledMagnitude_pos hx hn)
    obtain ⟨-, hholds⟩ := shortest_of_value_eq hx hn hlt64 .up
    have hbetween := between_of_holds hholds
    have hunit := unit_lt_scaledOne hx hlt
    have hmid := mid_of_value_eq hx
    rw [← writtenInteger, Nat.mul_one, Nat.mul_one] at hbetween
    -- no other integer is in the interval
    have hle : x.writtenInteger * scaledOne < (n.natAbs + 1) * scaledOne := by
      rw [Nat.add_one_mul]
      omega
    have hge : n.natAbs * scaledOne < (x.writtenInteger + 1) * scaledOne := by
      rw [Nat.add_one_mul]
      omega
    rw [hasPlainText_iff hx hn hlt64]
    exact le_antisymm (Nat.le_of_lt_succ (Nat.lt_of_mul_lt_mul_right hle))
      (Nat.le_of_lt_succ (Nat.lt_of_mul_lt_mul_right hge))

end

end Double

end Criteria
