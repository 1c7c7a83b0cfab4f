import Criteria.Double.Rounding
import Mathlib.Algebra.Order.Group.Nat
import Mathlib.Order.Monotone.Basic
import Mathlib.Tactic.Lemma

/-!
# Exact rounding

The values of the encodings of a binary format grow with the encoding, by one step of the binade at
a time (`Format.scaledValue_succ`). A number is rounded to a whole number of steps of its binade
(`Format.scaledValue_nearest`), and one that is a whole number of steps already is not changed. So
an integer that has an encoding is rounded to just that encoding
(`Format.round_eq_of_scaledValue_eq`).
-/

namespace Criteria

lemma roundHalfEven_mul (k : Nat) {d : Nat} (hd : 0 < d) : roundHalfEven (k * d) d = k := by
  have hrest : k * d % d = 0 := Nat.mul_mod_left k d
  have hquotient : k * d / d = k := Nat.mul_div_cancel k hd
  simp [roundHalfEven, hrest, hquotient, hd]

section

variable (num : Nat) {den : Nat}

lemma div_le_roundHalfEven : num / den ≤ roundHalfEven num den := by
  simp only [roundHalfEven]
  split_ifs <;> omega

lemma roundHalfEven_le_div_add_one : roundHalfEven num den ≤ num / den + 1 := by
  simp only [roundHalfEven]
  split_ifs <;> omega

end

namespace Format

variable (f : Format)

/-! ### Values of encodings -/

lemma scaledValue_of_lt {encoding : Nat} (h : encoding < 2 ^ f.fractionBits) :
    f.scaledValue encoding = encoding := if_pos h

/-- The value of an encoding that is given by its binade and its fraction. -/
lemma scaledValue_add (binade : Nat) {fraction : Nat} (h : fraction < 2 ^ f.fractionBits) :
    f.scaledValue ((binade + 1) * 2 ^ f.fractionBits + fraction) =
      (2 ^ f.fractionBits + fraction) * 2 ^ binade := by
  have hunit : 0 < 2 ^ f.fractionBits := Nat.two_pow_pos _
  have hge : ¬ (binade + 1) * 2 ^ f.fractionBits + fraction < 2 ^ f.fractionBits := by
    rw [Nat.add_one_mul]
    omega
  -- counted in units, the encoding is the binade, and the fraction is what is left over
  have hdiv : ((binade + 1) * 2 ^ f.fractionBits + fraction) / 2 ^ f.fractionBits = binade + 1 := by
    rw [Nat.mul_comm, Nat.mul_add_div hunit, Nat.div_eq_of_lt h, Nat.add_zero]
  have hmod : ((binade + 1) * 2 ^ f.fractionBits + fraction) % 2 ^ f.fractionBits = fraction := by
    rw [Nat.mul_comm, Nat.mul_add_mod, Nat.mod_eq_of_lt h]
  simp only [scaledValue, Nat.pow_eq, hge, if_false, hdiv, hmod, Nat.add_sub_cancel]

/-- An encoding is in the lowest binade, where it is its own value, or in a later one. -/
lemma lt_or_exists_binade (encoding : Nat) :
    encoding < 2 ^ f.fractionBits ∨ ∃ binade fraction, fraction < 2 ^ f.fractionBits ∧
      encoding = (binade + 1) * 2 ^ f.fractionBits + fraction := by
  rcases Nat.lt_or_ge encoding (2 ^ f.fractionBits) with hlt | hge
  · exact .inl hlt
  · right
    have hunit : 0 < 2 ^ f.fractionBits := Nat.two_pow_pos _
    have hpos : 0 < encoding / 2 ^ f.fractionBits := Nat.div_pos hge hunit
    refine ⟨encoding / 2 ^ f.fractionBits - 1, encoding % 2 ^ f.fractionBits,
      Nat.mod_lt _ hunit, ?_⟩
    rw [Nat.sub_add_cancel hpos, Nat.div_add_mod']

lemma scaledValue_succ (encoding : Nat) :
    f.scaledValue (encoding + 1) =
      f.scaledValue encoding + 2 ^ (encoding / 2 ^ f.fractionBits - 1) := by
  have hunit : 0 < 2 ^ f.fractionBits := Nat.two_pow_pos _
  obtain hlt | ⟨binade, fraction, hfraction, rfl⟩ := f.lt_or_exists_binade encoding
  · rw [f.scaledValue_of_lt hlt, Nat.div_eq_of_lt hlt]
    rcases Nat.lt_or_ge (encoding + 1) (2 ^ f.fractionBits) with hnext | hnext
    · rw [f.scaledValue_of_lt hnext, Nat.zero_sub, Nat.pow_zero]
    · -- the first binade with a leading bit begins here
      have heq : encoding + 1 = (0 + 1) * 2 ^ f.fractionBits + 0 := by omega
      rw [heq, f.scaledValue_add 0 hunit]
      omega
  · have hbinade : ((binade + 1) * 2 ^ f.fractionBits + fraction) / 2 ^ f.fractionBits - 1 =
        binade := by
      rw [Nat.mul_comm, Nat.mul_add_div hunit, Nat.div_eq_of_lt hfraction]
      rfl
    rw [f.scaledValue_add binade hfraction, hbinade]
    rcases Nat.lt_or_ge (fraction + 1) (2 ^ f.fractionBits) with hnext | hnext
    · rw [Nat.add_assoc, f.scaledValue_add binade hnext, ← Nat.add_assoc, Nat.add_one_mul]
    · -- the fraction runs over into the next binade, where a step is twice as long
      have heq : (binade + 1) * 2 ^ f.fractionBits + fraction + 1 =
          (binade + 1 + 1) * 2 ^ f.fractionBits + 0 := by
        rw [Nat.add_one_mul (binade + 1)]
        omega
      have hfull : 2 ^ f.fractionBits + fraction = 2 * 2 ^ f.fractionBits - 1 := by omega
      rw [heq, f.scaledValue_add _ hunit, Nat.add_zero, Nat.pow_succ, hfull, Nat.sub_mul,
        Nat.one_mul, Nat.sub_add_cancel]
      · rw [← Nat.mul_assoc, Nat.mul_right_comm, Nat.mul_comm 2]
      · exact Nat.le_mul_of_pos_left _ (by omega)

lemma strictMono_scaledValue : StrictMono f.scaledValue := by
  apply strictMono_nat_of_lt_succ
  intro encoding
  rw [f.scaledValue_succ]
  exact Nat.lt_add_of_pos_right (Nat.two_pow_pos _)

lemma scaledValue_eq_zero_iff (encoding : Nat) : f.scaledValue encoding = 0 ↔ encoding = 0 := by
  have hzero : f.scaledValue 0 = 0 := f.scaledValue_of_lt (Nat.two_pow_pos _)
  have hiff := f.strictMono_scaledValue.injective.eq_iff (a := encoding) (b := 0)
  rwa [hzero] at hiff

/-! ### Rounding -/

/-- The binade of a value, counted from the lowest one in which the leading bit stands. -/
def binade (scaled : Nat) : Nat := scaled.log2 - f.fractionBits

lemma binade_eq_zero {scaled : Nat} (h : scaled < 2 ^ f.fractionBits) : f.binade scaled = 0 := by
  rcases Nat.eq_zero_or_pos scaled with rfl | hpos
  · rw [binade, Nat.log2_zero, Nat.zero_sub]
  · have hlog : scaled.log2 < f.fractionBits := (Nat.log2_lt (by omega)).2 h
    exact Nat.sub_eq_zero_of_le hlog.le

/-- A value with at most one more bit than a fraction is in the binade of its unit or below. -/
lemma binade_mul_le {m : Nat} (hm : m < 2 * 2 ^ f.fractionBits) (k : Nat) :
    f.binade (m * 2 ^ k) ≤ k := by
  rcases Nat.eq_zero_or_pos m with rfl | hpos
  · rw [Nat.zero_mul, f.binade_eq_zero (Nat.two_pow_pos _)]
    exact Nat.zero_le k
  · have hlog : (m * 2 ^ k).log2 < f.fractionBits + k + 1 := by
      rw [Nat.log2_lt (Nat.mul_pos hpos (Nat.two_pow_pos _)).ne', Nat.add_right_comm, Nat.pow_add,
        Nat.pow_succ']
      exact Nat.mul_lt_mul_of_pos_right hm (Nat.two_pow_pos _)
    rw [binade]
    omega

/-- From the lowest binade on, the integer part of a value in steps of its binade has the leading
bit and as many more bits as a fraction. -/
lemma div_binade_bounds {scaled : Nat} (h : 2 ^ f.fractionBits ≤ scaled) :
    2 ^ f.fractionBits ≤ scaled / 2 ^ f.binade scaled ∧
      scaled / 2 ^ f.binade scaled < 2 * 2 ^ f.fractionBits := by
  have hunit : 0 < 2 ^ f.fractionBits := Nat.two_pow_pos _
  have hne : scaled ≠ 0 := by omega
  have hlog : f.fractionBits ≤ scaled.log2 := (Nat.le_log2 hne).2 h
  -- the step of the binade is chosen so that the leading bit comes to stand above the fraction
  have hsum : f.fractionBits + f.binade scaled = scaled.log2 := Nat.add_sub_cancel' hlog
  constructor
  · rw [Nat.le_div_iff_mul_le (Nat.two_pow_pos _), ← Nat.pow_add, hsum]
    exact Nat.log2_self_le hne
  · rw [Nat.div_lt_iff_lt_mul (Nat.two_pow_pos _), Nat.mul_assoc, ← Nat.pow_add, hsum,
      ← Nat.pow_succ']
    exact Nat.lt_log2_self

/-- An encoding is a multiple of the step of its binade. -/
lemma dvd_scaledValue (encoding : Nat) :
    2 ^ f.binade (f.scaledValue encoding) ∣ f.scaledValue encoding := by
  obtain hlt | ⟨binade, fraction, hfraction, rfl⟩ := f.lt_or_exists_binade encoding
  · rw [f.scaledValue_of_lt hlt, f.binade_eq_zero hlt, Nat.pow_zero]
    exact Nat.one_dvd _
  · rw [f.scaledValue_add binade hfraction]
    have hbinade := f.binade_mul_le (m := 2 ^ f.fractionBits + fraction) (by omega) binade
    exact Nat.dvd_mul_left_of_dvd (Nat.pow_dvd_pow 2 hbinade) _

/-- The encoding that a value is rounded to, in units of `2 ^ -leastExponent`, if there is no end to
the encodings. -/
def nearest (scaled : Nat) : Nat :=
  f.binade scaled * 2 ^ f.fractionBits + roundHalfEven scaled (2 ^ f.binade scaled)

lemma round_one (num : Nat) :
    f.round num 1 = min f.infinity (f.nearest (num * 2 ^ f.leastExponent)) := by
  simp only [round, nearest, binade, Nat.pow_eq, Nat.div_one, Nat.one_mul]

lemma roundHalfEven_binade_le (scaled : Nat) :
    roundHalfEven scaled (2 ^ f.binade scaled) ≤ 2 * 2 ^ f.fractionBits := by
  have hround := @roundHalfEven_le_div_add_one scaled (2 ^ f.binade scaled)
  rcases Nat.lt_or_ge scaled (2 ^ f.fractionBits) with hlt | hge
  · -- in the lowest binade a step is one, and the value leaves room for it below the bound
    rw [f.binade_eq_zero hlt, Nat.pow_zero] at hround ⊢
    omega
  · have hdiv := (f.div_binade_bounds hge).2
    omega

lemma le_roundHalfEven_binade {scaled : Nat} (h : 2 ^ f.fractionBits ≤ scaled) :
    2 ^ f.fractionBits ≤ roundHalfEven scaled (2 ^ f.binade scaled) :=
  (f.div_binade_bounds h).1.trans (div_le_roundHalfEven scaled)

/-- The value of the nearest encoding is a whole number of steps of the binade. -/
lemma scaledValue_nearest (scaled : Nat) :
    f.scaledValue (f.nearest scaled) =
      roundHalfEven scaled (2 ^ f.binade scaled) * 2 ^ f.binade scaled := by
  have hunit : 0 < 2 ^ f.fractionBits := Nat.two_pow_pos _
  rcases Nat.lt_or_ge scaled (2 ^ f.fractionBits) with hlt | hge
  · have hround : roundHalfEven scaled 1 = scaled := by
      simpa using roundHalfEven_mul scaled Nat.one_pos
    rw [nearest, f.binade_eq_zero hlt, Nat.pow_zero, hround, Nat.zero_mul, Nat.zero_add,
      Nat.mul_one, f.scaledValue_of_lt hlt]
  · have hlo := f.le_roundHalfEven_binade hge
    have hhi := f.roundHalfEven_binade_le scaled
    rw [nearest]
    -- of what is rounded, only the bounds count from here on
    generalize roundHalfEven scaled (2 ^ f.binade scaled) = rounded at hlo hhi ⊢
    rcases hhi.lt_or_eq with hlt | heq
    · have hencoding : f.binade scaled * 2 ^ f.fractionBits + rounded =
          (f.binade scaled + 1) * 2 ^ f.fractionBits + (rounded - 2 ^ f.fractionBits) := by
        rw [Nat.add_one_mul]
        omega
      rw [hencoding, f.scaledValue_add _ (by omega), Nat.add_sub_cancel' hlo]
    · -- rounding up to a power of two leads into the next binade
      have hencoding : f.binade scaled * 2 ^ f.fractionBits + rounded =
          (f.binade scaled + 1 + 1) * 2 ^ f.fractionBits + 0 := by
        rw [heq, Nat.add_one_mul (f.binade scaled + 1), Nat.add_one_mul (f.binade scaled)]
        omega
      rw [hencoding, f.scaledValue_add _ hunit, heq, Nat.add_zero, Nat.pow_succ, Nat.mul_comm 2,
        Nat.mul_assoc, Nat.mul_comm 2]

/-- A value that divides by the step of its binade is not rounded. -/
lemma scaledValue_nearest_of_dvd {scaled : Nat} (h : 2 ^ f.binade scaled ∣ scaled) :
    f.scaledValue (f.nearest scaled) = scaled := by
  have hround := roundHalfEven_mul (scaled / 2 ^ f.binade scaled)
    (Nat.two_pow_pos (f.binade scaled))
  rw [Nat.div_mul_cancel h] at hround
  rw [f.scaledValue_nearest, hround, Nat.div_mul_cancel h]

lemma nearest_scaledValue (encoding : Nat) : f.nearest (f.scaledValue encoding) = encoding :=
  f.strictMono_scaledValue.injective (f.scaledValue_nearest_of_dvd (f.dvd_scaledValue encoding))

/-- Rounding a multiple of a power of two gives a multiple of it. -/
lemma dvd_scaledValue_nearest {scaled k : Nat} (h : 2 ^ k ∣ scaled) :
    2 ^ k ∣ f.scaledValue (f.nearest scaled) := by
  rcases Nat.le_total (f.binade scaled) k with hle | hle
  · -- a step of the binade divides the value, which is then not rounded at all
    have hdvd : 2 ^ f.binade scaled ∣ scaled := Nat.dvd_trans (Nat.pow_dvd_pow 2 hle) h
    rwa [f.scaledValue_nearest_of_dvd hdvd]
  · -- any number of steps will do, as `2 ^ k` divides one of them
    rw [f.scaledValue_nearest]
    exact Nat.dvd_mul_left_of_dvd (Nat.pow_dvd_pow 2 hle) _

/-- An integer that has an encoding is rounded to that encoding. -/
lemma round_eq_of_scaledValue_eq {num encoding : Nat}
    (h : num * 2 ^ f.leastExponent = f.scaledValue encoding) (hle : encoding ≤ f.infinity) :
    f.round num 1 = encoding := by
  rw [f.round_one, h, f.nearest_scaledValue]
  exact Nat.min_eq_right hle

end Format

end Criteria
