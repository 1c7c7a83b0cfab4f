import Criteria.Proofs.Double.Value

/-!
# Rounding keeps the order

A greater value is not rounded to a smaller encoding (`Format.monotone_nearest`), and an encoding is
what its own value is rounded to. `Double.RoundsTo` puts this in one relation between values and
ranks, in which a number stands to its own value (`Double.roundsTo_value`), what an integer is
rounded to stands to that integer (`Double.roundsTo_ofInt`), and ranks grow with the values
(`Double.RoundsTo.mono`).

What an integer is rounded to has no fraction (`Double.dvd_scaled_ofInt`), so it keeps its place
among the integers when its integer part is taken (`Double.compare_truncateWithin`).
-/

namespace Criteria

/-! ### The nearest integer -/

lemma roundHalfEven_mono {num num' : Nat} (den : Nat) (h : num ≤ num') :
    roundHalfEven num den ≤ roundHalfEven num' den := by
  rcases (Nat.div_le_div_right (c := den) h).lt_or_eq with hlt | heq
  · calc roundHalfEven num den
        ≤ num / den + 1 := roundHalfEven_le_div_add_one num
      _ ≤ num' / den := hlt
      _ ≤ roundHalfEven num' den := div_le_roundHalfEven num'
  · -- between the same two integers, the rests decide
    have hrest := Nat.div_add_mod num den
    have hrest' := Nat.div_add_mod num' den
    rw [heq] at hrest
    simp only [roundHalfEven, heq]
    split_ifs <;> omega

namespace Format

variable (f : Format)

/-! ### The nearest encoding -/

lemma binade_mono {scaled scaled' : Nat} (h : scaled ≤ scaled') :
    f.binade scaled ≤ f.binade scaled' := by
  rcases Nat.eq_zero_or_pos scaled with rfl | hpos
  · rw [f.binade_eq_zero (Nat.two_pow_pos _)]
    exact Nat.zero_le _
  · have hlog : scaled.log2 ≤ scaled'.log2 :=
      (Nat.le_log2 (by omega)).2 ((Nat.log2_self_le hpos.ne').trans h)
    exact Nat.sub_le_sub_right hlog _

lemma monotone_nearest : Monotone f.nearest := by
  intro scaled scaled' h
  rcases (f.binade_mono h).lt_or_eq with hlt | heq
  · -- one binade ends where the next one begins, so nothing is rounded past the bound of both
    have hge : 2 ^ f.fractionBits ≤ scaled' := by
      by_contra hsmall
      rw [f.binade_eq_zero (not_le.1 hsmall)] at hlt
      exact Nat.not_lt_zero _ hlt
    calc f.nearest scaled
        ≤ f.binade scaled * 2 ^ f.fractionBits + 2 * 2 ^ f.fractionBits :=
          Nat.add_le_add_left (f.roundHalfEven_binade_le scaled) _
      _ = (f.binade scaled + 1) * 2 ^ f.fractionBits + 2 ^ f.fractionBits := by
          rw [Nat.two_mul, ← Nat.add_assoc, ← Nat.add_one_mul]
      _ ≤ f.binade scaled' * 2 ^ f.fractionBits + 2 ^ f.fractionBits :=
          Nat.add_le_add_right (Nat.mul_le_mul_right _ hlt) _
      _ ≤ f.nearest scaled' := Nat.add_le_add_left (f.le_roundHalfEven_binade hge) _
  · rw [nearest, nearest, heq]
    exact Nat.add_le_add_left (roundHalfEven_mono _ h) _

end Format

namespace Double

open ExtendedRat

/-! ### Ranks -/

/-- The rank of the number that a value is rounded to, in units of the least positive number. -/
def nearestRank (scaled : Int) : Int :=
  let magnitude : Nat := min infinityMagnitude (Format.double.nearest scaled.natAbs)
  if scaled < 0 then -(magnitude : Int) else magnitude

lemma nearestRank_mono {scaled scaled' : Int} (h : scaled ≤ scaled') :
    nearestRank scaled ≤ nearestRank scaled' := by
  have hmono {m n : Nat} (hmn : m ≤ n) :
      min infinityMagnitude (Format.double.nearest m) ≤
        min infinityMagnitude (Format.double.nearest n) :=
    min_le_min_left _ (Format.double.monotone_nearest hmn)
  simp only [nearestRank]
  split_ifs with hneg hneg'
  · -- below zero, the greater value has the smaller magnitude
    have := hmono (m := scaled'.natAbs) (n := scaled.natAbs) (by omega)
    omega
  · omega
  · omega
  · have := hmono (m := scaled.natAbs) (n := scaled'.natAbs) (by omega)
    omega

lemma eq_zero_of_nearestRank_eq_zero {scaled : Int} (h : nearestRank scaled = 0) : scaled = 0 := by
  by_contra hne
  -- the least positive value is an encoding, so no greater one is rounded down to zero
  have hone : Format.double.nearest 1 = 1 := Format.double.nearest_scaledValue 1
  have hnearest : Format.double.nearest 1 ≤ Format.double.nearest scaled.natAbs :=
    Format.double.monotone_nearest (by omega)
  have hinfinity : 0 < infinityMagnitude := by decide
  simp only [nearestRank] at h
  split_ifs at h <;> omega

variable {x y : Double}

lemma natAbs_rank (x : Double) : x.rank.natAbs = x.magnitude := by
  rw [rank]
  split <;> simp

/-- The rank of a finite number is what its own value is rounded to. -/
lemma rank_eq_nearestRank (hx : x.isFinite = true) : x.rank = nearestRank x.scaled := by
  have hmagnitude := x.isFinite_iff.1 hx
  have hnearest : Format.double.nearest x.scaled.natAbs = x.magnitude := by
    rw [natAbs_scaled, scaledMagnitude_eq, Format.double.nearest_scaledValue]
  -- the value of a zero does not show its sign, but a zero has rank zero with either
  have hzero := Format.double.scaledValue_eq_zero_iff x.magnitude
  rw [← scaledMagnitude_eq] at hzero
  rw [nearestRank, hnearest, Nat.min_eq_right hmagnitude.le, rank, scaled]
  split_ifs <;> omega

lemma rank_ofInt (n : Int) :
    (ofInt n).rank = nearestRank (n * 2 ^ Format.double.leastExponent) := by
  have hunit : (0 : Int) < 2 ^ Format.double.leastExponent := by positivity
  -- the unit is positive, so that the sign is that of the integer
  have hneg : n * 2 ^ Format.double.leastExponent < 0 ↔ n < 0 := by
    rw [← not_le, ← not_le, mul_nonneg_iff_of_pos_right hunit]
  have hround : Format.double.round n.natAbs 1 = min infinityMagnitude
      (Format.double.nearest (n.natAbs * 2 ^ Format.double.leastExponent)) :=
    Format.double.round_one n.natAbs
  rw [rank, ofInt, ofRatio, negative_ofMagnitude _ (round_lt _ _),
    magnitude_ofMagnitude _ (round_lt _ _), nearestRank, natAbs_mul_unit, hround]
  simp only [hneg, decide_eq_true_eq]

/-- Only the zeros share a rank. -/
lemma eq_of_rank_eq (h : x.rank = y.rank) (hx : x.magnitude ≠ 0) : x = y := by
  have hmagnitude : x.magnitude = y.magnitude := by rw [← natAbs_rank, h, natAbs_rank]
  have hnegative : x.negative = y.negative := by
    rw [rank, rank, ← hmagnitude] at h
    cases hneg : x.negative <;> cases hneg' : y.negative <;> simp_all
  rw [← ofMagnitude_magnitude x, ← ofMagnitude_magnitude y, hnegative, hmagnitude]

lemma totalRank_lt_of_rank_lt (h : x.rank < y.rank) : x.totalRank < y.totalRank := by
  rw [rank, rank] at h
  rw [totalRank, totalRank]
  split_ifs at h ⊢ <;> omega

/-- Only the zeros have two places in the order of the encodings. -/
lemma totalRank_eq_of_rank_eq (h : x.rank = y.rank) (hx : x.rank ≠ 0) :
    x.totalRank = y.totalRank := by
  rw [rank] at hx
  rw [rank, rank] at h
  rw [totalRank, totalRank]
  split_ifs at h hx ⊢ <;> omega

/-! ### From values to ranks -/

/-- The rank of the number that a value is rounded to. -/
inductive RoundsTo : ExtendedRat → Int → Prop where
  | bottom : RoundsTo ⊥ (-infinityMagnitude)
  | finite (scaled : Int) :
      RoundsTo (ofRat (scaled / 2 ^ Format.double.leastExponent)) (nearestRank scaled)
  | top : RoundsTo ⊤ infinityMagnitude

namespace RoundsTo

variable {v w : ExtendedRat} {r s : Int}

lemma natAbs_le (h : RoundsTo v r) : r.natAbs ≤ infinityMagnitude := by
  cases h with
  | bottom | top => simp
  | finite scaled =>
    have hle : min infinityMagnitude (Format.double.nearest scaled.natAbs) ≤ infinityMagnitude :=
      min_le_left _ _
    rw [nearestRank]
    split_ifs <;> omega

/-- A greater value is not rounded to a smaller rank. -/
lemma mono (hv : RoundsTo v r) (hw : RoundsTo w s) (h : v ≤ w) : r ≤ s := by
  have hr := hv.natAbs_le
  have hs := hw.natAbs_le
  cases hv with
  | bottom => omega
  | top =>
    cases hw with
    | top => exact le_rfl
    | finite scaled => exact absurd h (not_le.2 ofRat_lt_top)
    | bottom => exact absurd h (by simp)
  | finite scaled =>
    cases hw with
    | top => omega
    | bottom => exact absurd h (not_le.2 bot_lt_ofRat)
    | finite scaled' =>
      -- both are finite, so they are compared in units of the least positive number
      have hunit : (0 : ℚ) < 2 ^ Format.double.leastExponent := by positivity
      rw [← not_lt, ofRat_lt_ofRat, div_lt_div_iff_of_pos_right hunit, Int.cast_lt, not_lt] at h
      exact nearestRank_mono h

/-- Only zero is rounded to a zero. -/
lemma eq_zero (h : RoundsTo v 0) : v = ofRat 0 := by
  generalize hr : (0 : Int) = r at h
  cases h with
  | bottom | top => exact absurd hr (by decide)
  | finite scaled => rw [eq_zero_of_nearestRank_eq_zero hr.symm, Int.cast_zero, zero_div]

end RoundsTo

/-- A number is what its own value is rounded to. -/
lemma roundsTo_value (hx : x.isNaN = false) : RoundsTo x.value x.rank := by
  cases hfinite : x.isFinite with
  | true =>
    rw [value_of_isFinite hfinite, rank_eq_nearestRank hfinite]
    exact .finite x.scaled
  | false =>
    rw [value_of_infinite hfinite, rank, magnitude_of_infinite hx hfinite]
    cases x.negative with
    | true => exact .bottom
    | false => exact .top

lemma roundsTo_ofInt (n : Int) : RoundsTo (ofRat n) (ofInt n).rank := by
  have hvalue : (n : ℚ) = (n * 2 ^ Format.double.leastExponent : Int) /
      2 ^ Format.double.leastExponent := by
    rw [eq_div_iff (by positivity)]
    push_cast
    rfl
  rw [hvalue, rank_ofInt]
  exact .finite _

/-! ### Integer parts -/

lemma truncate_eq (x : Double) : x.truncate = x.scaled.tdiv (2 ^ Format.double.leastExponent) := by
  simp only [truncate, Format.double, Nat.pow_eq, Nat.cast_pow, Nat.cast_ofNat]

/-- What an integer is rounded to has no fraction. -/
lemma dvd_scaled_ofInt (n : Int) : (2 ^ Format.double.leastExponent : Int) ∣ (ofInt n).scaled := by
  have hmagnitude : 2 ^ Format.double.leastExponent ∣ (ofInt n).scaledMagnitude := by
    rw [scaledMagnitude_eq, ofInt, ofRatio, magnitude_ofMagnitude _ (round_lt _ _),
      Format.double.round_one]
    rcases min_choice Format.double.infinity
      (Format.double.nearest (n.natAbs * 2 ^ Format.double.leastExponent)) with hmin | hmin
    · -- what is too great is rounded to infinity, whose encoding reads as a power of two
      have hvalue := scaledValue_infinityMagnitude
      have hinfinity : Format.double.infinity = infinityMagnitude := rfl
      rw [hmin, hinfinity, hvalue]
      exact Nat.pow_dvd_pow 2 (by decide)
    · -- otherwise rounding keeps the powers of two that divide the value
      rw [hmin]
      exact Format.double.dvd_scaledValue_nearest (Nat.dvd_mul_left _ _)
  rw [← Int.natAbs_dvd_natAbs, natAbs_scaled]
  simpa [Int.natAbs_pow] using hmagnitude

/-- The integer part is read off the rank, as the two zeros have the same. -/
lemma truncateWithin_eq_of_rank_eq (hx : x.isNaN = false) (hy : y.isNaN = false)
    (h : x.rank = y.rank) (lo hi : Int) : x.truncateWithin lo hi = y.truncateWithin lo hi := by
  have hmagnitude : x.magnitude = y.magnitude := by rw [← natAbs_rank, ← natAbs_rank, h]
  have hfinite : y.isFinite = x.isFinite := by rw [isFinite, isFinite, hmagnitude]
  have htruncate : x.truncate = y.truncate := by
    rw [truncate, truncate, (scaled_eq_scaled_iff x y).2 h]
  rw [truncateWithin, truncateWithin, hx, hy, hfinite, htruncate]
  cases hinfinite : x.isFinite with
  | true => rfl
  | false =>
    -- an infinity is no zero, so it is the only number of its rank
    have hnonzero : x.magnitude ≠ 0 := by
      rw [magnitude_of_infinite hx hinfinite]
      decide
    rw [eq_of_rank_eq h hnonzero]

/-- The integer part of a number without a fraction, cut off on both sides of an integer, is on the
same side of it as the number. -/
lemma compare_truncateWithin (hx : x.isNaN = false)
    (hdvd : (2 ^ Format.double.leastExponent : Int) ∣ x.scaled) {lo hi n : Int} (hlo : lo < n)
    (hhi : n < hi) : compare (x.truncateWithin lo hi) n = compare x.value (ofRat n) := by
  rw [truncateWithin, if_neg (ne_true_of_eq_false hx)]
  cases hfinite : x.isFinite with
  | true =>
    -- no fraction is lost, and both cuts are beyond `n`
    obtain ⟨k, hk⟩ := hdvd
    have htruncate : x.truncate = k := by
      rw [truncate_eq, hk, Int.mul_tdiv_cancel_left k (by positivity)]
    have hvalue : x.value = ofRat k := by
      rw [value_of_isFinite hfinite, hk, ofRat_inj, div_eq_iff (by positivity)]
      push_cast
      exact mul_comm _ _
    rw [if_pos rfl, htruncate, hvalue]
    apply compare_congr
    · rw [ofRat_lt_ofRat, Int.cast_lt]
      omega
    · rw [ofRat_lt_ofRat, Int.cast_lt]
      omega
  | false =>
    -- an infinity is cut off to the bound on its own side of `n`
    rw [value_of_infinite hfinite, if_neg Bool.false_ne_true]
    cases x.negative with
    | true => exact compare_congr (by simpa using hlo) (by simpa using hlo.le)
    | false => exact compare_congr (by simpa using hhi.le) (by simpa using hhi)

end Double

end Criteria
