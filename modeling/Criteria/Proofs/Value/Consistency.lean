import Criteria.Proofs.Number.Order
import Criteria.Proofs.Value.Equality
import Criteria.Proofs.Value.TotalOrder

/-!
# Sorting against relational tests and equality

The relational order, the order of sorting and deep equality are defined apart from each other. What
a relational test finds in strict order is sorted in that order, and values without NaNs that are
tied in sorting are equal (`totalCompare_consistent`).

The other way round there is less to say: numbers that a relational test finds equal need not be
tied, as sorting tells apart the two zeros and wide integers that are rounded alike.
-/

namespace Criteria

lemma Instant.compare_eq_iff {s t : Instant} : s.compare t = .eq ↔ s = t := by
  rw [Instant.compare, Std.compare_eq_iff_eq, Int64.toInt_inj]
  cases s
  cases t
  rw [Instant.mk.injEq]

namespace Value

variable {a b : Value} {order : Ordering}

/-! ### Relational tests -/

lemma compare?_of_kind_ne (h : a.kind ≠ b.kind) : a.compare? b = none := by
  cases a <;> cases b <;> first | rfl | exact absurd rfl h

lemma kind_eq_of_compare? (h : a.compare? b = some order) : a.kind = b.kind := by
  by_contra hne
  rw [compare?_of_kind_ne hne] at h
  cases h

lemma compare?_swap (a b : Value) : b.compare? a = (a.compare? b).map Ordering.swap := by
  by_cases h : a.kind = b.kind
  · match a, b, h with
    | .null, .null, _ | .sequence _, .sequence _, _ | .record _, .record _, _ => rfl
    | .bool a, .bool b, _ => exact congrArg some Std.OrientedOrd.eq_swap
    | .number m, .number n, _ => exact Number.compare?_swap m n
    | .text a, .text b, _ => exact congrArg some Std.OrientedOrd.eq_swap
    | .date a, .date b, _ => exact congrArg some (@Std.OrientedCmp.eq_swap _ Instant.compare _ b a)
  · rw [compare?_of_kind_ne h, compare?_of_kind_ne (Ne.symm h)]
    rfl

/-- Of two values that a relational test can compare, deep equality is known from their order. -/
lemma equal_iff_of_compare? (h : a.compare? b = some order) : a.equal b = true ↔ order = .eq := by
  match a, b, kind_eq_of_compare? h with
  | .bool a, .bool b, _ =>
    cases h
    rw [equal, beq_iff_eq, Std.compare_eq_iff_eq]
  | .number m, .number n, _ =>
    rw [equal, beq_iff_eq, show m.compare? n = some order from h, Option.some_inj]
  | .text a, .text b, _ =>
    cases h
    rw [equal, beq_iff_eq, Std.compare_eq_iff_eq]
  | .date a, .date b, _ =>
    cases h
    rw [equal, beq_iff_eq, Instant.compare_eq_iff]

/-! ### Sorting -/

lemma totalCompare_eq_lt_of_compare? (h : a.compare? b = some .lt) : a.totalCompare b = .lt := by
  match a, b, kind_eq_of_compare? h with
  | .bool a, .bool b, _ => exact Option.some.inj h
  | .number m, .number n, _ => exact Number.totalCompare_eq_lt_of_compare? h
  | .text a, .text b, _ => exact Option.some.inj h
  | .date a, .date b, _ => exact Option.some.inj h

lemma totalCompare_eq_gt_of_compare? (h : a.compare? b = some .gt) : a.totalCompare b = .gt := by
  have hlt : b.compare? a = some .lt := by
    rw [compare?_swap, h]
    rfl
  rw [totalCompare_swap, totalCompare_eq_lt_of_compare? hlt]
  rfl

lemma kind_eq_of_totalCompare_eq (h : a.totalCompare b = .eq) : a.kind = b.kind := by
  by_contra hne
  rw [totalCompare_of_kind_ne hne] at h
  exact hne (Kind.eq_of_compare_rank h)

mutual

lemma equal_of_totalCompare_eq (a b : Value) (ha : a.HasNoNaN) (hb : b.HasNoNaN)
    (h : a.totalCompare b = .eq) : a.equal b = true := by
  match a, b, kind_eq_of_totalCompare_eq h with
  | .null, .null, _ => rfl
  | .bool a, .bool b, _ => exact beq_iff_eq.2 (Std.LawfulEqOrd.eq_of_compare h)
  | .number m, .number n, _ =>
    -- numbers that are tied stand for the same, so no rounding can tell them apart
    have hm := ha _ (mem_parts_self _) m rfl
    have hn := hb _ (mem_parts_self _) n rfl
    exact (equal_number_iff hm hn).2 (Number.sameValue_of_totalCompare_eq hm hn h).agree
  | .text a, .text b, _ => exact beq_iff_eq.2 (Std.LawfulEqOrd.eq_of_compare h)
  | .date a, .date b, _ => exact beq_iff_eq.2 (Instant.compare_eq_iff.1 h)
  | .sequence as, .sequence bs, _ =>
    exact equalElements_of_totalCompareElements_eq as bs (forall_parts_sequence.1 ha).2
      (forall_parts_sequence.1 hb).2 h
  | .record r, .record s, _ =>
    exact equalFields_of_totalCompareFields_eq r s (forall_parts_record.1 ha).2
      (forall_parts_record.1 hb).2 h

lemma equalElements_of_totalCompareElements_eq (as bs : List Value)
    (ha : ∀ part ∈ elementParts as, ∀ n ∈ part.number?, n.isNaN = false)
    (hb : ∀ part ∈ elementParts bs, ∀ n ∈ part.number?, n.isNaN = false)
    (h : totalCompareElements as bs = .eq) : equalElements as bs = true := by
  match as, bs with
  | [], [] => rfl
  | a :: as, b :: bs =>
    rw [forall_elementParts_cons] at ha hb
    rw [totalCompareElements, Ordering.then_eq_eq] at h
    rw [equalElements, Bool.and_eq_true]
    exact ⟨equal_of_totalCompare_eq a b ha.1 hb.1 h.1,
      equalElements_of_totalCompareElements_eq as bs ha.2 hb.2 h.2⟩

lemma equalFields_of_totalCompareFields_eq {bound bound' : Option String}
    (r : SortedMap Value bound) (s : SortedMap Value bound')
    (hr : ∀ part ∈ fieldParts r, ∀ n ∈ part.number?, n.isNaN = false)
    (hs : ∀ part ∈ fieldParts s, ∀ n ∈ part.number?, n.isNaN = false)
    (h : totalCompareFields r s = .eq) : equalFields r s = true := by
  match r, s with
  | .nil, .nil => rfl
  | .cons k v _ r, .cons l w _ s =>
    rw [forall_fieldParts_cons] at hr hs
    rw [totalCompareFields, Ordering.then_eq_eq, Ordering.then_eq_eq] at h
    rw [equalFields, Bool.and_eq_true, Bool.and_eq_true, beq_iff_eq]
    exact ⟨Std.LawfulEqOrd.eq_of_compare h.1.1, equal_of_totalCompare_eq v w hr.1 hs.1 h.1.2,
      equalFields_of_totalCompareFields_eq r s hr.2 hs.2 h.2⟩

end

/-- What a relational test finds in strict order is sorted in that order, and values without NaNs
that are tied in sorting are equal. -/
theorem totalCompare_consistent :
    (∀ a b : Value,
      (a.compare? b = some .lt → a.totalCompare b = .lt) ∧
        (a.compare? b = some .gt → a.totalCompare b = .gt)) ∧
    ∀ a b : Value, a.HasNoNaN → b.HasNoNaN → a.totalCompare b = .eq → a.equal b = true := by
  constructor
  · intro a b
    exact ⟨totalCompare_eq_lt_of_compare?, totalCompare_eq_gt_of_compare?⟩
  · intro a b ha hb htied
    exact equal_of_totalCompare_eq a b ha hb htied

theorem totalCompare_consistent_widths :
    let wide := number (.signed 9007199254740993)
    let fraction := number (.double (Double.ofRatio true 1 2))
    let item (age : Number) : Value :=
      .ofFields [("age", .number age), ("tags", .sequence [.null, .number age])]
    let a := item (.signed 30)
    let b := item (.double (.ofInt 30))
    (fraction.compare? wide = some .lt ∧ fraction.totalCompare wide = .lt ∧
      wide.compare? fraction = some .gt ∧ wide.totalCompare fraction = .gt) ∧
    (a.HasNoNaN ∧ b.HasNoNaN) ∧ a.totalCompare b = .eq ∧ a.equal b = true := by
  intro wide fraction item a b
  obtain ⟨hstrict, htied⟩ := totalCompare_consistent
  have hlt : fraction.compare? wide = some .lt := by decide +kernel
  have hgt : wide.compare? fraction = some .gt := by decide +kernel
  have hnoNaN : a.HasNoNaN ∧ b.HasNoNaN := by decide +kernel
  have htie : a.totalCompare b = .eq := by decide +kernel
  exact ⟨⟨hlt, (hstrict fraction wide).1 hlt, hgt, (hstrict wide fraction).2 hgt⟩, hnoNaN, htie,
    htied a b hnoNaN.1 hnoNaN.2 htie⟩

end Value

end Criteria
