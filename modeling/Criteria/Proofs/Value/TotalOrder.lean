import Criteria.Proofs.Comparison
import Criteria.Value.Order

/-!
# The total order of values

`Value.totalCompare` is a total preorder of all values: the instance of `Std.TransCmp` at the end.
Numbers are ordered by two integers, so that no rounding has to be looked into; sequences and
records are ordered by induction, their first difference deciding.
-/

namespace Criteria

/-! ### Numbers and instants -/

instance : Std.TransCmp Double.totalCompare :=
  inferInstanceAs (Std.TransCmp (compareOn Double.totalRank))

instance : Std.TransCmp Number.totalCompare :=
  inferInstanceAs (Std.TransCmp (compareLex (compareOn fun n : Number => n.toDouble.totalRank)
    (compareOn Number.integerPart)))

instance : Std.TransCmp Instant.compare :=
  inferInstanceAs (Std.TransCmp (compareOn fun t : Instant => t.millis.toInt))

/-! ### Kinds -/

lemma Kind.rank_injective {k l : Kind} (h : k.rank = l.rank) : k = l := by
  cases k <;> cases l <;> first | rfl | cases h

lemma Kind.eq_of_compare_rank {k l : Kind} (h : compare k.rank l.rank = .eq) : k = l :=
  rank_injective (Std.LawfulEqOrd.eq_of_compare h)

namespace Value

lemma totalCompare_of_kind_ne {a b : Value} (h : a.kind ≠ b.kind) :
    a.totalCompare b = compare a.kind.rank b.kind.rank := by
  cases a <;> cases b <;> first | rfl | exact absurd rfl h

/-- The ranks of the kinds come first in the order of values. -/
lemma rank_then_totalCompare (a b : Value) :
    (compare a.kind.rank b.kind.rank).then (a.totalCompare b) = a.totalCompare b := by
  by_cases h : a.kind = b.kind
  · have heq : compare a.kind.rank b.kind.rank = .eq := by rw [h]; exact Std.ReflOrd.compare_self
    rw [heq, Ordering.eq_then]
  · rw [totalCompare_of_kind_ne h]
    cases compare a.kind.rank b.kind.rank <;> rfl

/-- Values of different kinds are ordered by their ranks, so only values of one kind have to be
looked at. -/
lemma composes_of_kind_eq {a b c : Value}
    (h : a.kind = b.kind → b.kind = c.kind →
      Composes (a.totalCompare b) (b.totalCompare c) (a.totalCompare c)) :
    Composes (a.totalCompare b) (b.totalCompare c) (a.totalCompare c) := by
  rw [← rank_then_totalCompare a b, ← rank_then_totalCompare b c, ← rank_then_totalCompare a c]
  refine (composes_of_transCmp compare _ _ _).then fun hab hbc => ?_
  exact h (Kind.eq_of_compare_rank hab) (Kind.eq_of_compare_rank hbc)

/-! ### Turning a comparison around -/

mutual

lemma totalCompare_swap (a b : Value) : a.totalCompare b = (b.totalCompare a).swap := by
  by_cases h : a.kind = b.kind
  · match a, b, h with
    | .null, .null, _ => rfl
    | .bool a, .bool b, _ => exact @Std.OrientedCmp.eq_swap _ compare _ a b
    | .number a, .number b, _ => exact @Std.OrientedCmp.eq_swap _ Number.totalCompare _ a b
    | .text a, .text b, _ => exact @Std.OrientedCmp.eq_swap _ compare _ a b
    | .date a, .date b, _ => exact @Std.OrientedCmp.eq_swap _ Instant.compare _ a b
    | .sequence as, .sequence bs, _ => exact totalCompareElements_swap as bs
    | .record r, .record s, _ => exact totalCompareFields_swap r s
  · rw [totalCompare_of_kind_ne h, totalCompare_of_kind_ne (Ne.symm h)]
    exact Std.OrientedOrd.eq_swap

lemma totalCompareElements_swap (as bs : List Value) :
    totalCompareElements as bs = (totalCompareElements bs as).swap := by
  match as, bs with
  | [], [] | [], _ :: _ | _ :: _, [] => rfl
  | a :: as, b :: bs =>
    rw [totalCompareElements, totalCompareElements, Ordering.swap_then, totalCompare_swap a b,
      totalCompareElements_swap as bs]

lemma totalCompareFields_swap {bound bound' : Option String} (r : SortedMap Value bound)
    (s : SortedMap Value bound') : totalCompareFields r s = (totalCompareFields s r).swap := by
  match r, s with
  | .nil, .nil | .nil, .cons .. | .cons .., .nil => rfl
  | .cons k v _ r, .cons l w _ s =>
    have hkeys : compare k l = (compare l k).swap := Std.OrientedOrd.eq_swap
    rw [totalCompareFields, totalCompareFields, Ordering.swap_then, Ordering.swap_then, hkeys,
      totalCompare_swap v w, totalCompareFields_swap r s]

end

/-! ### Three values -/

mutual

lemma totalCompare_composes (a b c : Value) :
    Composes (a.totalCompare b) (b.totalCompare c) (a.totalCompare c) := by
  refine composes_of_kind_eq fun hab hbc => ?_
  match a, b, c, hab, hbc with
  | .null, .null, .null, _, _ => exact fun _ _ => rfl
  | .bool a, .bool b, .bool c, _, _ => exact composes_of_transCmp compare a b c
  | .number a, .number b, .number c, _, _ =>
    exact composes_of_transCmp Number.totalCompare a b c
  | .text a, .text b, .text c, _, _ => exact composes_of_transCmp compare a b c
  | .date a, .date b, .date c, _, _ => exact composes_of_transCmp Instant.compare a b c
  | .sequence as, .sequence bs, .sequence cs, _, _ =>
    exact totalCompareElements_composes as bs cs
  | .record r, .record s, .record t, _, _ => exact totalCompareFields_composes r s t

lemma totalCompareElements_composes (as bs cs : List Value) :
    Composes (totalCompareElements as bs) (totalCompareElements bs cs)
      (totalCompareElements as cs) := by
  match as, bs, cs with
  | [], [], [] | [], [], _ :: _ | [], _ :: _, _ :: _ => exact fun _ _ => rfl
  -- a longer list is not below one that it begins with
  | _, _ :: _, [] => exact fun _ hbc => nomatch hbc
  | _ :: _, [], _ => exact fun hab => nomatch hab
  | a :: as, b :: bs, c :: cs =>
    -- the rest is looked at only where the first elements tie
    exact (totalCompare_composes a b c).then fun _ _ => totalCompareElements_composes as bs cs

lemma totalCompareFields_composes {bound bound' bound'' : Option String}
    (r : SortedMap Value bound) (s : SortedMap Value bound') (t : SortedMap Value bound'') :
    Composes (totalCompareFields r s) (totalCompareFields s t) (totalCompareFields r t) := by
  match r, s, t with
  | .nil, .nil, .nil | .nil, .nil, .cons .. | .nil, .cons .., .cons .. => exact fun _ _ => rfl
  | _, .cons .., .nil => exact fun _ hst => nomatch hst
  | .cons .., .nil, _ => exact fun hrs => nomatch hrs
  | .cons k v _ r, .cons l w _ s, .cons m x _ t =>
    have hkeys : Composes (compare k l) (compare l m) (compare k m) :=
      composes_of_transCmp compare k l m
    have hvalues := totalCompare_composes v w x
    exact (hkeys.then fun _ _ => hvalues).then fun _ _ => totalCompareFields_composes r s t

end

instance : Std.OrientedCmp totalCompare := ⟨totalCompare_swap _ _⟩

instance : Std.TransCmp totalCompare := ⟨(totalCompare_composes _ _ _).isLE⟩

end Value

end Criteria
