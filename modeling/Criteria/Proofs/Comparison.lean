import Mathlib.Order.Lattice
import Mathlib.Tactic.Lemma

/-!
# Comparisons

A comparison that is turned around with its arguments and is transitive is a `Std.TransCmp`. This
module has what the comparisons of values and of items are put together from: a lexicographic step
(`Composes.then`), a view of the arguments (`transCmp_view`) and a place for absent values
(`compareNoneLast`).
-/

namespace Criteria

variable {α β : Type}

/-! ### Three values -/

/-- The comparisons `ab`, `bc` and `ac` of three values fit together: going up from the first to
the second and on to the third decides the first and the third. -/
def Composes (ab bc ac : Ordering) : Prop := ab.isLE → bc.isLE → ac = ab.then bc

lemma Composes.isLE {ab bc ac : Ordering} (h : Composes ab bc ac) (hab : ab.isLE)
    (hbc : bc.isLE) : ac.isLE := by
  rw [h hab hbc]
  exact Ordering.isLE_then_iff_and.mpr ⟨hab, .inr hbc⟩

lemma composes_of_transCmp (cmp : α → α → Ordering) [Std.TransCmp cmp] (a b c : α) :
    Composes (cmp a b) (cmp b c) (cmp a c) := by
  intro hab hbc
  cases h : cmp a b with
  | lt => exact Std.TransCmp.lt_of_lt_of_isLE h hbc
  | eq => exact Std.TransCmp.congr_left h
  | gt => simp [h] at hab

/-- Comparisons that fit together still do when ties are broken by others; the others have to fit
together only where all is tied. -/
lemma Composes.then {ab bc ac ab' bc' ac' : Ordering} (h : Composes ab bc ac)
    (h' : ab = .eq → bc = .eq → Composes ab' bc' ac') :
    Composes (ab.then ab') (bc.then bc') (ac.then ac') := by
  intro hab hbc
  have hac : ac = ab.then bc :=
    h (Ordering.isLE_left_of_isLE_then hab) (Ordering.isLE_left_of_isLE_then hbc)
  subst hac
  cases ab with
  | lt => rfl
  | gt => cases hab
  | eq =>
    cases bc with
    | lt =>
      -- the tie is broken by `bc`, so `ab'` may be anything that does not go down
      cases ab' with
      | lt | eq => rfl
      | gt => cases hab
    | gt => cases hbc
    | eq => exact h' rfl rfl hab hbc

/-! ### Linear orders -/

/-- A comparison by a linear order is known from which of the two sides is the smaller one. -/
lemma compare_congr [LinearOrder α] [LinearOrder β] {a b : α} {c d : β} (hlt : a < b ↔ c < d)
    (hgt : b < a ↔ d < c) : compare a b = compare c d := by
  rcases lt_trichotomy a b with h | h | h
  · rw [compare_lt_iff_lt.2 h, compare_lt_iff_lt.2 (hlt.1 h)]
  · -- on the side of `c` and `d` neither is the smaller one, as on the other side
    have heq : c = d := by
      subst h
      exact le_antisymm (not_lt.1 fun hdc => lt_irrefl a (hgt.2 hdc))
        (not_lt.1 fun hcd => lt_irrefl a (hlt.2 hcd))
    rw [compare_eq_iff_eq.2 h, compare_eq_iff_eq.2 heq]
  · rw [compare_gt_iff_gt.2 h, compare_gt_iff_gt.2 (hgt.1 h)]

lemma compare_congr_swap [LinearOrder α] [LinearOrder β] {a b : α} {c d : β}
    (h : compare a b = compare c d) : compare b a = compare d c := by
  apply compare_congr
  · rw [← compare_gt_iff_gt, h, compare_gt_iff_gt]
  · rw [← compare_lt_iff_lt, h, compare_lt_iff_lt]

/-! ### Views and absent values -/

lemma transCmp_view (cmp : β → β → Ordering) [Std.TransCmp cmp] (f : α → β) :
    Std.TransCmp fun a b => cmp (f a) (f b) where
  eq_swap := Std.OrientedCmp.eq_swap
  isLE_trans := Std.TransCmp.isLE_trans

/-- A comparison of values that may be absent, where the absent ones come last. -/
def compareNoneLast (cmp : α → α → Ordering) : Option α → Option α → Ordering
  | none, none => .eq
  | none, some _ => .gt
  | some _, none => .lt
  | some a, some b => cmp a b

instance (cmp : α → α → Ordering) [Std.OrientedCmp cmp] :
    Std.OrientedCmp (compareNoneLast cmp) where
  eq_swap {a b} := by
    match a, b with
    | none, none | none, some _ | some _, none => rfl
    | some a, some b =>
      show cmp a b = (cmp b a).swap
      exact Std.OrientedCmp.eq_swap

instance (cmp : α → α → Ordering) [Std.TransCmp cmp] : Std.TransCmp (compareNoneLast cmp) where
  isLE_trans {a b c} hab hbc := by
    match a, b, c with
    | none, none, none | some _, none, none | some _, some _, none => rfl
    | _, none, some _ => cases hbc
    | none, some _, _ => cases hab
    | some a, some b, some c => exact (composes_of_transCmp cmp a b c).isLE hab hbc

end Criteria
