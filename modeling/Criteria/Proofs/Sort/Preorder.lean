import Criteria.Proofs.Value.TotalOrder
import Criteria.Sort.Rule

/-!
# Sorting goes by total preorders

The order of all values, the order of a rule in either direction and the order of items by any rules
are total preorders (`isTotalPreorder_comparisons`), so a stable sort by them is well-defined.
-/

namespace Criteria

/-- What a comparison needs for sorting: every value ties with itself, the result is turned around
with the arguments, and going up twice is going up. -/
structure IsTotalPreorder {α : Type} (cmp : α → α → Ordering) : Prop where
  self : ∀ a, cmp a a = .eq
  swap : ∀ a b, cmp b a = (cmp a b).swap
  trans : ∀ a b c, cmp a b ≠ .gt → cmp b c ≠ .gt → cmp a c ≠ .gt

lemma IsTotalPreorder.of_transCmp {α : Type} (cmp : α → α → Ordering) [Std.TransCmp cmp] :
    IsTotalPreorder cmp where
  self _ := Std.ReflCmp.compare_self
  swap _ _ := Std.OrientedCmp.eq_swap
  trans a b c hab hbc := by
    have hab' : (cmp a b).isLE := Ordering.isLE_iff_ne_gt.mpr hab
    have hbc' : (cmp b c).isLE := Ordering.isLE_iff_ne_gt.mpr hbc
    exact Ordering.isLE_iff_ne_gt.mp (Std.TransCmp.isLE_trans hab' hbc')

instance (d : Direction) (cmp : Value → Value → Ordering) [Std.TransCmp cmp] :
    Std.TransCmp fun a b => d.orient (cmp a b) := by
  cases d with
  | ascending => exact inferInstanceAs (Std.TransCmp cmp)
  | descending =>
    have hswap : (fun a b => (cmp a b).swap) = fun a b => cmp b a := by
      funext a b
      exact Std.OrientedCmp.eq_swap.symm
    exact hswap ▸ Std.TransCmp.opposite

namespace SortRule

@[simp] lemma present_present (v : Option Value) : present (present v) = present v := by
  simp [present]

/-- A rule looks at the values that are present and not null, and puts the others last. -/
lemma compare_eq_compareNoneLast (rule : SortRule) (a b : Option Value) :
    rule.compare a b =
      compareNoneLast (fun v w => rule.direction.orient (v.totalCompare w)) (present a)
        (present b) := by
  have ha := present_present a
  have hb := present_present b
  rw [SortRule.compare]
  -- a null is taken for an absent value once and for all
  generalize present a = a', present b = b' at ha hb ⊢
  match a', b' with
  | some _, some _ => rfl
  | none, none | none, some _ | some _, none =>
    simp only [compareAscending, ha, hb, compareNoneLast]

instance (rule : SortRule) : Std.TransCmp rule.compare := by
  have heq : rule.compare = fun a b => compareNoneLast
      (fun v w => rule.direction.orient (v.totalCompare w)) (present a) (present b) := by
    funext a b
    exact rule.compare_eq_compareNoneLast a b
  rw [heq]
  exact transCmp_view _ present

instance {α : Type} [Document α] (rules : List SortRule) :
    Std.TransCmp fun a b : α => compareItems rules a b := by
  induction rules with
  | nil => exact { eq_swap := rfl, isLE_trans := fun h _ => h }
  | cons rule rules ih =>
    have hfirst := transCmp_view rule.compare fun item : α => Document.field? item rule.field
    exact inferInstanceAs (Std.TransCmp (compareLex _ _))

end SortRule

/-- The order of values, the order of the values of a field by a rule, and the order of items by
rules are total preorders. -/
theorem isTotalPreorder_comparisons :
    IsTotalPreorder Value.totalCompare ∧ (∀ rule : SortRule, IsTotalPreorder rule.compare) ∧
      ∀ {α : Type} [Document α] (rules : List SortRule),
        IsTotalPreorder fun a b : α => SortRule.compareItems rules a b :=
  ⟨.of_transCmp _, fun _ => .of_transCmp _, fun _ => .of_transCmp _⟩

end Criteria
