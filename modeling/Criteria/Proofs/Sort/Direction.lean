import Criteria.Proofs.Sort.Stable

/-!
# Turning the direction of rules

Rules with all their directions turned round sort a list as the rules themselves sort the reversed
list, read from its end, if every item has a value for every rule: reversing a stable sort turns its
comparison round and keeps the order of ties (`IsStableSort.reverse`). An item without a value for a
rule comes last in either direction, so a single rule splits the list first (`sort_singleton`) and
the turned rule sorts the front of it only (`sort_opposite`).
-/

namespace Criteria

/-! ### Reversed and split lists -/

section

variable {α : Type} {cmp cmp' : α → α → Ordering} {items sorted : List α}

/-- A stable sort of the reversed list is, from its end, a stable sort of the list by the comparison
that is turned round. -/
lemma IsStableSort.reverse [Std.OrientedCmp cmp] (h : IsStableSort cmp items.reverse sorted)
    (hturned : ∀ a ∈ items, ∀ b ∈ items, cmp' a b = (cmp a b).swap)
    (hties : ∀ a b, cmp' a b = .eq ↔ cmp a b = .eq) : IsStableSort cmp' items sorted.reverse where
  perm := (List.reverse_perm sorted).trans (h.perm.trans (List.reverse_perm items))
  pairwise := by
    rw [List.pairwise_reverse]
    refine h.pairwise.imp_of_mem fun {a b} ha hb hab => ?_
    have hmem (c : α) (hc : c ∈ sorted) : c ∈ items := List.mem_reverse.1 (h.perm.mem_iff.1 hc)
    -- turned round twice, once by the comparison and once by the reversal
    rwa [hturned b (hmem b hb) a (hmem a ha), ← Std.OrientedCmp.eq_swap]
  ties a := by
    have hsame (l : List α) : tiesWith cmp' a l = tiesWith cmp a l := by
      simp only [tiesWith, hties]
    have hreverse (l : List α) : tiesWith cmp a l.reverse = (tiesWith cmp a l).reverse :=
      List.filter_reverse
    rw [hsame, hsame, hreverse, h.ties, hreverse, List.reverse_reverse]

/-- A list in which nothing that passes a test comes after something that fails it consists of what
passes and then of what fails. -/
lemma filter_append_filter_not {p : α → Bool} {l : List α}
    (h : l.Pairwise fun a b => p a = false → p b = false) :
    l.filter p ++ (l.filter fun a => !p a) = l := by
  induction l with
  | nil => rfl
  | cons a l ih =>
    rw [List.pairwise_cons] at h
    obtain ⟨ha, hl⟩ := h
    cases hpa : p a with
    | true =>
      rw [List.filter_cons_of_pos hpa, List.filter_cons_of_neg (by simp [hpa]), List.cons_append,
        ih hl]
    | false =>
      -- from the first element that fails on, all of them fail
      have hfail : ∀ b ∈ a :: l, p b = false :=
        List.forall_mem_cons.2 ⟨hpa, fun b hb => ha b hb hpa⟩
      have hnone : (a :: l).filter p = [] :=
        List.filter_eq_nil_iff.2 fun b hb => by simp [hfail b hb]
      have hall : ((a :: l).filter fun b => !p b) = a :: l :=
        List.filter_eq_self.2 fun b hb => by simp [hfail b hb]
      rw [hnone, hall, List.nil_append]

end

/-! ### Items with a value -/

namespace SortRule

variable {α : Type} [Document α] {rule : SortRule} {rules : List SortRule} {items : List α}

/-- Whether an item has a value to sort by: the field is present and not null. -/
def hasValue (field : String) (item : α) : Bool := (present (Document.field? item field)).isSome

lemma hasValue_eq_false_iff {field : String} {item : α} :
    hasValue field item = false ↔ Lacks item field := by
  rw [hasValue, Option.isSome_eq_false_iff, Option.isNone_iff_eq_none, present_eq_none_iff, Lacks]

/-- All items without a value are tied. -/
lemma compareItems_eq_of_hasValue_false {a b : α} (ha : hasValue rule.field a = false)
    (hb : hasValue rule.field b = false) : compareItems [rule] a b = .eq := by
  rw [hasValue, Option.isSome_eq_false_iff, Option.isNone_iff_eq_none] at ha hb
  rw [compareItems, compare_eq_compareNoneLast, ha, hb]
  rfl

/-- A rule sorts the items with a value, and puts those without behind them as they stand. -/
lemma sort_singleton (rule : SortRule) (items : List α) :
    sort [rule] items =
      sort [rule] (items.filter (hasValue rule.field)) ++
        items.filter fun item => !hasValue rule.field item := by
  have hsort := isStableSort_sort [rule] items
  have hvalued := (hsort.filter (hasValue rule.field)).unique
    (isStableSort_sort [rule] (items.filter (hasValue rule.field)))
  have hlacking := (hsort.filter fun item => !hasValue rule.field item).unique
    (IsStableSort.of_forall_eq fun a ha b hb => compareItems_eq_of_hasValue_false
      (by simpa using (List.mem_filter.1 ha).2) (by simpa using (List.mem_filter.1 hb).2))
  -- both parts are read off the sorted list, which they make up together
  rw [← hvalued, ← hlacking]
  refine (filter_append_filter_not (hsort.pairwise.imp fun {a b} hle ha => ?_)).symm
  rw [hasValue_eq_false_iff] at ha ⊢
  refine lacks_of_compare_ne_gt (fun hgt => hle ?_) ha
  rw [compareItems, hgt]
  rfl

end SortRule

/-! ### Turned rules -/

/-- The other direction. -/
def Direction.opposite : Direction → Direction
  | .ascending => .descending
  | .descending => .ascending

@[simp] lemma Direction.orient_opposite (d : Direction) (order : Ordering) :
    d.opposite.orient order = (d.orient order).swap := by
  cases d with
  | ascending => rfl
  | descending => exact order.swap_swap.symm

namespace SortRule

variable {α : Type} [Document α] {rule : SortRule} {rules : List SortRule} {items : List α}

/-- The rule in the other direction. -/
def opposite (rule : SortRule) : SortRule := { rule with direction := rule.direction.opposite }

lemma compare_opposite {v w : Option Value} (hv : (present v).isSome = true)
    (hw : (present w).isSome = true) : rule.opposite.compare v w = (rule.compare v w).swap := by
  obtain ⟨v', hv⟩ := Option.isSome_iff_exists.1 hv
  obtain ⟨w', hw⟩ := Option.isSome_iff_exists.1 hw
  rw [compare_eq_compareNoneLast, compare_eq_compareNoneLast, hv, hw]
  exact Direction.orient_opposite _ _

/-- A rule and its opposite tie the same values, absent ones among them. -/
lemma compare_opposite_eq_iff (v w : Option Value) :
    rule.opposite.compare v w = .eq ↔ rule.compare v w = .eq := by
  rw [compare_eq_compareNoneLast, compare_eq_compareNoneLast]
  match present v, present w with
  | none, none | none, some _ | some _, none => exact Iff.rfl
  | some v, some w =>
    show rule.direction.opposite.orient (v.totalCompare w) = .eq ↔ _
    rw [Direction.orient_opposite, Ordering.swap_eq_eq]
    rfl

lemma compareItems_opposite {a b : α} (ha : ∀ rule ∈ rules, hasValue rule.field a = true)
    (hb : ∀ rule ∈ rules, hasValue rule.field b = true) :
    compareItems (rules.map opposite) a b = (compareItems rules a b).swap := by
  induction rules with
  | nil => rfl
  | cons rule rules ih =>
    rw [List.forall_mem_cons] at ha hb
    rw [List.map_cons, compareItems, compareItems, ih ha.2 hb.2, Ordering.swap_then]
    congr 1
    exact compare_opposite ha.1 hb.1

lemma compareItems_opposite_eq_iff (a b : α) :
    compareItems (rules.map opposite) a b = .eq ↔ compareItems rules a b = .eq := by
  induction rules with
  | nil => exact Iff.rfl
  | cons rule rules ih =>
    rw [List.map_cons, compareItems, compareItems, Ordering.then_eq_eq, Ordering.then_eq_eq, ih]
    exact and_congr_left fun _ => compare_opposite_eq_iff _ _

/-- Where every item has a value for every rule, turning the rules is sorting from the end. -/
lemma sort_map_opposite (h : ∀ item ∈ items, ∀ rule ∈ rules, hasValue rule.field item = true) :
    sort (rules.map opposite) items = (sort rules items.reverse).reverse :=
  (isStableSort_sort (rules.map opposite) items).unique
    ((isStableSort_sort rules items.reverse).reverse
      (fun a ha b hb => compareItems_opposite (h a ha) (h b hb)) compareItems_opposite_eq_iff)

/-- Sorting by turned rules is sorting the reversed list by the rules and reversing the result, if
every item has a value for every rule. Whatever the items, this is so for a single rule and the
items with a value for it; the rule and its opposite both put these first and leave the others as
they stand behind them. -/
theorem sort_opposite (items : List α) :
    (∀ rules : List SortRule,
      (∀ item ∈ items, ∀ rule ∈ rules, hasValue rule.field item = true) →
        sort (rules.map opposite) items = (sort rules items.reverse).reverse) ∧
    ∀ rule : SortRule,
      let valued := items.filter (hasValue rule.field)
      let lacking := items.filter fun item => !hasValue rule.field item
      sort [rule.opposite] valued = (sort [rule] valued.reverse).reverse ∧
        sort [rule] items = sort [rule] valued ++ lacking ∧
        sort [rule.opposite] items = sort [rule.opposite] valued ++ lacking := by
  refine ⟨fun rules => sort_map_opposite, fun rule => ?_⟩
  intro valued lacking
  have hvalued : ∀ item ∈ valued, ∀ r ∈ [rule], hasValue r.field item = true := by
    intro item hitem r hr
    rw [List.mem_singleton.1 hr]
    exact (List.mem_filter.1 hitem).2
  exact ⟨sort_map_opposite hvalued, sort_singleton rule items, sort_singleton rule.opposite items⟩

theorem sort_opposite_ties :
    let item (id : Int64) (name : String) (age : Int64) := Value.ofFields
      [("id", .number (.signed id)), ("name", .text name), ("age", .number (.signed age))]
    let items := [item 0 "Bob" 36, item 1 "Ada" 41, item 2 "Ada" 29, item 3 "Ada" 41]
    let rules := [SortRule.mk "name" .descending, SortRule.mk "age" .ascending]
    (∀ item ∈ items, ∀ rule ∈ rules, hasValue rule.field item = true) ∧
      sort (rules.map opposite) items = (sort rules items.reverse).reverse := by
  intro item items rules
  have hvalues : ∀ item ∈ items, ∀ rule ∈ rules, hasValue rule.field item = true := by
    decide +kernel
  exact ⟨hvalues, (sort_opposite items).1 rules hvalues⟩

end SortRule

end Criteria
