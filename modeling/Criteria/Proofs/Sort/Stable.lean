import Criteria.Proofs.Sort.Preorder

/-!
# Sorting is stable

What it is to sort a list stably does not mention any algorithm: the same items, in order, and those
that tie in the order they had (`IsStableSort`). By a total preorder there is exactly one way to do
so (`IsStableSort.unique`), so an equation between two ways to sort is proved by showing that both
are stable sorts of one list. In this way sorting by some rules and then by others is sorting by all
of them, and sorting passes a filter.
-/

namespace Criteria

section

variable {α : Type} {cmp : α → α → Ordering}

/-- The elements that tie with a given one, in order. -/
def tiesWith (cmp : α → α → Ordering) (a : α) (items : List α) : List α :=
  items.filter fun b => cmp a b = .eq

/-- A list is a stable sort of another one: it has the same elements, none of them comes after a
greater one, and the elements that tie with each other stand in the order that they had. -/
structure IsStableSort (cmp : α → α → Ordering) (items sorted : List α) : Prop where
  perm : sorted.Perm items
  pairwise : sorted.Pairwise fun a b => cmp a b ≠ .gt
  ties : ∀ a, tiesWith cmp a sorted = tiesWith cmp a items

@[simp] lemma mem_tiesWith {a b : α} {items : List α} :
    b ∈ tiesWith cmp a items ↔ b ∈ items ∧ cmp a b = .eq := by
  simp [tiesWith]

lemma tiesWith_sublist (cmp : α → α → Ordering) (a : α) (items : List α) :
    (tiesWith cmp a items).Sublist items := List.filter_sublist

lemma tiesWith_cons_of_eq {a b : α} (h : cmp a b = .eq) (items : List α) :
    tiesWith cmp a (b :: items) = b :: tiesWith cmp a items :=
  List.filter_cons_of_pos (decide_eq_true h)

lemma tiesWith_cons_of_ne {a b : α} (h : cmp a b ≠ .eq) (items : List α) :
    tiesWith cmp a (b :: items) = tiesWith cmp a items :=
  List.filter_cons_of_neg (by simpa using h)

/-! ### There is one stable sort -/

/-- Lists that are in order and have the same ties are equal: their first elements tie with each
other, so both come first among the same ties. -/
lemma eq_of_tiesWith_eq [Std.TransCmp cmp] {s t : List α} (hperm : s.Perm t)
    (hs : s.Pairwise fun a b => cmp a b ≠ .gt) (ht : t.Pairwise fun a b => cmp a b ≠ .gt)
    (hties : ∀ a, tiesWith cmp a s = tiesWith cmp a t) : s = t := by
  induction s generalizing t with
  | nil => exact hperm.nil_eq
  | cons a s ih =>
    obtain ⟨b, t, rfl⟩ : ∃ b t', t = b :: t' := List.exists_cons_of_ne_nil (by
      rintro rfl
      exact absurd hperm.eq_nil (List.cons_ne_nil a s))
    have hself (c : α) : cmp c c = .eq := Std.ReflCmp.compare_self
    rw [List.pairwise_cons] at hs ht
    -- each of the first elements is somewhere in the other list, so neither is greater
    have hab : cmp a b ≠ .gt := by
      rcases List.mem_cons.1 (hperm.mem_iff.2 (List.mem_cons_self ..)) with rfl | hb
      · simp [hself]
      · exact hs.1 b hb
    have hba : cmp b a ≠ .gt := by
      rcases List.mem_cons.1 (hperm.mem_iff.1 (List.mem_cons_self ..)) with rfl | ha
      · simp [hself]
      · exact ht.1 a ha
    have heq : cmp a b = .eq := Std.OrientedCmp.isLE_antisymm
      (Ordering.isLE_iff_ne_gt.2 hab) (Ordering.isLE_iff_ne_gt.2 hba)
    have hhead := hties a
    rw [tiesWith_cons_of_eq (hself a), tiesWith_cons_of_eq heq] at hhead
    obtain rfl : a = b := (List.cons.inj hhead).1
    -- without the common first element the ties are still the same
    have htail (c : α) : tiesWith cmp c s = tiesWith cmp c t := by
      have hc := hties c
      by_cases h : cmp c a = .eq
      · rw [tiesWith_cons_of_eq h, tiesWith_cons_of_eq h] at hc
        exact (List.cons.inj hc).2
      · rwa [tiesWith_cons_of_ne h, tiesWith_cons_of_ne h] at hc
    rw [ih hperm.cons_inv hs.2 ht.2 htail]

namespace IsStableSort

variable {items sorted sorted' : List α}

lemma unique [Std.TransCmp cmp] (h : IsStableSort cmp items sorted)
    (h' : IsStableSort cmp items sorted') : sorted = sorted' :=
  eq_of_tiesWith_eq (h.perm.trans h'.perm.symm) h.pairwise h'.pairwise fun a =>
    (h.ties a).trans (h'.ties a).symm

/-- Two elements that tie stand in the same order before and after. -/
lemma pair_sublist_iff [Std.ReflCmp cmp] (h : IsStableSort cmp items sorted) {a b : α}
    (hab : cmp a b = .eq) : [a, b].Sublist sorted ↔ [a, b].Sublist items := by
  have htied : tiesWith cmp a [a, b] = [a, b] := by
    rw [tiesWith_cons_of_eq Std.ReflCmp.compare_self, tiesWith_cons_of_eq hab]
    rfl
  constructor
  · intro hsub
    have hties : (tiesWith cmp a [a, b]).Sublist (tiesWith cmp a sorted) := hsub.filter _
    rw [htied, h.ties] at hties
    exact hties.trans (tiesWith_sublist cmp a items)
  · intro hsub
    have hties : (tiesWith cmp a [a, b]).Sublist (tiesWith cmp a items) := hsub.filter _
    rw [htied, ← h.ties] at hties
    exact hties.trans (tiesWith_sublist cmp a sorted)

/-! ### Making stable sorts from others -/

/-- A list is sorted already where nothing tells its elements apart. -/
lemma of_forall_eq (h : ∀ a ∈ items, ∀ b ∈ items, cmp a b = .eq) :
    IsStableSort cmp items items where
  perm := .refl items
  pairwise := List.pairwise_of_forall_mem_list fun a ha b hb => by simp [h a ha b hb]
  ties _ := rfl

/-- Elements that are left out of a list may as well be left out of its stable sort. -/
lemma filter (h : IsStableSort cmp items sorted) (p : α → Bool) :
    IsStableSort cmp (items.filter p) (sorted.filter p) where
  perm := h.perm.filter p
  pairwise := h.pairwise.filter p
  ties a := by
    have hcomm (l : List α) : tiesWith cmp a (l.filter p) = (tiesWith cmp a l).filter p := by
      simp only [tiesWith, List.filter_filter, Bool.and_comm]
    rw [hcomm, hcomm, h.ties]

/-- A stable sort by one comparison and then by a second one is a stable sort by the second
comparison with its ties broken by the first one. -/
lemma thenBy {cmp' : α → α → Ordering} [Std.ReflCmp cmp'] (h : IsStableSort cmp items sorted)
    (h' : IsStableSort cmp' sorted sorted') :
    IsStableSort (fun a b => (cmp' a b).then (cmp a b)) items sorted' where
  perm := h'.perm.trans h.perm
  pairwise := by
    rw [List.pairwise_iff_forall_sublist]
    intro a b hsub hgt
    rcases Ordering.then_eq_gt.1 hgt with hgt' | ⟨heq, hgt⟩
    · exact List.pairwise_iff_forall_sublist.1 h'.pairwise hsub hgt'
    · -- what the second comparison ties still stands as the first one has sorted it
      have hsub' : [a, b].Sublist sorted := (h'.pair_sublist_iff heq).1 hsub
      exact List.pairwise_iff_forall_sublist.1 h.pairwise hsub' hgt
  ties a := by
    have hthen (l : List α) : tiesWith (fun a b => (cmp' a b).then (cmp a b)) a l =
        tiesWith cmp a (tiesWith cmp' a l) := by
      simp only [tiesWith, List.filter_filter, Ordering.then_eq_eq, Bool.decide_and, Bool.and_comm]
    have hcomm (l : List α) :
        tiesWith cmp a (tiesWith cmp' a l) = tiesWith cmp' a (tiesWith cmp a l) := by
      simp only [tiesWith, List.filter_filter, Bool.and_comm]
    rw [hthen, hthen, h'.ties, hcomm, hcomm, h.ties]

end IsStableSort

/-- A merge sort by a total preorder is stable. -/
lemma isStableSort_mergeSort (cmp : α → α → Ordering) [Std.TransCmp cmp] (items : List α) :
    IsStableSort cmp items (items.mergeSort fun a b => (cmp a b).isLE) := by
  have htrans (a b c : α) (hab : (cmp a b).isLE) (hbc : (cmp b c).isLE) : (cmp a c).isLE :=
    Std.TransCmp.isLE_trans hab hbc
  have htotal (a b : α) : ((cmp a b).isLE || (cmp b a).isLE) = true := by
    have hswap : cmp b a = (cmp a b).swap := Std.OrientedCmp.eq_swap
    rw [hswap]
    cases cmp a b <;> rfl
  have hperm := List.mergeSort_perm items fun a b => (cmp a b).isLE
  refine ⟨hperm, ?_, fun a => ?_⟩
  · exact (List.pairwise_mergeSort htrans htotal items).imp Ordering.isLE_iff_ne_gt.1
  · -- the ties are in order as they stand, so the sort keeps them as a sublist
    have hordered : (tiesWith cmp a items).Pairwise fun b c => (cmp b c).isLE = true := by
      refine List.pairwise_of_forall_mem_list fun b hb c hc => ?_
      have hbc : cmp b c = .eq := by
        rw [← Std.TransCmp.congr_left (mem_tiesWith.1 hb).2]
        exact (mem_tiesWith.1 hc).2
      simp [hbc]
    have hkept := List.sublist_mergeSort htrans htotal hordered (tiesWith_sublist cmp a items)
    have hsub := hkept.filter fun b => cmp a b = .eq
    have htwice : (tiesWith cmp a items).filter (fun b => cmp a b = .eq) = tiesWith cmp a items :=
      List.filter_eq_self.2 fun b hb => decide_eq_true (mem_tiesWith.1 hb).2
    rw [htwice] at hsub
    exact (hsub.eq_of_length (hperm.symm.filter _).length_eq).symm

end

/-! ### Sorting items by rules -/

/-- An item lacks a field when the field is absent or null. -/
def Lacks {α : Type} [Document α] (item : α) (field : String) : Prop :=
  ∀ v ∈ Document.field? item field, v = .null

namespace SortRule

variable {α : Type} [Document α]

lemma present_eq_none_iff {v : Option Value} : present v = none ↔ ∀ w ∈ v, w = .null := by
  cases v with
  | none => simp [present]
  | some w => cases w <;> simp [present, Value.isNull]

lemma compareItems_append (rules others : List SortRule) (a b : α) :
    compareItems (rules ++ others) a b =
      (compareItems rules a b).then (compareItems others a b) := by
  induction rules with
  | nil => rfl
  | cons rule rules ih =>
    rw [List.cons_append, compareItems, compareItems, ih, Ordering.then_assoc]

lemma isStableSort_sort (rules : List SortRule) (items : List α) :
    IsStableSort (compareItems rules) items (sort rules items) := by
  match rules with
  | [] => exact .of_forall_eq fun _ _ _ _ => rfl
  | rule :: rules => exact isStableSort_mergeSort (compareItems (rule :: rules)) items

/-- A rule, in either direction, puts no item that lacks its field before one that has it. -/
lemma lacks_of_compare_ne_gt {rule : SortRule} {a b : α}
    (h : rule.compare (Document.field? a rule.field) (Document.field? b rule.field) ≠ .gt)
    (ha : Lacks a rule.field) : Lacks b rule.field := by
  rw [compare_eq_compareNoneLast, present_eq_none_iff.2 ha] at h
  refine present_eq_none_iff.1 ?_
  match hb : present (Document.field? b rule.field) with
  | none => rfl
  | some w =>
    rw [hb] at h
    exact absurd rfl h

/-- Sorting by rules is a stable sort by the order of items. For each rule, in either direction, of
the items that tie by the rules before it those that lack its field come last. -/
theorem sort_stable_lacking_last (rules : List SortRule) (items : List α) :
    IsStableSort (compareItems rules) items (sort rules items) ∧
      ∀ before rule after, rules = before ++ rule :: after →
        (sort rules items).Pairwise fun a b =>
          compareItems before a b = .eq → Lacks a rule.field → Lacks b rule.field := by
  have hsort := isStableSort_sort rules items
  refine ⟨hsort, ?_⟩
  rintro before rule after rfl
  refine hsort.pairwise.imp fun {a b} hle hbefore ha => ?_
  rw [compareItems_append, hbefore, Ordering.eq_then, compareItems] at hle
  refine lacks_of_compare_ne_gt (fun hgt => hle ?_) ha
  rw [hgt]
  rfl

/-- Sorting by some rules what was sorted by others is sorting once, with the others as the rules
that break ties. -/
theorem sort_sort (rules others : List SortRule) (items : List α) :
    sort rules (sort others items) = sort (rules ++ others) items := by
  have htwice := (isStableSort_sort others items).thenBy
    (isStableSort_sort rules (sort others items))
  have hcompare : (fun a b : α => (compareItems rules a b).then (compareItems others a b)) =
      compareItems (rules ++ others) := by
    funext a b
    exact (compareItems_append rules others a b).symm
  rw [hcompare] at htwice
  exact htwice.unique (isStableSort_sort (rules ++ others) items)

end SortRule

end Criteria
