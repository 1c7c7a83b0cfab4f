import Criteria.Collection
import Criteria.Proofs.Sort.Stable

/-!
# Lists under a run of changes

A list is changed by adding items, filtering and sorting, in any order and any number of times. What
is in it in the end is told by the filters alone: an item stays exactly if it matches every filter
that is applied after it entered (`Edit.mem_run_iff`), and a filter may be moved past a sorting
(`SortRule.select_sort`). The steps of a collection are such changes, with fresh identities
(`Collection.run_ofItems`).
-/

namespace Criteria

/-- A change to a list of items. -/
inductive Edit (α : Type) where
  /-- Adds an item at the end. -/
  | push (item : α)
  /-- Keeps the items that match, whether in the list itself or in a new one. -/
  | select (filter : Filter)
  /-- Sorts the items. -/
  | sort (rules : List SortRule)

namespace Edit

variable {α : Type}

/-- The item that a change adds. -/
def item? : Edit α → Option α
  | .push item => some item
  | .select _ | .sort _ => none

/-- The filter that a change applies. -/
def filter? : Edit α → Option Filter
  | .select filter => some filter
  | .push _ | .sort _ => none

/-- The items that are added by some changes. -/
def pushed (edits : List (Edit α)) : List α := edits.filterMap item?

/-- The filters that are applied by some changes. -/
def filters (edits : List (Edit α)) : List Filter := edits.filterMap filter?

variable [Document α]

/-- Makes one change. -/
def apply (items : List α) : Edit α → List α
  | .push item => items ++ [item]
  | .select filter => filter.select items
  | .sort rules => SortRule.sort rules items

/-- Makes changes in order. -/
def run (items : List α) (edits : List (Edit α)) : List α := edits.foldl apply items

/-- An item is in the list at the start or is added at some point, and matches every filter that is
applied from there on. -/
def Survives (start : List α) (edits : List (Edit α)) (item : α) : Prop :=
  (item ∈ start ∧ ∀ f ∈ filters edits, f.holds item = true) ∨
    ∃ before after, edits = before ++ .push item :: after ∧
      ∀ f ∈ filters after, f.holds item = true

@[simp] lemma run_nil (items : List α) : run items [] = items := rfl

@[simp] lemma run_cons (items : List α) (edit : Edit α) (edits : List (Edit α)) :
    run items (edit :: edits) = run (edit.apply items) edits := rfl

lemma run_append (items : List α) (edits others : List (Edit α)) :
    run items (edits ++ others) = run (run items edits) others := List.foldl_append

end Edit

/-! ### Filtering and sorting -/

/-- The matching items of a sorted list are the matching items, sorted. -/
lemma SortRule.select_sort {α : Type} [Document α] (filter : Filter) (rules : List SortRule)
    (items : List α) :
    filter.select (SortRule.sort rules items) = SortRule.sort rules (filter.select items) :=
  ((isStableSort_sort rules items).filter filter.holds).unique
    (isStableSort_sort rules (filter.select items))

namespace Edit

variable {α : Type} [Document α] {ι : Type}

lemma run_select_sort (start : List α) (before after : List (Edit α)) (filter : Filter)
    (rules : List SortRule) :
    run start (before ++ .select filter :: .sort rules :: after) =
      run start (before ++ .sort rules :: .select filter :: after) := by
  rw [run_append, run_append, run_cons, run_cons, run_cons, run_cons]
  have hswap : apply (apply (run start before) (.select filter)) (.sort rules) =
      apply (apply (run start before) (.sort rules)) (.select filter) :=
    (SortRule.select_sort filter rules (run start before)).symm
  rw [hswap]

/-! ### What stays -/

lemma mem_apply_sort {items : List α} {rules : List SortRule} {item : α} :
    item ∈ apply items (.sort rules) ↔ item ∈ items :=
  (SortRule.isStableSort_sort rules items).perm.mem_iff

lemma mem_apply_select {items : List α} {filter : Filter} {item : α} :
    item ∈ apply items (.select filter) ↔ item ∈ items ∧ filter.holds item = true :=
  List.mem_filter

lemma mem_apply_push {items : List α} {added item : α} :
    item ∈ apply items (.push added) ↔ item ∈ items ∨ item = added := by
  simp [apply]

/-- An item that survives is there at the start, or is added by the first change, or is added
later. -/
lemma survives_cons_iff {start : List α} {edit : Edit α} {edits : List (Edit α)} {item : α} :
    Survives start (edit :: edits) item ↔
      (item ∈ start ∧ ∀ f ∈ filters (edit :: edits), f.holds item = true) ∨
        (edit = .push item ∧ ∀ f ∈ filters edits, f.holds item = true) ∨
          ∃ before after, edits = before ++ .push item :: after ∧
            ∀ f ∈ filters after, f.holds item = true := by
  refine or_congr_right ⟨?_, ?_⟩
  · rintro ⟨before, after, hedits, hafter⟩
    rcases List.cons_eq_append_iff.1 hedits with ⟨-, hpush⟩ | ⟨before', rfl, rfl⟩
    · cases hpush
      exact .inl ⟨rfl, hafter⟩
    · exact .inr ⟨before', after, rfl, hafter⟩
  · rintro (⟨rfl, hafter⟩ | ⟨before, after, rfl, hafter⟩)
    · exact ⟨[], edits, rfl, hafter⟩
    · exact ⟨edit :: before, after, rfl, hafter⟩

/-- Making the first change does not change what survives. -/
lemma survives_apply_iff {start : List α} {edit : Edit α} {edits : List (Edit α)} {item : α} :
    Survives (edit.apply start) edits item ↔ Survives start (edit :: edits) item := by
  rw [survives_cons_iff, Survives]
  cases edit with
  | push added =>
    have hfilters : filters (.push added :: edits) = filters edits := rfl
    -- the added item moves from the changes into the list
    rw [mem_apply_push, hfilters, Edit.push.injEq, eq_comm (a := added), ← or_assoc, or_and_right]
  | select filter =>
    have hfilters : filters (.select filter :: edits) = filter :: filters edits := rfl
    rw [mem_apply_select, hfilters, List.forall_mem_cons, and_assoc]
    simp
  | sort rules =>
    have hfilters : filters (.sort rules :: edits) = filters edits := rfl
    rw [mem_apply_sort, hfilters]
    simp

/-- What is in the list after a run is what survives the run. -/
lemma mem_run_iff {start : List α} {edits : List (Edit α)} {item : α} :
    item ∈ run start edits ↔ Survives start edits item := by
  -- for any list at the start, as each change leaves another one
  induction edits generalizing start with
  | nil => simp [Survives, filters]
  | cons edit edits ih => rw [run_cons, ih, survives_apply_iff]

/-! ### Identities -/

/-- A change keeps the identities of the items that are there and of those still to be added
distinct. -/
lemma nodup_apply (id : α → ι) {start : List α} {edit : Edit α} {edits : List (Edit α)}
    (h : ((start ++ pushed (edit :: edits)).map id).Nodup) :
    ((edit.apply start ++ pushed edits).map id).Nodup := by
  cases edit with
  | push added =>
    have hpushed : pushed (.push added :: edits) = added :: pushed edits := rfl
    rw [hpushed] at h
    rwa [apply, List.append_assoc, List.singleton_append]
  | select filter =>
    have hsub : (filter.select start).Sublist start := List.filter_sublist
    exact h.sublist ((hsub.append_right (pushed edits)).map id)
  | sort rules =>
    have hperm := (SortRule.isStableSort_sort rules start).perm
    exact ((hperm.append_right (pushed edits)).map id).nodup_iff.2 h

lemma nodup_run (id : α → ι) {start : List α} {edits : List (Edit α)}
    (h : ((start ++ pushed edits).map id).Nodup) : ((run start edits).map id).Nodup := by
  induction edits generalizing start with
  | nil => simpa [pushed] using h
  | cons edit edits ih => exact ih (nodup_apply id h)

/-- In a run of changes to items with distinct identities nothing is lost or doubled: in the end
every identity occurs once at most, and the identities are those of the items that match every
filter after their entry. A filter next to a sorting may as well be applied on its other side. -/
theorem run_survivors (id : α → ι) (start : List α) (edits : List (Edit α))
    (hfresh : ((start ++ pushed edits).map id).Nodup) :
    ((run start edits).map id).Nodup ∧
      (∀ i, i ∈ (run start edits).map id ↔ ∃ item, id item = i ∧ Survives start edits item) ∧
      ∀ before after filter rules,
        run start (before ++ .select filter :: .sort rules :: after) =
          run start (before ++ .sort rules :: .select filter :: after) := by
  refine ⟨nodup_run id hfresh, fun i => ?_, run_select_sort start⟩
  rw [List.mem_map]
  refine exists_congr fun item => ?_
  rw [mem_run_iff, and_comm]

theorem run_survivors_entries :
    let named := Filter.ofCondition (some (.ofFields [("name", .ofFields [("$not", .null)])]))
    let ada : Entry := ⟨2, .ofFields [("name", .text "Ada")]⟩
    let nameless : Entry := ⟨3, .ofFields [("name", .null)]⟩
    let start := Entry.number [.ofFields [("name", .text "Bob")], .ofFields [("name", .null)]]
    let edits := [.sort [⟨"name", .descending⟩], .push ada, .select named, .push nameless,
      .sort [⟨"name", .ascending⟩]]
    ((start ++ pushed edits).map Entry.id).Nodup ∧ ((run start edits).map Entry.id).Nodup ∧
      2 ∈ (run start edits).map Entry.id ∧ 3 ∈ (run start edits).map Entry.id := by
  intro named ada nameless start edits
  have hada : Survives start edits ada := by
    refine .inr ⟨[.sort _], [.select named, .push nameless, .sort _], rfl, fun f hf => ?_⟩
    rw [List.mem_singleton.1 hf]
    decide +kernel
  have hnameless : Survives start edits nameless :=
    .inr ⟨[.sort _, .push ada, .select named], [.sort _], rfl, fun f hf => nomatch hf⟩
  have hfresh : ((start ++ pushed edits).map Entry.id).Nodup := by decide
  obtain ⟨hnodup, hids, -⟩ := run_survivors Entry.id start edits hfresh
  exact ⟨hfresh, hnodup, (hids 2).2 ⟨ada, rfl, hada⟩, (hids 3).2 ⟨nameless, rfl, hnameless⟩⟩

end Edit

/-! ### Collections -/

namespace Collection

/-- The change that a step makes to the items. -/
def edit? (c : Collection) : Step → Option (Edit Entry)
  | .push item => some (.push ⟨c.nextId, item⟩)
  | .select => some (.select c.filter)
  | .sort rules => some (.sort rules)
  | .compile .. | .extend _ | .count | .find | .each => none

/-- Takes steps in order. -/
def run (c : Collection) (steps : List Step) : Collection :=
  steps.foldl (fun c step => (c.step step).1) c

/-- The changes that some steps make to the items. -/
def edits (c : Collection) : List Step → List (Edit Entry)
  | [] => []
  | step :: steps => (c.edit? step).toList ++ (c.step step).1.edits steps

lemma entries_step (c : Collection) (step : Step) :
    (c.step step).1.entries = Edit.run c.entries (c.edit? step).toList := by
  cases step with
  | compile mode condition =>
    rw [Collection.step]
    cases Filter.compile mode condition <;> rfl
  | extend condition | push item | select | sort rules | count | find | each => rfl

lemma entries_run (c : Collection) (steps : List Step) :
    (c.run steps).entries = Edit.run c.entries (c.edits steps) := by
  induction steps generalizing c with
  | nil => rfl
  | cons step steps ih =>
    rw [edits, Edit.run_append, ← entries_step, ← ih, run, run, List.foldl_cons]

/-- The items that are added get the identities from the next one on. -/
lemma ids_pushed_edits (c : Collection) (steps : List Step) :
    ∃ n, (Edit.pushed (c.edits steps)).map Entry.id = List.range' c.nextId n := by
  induction steps generalizing c with
  | nil => exact ⟨0, rfl⟩
  | cons step steps ih =>
    obtain ⟨n, hn⟩ := ih (c.step step).1
    have hsplit : Edit.pushed (c.edits (step :: steps)) =
        Edit.pushed (c.edit? step).toList ++ Edit.pushed ((c.step step).1.edits steps) :=
      List.filterMap_append
    rw [hsplit, List.map_append, hn]
    cases step with
    -- an item takes the next identity and the others start behind it
    | push item => exact ⟨n + 1, rfl⟩
    | compile mode condition =>
      rw [Collection.step]
      cases Filter.compile mode condition <;> exact ⟨n, rfl⟩
    | extend condition | select | sort rules | count | find | each => exact ⟨n, rfl⟩

lemma ids_ofItems (items : List Value) : (ofItems items).ids = List.range items.length := by
  simp [ids, ofItems, Entry.number, Function.comp_def, List.zipIdx_map_snd, List.range_eq_range']

/-- The steps of a collection change its items as a run of edits. The items that are ever in it are
numbered in the order in which they enter, so no two of them share an identity. -/
theorem run_ofItems (items : List Value) (steps : List Step) :
    let c := ofItems items
    (c.run steps).entries = Edit.run c.entries (c.edits steps) ∧
      (∃ n, (c.entries ++ Edit.pushed (c.edits steps)).map Entry.id = List.range n) ∧
      (c.run steps).ids.Nodup := by
  intro c
  have hentries := c.entries_run steps
  have hnumbers : ∃ n, (c.entries ++ Edit.pushed (c.edits steps)).map Entry.id = List.range n := by
    obtain ⟨n, hn⟩ := c.ids_pushed_edits steps
    have hids : c.entries.map Entry.id = List.range items.length := ids_ofItems items
    have hnext : c.nextId = items.length := rfl
    refine ⟨items.length + n, ?_⟩
    rw [List.map_append, hids, hn, hnext, List.range_eq_range', List.range_eq_range',
      ← List.range'_append_1, Nat.zero_add]
  refine ⟨hentries, hnumbers, ?_⟩
  obtain ⟨n, hn⟩ := hnumbers
  rw [ids, hentries]
  exact Edit.nodup_run Entry.id (hn ▸ List.nodup_range)

end Collection

end Criteria
