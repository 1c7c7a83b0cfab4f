import Criteria.Builder
import Criteria.Proofs.Condition.Lenient
import Mathlib.Tactic.SplitIfs

/-!
# Nested conditions

A condition that is nested under a field is read again from its keys. Without a connective among
them it is a condition on the value of the field. With one, its keys are taken for operators of the
field: the connectives join, and all fields in it are skipped, so what it says does not depend on
the item (`Condition.nested_holds_of_hasConnective`).
-/

namespace Criteria

/-! ### Marked keys -/

lemma Operator.isMarked_key (op : Operator) : isMarked op.key = true := by
  cases op <;> decide

lemma Operator.ofKey?_of_unmarked {key : String} (h : isMarked key = false) :
    Operator.ofKey? key = .none := by
  match hkey : Operator.ofKey? key with
  | .none => rfl
  | some op =>
    rw [← Operator.key_eq_of_ofKey? hkey, op.isMarked_key] at h
    cases h

lemma Connective.key_eq_of_ofKey? {key : String} {connective : Connective}
    (h : Connective.ofKey? key = some connective) : connective.key = key := by
  unfold Connective.ofKey? at h
  split_ifs at h with hall hany hnone
  · cases h
    exact hall.symm
  · cases h
    exact hany.symm
  · cases h
    exact hnone.symm

lemma Connective.ofKey?_of_unmarked {key : String} (h : isMarked key = false) :
    Connective.ofKey? key = .none := by
  match hkey : Connective.ofKey? key with
  | .none => rfl
  | some connective =>
    obtain ⟨op, hop, -⟩ := connective.exists_operator
    rw [Connective.key_eq_of_ofKey? hkey, Operator.ofKey?_of_unmarked h] at hop
    cases hop

/-! ### Connectives by themselves -/

namespace Meaning

mutual

/-- What the connectives of a condition say when every field in it passes. -/
def ofConnectives : {bound : Option String} → SortedMap Value bound → Bool
  | _, .nil => true
  | _, .cons key v _ rest => ofConnective key v && ofConnectives rest

/-- What one key of a condition says when every field in it passes. -/
def ofConnective (key : String) (v : Value) : Bool :=
  match Connective.ofKey? key, v with
  | some connective, .sequence items => connective.holds (ofConnectiveBranches items)
  | _, _ => true

/-- What each branch of a connective says when every field in it passes. -/
def ofConnectiveBranches : List Value → List Bool
  | [] => []
  | .record conditions :: items => ofConnectives conditions :: ofConnectiveBranches items
  | _ :: items => true :: ofConnectiveBranches items

end

end Meaning

/-- Among the operators of a field, an entry of a condition says what it says when every field in it
passes, and it is an operator exactly if it is a connective. -/
structure IgnoresFields (key : String) (v : Value) : Prop where
  isKey_eq : Operator.isKey key = (Connective.ofKey? key).isSome
  ofOperator_eq : ∀ actual, Meaning.ofOperator actual key v = Meaning.ofConnective key v

lemma IgnoresFields.of_unmarked {key : String} (h : isMarked key = false) (v : Value) :
    IgnoresFields key v where
  isKey_eq := by
    rw [Operator.isKey, Operator.ofKey?_of_unmarked h, Connective.ofKey?_of_unmarked h]
    rfl
  ofOperator_eq actual := by
    rw [Meaning.ofOperator_unknown (Operator.ofKey?_of_unmarked h), Meaning.ofConnective.eq_def,
      Connective.ofKey?_of_unmarked h]

lemma IgnoresFields.of_connective (connective : Connective) {items : List Value}
    (h : ∀ actual, Meaning.ofOperatorBranches actual items = Meaning.ofConnectiveBranches items) :
    IgnoresFields connective.key (.sequence items) := by
  obtain ⟨op, hkey, hop⟩ := connective.exists_operator
  refine ⟨?_, fun actual => ?_⟩
  · rw [Operator.isKey, hkey, Connective.ofKey?_key]
    rfl
  · rw [Meaning.ofOperator_branches hkey hop, h, Meaning.ofConnective.eq_def,
      Connective.ofKey?_key]

lemma Meaning.ofOperators_eq_ofConnectives (actual : Option Value) {bound : Option String}
    (fields : SortedMap Value bound) (h : ∀ e ∈ fields.toList, IgnoresFields e.1 e.2) :
    ofOperators actual fields = ofConnectives fields := by
  induction fields with
  | nil => rfl
  | cons key v hbelow rest ih =>
    rw [SortedMap.toList_cons, List.forall_mem_cons] at h
    rw [ofOperators, ofConnectives, h.1.ofOperator_eq, ih h.2]

/-! ### Built conditions -/

namespace Condition

mutual

/-- The names of the fields that a step tests on the item itself. -/
def Step.fieldNames : Step → List String
  | .eq name _ => [name]
  | .field name _ => [name]
  | .nested name _ => [name]
  | .logical _ branches => fieldNamesOfBranches branches

/-- The names of the fields that some steps test on the item itself. -/
def fieldNamesOf : List Step → List String
  | [] => []
  | step :: steps => step.fieldNames ++ fieldNamesOf steps

/-- The names of the fields that some branches test on the item itself. -/
def fieldNamesOfBranches : List (List Step) → List String
  | [] => []
  | branch :: branches => fieldNamesOf branch ++ fieldNamesOfBranches branches

end

/-- None of the keys is marked. -/
def Unmarked (keys : List String) : Prop := ∀ key ∈ keys, isMarked key = false

instance (keys : List String) : Decidable (Unmarked keys) :=
  inferInstanceAs (Decidable (∀ key ∈ keys, isMarked key = false))

/-- Every entry of a condition ignores fields among the operators of a field. -/
def EntriesIgnoreFields (c : Condition) : Prop := ∀ e ∈ c.entries.toList, IgnoresFields e.1 e.2

lemma entriesIgnoreFields_empty : empty.EntriesIgnoreFields := fun _ h => by cases h

lemma EntriesIgnoreFields.set {c : Condition} (hc : c.EntriesIgnoreFields) {key : String}
    {v : Value} (h : IgnoresFields key v) : (c.set key v).EntriesIgnoreFields := by
  intro e he
  rcases SortedMap.mem_toList_insert he with rfl | he
  · exact h
  · exact hc e he

mutual

lemma entriesIgnoreFields_apply {c : Condition} (hc : c.EntriesIgnoreFields) (step : Step)
    (hstep : Unmarked step.fieldNames) : (c.apply step).EntriesIgnoreFields := by
  match step with
  | .eq name v =>
    rw [apply]
    exact hc.set (.of_unmarked (hstep name (List.mem_singleton_self _)) v)
  | .field name steps =>
    rw [apply, field]
    split_ifs
    · exact hc
    · exact hc.set (.of_unmarked (hstep name (List.mem_singleton_self _)) _)
  | .nested name steps =>
    rw [apply]
    exact hc.set (.of_unmarked (hstep name (List.mem_singleton_self _)) _)
  | .logical connective branches =>
    rw [apply]
    -- the branches are built conditions again, whose fields are skipped as well
    exact hc.set (.of_connective connective fun actual =>
      ofOperatorBranches_runEach actual branches hstep)

lemma entriesIgnoreFields_run {c : Condition} (hc : c.EntriesIgnoreFields) (steps : List Step)
    (hsteps : Unmarked (fieldNamesOf steps)) : (c.run steps).EntriesIgnoreFields := by
  match steps with
  | [] =>
    rw [run]
    exact hc
  | step :: steps =>
    rw [fieldNamesOf, Unmarked, List.forall_mem_append] at hsteps
    rw [run]
    exact entriesIgnoreFields_run (entriesIgnoreFields_apply hc step hsteps.1) steps hsteps.2

lemma ofOperatorBranches_runEach (actual : Option Value) (branches : List (List Step))
    (hbranches : Unmarked (fieldNamesOfBranches branches)) :
    Meaning.ofOperatorBranches actual ((runEach branches).map build) =
      Meaning.ofConnectiveBranches ((runEach branches).map build) := by
  match branches with
  | [] => rfl
  | steps :: branches =>
    rw [fieldNamesOfBranches, Unmarked, List.forall_mem_append] at hbranches
    have hsteps := entriesIgnoreFields_run entriesIgnoreFields_empty steps hbranches.1
    rw [runEach, List.map_cons, build, Meaning.ofOperatorBranches, Meaning.ofConnectiveBranches,
      Meaning.ofOperators_eq_ofConnectives actual _ hsteps,
      ofOperatorBranches_runEach actual branches hbranches.2]

end

/-- Whether one of the keys of a condition is the key of a connective. -/
def hasConnective (c : Condition) : Bool :=
  c.entries.keys.any fun key => (Connective.ofKey? key).isSome

lemma EntriesIgnoreFields.hasOperator_eq {c : Condition} (hc : c.EntriesIgnoreFields) :
    hasOperator c.entries = c.hasConnective := by
  rw [Bool.eq_iff_iff, hasOperator, hasConnective, List.any_eq_true, List.any_eq_true]
  refine exists_congr fun key => and_congr_right fun hkey => ?_
  obtain ⟨e, he, rfl⟩ := List.mem_map.1 hkey
  rw [(hc e he).isKey_eq]

/-! ### Nesting -/

section

variable {α : Type} [Document α]

lemma compile_holds (c : Condition) (item : α) :
    c.compile.holds item = Meaning.ofEntries (Document.field? item) c.entries := by
  rw [compile, Filter.holds, Predicate.allHold, Filter.allHoldOn_ofCondition, build,
    Meaning.ofCondition]

/-- Whether the value of a field is present, not null, and matched by a condition. -/
def holdsWithin (c : Condition) (actual : Option Value) : Bool :=
  actual.any fun v => !v.isNull && c.compile.holds v

lemma nested_compile_holds (field : String) (inner : Condition) (item : α) :
    (empty.nested field inner).compile.holds item =
      Meaning.ofEntry (Document.field? item) field inner.build := by
  have hentries : (empty.nested field inner).entries = .single field inner.build := rfl
  rw [compile_holds, hentries, SortedMap.single, Meaning.ofEntries, Meaning.ofEntries,
    Bool.and_true]

/-- Without a connective, a nested condition is a condition on the value of the field. -/
lemma nested_holds_of_hasConnective_false {field : String} {inner : Condition}
    (hfield : Connective.ofKey? field = none) (hinner : inner.EntriesIgnoreFields)
    (h : inner.hasConnective = false) (item : α) :
    (empty.nested field inner).compile.holds item =
      inner.holdsWithin (Document.field? item field) := by
  have hvalue (v : Value) : inner.compile.holds v = Meaning.ofEntries v.get? inner.entries :=
    inner.compile_holds v
  rw [nested_compile_holds, build,
    Meaning.ofEntry_nested hfield (hinner.hasOperator_eq.trans h)]
  simp only [holdsWithin, hvalue]

/-- With a connective, a nested condition says the same about every item. -/
lemma nested_holds_of_hasConnective {field : String} {inner : Condition}
    (hfield : Connective.ofKey? field = none) (hinner : inner.EntriesIgnoreFields)
    (h : inner.hasConnective = true) (item : α) :
    (empty.nested field inner).compile.holds item = Meaning.ofConnectives inner.entries := by
  rw [nested_compile_holds, build,
    Meaning.ofEntry_operators hfield (hinner.hasOperator_eq.trans h),
    Meaning.ofOperators_eq_ofConnectives _ _ hinner]

end

/-- A condition holds within no field at all exactly if it matches no value but null. -/
lemma forall_holdsWithin_eq_false (c : Condition) (field : String) :
    (∀ item : Value, c.holdsWithin (item.get? field) = false) ↔
      ∀ v : Value, v.isNull = false → c.compile.holds v = false := by
  constructor
  · intro h v hv
    have hfield : (Value.record (.single field v)).get? field = some v := if_pos rfl
    simpa [hfield, holdsWithin, hv] using h (.record (.single field v))
  · intro h item
    match item.get? field with
    | none => rfl
    | some v =>
      match hv : v.isNull with
      | true => simp [holdsWithin, hv]
      | false => simp [holdsWithin, hv, h v hv]

/-- A condition is built in steps, none of which names a marked field, and nested under a field.
With a connective among its keys it says the same about every item, so that it is a condition on the
value of the field exactly if it has no connective, or if neither matches anything. -/
theorem nested_holds_iff_holdsWithin (field : String) (steps : List Step)
    (hfield : Connective.ofKey? field = none) (hsteps : Unmarked (fieldNamesOf steps)) :
    let inner := empty.run steps
    (∀ (α : Type) [Document α] (item : α), (empty.nested field inner).compile.holds item =
      if inner.hasConnective then Meaning.ofConnectives inner.entries
      else inner.holdsWithin (Document.field? item field)) ∧
    ((∀ item : Value,
        (empty.nested field inner).compile.holds item = inner.holdsWithin (item.get? field)) ↔
      inner.hasConnective = false ∨
        Meaning.ofConnectives inner.entries = false ∧
          ∀ v : Value, v.isNull = false → inner.compile.holds v = false) := by
  intro inner
  have hinner : inner.EntriesIgnoreFields :=
    entriesIgnoreFields_run entriesIgnoreFields_empty steps hsteps
  -- from here on only the kind of the entries counts, not the steps
  clear_value inner
  match h : inner.hasConnective with
  | false =>
    refine ⟨fun α _ item => ?_, fun _ => .inl rfl, fun _ item => ?_⟩
    · exact nested_holds_of_hasConnective_false hfield hinner h item
    · exact nested_holds_of_hasConnective_false hfield hinner h item
  | true =>
    refine ⟨fun α _ item => nested_holds_of_hasConnective hfield hinner h item, ?_⟩
    simp only [nested_holds_of_hasConnective hfield hinner h, Bool.true_eq_false, false_or]
    rw [← forall_holdsWithin_eq_false inner field]
    constructor
    · intro hitem
      -- an item without the field shows the value that all items share
      have hfalse : Meaning.ofConnectives inner.entries = false := hitem .null
      exact ⟨hfalse, fun item => (hitem item).symm.trans hfalse⟩
    · rintro ⟨hfalse, hnone⟩ item
      rw [hfalse, hnone item]

/-- A nested condition with a connective matches an item that lacks the field. -/
theorem nested_any_holds_of_absent :
    let inner := empty.run [.logical .any [[.eq "age" (.number (.signed 30))]]]
    (empty.nested "user" inner).compile.holds (Value.record .nil) = true ∧
      inner.holdsWithin ((Value.record .nil).get? "user") = false := by
  decide +kernel

theorem nested_any_not_holdsWithin :
    let inner := empty.run [.eq "name" (.text "Ada"),
      .logical .any [[.eq "age" (.number (.signed 30))], [.field "age" [.less .null]]]]
    ¬ ∀ item : Value,
      (empty.nested "user" inner).compile.holds item = inner.holdsWithin (item.get? "user") := by
  intro inner
  rw [(nested_holds_iff_holdsWithin "user" _ (by decide) (by decide)).2]
  rintro (h | ⟨h, -⟩)
  · exact absurd h (by decide +kernel)
  · exact absurd h (by decide +kernel)

end Condition

end Criteria
