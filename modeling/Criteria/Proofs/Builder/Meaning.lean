import Criteria.Proofs.Builder.LastSetting
import Criteria.Proofs.Builder.Nesting

/-!
# The meaning of building steps

What a condition says that was built step by step can be told from the steps, without looking at the
record that they build: of the steps for one key the last one counts, and each step says what its
name says (`Condition.Step.holds`). The same goes for the operators of a field
(`Operators.Step.holds`). `Condition.compile_run_holds_iff` says that the filter of the built
condition matches the items that these steps hold for.
-/

namespace Criteria

/-! ### Operators of one field -/

namespace Operators

/-- The operator that a step gives an operand to, and the operand. -/
def Step.operand? : Step → Option (Operator × Value)
  | .setIfSome op operand => operand.map fun v => (op, v)
  | .less v => some (.less, v)
  | .lessEqual v => some (.lessEqual, v)
  | .greater v => some (.greater, v)
  | .greaterEqual v => some (.greaterEqual, v)
  | .equal v => some (.equal, v)
  | .not v => some (.not, v)
  | .dateBefore v => some (.dateBefore, v)
  | .dateAfter v => some (.dateAfter, v)
  | .oneOf candidates => some (.oneOf, .sequence candidates)
  | .notOneOf candidates => some (.notOneOf, .sequence candidates)
  | .contains v => some (.contains, v)
  | .notContains v => some (.notContains, v)
  | .matches pattern => some (.matches, .text pattern)
  | .anyOf _ | .allOf _ | .noneOf _ => none

/-- The key of the operator that a step sets, if it sets one. -/
def Step.key? : Step → Option String
  | .anyOf _ => some Connective.any.key
  | .allOf _ => some Connective.all.key
  | .noneOf _ => some Connective.none.key
  | step => step.operand?.map fun (op, _) => op.key

mutual

/-- What a step says about the value of a field: an operand has to pass, and of sets of operators
some, all or none have to hold. -/
def Step.holds (actual : Option Value) : Step → Bool
  | .anyOf sets => (setsHold actual sets).any id
  | .allOf sets => (setsHold actual sets).all id
  | .noneOf sets => (setsHold actual sets).all (!·)
  | step => step.operand?.all fun (op, operand) => op.relates actual operand

/-- What some steps say together: the last step for each operator has to hold. -/
def stepsHold (actual : Option Value) : List Step → Bool
  | [] => true
  | step :: steps => (!stands Step.key? step steps || step.holds actual) && stepsHold actual steps

/-- What each of some sets of operators says. -/
def setsHold (actual : Option Value) : List (List Step) → List Bool
  | [] => []
  | steps :: sets => stepsHold actual steps :: setsHold actual sets

end

mutual

/-- Whether a step gives no operand to a connective other than sets of operators to join. -/
def Step.isPlain : Step → Bool
  | .setIfSome op operand => operand.isNone || op.connective?.isNone
  | .anyOf sets | .allOf sets | .noneOf sets => setsPlain sets
  | _ => true

/-- Whether all of some steps are plain. -/
def arePlain : List Step → Bool
  | [] => true
  | step :: steps => step.isPlain && arePlain steps

/-- Whether all steps of some sets of operators are plain. -/
def setsPlain : List (List Step) → Bool
  | [] => true
  | steps :: sets => arePlain steps && setsPlain sets

end

/-- The operator that a step sets, and the operand that is built for it. -/
def Step.assigned? : Step → Option (Operator × Value)
  | .anyOf sets => some (.any, .sequence ((runEach sets).map build))
  | .allOf sets => some (.all, .sequence ((runEach sets).map build))
  | .noneOf sets => some (.none, .sequence ((runEach sets).map build))
  | step => step.operand?

/-- The entry that a step puts into the record of the operators. -/
def Step.setting? (step : Step) : Option (String × Value) :=
  step.assigned?.map fun (op, operand) => (op.key, operand)

lemma Step.key?_eq_keyOf : Step.key? = SortedMap.keyOf Step.setting? := by
  funext step
  cases step with
  | setIfSome op operand => cases operand <;> rfl
  | _ => rfl

lemma entries_apply (ops : Operators) (step : Step) :
    (ops.apply step).entries = ops.entries.setSome step.setting? := by
  cases step with
  | setIfSome op operand => cases operand <;> rfl
  | _ => rfl

lemma entries_run (ops : Operators) (steps : List Step) :
    (ops.run steps).entries = SortedMap.setAll Step.setting? ops.entries steps := by
  induction steps generalizing ops with
  | nil => rfl
  | cons step steps ih => rw [run, ih, entries_apply, SortedMap.setAll_cons]

lemma stepsHold_eq_standingHold (actual : Option Value) (steps : List Step) :
    stepsHold actual steps = standingHold Step.key? (Step.holds actual) steps := by
  induction steps with
  | nil => rfl
  | cons step steps ih => rw [stepsHold, standingHold, ih]

/-- What a step puts into the record means what the step says. -/
def Step.IsFaithful (actual : Option Value) (step : Step) : Prop :=
  ∀ e, step.setting? = some e → Meaning.ofOperator actual e.1 e.2 = step.holds actual

lemma ofOperators_run_of_isFaithful {actual : Option Value} {steps : List Step}
    (h : ∀ step ∈ steps, step.IsFaithful actual) :
    Meaning.ofOperators actual (empty.run steps).entries = stepsHold actual steps := by
  rw [Meaning.ofOperators_eq_all, entries_run, stepsHold_eq_standingHold, Step.key?_eq_keyOf]
  exact SortedMap.all_setAll h

lemma Step.IsFaithful.of_operand {actual : Option Value} {step : Step} {op : Operator}
    {operand : Value} (hop : op.connective? = none)
    (hset : step.setting? = some (op.key, operand))
    (hholds : step.holds actual = op.relates actual operand) : step.IsFaithful actual := by
  rintro e he
  obtain rfl : (op.key, operand) = e := Option.some.inj (hset.symm.trans he)
  rw [hholds]
  exact Meaning.ofOperator_test (Operator.ofKey?_key op) hop

lemma Step.IsFaithful.of_sets {actual : Option Value} {step : Step} {op : Operator}
    {connective : Connective} {sets : List (List Step)} (hop : op.connective? = some connective)
    (hset : step.setting? = some (op.key, .sequence ((runEach sets).map build)))
    (hholds : step.holds actual = connective.holds (setsHold actual sets))
    (hsets : Meaning.ofOperatorBranches actual ((runEach sets).map build) =
      setsHold actual sets) : step.IsFaithful actual := by
  rintro e he
  obtain rfl := Option.some.inj (hset.symm.trans he)
  rw [hholds, ← hsets]
  exact Meaning.ofOperator_branches (Operator.ofKey?_key op) hop _

mutual

lemma Step.isFaithful (actual : Option Value) (step : Step) (h : step.isPlain = true) :
    step.IsFaithful actual := by
  match step with
  | .setIfSome op none => exact fun e he => nomatch he
  | .setIfSome op (some operand) =>
    have hop : op.connective? = none := Option.isNone_iff_eq_none.1 h
    exact .of_operand hop rfl rfl
  -- each of these methods sets one operator, which is no connective
  | .less _ | .lessEqual _ | .greater _ | .greaterEqual _ | .equal _ | .not _ | .dateBefore _
  | .dateAfter _ | .oneOf _ | .notOneOf _ | .contains _ | .notContains _ | .matches _ =>
    exact .of_operand rfl rfl rfl
  | .anyOf sets | .allOf sets | .noneOf sets =>
    exact .of_sets rfl rfl rfl (ofOperatorBranches_runEach actual sets h)

lemma isFaithful_of_arePlain (actual : Option Value) (steps : List Step)
    (h : arePlain steps = true) : ∀ step ∈ steps, step.IsFaithful actual := by
  match steps with
  | [] => exact fun _ hstep => nomatch hstep
  | step :: steps =>
    rw [arePlain, Bool.and_eq_true] at h
    rw [List.forall_mem_cons]
    exact ⟨step.isFaithful actual h.1, isFaithful_of_arePlain actual steps h.2⟩

lemma ofOperatorBranches_runEach (actual : Option Value) (sets : List (List Step))
    (h : setsPlain sets = true) :
    Meaning.ofOperatorBranches actual ((runEach sets).map build) = setsHold actual sets := by
  match sets with
  | [] => rfl
  | steps :: sets =>
    rw [setsPlain, Bool.and_eq_true] at h
    rw [runEach, List.map_cons, build, Meaning.ofOperatorBranches, setsHold,
      ofOperators_run_of_isFaithful (isFaithful_of_arePlain actual steps h.1),
      ofOperatorBranches_runEach actual sets h.2]

end

/-- The operators of a field say what the steps that set them say. -/
lemma ofOperators_run (actual : Option Value) {steps : List Step} (h : arePlain steps = true) :
    Meaning.ofOperators actual (empty.run steps).entries = stepsHold actual steps :=
  ofOperators_run_of_isFaithful (isFaithful_of_arePlain actual steps h)

/-- What a step sets stands under the key of an operator. -/
lemma Step.isKey_of_setting? {step : Step} {e : String × Value} (h : step.setting? = some e) :
    Operator.isKey e.1 = true := by
  obtain ⟨⟨op, operand⟩, -, rfl⟩ := Option.map_eq_some_iff.1 h
  rw [Operator.isKey, Operator.ofKey?_key, Option.isSome_some]

lemma isEmpty_run (steps : List Step) :
    (empty.run steps).isEmpty = !steps.any fun step => step.key?.isSome := by
  rw [isEmpty, entries_run, SortedMap.isEmpty_setAll, Step.key?_eq_keyOf, List.not_any_eq_all_not]
  simp [empty, SortedMap.isEmpty, SortedMap.keyOf]

/-- All keys of built operators are keys of operators. -/
lemma hasOperator_run {steps : List Step} (h : (empty.run steps).isEmpty = false) :
    hasOperator (empty.run steps).entries = true := by
  rw [isEmpty, entries_run] at h
  rw [entries_run]
  match hm : SortedMap.setAll Step.setting? empty.entries steps with
  | .nil =>
    rw [hm] at h
    cases h
  | .cons key operand hbelow rest =>
    have hmem : (key, operand) ∈ (SortedMap.setAll Step.setting? empty.entries steps).toList := by
      rw [hm]
      exact List.mem_cons_self ..
    -- there is an entry, and it was put there by some step
    obtain hempty | ⟨step, -, hset⟩ := SortedMap.mem_toList_setAll hmem
    · cases hempty
    · rw [hasOperator, SortedMap.keys, SortedMap.toList_cons, List.map_cons, List.any_cons,
        Step.isKey_of_setting? hset, Bool.true_or]

end Operators

/-! ### Conditions -/

namespace Condition

/-- The key that a step sets, if it sets one. -/
def Step.key? : Step → Option String
  | .eq name _ => some name
  | .field name steps => if steps.any (·.key?.isSome) then some name else none
  | .nested name _ => some name
  | .logical connective _ => some connective.key

mutual

/-- What a step says about an item with the given fields. -/
def Step.holds (fields : String → Option Value) : Step → Bool
  | .eq name v => (fields name).any fun actual => actual.equal v
  | .field name steps => Operators.stepsHold (fields name) steps
  | .nested name steps =>
    (fields name).any fun inner => !inner.isNull && stepsHold inner.get? steps
  | .logical connective branches => connective.holds (branchesHold fields branches)

/-- What some steps say together: the last step for each key has to hold. -/
def stepsHold (fields : String → Option Value) : List Step → Bool
  | [] => true
  | step :: steps => (!stands Step.key? step steps || step.holds fields) && stepsHold fields steps

/-- What each of some branches says. -/
def branchesHold (fields : String → Option Value) : List (List Step) → List Bool
  | [] => []
  | steps :: branches => stepsHold fields steps :: branchesHold fields branches

end

mutual

/-- Whether a step cannot be read for something else: no field has the name of a connective, a field
is not set equal to a record, and no key of a nested condition is the key of an operator. -/
def Step.isPlain : Step → Bool
  | .eq name v => (Connective.ofKey? name).isNone && !v.isRecord
  | .field name steps => (Connective.ofKey? name).isNone && Operators.arePlain steps
  | .nested name steps => (Connective.ofKey? name).isNone && arePlain steps &&
    steps.all fun step => !step.key?.any Operator.isKey
  | .logical _ branches => branchesPlain branches

/-- Whether all of some steps are plain. -/
def arePlain : List Step → Bool
  | [] => true
  | step :: steps => step.isPlain && arePlain steps

/-- Whether all steps of some branches are plain. -/
def branchesPlain : List (List Step) → Bool
  | [] => true
  | steps :: branches => arePlain steps && branchesPlain branches

end

/-- The entry that a step puts into the record of the condition. -/
def Step.setting? : Step → Option (String × Value)
  | .eq name v => some (name, v)
  | .field name steps =>
    if (Operators.empty.run steps).isEmpty then none
    else some (name, (Operators.empty.run steps).build)
  | .nested name steps => some (name, (empty.run steps).build)
  | .logical connective branches =>
    some (connective.key, .sequence ((runEach branches).map build))

lemma Step.key?_eq_keyOf : Step.key? = SortedMap.keyOf Step.setting? := by
  funext step
  cases step with
  | field name steps =>
    rw [key?, SortedMap.keyOf, setting?, Operators.isEmpty_run]
    cases steps.any fun step => step.key?.isSome <;> rfl
  | eq name v | nested name steps | logical connective branches => rfl

lemma entries_apply (c : Condition) (step : Step) :
    (c.apply step).entries = c.entries.setSome step.setting? := by
  cases step with
  | field name steps =>
    rw [apply, field, Step.setting?]
    split_ifs <;> rfl
  | eq name v | nested name steps | logical connective branches => rfl

lemma entries_run (c : Condition) (steps : List Step) :
    (c.run steps).entries = SortedMap.setAll Step.setting? c.entries steps := by
  induction steps generalizing c with
  | nil => rfl
  | cons step steps ih => rw [run, ih, entries_apply, SortedMap.setAll_cons]

lemma stepsHold_eq_standingHold (fields : String → Option Value) (steps : List Step) :
    stepsHold fields steps = standingHold Step.key? (Step.holds fields) steps := by
  induction steps with
  | nil => rfl
  | cons step steps ih => rw [stepsHold, standingHold, ih]

/-- Nothing that a nested condition sets looks like an operator. -/
lemma hasOperator_run {steps : List Step}
    (h : (steps.all fun step => !step.key?.any Operator.isKey) = true) :
    hasOperator (empty.run steps).entries = false := by
  rw [hasOperator, List.any_eq_false]
  intro key hkey
  obtain ⟨e, he, rfl⟩ := List.mem_map.1 hkey
  rw [entries_run] at he
  obtain hempty | ⟨step, hstep, hset⟩ := SortedMap.mem_toList_setAll he
  · cases hempty
  · have hstep := List.all_eq_true.1 h step hstep
    rw [Step.key?_eq_keyOf, SortedMap.keyOf, hset] at hstep
    simpa using hstep

/-- What a step puts into the record means what the step says. This is about all fields, as a nested
condition looks at the fields of the value. -/
def Step.IsFaithful (step : Step) : Prop :=
  ∀ fields e, step.setting? = some e → Meaning.ofEntry fields e.1 e.2 = step.holds fields

lemma ofEntries_run_of_isFaithful {steps : List Step} (h : ∀ step ∈ steps, step.IsFaithful)
    (fields : String → Option Value) :
    Meaning.ofEntries fields (empty.run steps).entries = stepsHold fields steps := by
  rw [Meaning.ofEntries_eq_all, entries_run, stepsHold_eq_standingHold, Step.key?_eq_keyOf]
  exact SortedMap.all_setAll fun step hstep => h step hstep fields

mutual

lemma Step.isFaithful (step : Step) (h : step.isPlain = true) : step.IsFaithful := by
  intro fields e he
  match step with
  | .eq name v =>
    obtain rfl := Option.some.inj he
    rw [Step.isPlain, Bool.and_eq_true, Option.isNone_iff_eq_none] at h
    have hv : v.record? = none := by
      cases v with
      | record conditions => cases h.2
      | _ => rfl
    exact Meaning.ofEntry_literal h.1 hv
  | .field name steps =>
    rw [Step.isPlain, Bool.and_eq_true, Option.isNone_iff_eq_none] at h
    rw [Step.setting?] at he
    -- without operators the step sets nothing; with some, the record is one of operators
    split_ifs at he with hempty
    obtain rfl := Option.some.inj he
    have hop := Operators.hasOperator_run (Bool.eq_false_iff.2 hempty)
    rw [Operators.build, Meaning.ofEntry_operators h.1 hop, Operators.ofOperators_run _ h.2,
      Step.holds]
  | .nested name steps =>
    obtain rfl := Option.some.inj he
    rw [Step.isPlain, Bool.and_eq_true, Bool.and_eq_true, Option.isNone_iff_eq_none] at h
    have hsteps := ofEntries_run_of_isFaithful (isFaithful_of_arePlain steps h.1.2)
    rw [build, Meaning.ofEntry_nested h.1.1 (hasOperator_run h.2), Step.holds]
    simp only [hsteps]
  | .logical connective branches =>
    obtain rfl := Option.some.inj he
    rw [Meaning.ofEntry_branches (Connective.ofKey?_key connective), Step.holds,
      ofBranches_runEach fields branches h]

lemma isFaithful_of_arePlain (steps : List Step) (h : arePlain steps = true) :
    ∀ step ∈ steps, step.IsFaithful := by
  match steps with
  | [] => exact fun _ hstep => nomatch hstep
  | step :: steps =>
    rw [arePlain, Bool.and_eq_true] at h
    rw [List.forall_mem_cons]
    exact ⟨step.isFaithful h.1, isFaithful_of_arePlain steps h.2⟩

lemma ofBranches_runEach (fields : String → Option Value) (branches : List (List Step))
    (h : branchesPlain branches = true) :
    Meaning.ofBranches fields ((runEach branches).map build) = branchesHold fields branches := by
  match branches with
  | [] => rfl
  | steps :: branches =>
    rw [branchesPlain, Bool.and_eq_true] at h
    rw [runEach, List.map_cons, build, Meaning.ofBranches, Meaning.ofCondition, branchesHold,
      ofEntries_run_of_isFaithful (isFaithful_of_arePlain steps h.1),
      ofBranches_runEach fields branches h.2]

end

lemma compile_run_holds {α : Type} [Document α] {steps : List Step} (h : arePlain steps = true)
    (item : α) :
    (empty.run steps).compile.holds item = stepsHold (Document.field? item) steps := by
  rw [compile_holds]
  exact ofEntries_run_of_isFaithful (isFaithful_of_arePlain steps h) _

/-- A condition is built in steps that cannot be read for something else. Its filter matches an item
exactly if for each key the last step that sets it holds for the item. -/
theorem compile_run_holds_iff {α : Type} [Document α] (steps : List Step)
    (h : arePlain steps = true) (item : α) :
    (empty.run steps).compile.holds item = true ↔
      ∀ key, ∀ step ∈ lastSetting? Step.key? key steps,
        step.holds (Document.field? item) = true := by
  rw [compile_run_holds h, stepsHold_eq_standingHold, standingHold_iff]

theorem compile_run_holds_overwritten :
    let steps : List Step := [.eq "age" (.number (.signed 31)), .eq "name" (.text "Bob"),
      .field "age" [.less (.number (.signed 18)), .setIfSome .greater none,
        .less (.number (.signed 65)), .noneOf [[.equal .null], [.greater (.number (.signed 40))]]],
      .logical .any [[.eq "role" (.text "admin")], [.field "role" [.setIfSome .oneOf none]]],
      .field "name" [], .eq "name" (.text "Ada")]
    let item := Value.ofFields [("age", .number (.signed 30)), ("name", .text "Ada")]
    arePlain steps = true ∧ (empty.run steps).compile.holds item = true := by
  intro steps item
  have hplain : arePlain steps = true := by decide
  have hsteps : standingHold Step.key? (Step.holds item.get?) steps = true := by decide +kernel
  exact ⟨hplain, (compile_run_holds_iff steps hplain item).2 (standingHold_iff.1 hsteps)⟩

end Condition

end Criteria
