import Criteria.Proofs.Builder.Meaning
import Criteria.Proofs.Condition.Strict
import Mathlib

/-!
# Building steps with usable operands

Strict compilation has nothing to complain about in a condition that is built by the methods of the
operators alone, with dates for the date tests and patterns for the pattern tests
(`Condition.compile_run_typed`). Each step puts one entry into a record, so it is enough to compile
the entries one by one; what a record holds was put there by some step.
-/

namespace Criteria

/-! ### Predicates without stand-ins -/

namespace Predicate

/-- Whether a predicate is what a test is meant to compile to: it stands in for nothing malformed,
and it asks for an order only with an operator that does. -/
def isProper : Predicate → Bool
  | .field _ (.ordered op _) => op.isRelational
  | p => !p.isStandIn

/-- Everything in the predicates of a list is proper. -/
def Proper (ps : List Predicate) : Prop := ∀ p ∈ partsOfAll ps, p.isProper = true

variable {name : String} {connective : Connective} {ps qs : List Predicate}
  {branches : List (List Predicate)}

lemma isStandIn_of_isProper {p : Predicate} (h : p.isProper = true) : p.isStandIn = false := by
  cases p with
  | field name test => cases test <;> simp_all [isProper, isStandIn]
  | _ => simpa [isProper] using h

lemma proper_nil : Proper [] := fun _ h => nomatch h

lemma proper_append (hps : Proper ps) (hqs : Proper qs) : Proper (ps ++ qs) := by
  rw [Proper, partsOfAll_append, List.forall_mem_append]
  exact ⟨hps, hqs⟩

lemma proper_field {test : Test} (h : (Predicate.field name test).isProper = true) :
    Proper [.field name test] := by
  rw [Proper, partsOfAll_singleton, parts, List.forall_mem_singleton]
  exact h

lemma proper_literal {v : Value} : Proper [.literal name v] := by
  rw [Proper, partsOfAll_singleton, parts, List.forall_mem_singleton]
  rfl

lemma proper_logical (h : Proper branches.flatten) : Proper [.logical connective branches] := by
  rw [Proper, partsOfAll_singleton, parts, partsOfBranches_eq_flatten, List.forall_mem_cons]
  exact ⟨rfl, h⟩

end Predicate

/-! ### Compilation entry by entry -/

/-- Whether strict compilation takes an operand of an operator that is no connective: the bound of a
date test stands for an instant, and the operand of a pattern test spells a pattern. -/
def Operator.takes : Operator → Value → Bool
  | .dateBefore, operand | .dateAfter, operand => operand.toInstant?.isSome
  | .matches, operand => (operand.text?.bind Pattern.parse?).isSome
  | _, _ => true

namespace Mode

open Predicate

variable {field : String}

lemma proper_compileTest {op : Operator} {operand : Value} (hop : op.connective? = none)
    (h : op.takes operand = true) :
    Yields (strict.compileTest field op operand) fun p => Proper [p] := by
  cases op with
  | any | all | none => cases hop
  | less | lessEqual | greater | greaterEqual | equal | not | oneOf | notOneOf | contains
  | notContains => exact .ok (proper_field rfl)
  | dateBefore | dateAfter =>
    obtain ⟨t, ht⟩ := Option.isSome_iff_exists.1 h
    rw [compileTest, dateBound.eq_def, ht]
    exact .ok (proper_field rfl)
  | «matches» =>
    obtain ⟨pattern, hpattern⟩ := Option.isSome_iff_exists.1 h
    rw [compileTest_matches hpattern]
    exact .ok (proper_field rfl)

lemma proper_compileOperators {bound : Option String} {operators : SortedMap Value bound}
    (h : ∀ e ∈ operators.toList, Yields (strict.compileOperator field e.1 e.2) Proper) :
    Yields (strict.compileOperators field operators) Proper := by
  induction operators with
  | nil => exact .ok proper_nil
  | cons key operand _ rest ih =>
    rw [SortedMap.toList_cons, List.forall_mem_cons] at h
    rw [compileOperators]
    exact h.1.both (ih h.2) fun _ _ => proper_append

lemma proper_compileFields {bound : Option String} {fields : SortedMap Value bound}
    (h : ∀ e ∈ fields.toList, Yields (strict.compileEntry e.1 e.2) Proper) :
    Yields (strict.compileFields fields) Proper := by
  induction fields with
  | nil => exact .ok proper_nil
  | cons key v _ rest ih =>
    rw [SortedMap.toList_cons, List.forall_mem_cons] at h
    rw [compileFields]
    exact h.1.both (ih h.2) fun _ _ => proper_append

end Mode

open Mode Predicate

/-! ### Operators of one field -/

namespace Operators

mutual

/-- Whether a step is one of the methods for single operators, with an operand that the operator
takes. -/
def Step.isTyped : Step → Bool
  | .setIfSome _ _ => false
  | .anyOf sets | .allOf sets | .noneOf sets => setsTyped sets
  | step => step.operand?.all fun (op, operand) => op.takes operand

/-- Whether all of some steps are typed. -/
def areTyped : List Step → Bool
  | [] => true
  | step :: steps => step.isTyped && areTyped steps

/-- Whether all steps of some sets of operators are typed. -/
def setsTyped : List (List Step) → Bool
  | [] => true
  | steps :: sets => areTyped steps && setsTyped sets

end

/-- What a step puts into the record compiles without a fault, to proper predicates. -/
def Step.IsSound (field : String) (step : Step) : Prop :=
  ∀ e, step.setting? = some e → Yields (strict.compileOperator field e.1 e.2) Proper

variable {field : String}

lemma Step.IsSound.of_operand {step : Step} {op : Operator} {operand : Value}
    (hop : op.connective? = none) (hset : step.setting? = some (op.key, operand))
    (h : op.takes operand = true) : step.IsSound field := by
  rintro e he
  obtain rfl : (op.key, operand) = e := Option.some.inj (hset.symm.trans he)
  rw [compileOperator_test (Operator.ofKey?_key op) hop]
  exact (proper_compileTest hop h).map fun _ hp => hp

lemma Step.IsSound.of_sets {step : Step} {op : Operator} {connective : Connective}
    {sets : List (List Step)} (hop : op.connective? = some connective)
    (hset : step.setting? = some (op.key, .sequence ((runEach sets).map build)))
    (hsets : Yields (strict.compileOperatorBranches field connective 0 ((runEach sets).map build))
      fun branches => Proper branches.flatten) : step.IsSound field := by
  rintro e he
  obtain rfl := Option.some.inj (hset.symm.trans he)
  rw [compileOperator_branches (Operator.ofKey?_key op) hop]
  exact hsets.map fun _ => proper_logical

lemma proper_compileOperators_run {steps : List Step} (h : ∀ step ∈ steps, step.IsSound field) :
    Yields (strict.compileOperators field (empty.run steps).entries) Proper := by
  refine proper_compileOperators fun e he => ?_
  rw [entries_run] at he
  obtain hempty | ⟨step, hstep, hset⟩ := SortedMap.mem_toList_setAll he
  · cases hempty
  · exact h step hstep e hset

mutual

lemma Step.isSound (step : Step) (h : step.isTyped = true) : step.IsSound field := by
  match step with
  | .setIfSome _ _ => cases h
  -- each of these methods sets one operator, which is no connective
  | .less _ | .lessEqual _ | .greater _ | .greaterEqual _ | .equal _ | .not _ | .dateBefore _
  | .dateAfter _ | .oneOf _ | .notOneOf _ | .contains _ | .notContains _ | .matches _ =>
    exact .of_operand rfl rfl h
  | .anyOf sets | .allOf sets | .noneOf sets =>
    exact .of_sets rfl rfl (proper_compileOperatorBranches_runEach _ 0 sets h)

lemma isSound_of_areTyped (steps : List Step) (h : areTyped steps = true) :
    ∀ step ∈ steps, step.IsSound field := by
  match steps with
  | [] => exact fun _ hstep => nomatch hstep
  | step :: steps =>
    rw [areTyped, Bool.and_eq_true] at h
    rw [List.forall_mem_cons]
    exact ⟨step.isSound h.1, isSound_of_areTyped steps h.2⟩

lemma proper_compileOperatorBranches_runEach (connective : Connective) (index : Nat)
    (sets : List (List Step)) (h : setsTyped sets = true) :
    Yields (strict.compileOperatorBranches field connective index ((runEach sets).map build))
      fun branches => Proper branches.flatten := by
  match sets with
  | [] => exact .ok proper_nil
  | steps :: sets =>
    rw [setsTyped, Bool.and_eq_true] at h
    rw [runEach, List.map_cons, build, compileOperatorBranches]
    exact (proper_compileOperators_run (isSound_of_areTyped steps h.1)).both
      (proper_compileOperatorBranches_runEach connective (index + 1) sets h.2)
      fun _ _ => proper_append

end

end Operators

/-! ### Conditions -/

namespace Condition

mutual

/-- Whether a step sets a field equal to a value that is no record, tests a field by typed steps or
joins conditions of such steps, where no field has the name of a connective. -/
def Step.isTyped : Step → Bool
  | .eq name v => (Connective.ofKey? name).isNone && !v.isRecord
  | .field name steps => (Connective.ofKey? name).isNone && Operators.areTyped steps
  | .nested _ _ => false
  | .logical _ branches => branchesTyped branches

/-- Whether all of some steps are typed. -/
def areTyped : List Step → Bool
  | [] => true
  | step :: steps => step.isTyped && areTyped steps

/-- Whether all steps of some branches are typed. -/
def branchesTyped : List (List Step) → Bool
  | [] => true
  | steps :: branches => areTyped steps && branchesTyped branches

end

/-- What a step puts into the record compiles without a fault, to proper predicates. -/
def Step.IsSound (step : Step) : Prop :=
  ∀ e, step.setting? = some e → Yields (strict.compileEntry e.1 e.2) Proper

lemma proper_compileFields_run {steps : List Step} (h : ∀ step ∈ steps, step.IsSound) :
    Yields (strict.compileFields (empty.run steps).entries) Proper := by
  refine proper_compileFields fun e he => ?_
  rw [entries_run] at he
  obtain hempty | ⟨step, hstep, hset⟩ := SortedMap.mem_toList_setAll he
  · cases hempty
  · exact h step hstep e hset

mutual

lemma Step.isSound (step : Step) (h : step.isTyped = true) : step.IsSound := by
  intro e he
  match step with
  | .eq name v =>
    obtain rfl := Option.some.inj he
    rw [Step.isTyped, Bool.and_eq_true, Option.isNone_iff_eq_none] at h
    have hv : v.record? = none := by
      cases v with
      | record conditions => cases h.2
      | _ => rfl
    rw [compileEntry_literal h.1 hv]
    exact .ok proper_literal
  | .field name steps =>
    rw [Step.isTyped, Bool.and_eq_true, Option.isNone_iff_eq_none] at h
    rw [Step.setting?] at he
    split_ifs at he with hempty
    obtain rfl := Option.some.inj he
    have hop := Operators.hasOperator_run (Bool.eq_false_iff.2 hempty)
    rw [Operators.build, compileEntry_operators h.1 hop]
    exact Operators.proper_compileOperators_run (Operators.isSound_of_areTyped steps h.2)
  | .nested _ _ => cases h
  | .logical connective branches =>
    obtain rfl := Option.some.inj he
    rw [compileEntry_branches (Connective.ofKey?_key connective)]
    exact (proper_compileBranches_runEach connective 0 branches h).map fun _ => proper_logical

lemma isSound_of_areTyped (steps : List Step) (h : areTyped steps = true) :
    ∀ step ∈ steps, step.IsSound := by
  match steps with
  | [] => exact fun _ hstep => nomatch hstep
  | step :: steps =>
    rw [areTyped, Bool.and_eq_true] at h
    rw [List.forall_mem_cons]
    exact ⟨step.isSound h.1, isSound_of_areTyped steps h.2⟩

lemma proper_compileBranches_runEach (connective : Connective) (index : Nat)
    (branches : List (List Step)) (h : branchesTyped branches = true) :
    Yields (strict.compileBranches connective index ((runEach branches).map build))
      fun compiled => Proper compiled.flatten := by
  match branches with
  | [] => exact .ok proper_nil
  | steps :: branches =>
    rw [branchesTyped, Bool.and_eq_true] at h
    rw [runEach, List.map_cons, build, compileBranches]
    exact (proper_compileFields_run (isSound_of_areTyped steps h.1)).both
      (proper_compileBranches_runEach connective (index + 1) branches h.2)
      fun _ _ => proper_append

end

/-- A condition that is built in typed steps compiles strictly, to the predicates of its filter.
Nothing in them, at any depth, stands in for something malformed, and every ordering test has a
relational operator. -/
theorem compile_run_typed (steps : List Step) (h : areTyped steps = true) :
    ∃ ps, strict.compile (some (empty.run steps).build) = .ok ps ∧
      (empty.run steps).compile = ⟨ps⟩ ∧
      ∀ p ∈ partsOfAll ps, p.isStandIn = false ∧
        ∀ name op operand, p = .field name (.ordered op operand) → op.isRelational = true := by
  obtain ⟨ps, hok, hproper⟩ := proper_compileFields_run (isSound_of_areTyped steps h)
  have hstrict : strict.compile (some (empty.run steps).build) = .ok ps := hok
  have hfilter : Filter.ofCondition? (some (empty.run steps).build) = .ok ⟨ps⟩ := by
    rw [Filter.ofCondition?, hstrict]
    rfl
  refine ⟨ps, hstrict, (Filter.eq_ofCondition_of_strict hfilter).symm, fun p hp => ?_⟩
  refine ⟨isStandIn_of_isProper (hproper p hp), ?_⟩
  rintro name op operand rfl
  exact hproper _ hp

theorem compile_run_typed_joined :
    let steps : List Step := [.eq "name" (.sequence [.text "Ada", .null]),
      .field "seen" [.dateAfter (.text "2024-01-29"), .dateBefore (.number (.signed 1800000000000)),
        .anyOf [[.matches "^J"], [.less (.text "m"), .noneOf [[]]]]],
      .logical .none [[.field "$age" [.greaterEqual (.number (.signed 18))]], []],
      .field "seen" []]
    areTyped steps = true ∧ ∃ ps, strict.compile (some (empty.run steps).build) = .ok ps ∧
      (empty.run steps).compile = ⟨ps⟩ := by
  intro steps
  have htyped : areTyped steps = true := by cbv
  obtain ⟨ps, hstrict, hfilter, -⟩ := compile_run_typed steps htyped
  exact ⟨htyped, ps, hstrict, hfilter⟩

end Condition

end Criteria
