import Criteria.Proofs.Condition.Meaning

/-!
# Lenient compilation keeps the meaning of conditions

Lenient compilation of a condition succeeds, and the predicates that it yields hold for exactly the
items that the condition means (`matchesCondition_eq_ofCondition`). Each function of the compilation
is taken together with the function of `Meaning` that goes through the same part of a condition.
-/

namespace Criteria

open Predicate

/-! ### Results -/

section

variable {ε α β γ : Type} {x : Except ε α} {y : Except ε β} {P : α → Prop} {Q : β → Prop}
  {R : γ → Prop}

/-- A computation succeeds, with a result that has a property. -/
def Yields (x : Except ε α) (P : α → Prop) : Prop := ∃ a, x = .ok a ∧ P a

lemma Yields.ok {a : α} (h : P a) : Yields (ε := ε) (.ok a) P := ⟨a, rfl, h⟩

lemma Yields.map {f : α → β} (h : Yields x P) (hf : ∀ a, P a → Q (f a)) :
    Yields (x.map f) Q := by
  obtain ⟨a, rfl, ha⟩ := h
  exact ⟨f a, rfl, hf a ha⟩

lemma Yields.both {f : α → β → γ} (hx : Yields x P) (hy : Yields y Q)
    (hf : ∀ a b, P a → Q b → R (f a b)) :
    Yields (do let a ← x; let b ← y; return f a b) R := by
  obtain ⟨a, rfl, ha⟩ := hx
  obtain ⟨b, rfl, hb⟩ := hy
  exact ⟨f a b, rfl, hf a b ha hb⟩

end

/-! ### Predicates -/

/-- Joining the results of branches tells whether the connective holds. -/
lemma Connective.combine_eq_holds (connective : Connective) (results : List Bool) :
    connective.combine results = connective.holds results := by
  cases connective with
  | all | any => rfl
  | none => exact List.not_any_eq_all_not

lemma Predicate.holdsOn_logical (fields : String → Option Value) (connective : Connective)
    (branches : List (List Predicate)) :
    holdsOn fields (.logical connective branches) =
      connective.holds (branchesHoldOn fields branches) := by
  rw [holdsOn, Connective.combine_eq_holds]

lemma Predicate.holdsOn_nested (fields : String → Option Value) (name : String)
    (ps : List Predicate) :
    holdsOn fields (.nested name ps) =
      (fields name).any fun inner => !inner.isNull && allHoldOn inner.get? ps := by
  rw [holdsOn]
  match fields name with
  | none | some .null => rfl
  | some (.bool _) | some (.number _) | some (.text _) | some (.date _) | some (.sequence _)
  | some (.record _) => rfl

@[simp] lemma Predicate.allHoldOn_singleton (fields : String → Option Value) (p : Predicate) :
    allHoldOn fields [p] = p.holdsOn fields := by
  rw [allHoldOn, allHoldOn, Bool.and_true]

@[simp] lemma Predicate.allHoldOn_append (fields : String → Option Value)
    (ps qs : List Predicate) :
    allHoldOn fields (ps ++ qs) = (allHoldOn fields ps && allHoldOn fields qs) := by
  simp only [allHoldOn_eq_all, List.all_append]

/-! ### Tests -/

section

variable {actual : Option Value} {operand : Value} {op : Operator}

lemma any_bind_beq {α : Type} (actual : Option α) (f : α → Option Ordering) (o : Ordering) :
    (actual.bind f).any (· == o) = actual.any fun a => f a == some o := by
  match actual with
  | none => rfl
  | some a =>
    rw [Option.bind_some, Option.any_some]
    cases f a <;> rfl

lemma Operator.relates_of_isRelational (hop : op.isRelational = true) :
    op.relates actual operand = (actual.bind (·.compare? operand)).any op.accepts := by
  match actual with
  | .none => cases op <;> first | rfl | cases hop
  | some v =>
    cases op with
    | less | lessEqual | greater | greaterEqual =>
      rw [relates, Option.bind_some, Option.any_some]
      match v.compare? operand with
      | .none | some .lt | some .eq | some .gt => rfl
    | _ => cases hop

lemma Operator.relates_matches {pattern : Pattern}
    (h : operand.text?.bind Pattern.parse? = some pattern) :
    Operator.matches.relates actual operand = (actual.bind Value.toText?).any pattern.isMatch := by
  match actual with
  | .none => rfl
  | some v =>
    simp only [Operator.relates, h, Option.bind_some, Option.any_some]
    cases v.toText? <;> rfl

lemma Operator.relates_not_matches (h : operand.text?.bind Pattern.parse? = .none) :
    Operator.matches.relates actual operand = false := by
  rw [Operator.relates, h]
  cases actual <;> rfl

end

namespace Mode

lemma yields_reject (fault : ConditionError) :
    Yields (lenient.reject fault) fun p => ∀ fields, p.holdsOn fields = false :=
  .ok fun _ => rfl

lemma lenient_dateBound (op : Operator) (operand : Value) :
    lenient.dateBound op operand = .ok operand.toInstant? := by
  rw [dateBound.eq_def]
  cases operand.toInstant? <;> rfl

lemma yields_compileTest {op : Operator} (hop : op.connective? = none) (field : String)
    (operand : Value) :
    Yields (lenient.compileTest field op operand) fun p =>
      ∀ fields, p.holdsOn fields = op.relates (fields field) operand := by
  cases op with
  | any | all | none => cases hop
  | less | lessEqual | greater | greaterEqual =>
    exact .ok fun _ => (Operator.relates_of_isRelational rfl).symm
  | equal | not | oneOf | notOneOf | contains | notContains => exact .ok fun _ => rfl
  -- a test without a bound fails, as does an operand that stands for no instant
  | dateBefore | dateAfter =>
    rw [compileTest, lenient_dateBound]
    exact .ok fun _ => any_bind_beq _ _ _
  | «matches» =>
    cases h : operand.text?.bind Pattern.parse? with
    | some pattern =>
      rw [compileTest_matches h]
      exact .ok fun _ => (Operator.relates_matches h).symm
    | none =>
      obtain ⟨fault, hfault⟩ := compileTest_not_matches h
      rw [hfault lenient]
      exact .ok fun _ => (Operator.relates_not_matches h).symm

/-! ### Operators of a field -/

mutual

lemma yields_compileOperator (field key : String) (operand : Value) :
    Yields (lenient.compileOperator field key operand) fun ps =>
      ∀ fields, allHoldOn fields ps = Meaning.ofOperator (fields field) key operand := by
  cases OperatorForm.of key operand with
  | unknown hkey =>
    rw [compileOperator_unknown hkey]
    exact .ok fun _ => (Meaning.ofOperator_unknown hkey).symm
  | test hkey hop =>
    rw [compileOperator_test hkey hop]
    refine (yields_compileTest hop field operand).map fun p hp fields => ?_
    rw [allHoldOn_singleton, hp, Meaning.ofOperator_test hkey hop]
  | branches items hkey hop =>
    rw [compileOperator_branches hkey hop]
    refine (yields_compileOperatorBranches field _ 0 items).map fun branches hbranches fields => ?_
    rw [allHoldOn_singleton, holdsOn_logical, hbranches, Meaning.ofOperator_branches hkey hop]
  | malformed hkey hop hoperand =>
    rw [compileOperator_malformed hkey hop hoperand]
    refine (yields_reject _).map fun p hp fields => ?_
    rw [allHoldOn_singleton, hp, Meaning.ofOperator_malformed hkey hop hoperand]
termination_by sizeOf operand

lemma yields_compileOperatorBranches (field : String) (connective : Connective) (index : Nat)
    (items : List Value) :
    Yields (lenient.compileOperatorBranches field connective index items) fun branches =>
      ∀ fields, branchesHoldOn fields branches =
        Meaning.ofOperatorBranches (fields field) items := by
  match items with
  | [] =>
    rw [compileOperatorBranches]
    exact .ok fun _ => rfl
  | v :: items =>
    have hrest := yields_compileOperatorBranches field connective (index + 1) items
    cases OperatorBranchForm.of v with
    | operators operators =>
      rw [compileOperatorBranches]
      refine (yields_compileOperators field operators).both hrest
        fun ps branches hps hbranches fields => ?_
      rw [branchesHoldOn, hps, hbranches, Meaning.ofOperatorBranches]
    | malformed hv =>
      rw [compileOperatorBranches_malformed hv]
      refine (yields_reject _).both hrest fun p branches hp hbranches fields => ?_
      rw [branchesHoldOn, allHoldOn_singleton, hp, hbranches,
        Meaning.ofOperatorBranches_malformed hv]
termination_by sizeOf items

lemma yields_compileOperators (field : String) {bound : Option String}
    (operators : SortedMap Value bound) :
    Yields (lenient.compileOperators field operators) fun ps =>
      ∀ fields, allHoldOn fields ps = Meaning.ofOperators (fields field) operators := by
  match operators with
  | .nil =>
    rw [compileOperators]
    exact .ok fun _ => rfl
  | .cons key operand _ rest =>
    rw [compileOperators]
    refine (yields_compileOperator field key operand).both (yields_compileOperators field rest)
      fun ps qs hps hqs fields => ?_
    rw [allHoldOn_append, hps, hqs, Meaning.ofOperators]
termination_by sizeOf operators

end

/-! ### Conditions -/

mutual

lemma yields_compileEntry (key : String) (v : Value) :
    Yields (lenient.compileEntry key v) fun ps =>
      ∀ fields, allHoldOn fields ps = Meaning.ofEntry fields key v := by
  cases EntryForm.of key v with
  | branches items hkey =>
    rw [compileEntry_branches hkey]
    refine (yields_compileBranches _ 0 items).map fun branches hbranches fields => ?_
    rw [allHoldOn_singleton, holdsOn_logical, hbranches, Meaning.ofEntry_branches hkey]
  | malformed hkey hv =>
    rw [compileEntry_malformed hkey hv]
    refine (yields_reject _).map fun p hp fields => ?_
    rw [allHoldOn_singleton, hp, Meaning.ofEntry_malformed hkey hv]
  | operators conditions hkey hop =>
    rw [compileEntry_operators hkey hop]
    obtain ⟨ps, hok, hps⟩ := yields_compileOperators key conditions
    refine ⟨ps, hok, fun fields => ?_⟩
    rw [hps, Meaning.ofEntry_operators hkey hop]
  | nested conditions hkey hop =>
    rw [compileEntry_nested hkey hop]
    refine (yields_compileFields conditions).map fun ps hps fields => ?_
    rw [allHoldOn_singleton, holdsOn_nested, Meaning.ofEntry_nested hkey hop]
    -- what the predicates mean is known for all fields, so for those of the value too
    simp only [hps]
  | literal hkey hv =>
    rw [compileEntry_literal hkey hv]
    refine .ok fun fields => ?_
    rw [allHoldOn_singleton, holdsOn, Meaning.ofEntry_literal hkey hv]
termination_by sizeOf v

lemma yields_compileBranches (connective : Connective) (index : Nat) (items : List Value) :
    Yields (lenient.compileBranches connective index items) fun branches =>
      ∀ fields, branchesHoldOn fields branches = Meaning.ofBranches fields items := by
  match items with
  | [] =>
    rw [compileBranches]
    exact .ok fun _ => rfl
  | v :: items =>
    have hrest := yields_compileBranches connective (index + 1) items
    cases ConditionForm.of v with
    | record conditions =>
      rw [compileBranches]
      refine (yields_compileFields conditions).both hrest
        fun ps branches hps hbranches fields => ?_
      rw [branchesHoldOn, hps, hbranches, Meaning.ofBranches, Meaning.ofCondition]
    | null =>
      rw [compileBranches]
      obtain ⟨branches, hok, hbranches⟩ := hrest
      -- an empty branch holds, and so does a null
      refine ⟨[] :: branches, by rw [hok]; rfl, fun fields => ?_⟩
      rw [branchesHoldOn, hbranches, Meaning.ofBranches, Meaning.ofCondition, allHoldOn]
    | malformed hrecord hnull =>
      rw [compileBranches_malformed hrecord hnull]
      refine (yields_reject _).both hrest fun p branches hp hbranches fields => ?_
      rw [branchesHoldOn, allHoldOn_singleton, hp, hbranches, Meaning.ofBranches,
        Meaning.ofCondition_malformed hrecord hnull]
termination_by sizeOf items

lemma yields_compileFields {bound : Option String} (conditions : SortedMap Value bound) :
    Yields (lenient.compileFields conditions) fun ps =>
      ∀ fields, allHoldOn fields ps = Meaning.ofEntries fields conditions := by
  match conditions with
  | .nil =>
    rw [compileFields]
    exact .ok fun _ => rfl
  | .cons key v _ rest =>
    rw [compileFields]
    refine (yields_compileEntry key v).both (yields_compileFields rest)
      fun ps qs hps hqs fields => ?_
    rw [allHoldOn_append, hps, hqs, Meaning.ofEntries]
termination_by sizeOf conditions

end

lemma yields_compile (condition : Value) :
    Yields (lenient.compile (some condition)) fun ps =>
      ∀ fields, allHoldOn fields ps = Meaning.ofCondition fields condition := by
  cases ConditionForm.of condition with
  | record conditions =>
    obtain ⟨ps, hok, hps⟩ := yields_compileFields conditions
    exact ⟨ps, hok, fun fields => by rw [hps, Meaning.ofCondition]⟩
  | null => exact .ok fun _ => by rw [Meaning.ofCondition, allHoldOn]
  | malformed hrecord hnull =>
    rw [compile_malformed hrecord hnull]
    refine (yields_reject _).map fun p hp fields => ?_
    rw [allHoldOn_singleton, hp, Meaning.ofCondition_malformed hrecord hnull]

end Mode

/-- The filter of a condition has the predicates of lenient compilation. -/
lemma Filter.allHoldOn_ofCondition (fields : String → Option Value) (condition : Value) :
    allHoldOn fields (Filter.ofCondition (some condition)).predicates =
      Meaning.ofCondition fields condition := by
  obtain ⟨ps, hok, hps⟩ := Mode.yields_compile condition
  rw [Filter.ofCondition, hok]
  exact hps fields

lemma Filter.holds_ofCondition {α : Type} [Document α] (item : α) (condition : Value) :
    (Filter.ofCondition (some condition)).holds item =
      Meaning.ofCondition (Document.field? item) condition := by
  rw [holds, allHold, allHoldOn_ofCondition]

/-- An item matches a condition, malformed or not, exactly if the condition read on its own says
so. -/
theorem matchesCondition_eq_ofCondition {α : Type} [Document α] (item : α) (condition : Value) :
    matchesCondition item condition =
      Meaning.ofCondition (Document.field? item) condition := by
  rw [matchesCondition, Filter.holds_ofCondition]

end Criteria
