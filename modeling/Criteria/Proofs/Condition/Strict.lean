import Criteria.Filter
import Criteria.Proofs.Condition.Form

/-!
# Strict and lenient compilation

Lenient compilation always succeeds, and strict compilation either yields the same predicates or
stops at a fault. It stops exactly if the lenient predicates have a stand-in for something malformed
at some depth, or if lenient compilation skipped a key that is marked as an operator without being
the key of one (`Mode.compile_modes_agree`).

`OperatorKeys.ofCondition` lists the keys of a condition that are read as operators of a field.
-/

namespace Criteria

/-! ### Parts of predicates -/

namespace Predicate

mutual

/-- A predicate and all predicates inside of it. -/
def parts : Predicate → List Predicate
  | .logical connective branches => .logical connective branches :: partsOfBranches branches
  | .nested name predicates => .nested name predicates :: partsOfAll predicates
  | .literal name v => [.literal name v]
  | .field name test => [.field name test]
  | .never => [.never]

/-- The parts of all predicates of a list. -/
def partsOfAll : List Predicate → List Predicate
  | [] => []
  | p :: ps => p.parts ++ partsOfAll ps

/-- The parts of all predicates of some branches. -/
def partsOfBranches : List (List Predicate) → List Predicate
  | [] => []
  | branch :: branches => partsOfAll branch ++ partsOfBranches branches

end

/-- Whether a predicate stands in for something malformed: one that holds for no item, or a date
test without a bound. -/
def isStandIn : Predicate → Bool
  | .never => true
  | .field _ (.dateBefore bound) | .field _ (.dateAfter bound) => bound.isNone
  | _ => false

/-- Nothing in the predicates of a list stands in for something malformed. -/
def Sound (ps : List Predicate) : Prop := ∀ p ∈ partsOfAll ps, p.isStandIn = false

variable {name : String} {connective : Connective} {branch ps qs : List Predicate}
  {branches : List (List Predicate)}

lemma partsOfAll_append (ps qs : List Predicate) :
    partsOfAll (ps ++ qs) = partsOfAll ps ++ partsOfAll qs := by
  induction ps with
  | nil => rfl
  | cons p ps ih => rw [List.cons_append, partsOfAll, partsOfAll, ih, List.append_assoc]

lemma partsOfBranches_eq_flatten (branches : List (List Predicate)) :
    partsOfBranches branches = partsOfAll branches.flatten := by
  induction branches with
  | nil => rfl
  | cons branch branches ih => rw [partsOfBranches, List.flatten_cons, partsOfAll_append, ih]

lemma partsOfAll_singleton (p : Predicate) : partsOfAll [p] = p.parts := by
  rw [partsOfAll, partsOfAll, List.append_nil]

@[simp] lemma sound_nil : Sound [] := by simp [Sound, partsOfAll]

@[simp] lemma sound_append : Sound (ps ++ qs) ↔ Sound ps ∧ Sound qs := by
  rw [Sound, partsOfAll_append, List.forall_mem_append]
  rfl

@[simp] lemma not_sound_never : ¬ Sound [.never] := by
  simp [Sound, partsOfAll_singleton, parts, isStandIn]

@[simp] lemma sound_field {test : Test} :
    Sound [.field name test] ↔ (Predicate.field name test).isStandIn = false := by
  simp [Sound, partsOfAll_singleton, parts]

@[simp] lemma sound_literal {v : Value} : Sound [.literal name v] := by
  simp [Sound, partsOfAll_singleton, parts, isStandIn]

@[simp] lemma sound_nested : Sound [.nested name ps] ↔ Sound ps := by
  simp [Sound, partsOfAll_singleton, parts, isStandIn]

@[simp] lemma sound_logical : Sound [.logical connective branches] ↔ Sound branches.flatten := by
  simp [Sound, partsOfAll_singleton, parts, isStandIn, partsOfBranches_eq_flatten]

end Predicate

/-! ### Keys read as operators -/

namespace OperatorKeys

mutual

/-- The keys that are read as operators for one key among the operators of a field: the key itself
and, if it is a connective, those of its branches. -/
def ofOperator (key : String) (operand : Value) : List String :=
  match (Operator.ofKey? key).bind Operator.connective?, operand with
  | some _, .sequence items => key :: ofOperatorBranches items
  | _, _ => [key]

/-- The keys that are read as operators in the branches of a connective over operators. -/
def ofOperatorBranches : List Value → List String
  | [] => []
  | .record operators :: items => ofOperators operators ++ ofOperatorBranches items
  | _ :: items => ofOperatorBranches items

/-- The keys that are read as operators in the operators of a field. -/
def ofOperators : {bound : Option String} → SortedMap Value bound → List String
  | _, .nil => []
  | _, .cons key operand _ rest => ofOperator key operand ++ ofOperators rest

end

mutual

/-- The keys that are read as operators in a condition. -/
def ofCondition : Value → List String
  | .record conditions => ofEntries conditions
  | _ => []

/-- The keys that are read as operators in the branches of a connective over conditions. -/
def ofBranches : List Value → List String
  | [] => []
  | branch :: branches => ofCondition branch ++ ofBranches branches

/-- The keys that are read as operators in the entries of a condition. -/
def ofEntries : {bound : Option String} → SortedMap Value bound → List String
  | _, .nil => []
  | _, .cons key v _ rest => ofEntry key v ++ ofEntries rest

/-- The keys that are read as operators for one key of a condition. -/
def ofEntry (key : String) (v : Value) : List String :=
  match Connective.ofKey? key, v with
  | some _, .sequence items => ofBranches items
  | none, .record conditions =>
    if hasOperator conditions then ofOperators conditions else ofEntries conditions
  | _, _ => []

end

/-- Every key that is marked as an operator is the key of one. -/
def Known (keys : List String) : Prop :=
  ∀ key ∈ keys, isMarked key = true → Operator.isKey key = true

section

variable {key : String} {operand v : Value} {op : Operator} {connective : Connective}
  {keys others : List String} {items : List Value}

@[simp] lemma known_nil : Known [] := by simp [Known]

@[simp] lemma known_append : Known (keys ++ others) ↔ Known keys ∧ Known others :=
  List.forall_mem_append

lemma known_singleton : Known [key] ↔ (isMarked key = true → Operator.isKey key = true) :=
  List.forall_mem_singleton

lemma known_of_ofKey? (hkey : Operator.ofKey? key = some op) : Known [key] := by
  rw [known_singleton, Operator.isKey, hkey]
  exact fun _ => rfl

lemma ofOperator_unknown (hkey : Operator.ofKey? key = none) :
    ofOperator key operand = [key] := by
  rw [ofOperator.eq_def, hkey]
  rfl

lemma ofOperator_test (hkey : Operator.ofKey? key = some op) (hop : op.connective? = none) :
    ofOperator key operand = [key] := by
  rw [ofOperator.eq_def, hkey, Option.bind_some, hop]

lemma ofOperator_branches (hkey : Operator.ofKey? key = some op)
    (hop : op.connective? = some connective) (items : List Value) :
    ofOperator key (.sequence items) = [key] ++ ofOperatorBranches items := by
  rw [ofOperator.eq_def, hkey, Option.bind_some, hop]
  rfl

lemma ofOperator_malformed (hkey : Operator.ofKey? key = some op)
    (hop : op.connective? = some connective) (hoperand : operand.sequence? = none) :
    ofOperator key operand = [key] := by
  rw [ofOperator.eq_def, hkey, Option.bind_some, hop]
  cases operand with
  | sequence items => cases hoperand
  | _ => rfl

lemma ofOperatorBranches_malformed (hv : v.record? = none) :
    ofOperatorBranches (v :: items) = ofOperatorBranches items := by
  cases v with
  | record operators => cases hv
  | _ =>
    rw [ofOperatorBranches]
    intros
    contradiction

lemma ofCondition_malformed (hrecord : v.record? = none) : ofCondition v = [] := by
  cases v with
  | record conditions => cases hrecord
  | _ =>
    rw [ofCondition]
    intros
    contradiction

lemma ofEntry_branches (hkey : Connective.ofKey? key = some connective) (items : List Value) :
    ofEntry key (.sequence items) = ofBranches items := by
  rw [ofEntry.eq_def, hkey]

lemma ofEntry_malformed (hkey : Connective.ofKey? key = some connective)
    (hv : v.sequence? = none) : ofEntry key v = [] := by
  cases v with
  | sequence items => cases hv
  | _ => rw [ofEntry.eq_def, hkey]

lemma ofEntry_operators {conditions : Record} (hkey : Connective.ofKey? key = none)
    (hop : hasOperator conditions = true) :
    ofEntry key (.record conditions) = ofOperators conditions := by
  rw [ofEntry.eq_def, hkey]
  exact if_pos hop

lemma ofEntry_nested {conditions : Record} (hkey : Connective.ofKey? key = none)
    (hop : hasOperator conditions = false) :
    ofEntry key (.record conditions) = ofEntries conditions := by
  rw [ofEntry.eq_def, hkey]
  exact if_neg (ne_true_of_eq_false hop)

lemma ofEntry_literal (hkey : Connective.ofKey? key = none) (hv : v.record? = none) :
    ofEntry key v = [] := by
  cases v with
  | record conditions => cases hv
  | _ => rw [ofEntry.eq_def, hkey]

end

end OperatorKeys

/-! ### Agreement -/

section

variable {α β γ : Type} {x y : Except ConditionError α} {z w : Except ConditionError β}
  {P : α → Prop} {Q : β → Prop} {R : γ → Prop}

/-- How strict and lenient compilation of one part of a condition go together: the lenient one has a
result, which the strict one shares if nothing was passed over, and otherwise it has a fault. -/
inductive Agree (strict lenient : Except ConditionError α) (P : α → Prop) : Prop where
  | accepted (a : α) (hstrict : strict = .ok a) (hlenient : lenient = .ok a) (ha : P a)
  | rejected (a : α) (fault : ConditionError) (hstrict : strict = .error fault)
      (hlenient : lenient = .ok a) (ha : ¬ P a)

lemma Agree.ok {a : α} (h : P a) : Agree (.ok a) (.ok a) P := .accepted a rfl rfl h

/-- What strict compilation yields, lenient compilation yields as well. -/
lemma Agree.lenient_eq_ok {a : α} (h : Agree x y P) (hx : x = .ok a) : y = .ok a := by
  cases h with
  | accepted b hstrict hlenient _ => rw [hlenient, ← hstrict, hx]
  | rejected b fault hstrict _ _ =>
    rw [hstrict] at hx
    cases hx

lemma Agree.map {f : α → β} (h : Agree x y P) (hf : ∀ a, Q (f a) ↔ P a) :
    Agree (x.map f) (y.map f) Q := by
  cases h with
  | accepted a hstrict hlenient ha =>
    rw [hstrict, hlenient]
    exact .ok ((hf a).2 ha)
  | rejected a fault hstrict hlenient ha =>
    rw [hstrict, hlenient]
    exact .rejected (f a) fault rfl rfl (mt (hf a).1 ha)

/-- Of two parts, strict compilation stops at the first that has a fault. -/
lemma Agree.both {f : α → β → γ} (hx : Agree x y P) (hz : Agree z w Q)
    (hf : ∀ a b, R (f a b) ↔ P a ∧ Q b) :
    Agree (do let a ← x; let b ← z; return f a b) (do let a ← y; let b ← w; return f a b) R := by
  -- the second part has a lenient result in any case, also where the first one has a fault
  obtain ⟨b, hw⟩ : ∃ b, w = .ok b := by cases hz with
    | accepted b _ hw _ | rejected b _ _ hw _ => exact ⟨b, hw⟩
  cases hx with
  | rejected a fault hx hy ha =>
    rw [hx, hy, hw]
    -- strictly the second part is not looked at any more
    exact .rejected (f a b) fault rfl rfl fun h => ha ((hf a b).1 h).1
  | accepted a hx hy ha =>
    rw [hx, hy]
    cases hz with
    | accepted b hz hw hb =>
      rw [hz, hw]
      exact .ok ((hf a b).2 ⟨ha, hb⟩)
    | rejected b fault hz hw hb =>
      rw [hz, hw]
      exact .rejected (f a b) fault rfl rfl fun h => hb ((hf a b).1 h).2

end

namespace Mode

open Predicate OperatorKeys

lemma agree_reject (fault : ConditionError) :
    Agree (strict.reject fault) (lenient.reject fault) fun p => Sound [p] :=
  .rejected .never fault rfl rfl not_sound_never

/-! ### Tests -/

lemma agree_dateBound (op : Operator) (operand : Value) :
    Agree (strict.dateBound op operand) (lenient.dateBound op operand) fun bound =>
      bound.isNone = false := by
  rw [dateBound.eq_def, dateBound.eq_def]
  match operand.toInstant? with
  | some t => exact .ok rfl
  | none => exact .rejected none _ rfl rfl (by simp)

lemma agree_compileTest {op : Operator} (hop : op.connective? = none) (field : String)
    (operand : Value) :
    Agree (strict.compileTest field op operand) (lenient.compileTest field op operand) fun p =>
      Sound [p] := by
  cases op with
  | any | all | none => cases hop
  | less | lessEqual | greater | greaterEqual | equal | not | oneOf | notOneOf | contains
  | notContains => exact .ok (sound_field.2 rfl)
  -- an operand that is no date leaves a test without a bound behind
  | dateBefore | dateAfter => exact (agree_dateBound _ operand).map fun _ => sound_field
  | «matches» =>
    cases h : operand.text?.bind Pattern.parse? with
    | some pattern =>
      rw [compileTest_matches h, compileTest_matches h]
      exact .ok (sound_field.2 rfl)
    | none =>
      obtain ⟨fault, hfault⟩ := compileTest_not_matches h
      rw [hfault, hfault]
      exact agree_reject fault

/-! ### Operators of a field -/

mutual

lemma agree_compileOperator (field key : String) (operand : Value) :
    Agree (strict.compileOperator field key operand) (lenient.compileOperator field key operand)
      fun ps => Sound ps ∧ Known (ofOperator key operand) := by
  cases OperatorForm.of key operand with
  | unknown hkey =>
    rw [compileOperator_unknown hkey, compileOperator_unknown hkey, ofOperator_unknown hkey]
    -- the only fault without a stand-in: leniently the key is skipped, marked or not
    by_cases hmarked : isMarked key = true
    · refine .rejected [] (.unknownOperator key) (if_pos ⟨rfl, hmarked⟩) rfl ?_
      rintro ⟨-, hknown⟩
      have hkey' := known_singleton.1 hknown hmarked
      rw [Operator.isKey, hkey] at hkey'
      cases hkey'
    · refine .accepted [] (if_neg fun h => hmarked h.2) rfl ⟨sound_nil, ?_⟩
      exact known_singleton.2 fun h => absurd h hmarked
  | test hkey hop =>
    rw [compileOperator_test hkey hop, compileOperator_test hkey hop, ofOperator_test hkey hop]
    exact (agree_compileTest hop field operand).map fun _ =>
      and_iff_left (known_of_ofKey? hkey)
  | branches items hkey hop =>
    rw [compileOperator_branches hkey hop, compileOperator_branches hkey hop,
      ofOperator_branches hkey hop]
    refine (agree_compileOperatorBranches field _ 0 items).map fun branches => ?_
    rw [sound_logical, known_append, and_iff_right (known_of_ofKey? hkey)]
  | malformed hkey hop hoperand =>
    rw [compileOperator_malformed hkey hop hoperand, compileOperator_malformed hkey hop hoperand,
      ofOperator_malformed hkey hop hoperand]
    exact (agree_reject _).map fun _ => and_iff_left (known_of_ofKey? hkey)
termination_by sizeOf operand

lemma agree_compileOperatorBranches (field : String) (connective : Connective) (index : Nat)
    (items : List Value) :
    Agree (strict.compileOperatorBranches field connective index items)
      (lenient.compileOperatorBranches field connective index items)
      fun branches => Sound branches.flatten ∧ Known (ofOperatorBranches items) := by
  match items with
  | [] =>
    rw [compileOperatorBranches, compileOperatorBranches, ofOperatorBranches]
    exact .ok ⟨sound_nil, known_nil⟩
  | v :: items =>
    have hrest := agree_compileOperatorBranches field connective (index + 1) items
    cases OperatorBranchForm.of v with
    | operators operators =>
      rw [compileOperatorBranches, compileOperatorBranches, ofOperatorBranches]
      refine (agree_compileOperators field operators).both hrest fun ps branches => ?_
      rw [List.flatten_cons, sound_append, known_append, and_and_and_comm]
    | malformed hv =>
      rw [compileOperatorBranches_malformed hv, compileOperatorBranches_malformed hv,
        ofOperatorBranches_malformed hv]
      refine (agree_reject _).both hrest fun p branches => ?_
      rw [List.flatten_cons, sound_append, and_assoc]
termination_by sizeOf items

lemma agree_compileOperators (field : String) {bound : Option String}
    (operators : SortedMap Value bound) :
    Agree (strict.compileOperators field operators) (lenient.compileOperators field operators)
      fun ps => Sound ps ∧ Known (ofOperators operators) := by
  match operators with
  | .nil =>
    rw [compileOperators, compileOperators, ofOperators]
    exact .ok ⟨sound_nil, known_nil⟩
  | .cons key operand _ rest =>
    rw [compileOperators, compileOperators, ofOperators]
    refine (agree_compileOperator field key operand).both (agree_compileOperators field rest)
      fun ps qs => ?_
    rw [sound_append, known_append, and_and_and_comm]
termination_by sizeOf operators

end

/-! ### Conditions -/

mutual

lemma agree_compileEntry (key : String) (v : Value) :
    Agree (strict.compileEntry key v) (lenient.compileEntry key v) fun ps =>
      Sound ps ∧ Known (ofEntry key v) := by
  cases EntryForm.of key v with
  | branches items hkey =>
    rw [compileEntry_branches hkey, compileEntry_branches hkey, ofEntry_branches hkey]
    refine (agree_compileBranches _ 0 items).map fun branches => ?_
    rw [sound_logical]
  | malformed hkey hv =>
    rw [compileEntry_malformed hkey hv, compileEntry_malformed hkey hv, ofEntry_malformed hkey hv]
    exact (agree_reject _).map fun _ => and_iff_left known_nil
  | operators conditions hkey hop =>
    rw [compileEntry_operators hkey hop, compileEntry_operators hkey hop,
      ofEntry_operators hkey hop]
    exact agree_compileOperators key conditions
  | nested conditions hkey hop =>
    rw [compileEntry_nested hkey hop, compileEntry_nested hkey hop, ofEntry_nested hkey hop]
    refine (agree_compileFields conditions).map fun ps => ?_
    rw [sound_nested]
  | literal hkey hv =>
    rw [compileEntry_literal hkey hv, compileEntry_literal hkey hv, ofEntry_literal hkey hv]
    exact .ok ⟨sound_literal, known_nil⟩
termination_by sizeOf v

lemma agree_compileBranches (connective : Connective) (index : Nat) (items : List Value) :
    Agree (strict.compileBranches connective index items)
      (lenient.compileBranches connective index items)
      fun branches => Sound branches.flatten ∧ Known (ofBranches items) := by
  match items with
  | [] =>
    rw [compileBranches, compileBranches, ofBranches]
    exact .ok ⟨sound_nil, known_nil⟩
  | v :: items =>
    have hrest := agree_compileBranches connective (index + 1) items
    rw [ofBranches]
    cases ConditionForm.of v with
    | record conditions =>
      rw [compileBranches, compileBranches, ofCondition]
      refine (agree_compileFields conditions).both hrest fun ps branches => ?_
      rw [List.flatten_cons, sound_append, known_append, and_and_and_comm]
    | null =>
      -- a null is a branch without predicates in both modes
      rw [compileBranches, compileBranches, ofCondition_malformed rfl]
      exact hrest.map fun _ => Iff.rfl
    | malformed hrecord hnull =>
      rw [compileBranches_malformed hrecord hnull, compileBranches_malformed hrecord hnull,
        ofCondition_malformed hrecord]
      refine (agree_reject _).both hrest fun p branches => ?_
      rw [List.flatten_cons, sound_append, List.nil_append, and_assoc]
termination_by sizeOf items

lemma agree_compileFields {bound : Option String} (conditions : SortedMap Value bound) :
    Agree (strict.compileFields conditions) (lenient.compileFields conditions) fun ps =>
      Sound ps ∧ Known (ofEntries conditions) := by
  match conditions with
  | .nil =>
    rw [compileFields, compileFields, ofEntries]
    exact .ok ⟨sound_nil, known_nil⟩
  | .cons key v _ rest =>
    rw [compileFields, compileFields, ofEntries]
    refine (agree_compileEntry key v).both (agree_compileFields rest) fun ps qs => ?_
    rw [sound_append, known_append, and_and_and_comm]
termination_by sizeOf conditions

end

lemma agree_compile (condition : Option Value) :
    Agree (strict.compile condition) (lenient.compile condition) fun ps =>
      Sound ps ∧ ∀ v ∈ condition, Known (ofCondition v) := by
  match condition with
  | none => exact .ok ⟨sound_nil, fun _ h => by cases h⟩
  | some v =>
    simp only [Option.mem_some_iff, forall_eq']
    cases ConditionForm.of v with
    | record conditions =>
      rw [ofCondition]
      exact agree_compileFields conditions
    | null =>
      rw [ofCondition_malformed rfl]
      exact .ok ⟨sound_nil, known_nil⟩
    | malformed hrecord hnull =>
      rw [compile_malformed hrecord hnull, compile_malformed hrecord hnull,
        ofCondition_malformed hrecord]
      exact (agree_reject _).map fun _ => and_iff_left known_nil

/-- Lenient compilation of a condition succeeds, so a filter never falls back; strict compilation
has the same result or a fault, and has a result exactly if nothing malformed was replaced and no
marked key without operator was skipped. -/
theorem compile_modes_agree (condition : Option Value) :
    ∃ ps, lenient.compile condition = .ok ps ∧ Filter.ofCondition condition = ⟨ps⟩ ∧
      (∀ qs, strict.compile condition = .ok qs → lenient.compile condition = .ok qs) ∧
      ((∃ qs, strict.compile condition = .ok qs) ↔
        Sound ps ∧ ∀ v ∈ condition, Known (ofCondition v)) := by
  have hfilter {ps : List Predicate} (h : lenient.compile condition = .ok ps) :
      Filter.ofCondition condition = ⟨ps⟩ := by rw [Filter.ofCondition, h]
  cases agree_compile condition with
  | accepted ps hstrict hlenient hps =>
    refine ⟨ps, hlenient, hfilter hlenient, fun qs hqs => ?_, fun _ => hps, fun _ => ⟨ps, hstrict⟩⟩
    rw [← hqs, hstrict, hlenient]
  | rejected ps fault hstrict hlenient hps =>
    refine ⟨ps, hlenient, hfilter hlenient, fun qs hqs => ?_, ?_, fun h => absurd h hps⟩
    · rw [hstrict] at hqs
      cases hqs
    · rintro ⟨qs, hqs⟩
      rw [hstrict] at hqs
      cases hqs

end Mode

/-- A filter that strict compilation yields is the one that lenient compilation yields. -/
lemma Filter.eq_ofCondition_of_strict {condition : Option Value} {filter : Filter}
    (h : Filter.ofCondition? condition = .ok filter) : filter = Filter.ofCondition condition := by
  rw [Filter.ofCondition?] at h
  cases hstrict : Mode.strict.compile condition with
  | ok ps =>
    rw [hstrict] at h
    cases h
    rw [Filter.ofCondition, (Mode.agree_compile condition).lenient_eq_ok hstrict]
  | error fault =>
    rw [hstrict] at h
    cases h

end Criteria
