import Criteria.Proofs.Condition.Connective
import Criteria.Proofs.Text.ByteOrder
import Mathlib.Data.List.TakeWhile

/-!
# Compiling in key order

Compilation goes through the keys of a record in the order of their bytes. What it yields for each
key is what it yields for the record with that key alone. It stops at the first key that has a fault
on its own: of this key it keeps nothing, and of the keys before it, everything
(`Mode.compile_inKeyOrder`).
-/

namespace Criteria

/-- What comes of a compilation: predicates, and the fault if it stopped at one. -/
abbrev Outcome := List Predicate × Option ConditionError

/-- The outcome of a compilation that keeps nothing at a fault. -/
def Compiled.outcome : Compiled → Outcome
  | .ok ps => (ps, none)
  | .error fault => ([], some fault)

/-- The predicates of an outcome, or its fault. -/
def Outcome.compiled : Outcome → Compiled
  | (ps, none) => .ok ps
  | (_, some fault) => .error fault

/-- The outcomes of the keys of a record put together, where `alone` is the outcome of a single
key. -/
inductive InKeyOrder (record : Record) (alone : String → Value → Outcome) : Outcome → Prop where
  /-- No key has a fault. -/
  | completed (h : ∀ key v, record.find? key = some v → (alone key v).2 = none) :
      InKeyOrder record alone (record.toList.flatMap fun e => (alone e.1 e.2).1, none)
  /-- A key has a fault, and no key before it has one. -/
  | stopped (key : String) (v : Value) (fault : ConditionError) (hv : record.find? key = some v)
      (hfault : (alone key v).2 = some fault)
      (hbefore : ∀ other w, record.find? other = some w → utf8 other < utf8 key →
        (alone other w).2 = none) :
      InKeyOrder record alone ((record.toList.filter fun e => decide (utf8 e.1 < utf8 key)).flatMap
        fun e => (alone e.1 e.2).1, some fault)

/-! ### The first entry with a fault -/

lemma SortedMap.pairwise_utf8 {α : Type} {bound : Option String} (m : SortedMap α bound) :
    m.toList.Pairwise fun d e => utf8 d.1 < utf8 e.1 :=
  m.pairwise_toList.imp utf8_lt_utf8

section

variable {alone : String → Value → Outcome} {record : Record} {key : String} {v : Value}
  {fault : ConditionError} {entries : List (String × Value)}

/-- The outcomes of entries put together, up to the first one with a fault. -/
def upToFault (alone : String → Value → Outcome) (entries : List (String × Value)) : Outcome :=
  ((entries.takeWhile fun e => (alone e.1 e.2).2.isNone).flatMap fun e => (alone e.1 e.2).1,
    entries.findSome? fun e => (alone e.1 e.2).2)

lemma upToFault_cons_of_none (h : (alone key v).2 = none) :
    upToFault alone ((key, v) :: entries) =
      ((alone key v).1 ++ (upToFault alone entries).1, (upToFault alone entries).2) := by
  simp [upToFault, h]

lemma upToFault_cons_of_some (h : (alone key v).2 = some fault) :
    upToFault alone ((key, v) :: entries) = ([], some fault) := by
  simp [upToFault, h]

/-- In a sorted map, the entries before one of them are those with smaller keys. -/
lemma filter_utf8_lt {before after : List (String × Value)}
    (h : record.toList = before ++ (key, v) :: after) :
    record.toList.filter (fun e => decide (utf8 e.1 < utf8 key)) = before := by
  have hsorted := record.pairwise_utf8
  rw [h, List.pairwise_append, List.pairwise_cons] at hsorted
  obtain ⟨-, ⟨hafter, -⟩, hbefore⟩ := hsorted
  -- the entry divides the map into smaller and greater keys
  have hkeep : ∀ e ∈ before, decide (utf8 e.1 < utf8 key) = true := fun e he =>
    decide_eq_true (hbefore e he _ (List.mem_cons_self ..))
  have hdrop : ∀ e ∈ (key, v) :: after, ¬ decide (utf8 e.1 < utf8 key) = true := by
    simp only [decide_eq_true_eq, List.forall_mem_cons]
    exact ⟨List.lt_irrefl _, fun e he => List.lt_asymm (hafter e he)⟩
  rw [h, List.filter_append, List.filter_eq_self.2 hkeep, List.filter_eq_nil_iff.2 hdrop,
    List.append_nil]

/-- The first entry of a sorted map with a fault is the one with the least key among them. -/
lemma inKeyOrder_upToFault (alone : String → Value → Outcome) (record : Record) :
    InKeyOrder record alone (upToFault alone record.toList) := by
  rw [upToFault]
  cases h : record.toList.findSome? fun e => (alone e.1 e.2).2 with
  | none =>
    rw [List.findSome?_eq_none_iff] at h
    have htake : record.toList.takeWhile (fun e => (alone e.1 e.2).2.isNone) = record.toList :=
      List.takeWhile_eq_self_iff.2 fun e he => Option.isNone_iff_eq_none.2 (h e he)
    rw [htake]
    exact .completed fun key v hv => h (key, v) (record.mem_toList_iff.2 hv)
  | some fault =>
    obtain ⟨before, ⟨key, v⟩, after, hentries, hfault, hnone⟩ := List.findSome?_eq_some_iff.1 h
    have hv : record.find? key = some v := by
      rw [← record.mem_toList_iff, hentries]
      exact List.mem_append_right _ (List.mem_cons_self ..)
    -- all before the entry are without fault, and at the entry the walk ends
    have htake : record.toList.takeWhile (fun e => (alone e.1 e.2).2.isNone) = before := by
      rw [hentries, List.takeWhile_append_of_pos fun e he =>
        Option.isNone_iff_eq_none.2 (hnone e he), List.takeWhile_cons_of_neg, List.append_nil]
      rw [hfault]
      exact Bool.false_ne_true
    rw [htake, ← filter_utf8_lt hentries]
    refine .stopped key v fault hv hfault fun other w hw hlt => hnone (other, w) ?_
    rw [← filter_utf8_lt hentries]
    exact List.mem_filter.2 ⟨record.mem_toList_iff.2 hw, decide_eq_true hlt⟩

end

namespace Mode

variable (mode : Mode)

/-! ### Operators of a field -/

lemma compileOperatorsInto_single (field key : String) (operand : Value) :
    mode.compileOperatorsInto field (.single key operand) [] =
      (mode.compileOperator field key operand).outcome := by
  rw [SortedMap.single, compileOperatorsInto]
  cases mode.compileOperator field key operand <;> rfl

/-- Behind the predicates that are there already come those of the keys up to the first fault. -/
lemma compileOperatorsInto_eq (field : String) {bound : Option String}
    (operators : SortedMap Value bound) (into : List Predicate) :
    let added := upToFault (fun key v => mode.compileOperatorsInto field (.single key v) [])
      operators.toList
    mode.compileOperatorsInto field operators into = (into ++ added.1, added.2) := by
  -- for any predicates that are there already, as each key leaves more of them to the next one
  induction operators generalizing into with
  | nil =>
    rw [compileOperatorsInto]
    exact congrArg (·, none) (List.append_nil into).symm
  | cons key operand _ rest ih =>
    have hsingle := mode.compileOperatorsInto_single field key operand
    rw [compileOperatorsInto, SortedMap.toList_cons]
    cases h : mode.compileOperator field key operand with
    | ok ps =>
      rw [h] at hsingle
      rw [upToFault_cons_of_none (congrArg Prod.snd hsingle), hsingle]
      exact (ih (into ++ ps)).trans (congrArg (·, _) (List.append_assoc into ps _))
    | error fault =>
      rw [h] at hsingle
      rw [upToFault_cons_of_some (congrArg Prod.snd hsingle)]
      exact congrArg (·, some fault) (List.append_nil into).symm

/-! ### Conditions -/

lemma outcome_compile_single (key : String) (v : Value) :
    (mode.compile (some (.single key v))).outcome = (mode.compileEntry key v).outcome := by
  rw [Value.single, compile, compileFields_single]

/-- A condition gives the predicates of its keys, or the first fault of one. -/
lemma compileFields_eq {bound : Option String} (conditions : SortedMap Value bound) :
    mode.compileFields conditions =
      (upToFault (fun key v => (mode.compile (some (.single key v))).outcome)
        conditions.toList).compiled := by
  induction conditions with
  | nil =>
    rw [compileFields]
    rfl
  | cons key v _ rest ih =>
    have hsingle := mode.outcome_compile_single key v
    rw [compileFields, SortedMap.toList_cons]
    cases h : mode.compileEntry key v with
    | ok ps =>
      rw [h] at hsingle
      rw [upToFault_cons_of_none (congrArg Prod.snd hsingle), hsingle, ih]
      -- the other keys have a result or a fault, which is passed on in both cases
      generalize upToFault _ rest.toList = others
      obtain ⟨qs, _ | fault⟩ := others <;> rfl
    | error fault =>
      rw [h] at hsingle
      rw [upToFault_cons_of_some (congrArg Prod.snd hsingle)]
      rfl

/-- Of the operators of a field, those before the first fault are compiled behind the predicates
that are there already, each to what it is compiled to alone. A condition is compiled to what its
keys are compiled to alone, or has the first fault of one of them. -/
theorem compile_inKeyOrder (mode : Mode) (record : Record) :
    (record.toList.Pairwise fun d e => utf8 d.1 < utf8 e.1) ∧
    (∀ (field : String) (into : List Predicate), ∃ added : Outcome,
      InKeyOrder record (fun key v => mode.compileOperatorsInto field (.single key v) []) added ∧
        mode.compileOperatorsInto field record into = (into ++ added.1, added.2)) ∧
    ∃ outcome : Outcome,
      InKeyOrder record (fun key v => (mode.compile (some (.single key v))).outcome) outcome ∧
        mode.compile (some (.record record)) = outcome.compiled :=
  ⟨record.pairwise_utf8,
    fun field into => ⟨_, inKeyOrder_upToFault _ record,
      mode.compileOperatorsInto_eq field record into⟩,
    ⟨_, inKeyOrder_upToFault _ record, mode.compileFields_eq record⟩⟩

/-- In the order of bytes `$like` comes before `$not`, which is not looked at. -/
example :
    strict.compileOperatorsInto "age"
        (SortedMap.ofList [("$less", .null), ("$like", .null), ("$not", .null)] : Record) [.never] =
      ([.never, .field "age" (.ordered .less .null)], some (.unknownOperator "$like")) := rfl

end Mode

end Criteria
