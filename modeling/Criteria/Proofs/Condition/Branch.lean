import Criteria.Proofs.Condition.Form

/-!
# Branches of connectives

A connective may stand anywhere in a condition, over conditions or over the operators of a field.
`IsBranch` lists the elements of all the sequences that are read as its branches. Strict compilation
takes only records among them, and a null where conditions are joined, which is there the condition
without keys (`Mode.branches_of_strict`). Among the operators of a field a null is a fault.
-/

namespace Criteria

/-- What the keys of a record are read as: fields and connectives of a condition, or operators of a
field. -/
inductive Reading where
  | condition | operators
deriving DecidableEq, Repr

/-- A value is an element of the sequence of a connective, somewhere in a record with the first
reading, where the second reading is the one that the elements have there. -/
inductive IsBranch : Reading → Record → Reading → Value → Prop where
  /-- The connective is a key of the record. -/
  | element {reading : Reading} {fields : Record} (connective : Connective) {items : List Value}
      {v : Value} (hentry : (connective.key, .sequence items) ∈ fields.toList) (hv : v ∈ items) :
      IsBranch reading fields reading v
  /-- The connective is in a branch of one that is a key of the record. -/
  | within {reading reading' : Reading} {fields inner : Record} (connective : Connective)
      {items : List Value} {v : Value} (hentry : (connective.key, .sequence items) ∈ fields.toList)
      (hinner : .record inner ∈ items) (h : IsBranch reading inner reading' v) :
      IsBranch reading fields reading' v
  /-- The connective is in the nested condition of a field. -/
  | nested {reading' : Reading} {fields inner : Record} {key : String} {v : Value}
      (hentry : (key, .record inner) ∈ fields.toList) (hkey : Connective.ofKey? key = none)
      (hop : hasOperator inner = false) (h : IsBranch .condition inner reading' v) :
      IsBranch .condition fields reading' v
  /-- The connective is among the operators of a field. -/
  | operators {reading' : Reading} {fields inner : Record} {key : String} {v : Value}
      (hentry : (key, .record inner) ∈ fields.toList) (hkey : Connective.ofKey? key = none)
      (hop : hasOperator inner = true) (h : IsBranch .operators inner reading' v) :
      IsBranch .condition fields reading' v

/-! ### Results that are there -/

section

variable {ε α β γ : Type} {x : Except ε α} {y : Except ε β}

lemma isOk_map {f : α → β} : (x.map f).isOk = x.isOk := by cases x <;> rfl

lemma isOk_both {f : α → β → γ} :
    Except.isOk (do let a ← x; let b ← y; return f a b) = (x.isOk && y.isOk) := by
  cases x with
  | error fault => rfl
  | ok a => cases y <;> rfl

end

namespace Mode

lemma isOk_reject (fault : ConditionError) : (strict.reject fault).isOk = false := rfl

/-! ### What strict compilation takes -/

lemma isOk_compileEntry {bound : Option String} {fields : SortedMap Value bound}
    (h : (strict.compileFields fields).isOk = true) :
    ∀ e ∈ fields.toList, (strict.compileEntry e.1 e.2).isOk = true := by
  induction fields with
  | nil => exact fun _ he => nomatch he
  | cons key v _ rest ih =>
    rw [compileFields, isOk_both, Bool.and_eq_true] at h
    rw [SortedMap.toList_cons, List.forall_mem_cons]
    exact ⟨h.1, ih h.2⟩

lemma isOk_compileOperator {name : String} {bound : Option String}
    {operators : SortedMap Value bound} (h : (strict.compileOperators name operators).isOk = true) :
    ∀ e ∈ operators.toList, (strict.compileOperator name e.1 e.2).isOk = true := by
  induction operators with
  | nil => exact fun _ he => nomatch he
  | cons key operand _ rest ih =>
    rw [compileOperators, isOk_both, Bool.and_eq_true] at h
    rw [SortedMap.toList_cons, List.forall_mem_cons]
    exact ⟨h.1, ih h.2⟩

lemma isOk_compileBranches {connective : Connective} {index : Nat} {items : List Value}
    (h : (strict.compileBranches connective index items).isOk = true) :
    ∀ v ∈ items, v = .null ∨
      ∃ inner, v = .record inner ∧ (strict.compileFields inner).isOk = true := by
  induction items generalizing index with
  | nil => exact fun _ hv => nomatch hv
  | cons v items ih =>
    rw [List.forall_mem_cons]
    cases ConditionForm.of v with
    | record inner =>
      rw [compileBranches, isOk_both, Bool.and_eq_true] at h
      exact ⟨.inr ⟨inner, rfl, h.1⟩, ih h.2⟩
    | null =>
      -- a null adds an empty branch, and what counts are the others
      rw [compileBranches] at h
      exact ⟨.inl rfl, ih (isOk_map.symm.trans h)⟩
    | malformed hrecord hnull =>
      rw [compileBranches_malformed hrecord hnull, isOk_both, isOk_reject] at h
      cases h

lemma isOk_compileOperatorBranches {name : String} {connective : Connective} {index : Nat}
    {items : List Value}
    (h : (strict.compileOperatorBranches name connective index items).isOk = true) :
    ∀ v ∈ items, ∃ inner, v = .record inner ∧ (strict.compileOperators name inner).isOk = true := by
  induction items generalizing index with
  | nil => exact fun _ hv => nomatch hv
  | cons v items ih =>
    rw [List.forall_mem_cons]
    cases OperatorBranchForm.of v with
    | operators inner =>
      rw [compileOperatorBranches, isOk_both, Bool.and_eq_true] at h
      exact ⟨⟨inner, rfl, h.1⟩, ih h.2⟩
    | malformed hv =>
      rw [compileOperatorBranches_malformed hv, isOk_both, isOk_reject] at h
      cases h

/-- Strict compilation takes a record with a reading; as operators, it does so for some field. -/
def Takes : Reading → Record → Prop
  | .condition, fields => (strict.compileFields fields).isOk = true
  | .operators, fields => ∃ name, (strict.compileOperators name fields).isOk = true

/-- What is taken has branches that are taken themselves, or nulls in a condition. -/
lemma Takes.branch {reading : Reading} {fields : Record} (h : Takes reading fields)
    {connective : Connective} {items : List Value}
    (hentry : (connective.key, .sequence items) ∈ fields.toList) {v : Value} (hv : v ∈ items) :
    (reading = .condition ∧ v = .null) ∨ ∃ inner, v = .record inner ∧ Takes reading inner := by
  cases reading with
  | condition =>
    have hok := isOk_compileEntry h _ hentry
    rw [compileEntry_branches (Connective.ofKey?_key connective), isOk_map] at hok
    exact (isOk_compileBranches hok v hv).imp_left fun hnull => ⟨rfl, hnull⟩
  | operators =>
    -- the name of the field plays no part: the branches are taken for the same field
    obtain ⟨name, h⟩ := h
    obtain ⟨op, hkey, hop⟩ := connective.exists_operator
    have hok := isOk_compileOperator h _ hentry
    rw [compileOperator_branches hkey hop, isOk_map] at hok
    obtain ⟨inner, hv, hinner⟩ := isOk_compileOperatorBranches hok v hv
    exact .inr ⟨inner, hv, name, hinner⟩

/-- Wherever a branch is in a record that is taken, it is a record, or a null in a condition. -/
lemma Takes.isRecord_or {reading reading' : Reading} {fields : Record} {v : Value}
    (hbranch : IsBranch reading fields reading' v) (h : Takes reading fields) :
    v.isRecord = true ∨ reading' = .condition ∧ v = .null := by
  induction hbranch with
  | element _ hentry hv =>
    rcases h.branch hentry hv with hnull | ⟨inner, rfl, -⟩
    · exact .inr hnull
    · exact .inl rfl
  | within _ hentry hinner _ ih =>
    rcases h.branch hentry hinner with ⟨-, hnull⟩ | ⟨inner, heq, htakes⟩
    · -- the branch on the way down is a record, so it is no null
      cases hnull
    · cases heq
      exact ih htakes
  | nested hentry hkey hop _ ih =>
    -- one level down, the nested condition is taken as a condition on its own
    have hok := isOk_compileEntry h _ hentry
    rw [compileEntry_nested hkey hop, isOk_map] at hok
    exact ih hok
  | operators hentry hkey hop _ ih =>
    have hok := isOk_compileEntry h _ hentry
    rw [compileEntry_operators hkey hop] at hok
    exact ih ⟨_, hok⟩

/-! ### Nulls among conditions -/

/-- A condition, where a null is replaced by the condition without keys. -/
def withoutNull : Value → Value
  | .null => .record .nil
  | v => v

lemma withoutNull_of_isNull_false {v : Value} (h : v.isNull = false) : withoutNull v = v := by
  cases v with
  | null => cases h
  | _ => rfl

lemma compileBranches_withoutNull (mode : Mode) (connective : Connective) (index : Nat)
    (items : List Value) :
    mode.compileBranches connective index (items.map withoutNull) =
      mode.compileBranches connective index items := by
  induction items generalizing index with
  | nil => rfl
  | cons v items ih =>
    rw [List.map_cons]
    cases ConditionForm.of v with
    | record inner =>
      rw [withoutNull_of_isNull_false rfl, compileBranches, compileBranches, ih]
    | null =>
      rw [withoutNull, compileBranches, compileBranches, compileFields, ih]
      rfl
    | malformed hrecord hnull =>
      rw [withoutNull_of_isNull_false hnull, compileBranches_malformed hrecord hnull,
        compileBranches_malformed hrecord hnull, ih]

/-- If strict compilation of a condition succeeds, then wherever a connective joins branches they
are records, apart from nulls where it joins conditions. In either mode such a null stands for the
condition without keys. -/
theorem branches_of_strict :
    (∀ condition : Option Value, (strict.compile condition).isOk = true →
      ∀ fields ∈ condition.bind Value.record?, ∀ reading v,
        IsBranch .condition fields reading v →
          v.isRecord = true ∨ reading = .condition ∧ v = .null) ∧
    ∀ (mode : Mode) (connective : Connective) (items : List Value),
      mode.compileEntry connective.key (.sequence (items.map withoutNull)) =
        mode.compileEntry connective.key (.sequence items) := by
  refine ⟨fun condition h fields hfields reading v hbranch => ?_, fun mode connective items => ?_⟩
  · obtain ⟨c, rfl, hc⟩ := Option.bind_eq_some_iff.1 hfields
    cases c with
    | record conditions =>
      cases hc
      exact Takes.isRecord_or hbranch h
    | _ => cases hc
  · have hkey := Connective.ofKey?_key connective
    rw [compileEntry_branches hkey, compileEntry_branches hkey, compileBranches_withoutNull]

theorem branches_of_strict_mixed :
    let minor : Record := .single "$less" (.number (.signed 18))
    let age : Record := .single "$or" (.sequence [.record minor])
    let user : Record := .single "user" (.record (.single "age" (.record age)))
    let condition : Record := .single "$nor" (.sequence [.null, .record user])
    (strict.compile (some (.record condition))).isOk = true ∧
      IsBranch .condition condition .operators (.record minor) ∧
      ((Value.record minor).isRecord = true ∨
        Reading.operators = .condition ∧ Value.record minor = .null) := by
  intro minor age user condition
  have hok : (strict.compile (some (.record condition))).isOk = true := by decide +kernel
  have hbranch : IsBranch .condition condition .operators (.record minor) := by
    refine .within .none (List.mem_singleton_self _) (List.mem_cons_of_mem _
      (List.mem_singleton_self _)) ?_
    refine .nested (List.mem_singleton_self _) (by decide) (by decide) ?_
    refine .operators (List.mem_singleton_self _) (by decide) (by decide) ?_
    exact .element .any (List.mem_singleton_self _) (List.mem_singleton_self _)
  exact ⟨hok, hbranch, branches_of_strict.1 _ hok _ rfl _ _ hbranch⟩

/-- Strict compilation takes a null as a branch over conditions, though it is no record. -/
theorem strict_null_branch :
    ¬ ∀ condition : Option Value, (strict.compile condition).isOk = true →
      ∀ fields ∈ condition.bind Value.record?, ∀ reading v,
        IsBranch .condition fields reading v → v.isRecord = true := by
  intro h
  have hbranch : IsBranch .condition (.single "$and" (.sequence [.null])) .condition .null :=
    .element .all (List.mem_singleton_self _) (List.mem_singleton_self _)
  exact absurd (h (some (.record (.single "$and" (.sequence [.null])))) rfl _ rfl _ _ hbranch)
    Bool.false_ne_true

end Mode

end Criteria
