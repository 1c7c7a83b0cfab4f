import Criteria.Proofs.Condition.Strict

/-!
# Keys without operator

Wherever keys are read as operators of a field, those that are the key of no operator can be taken
out of a condition, at any depth. It compiles to the same predicates leniently, and to the same
predicates or the same fault strictly as long as the keys that are marked as operators stay
(`Mode.compile_erased`).

Taking keys out never turns operators of a field into a condition on its value: the keys that tell
them apart are keys of operators, and these stay.
-/

namespace Criteria

/-! ### Skipped keys -/

namespace Mode

/-- Whether a key among the operators of a field is passed over: it is the key of no operator and,
strictly, it is not marked as one either. -/
def skips : Mode → String → Bool
  | .lenient, key => !Operator.isKey key
  | .strict, key => !Operator.isKey key && !isMarked key

variable {mode : Mode} {field key : String}

lemma ofKey?_of_skips (h : mode.skips key = true) : Operator.ofKey? key = none := by
  cases mode <;> simp_all [skips, Operator.isKey]

lemma compileOperator_of_skips (h : mode.skips key = true) (operand : Value) :
    mode.compileOperator field key operand = .ok [] := by
  rw [compileOperator_unknown (ofKey?_of_skips h)]
  apply if_neg
  cases mode <;> simp_all [skips]

end Mode

/-! ### Maps without a first key -/

namespace SortedMap

variable {α : Type} {bound : Option String} {key : String}

/-- A map whose keys come after a key, under a bound that comes before that key. -/
def widen (m : SortedMap α (some key)) (h : Below bound key) : SortedMap α bound :=
  match m with
  | .nil => .nil
  | .cons k v hk rest => .cons k v (h.trans ((below_some key k).1 hk)) rest

lemma keys_widen (m : SortedMap α (some key)) (h : Below bound key) :
    (m.widen h).keys = m.keys := by
  cases m <;> rfl

end SortedMap

/-! ### Conditions without some keys -/

namespace Erased

variable (drop : String → Bool)

mutual

/-- The operand of a key among the operators of a field, without the dropped keys in the branches of
a connective. -/
def ofOperator (key : String) (operand : Value) : Value :=
  match (Operator.ofKey? key).bind Operator.connective?, operand with
  | some _, .sequence items => .sequence (ofOperatorBranches items)
  | _, operand => operand

/-- The branches of a connective over operators, without the dropped keys. -/
def ofOperatorBranches : List Value → List Value
  | [] => []
  | .record operators :: items => .record (ofOperators operators) :: ofOperatorBranches items
  | v :: items => v :: ofOperatorBranches items

/-- The operators of a field without the dropped keys. -/
def ofOperators : {bound : Option String} → SortedMap Value bound → SortedMap Value bound
  | _, .nil => .nil
  | _, .cons key operand h rest =>
    if drop key then (ofOperators rest).widen h
    else .cons key (ofOperator key operand) h (ofOperators rest)

end

mutual

/-- A condition, without the dropped keys where keys are read as operators of a field. -/
def ofCondition : Value → Value
  | .record conditions => .record (ofEntries conditions)
  | v => v

/-- The branches of a connective over conditions, without the dropped keys. -/
def ofBranches : List Value → List Value
  | [] => []
  | branch :: branches => ofCondition branch :: ofBranches branches

/-- The entries of a condition, all of them, without the dropped keys inside of them. -/
def ofEntries : {bound : Option String} → SortedMap Value bound → SortedMap Value bound
  | _, .nil => .nil
  | _, .cons key v h rest => .cons key (ofEntry key v) h (ofEntries rest)

/-- The value of a key of a condition, without the dropped keys. -/
def ofEntry (key : String) (v : Value) : Value :=
  match Connective.ofKey? key, v with
  | some _, .sequence items => .sequence (ofBranches items)
  | none, .record conditions =>
    if hasOperator conditions then .record (ofOperators drop conditions)
    else .record (ofEntries conditions)
  | _, v => v

end

section

variable {drop} {key : String} {v operand : Value} {op : Operator} {connective : Connective}
  {items : List Value}

/-! ### Form by form -/

lemma ofOperator_branches (hkey : Operator.ofKey? key = some op)
    (hop : op.connective? = some connective) (items : List Value) :
    ofOperator drop key (.sequence items) = .sequence (ofOperatorBranches drop items) := by
  rw [ofOperator.eq_def, hkey, Option.bind_some, hop]

lemma connective?_unknown (hkey : Operator.ofKey? key = none) :
    (Operator.ofKey? key).bind Operator.connective? = none := by
  rw [hkey, Option.bind_none]

lemma connective?_test (hkey : Operator.ofKey? key = some op) (hop : op.connective? = none) :
    (Operator.ofKey? key).bind Operator.connective? = none := by
  rw [hkey, Option.bind_some, hop]

/-- Only the branches of a connective have operators inside of them. -/
lemma ofOperator_eq_self
    (h : (Operator.ofKey? key).bind Operator.connective? = none ∨ operand.sequence? = none) :
    ofOperator drop key operand = operand := by
  rw [ofOperator.eq_def]
  split
  · rename_i hconnective
    rw [hconnective] at h
    rcases h with h | h <;> cases h
  · rfl

lemma ofOperatorBranches_malformed (hv : v.record? = none) :
    ofOperatorBranches drop (v :: items) = v :: ofOperatorBranches drop items := by
  cases v with
  | record operators => cases hv
  | _ =>
    rw [ofOperatorBranches]
    intros
    contradiction

lemma ofCondition_malformed (hrecord : v.record? = none) : ofCondition drop v = v := by
  cases v with
  | record conditions => cases hrecord
  | _ =>
    rw [ofCondition]
    intros
    contradiction

lemma ofEntry_branches (hkey : Connective.ofKey? key = some connective) (items : List Value) :
    ofEntry drop key (.sequence items) = .sequence (ofBranches drop items) := by
  rw [ofEntry.eq_def, hkey]

lemma ofEntry_malformed (hkey : Connective.ofKey? key = some connective)
    (hv : v.sequence? = none) : ofEntry drop key v = v := by
  cases v with
  | sequence items => cases hv
  | _ => rw [ofEntry.eq_def, hkey]

lemma ofEntry_operators {conditions : Record} (hkey : Connective.ofKey? key = none)
    (hop : hasOperator conditions = true) :
    ofEntry drop key (.record conditions) = .record (ofOperators drop conditions) := by
  rw [ofEntry.eq_def, hkey]
  exact if_pos hop

lemma ofEntry_nested {conditions : Record} (hkey : Connective.ofKey? key = none)
    (hop : hasOperator conditions = false) :
    ofEntry drop key (.record conditions) = .record (ofEntries drop conditions) := by
  rw [ofEntry.eq_def, hkey]
  exact if_neg (ne_true_of_eq_false hop)

lemma ofEntry_literal (hkey : Connective.ofKey? key = none) (hv : v.record? = none) :
    ofEntry drop key v = v := by
  cases v with
  | record conditions => cases hv
  | _ => rw [ofEntry.eq_def, hkey]

/-! ### Keys that stay -/

lemma keys_ofOperators {bound : Option String} (operators : SortedMap Value bound) :
    (ofOperators drop operators).keys = operators.keys.filter fun key => !drop key := by
  induction operators with
  | nil => rfl
  | cons key operand _ rest ih =>
    rw [ofOperators, SortedMap.keys_cons, ← List.singleton_append, List.filter_append, ← ih]
    split <;> simp [*, SortedMap.keys_widen]

lemma keys_ofEntries {bound : Option String} (conditions : SortedMap Value bound) :
    (ofEntries drop conditions).keys = conditions.keys := by
  induction conditions with
  | nil => rfl
  | cons key v _ rest ih => rw [ofEntries, SortedMap.keys_cons, SortedMap.keys_cons, ih]

/-- Where there is the key of an operator it stays. -/
lemma hasOperator_ofOperators {mode : Mode} (operators : Record) :
    hasOperator (ofOperators mode.skips operators) = hasOperator operators := by
  -- a skipped key is not the key of an operator, so the search for one does not miss it
  have hkeep : ∀ key, (!mode.skips key && Operator.isKey key) = Operator.isKey key := by
    intro key
    cases h : mode.skips key with
    | false => rfl
    | true =>
      rw [Operator.isKey, Mode.ofKey?_of_skips h]
      rfl
  rw [hasOperator, keys_ofOperators, List.any_filter, hasOperator]
  exact congrArg _ (funext hkeep)

lemma hasOperator_ofEntries (conditions : Record) :
    hasOperator (ofEntries drop conditions) = hasOperator conditions := by
  rw [hasOperator, keys_ofEntries, hasOperator]

end

end Erased

/-! ### Keys read as operators, without the dropped ones -/

namespace OperatorKeys

variable {mode : Mode}

lemma ofOperators_widen {bound : Option String} {key : String} (m : SortedMap Value (some key))
    (h : Below bound key) : ofOperators (m.widen h) = ofOperators m := by
  cases m <;> rfl

mutual

lemma ofOperator_erased {key : String} (hkey : mode.skips key = false) (operand : Value) :
    ofOperator key (Erased.ofOperator mode.skips key operand) =
      (ofOperator key operand).filter fun key => !mode.skips key := by
  cases OperatorForm.of key operand with
  | unknown hkey' =>
    rw [Erased.ofOperator_eq_self (.inl (Erased.connective?_unknown hkey')),
      ofOperator_unknown hkey']
    simp [hkey]
  | test hkey' hop =>
    rw [Erased.ofOperator_eq_self (.inl (Erased.connective?_test hkey' hop)),
      ofOperator_test hkey' hop]
    simp [hkey]
  | branches items hkey' hop =>
    rw [Erased.ofOperator_branches hkey' hop, ofOperator_branches hkey' hop,
      ofOperator_branches hkey' hop, List.filter_append, ofOperatorBranches_erased items]
    simp [hkey]
  | malformed hkey' hop hoperand =>
    rw [Erased.ofOperator_eq_self (.inr hoperand), ofOperator_malformed hkey' hop hoperand]
    simp [hkey]
termination_by sizeOf operand

lemma ofOperatorBranches_erased (items : List Value) :
    ofOperatorBranches (Erased.ofOperatorBranches mode.skips items) =
      (ofOperatorBranches items).filter fun key => !mode.skips key := by
  match items with
  | [] => rfl
  | v :: items =>
    have hrest := ofOperatorBranches_erased items
    cases OperatorBranchForm.of v with
    | operators operators =>
      rw [Erased.ofOperatorBranches, ofOperatorBranches, ofOperatorBranches, List.filter_append,
        hrest, ofOperators_erased operators]
    | malformed hv =>
      rw [Erased.ofOperatorBranches_malformed hv, ofOperatorBranches_malformed hv,
        ofOperatorBranches_malformed hv, hrest]
termination_by sizeOf items

lemma ofOperators_erased {bound : Option String} (operators : SortedMap Value bound) :
    ofOperators (Erased.ofOperators mode.skips operators) =
      (ofOperators operators).filter fun key => !mode.skips key := by
  match operators with
  | .nil => rfl
  | .cons key operand _ rest =>
    rw [Erased.ofOperators, ofOperators, List.filter_append, ← ofOperators_erased rest]
    by_cases hkey : mode.skips key = true
    · -- whatever stands under a dropped key, nothing in it is read as an operator
      rw [if_pos hkey, ofOperators_widen, ofOperator_unknown (Mode.ofKey?_of_skips hkey)]
      simp [hkey]
    · rw [if_neg hkey, ofOperators, ofOperator_erased (Bool.eq_false_iff.2 hkey) operand]
termination_by sizeOf operators

end

mutual

lemma ofCondition_erased (v : Value) :
    ofCondition (Erased.ofCondition mode.skips v) =
      (ofCondition v).filter fun key => !mode.skips key := by
  cases ConditionForm.of v with
  | record conditions =>
    rw [Erased.ofCondition, ofCondition, ofCondition, ofEntries_erased conditions]
  | null => rfl
  | malformed hrecord _ =>
    rw [Erased.ofCondition_malformed hrecord, ofCondition_malformed hrecord, List.filter_nil]
termination_by sizeOf v

lemma ofBranches_erased (items : List Value) :
    ofBranches (Erased.ofBranches mode.skips items) =
      (ofBranches items).filter fun key => !mode.skips key := by
  match items with
  | [] => rfl
  | v :: items =>
    rw [Erased.ofBranches, ofBranches, ofBranches, List.filter_append, ofCondition_erased v,
      ofBranches_erased items]
termination_by sizeOf items

lemma ofEntries_erased {bound : Option String} (conditions : SortedMap Value bound) :
    ofEntries (Erased.ofEntries mode.skips conditions) =
      (ofEntries conditions).filter fun key => !mode.skips key := by
  match conditions with
  | .nil => rfl
  | .cons key v _ rest =>
    rw [Erased.ofEntries, ofEntries, ofEntries, List.filter_append, ofEntry_erased key v,
      ofEntries_erased rest]
termination_by sizeOf conditions

lemma ofEntry_erased (key : String) (v : Value) :
    ofEntry key (Erased.ofEntry mode.skips key v) =
      (ofEntry key v).filter fun key => !mode.skips key := by
  cases EntryForm.of key v with
  | branches items hkey =>
    rw [Erased.ofEntry_branches hkey, ofEntry_branches hkey, ofEntry_branches hkey,
      ofBranches_erased items]
  | malformed hkey hv =>
    rw [Erased.ofEntry_malformed hkey hv, ofEntry_malformed hkey hv, List.filter_nil]
  | operators conditions hkey hop =>
    -- what is left is read as operators again
    have hop' : hasOperator (Erased.ofOperators mode.skips conditions) = true := by
      rw [Erased.hasOperator_ofOperators, hop]
    rw [Erased.ofEntry_operators hkey hop, ofEntry_operators hkey hop', ofEntry_operators hkey hop,
      ofOperators_erased conditions]
  | nested conditions hkey hop =>
    -- a nested condition keeps all of its keys, so none of them begins to look like an operator
    have hop' : hasOperator (Erased.ofEntries mode.skips conditions) = false := by
      rw [Erased.hasOperator_ofEntries, hop]
    rw [Erased.ofEntry_nested hkey hop, ofEntry_nested hkey hop', ofEntry_nested hkey hop,
      ofEntries_erased conditions]
  | literal hkey hv =>
    rw [Erased.ofEntry_literal hkey hv, ofEntry_literal hkey hv, List.filter_nil]
termination_by sizeOf v

end

end OperatorKeys

/-! ### Compiling without skipped keys -/

namespace Mode

variable {mode : Mode} {field key : String}

lemma compileOperators_widen {bound : Option String} (m : SortedMap Value (some key))
    (h : Below bound key) :
    mode.compileOperators field (m.widen h) = mode.compileOperators field m := by
  cases m <;> rfl

mutual

lemma compileOperator_erased (field key : String) (operand : Value) :
    mode.compileOperator field key (Erased.ofOperator mode.skips key operand) =
      mode.compileOperator field key operand := by
  cases OperatorForm.of key operand with
  | unknown hkey => rw [Erased.ofOperator_eq_self (.inl (Erased.connective?_unknown hkey))]
  | test hkey hop => rw [Erased.ofOperator_eq_self (.inl (Erased.connective?_test hkey hop))]
  | branches items hkey hop =>
    rw [Erased.ofOperator_branches hkey hop, compileOperator_branches hkey hop,
      compileOperator_branches hkey hop, compileOperatorBranches_erased field _ 0 items]
  | malformed hkey hop hoperand => rw [Erased.ofOperator_eq_self (.inr hoperand)]
termination_by sizeOf operand

lemma compileOperatorBranches_erased (field : String) (connective : Connective) (index : Nat)
    (items : List Value) :
    mode.compileOperatorBranches field connective index
        (Erased.ofOperatorBranches mode.skips items) =
      mode.compileOperatorBranches field connective index items := by
  match items with
  | [] => rfl
  | v :: items =>
    have hrest := compileOperatorBranches_erased field connective (index + 1) items
    cases OperatorBranchForm.of v with
    | operators operators =>
      rw [Erased.ofOperatorBranches, compileOperatorBranches, compileOperatorBranches,
        compileOperators_erased field operators, hrest]
    | malformed hv =>
      rw [Erased.ofOperatorBranches_malformed hv, compileOperatorBranches_malformed hv,
        compileOperatorBranches_malformed hv, hrest]
termination_by sizeOf items

lemma compileOperators_erased (field : String) {bound : Option String}
    (operators : SortedMap Value bound) :
    mode.compileOperators field (Erased.ofOperators mode.skips operators) =
      mode.compileOperators field operators := by
  match operators with
  | .nil => rfl
  | .cons key operand _ rest =>
    have hrest := compileOperators_erased field rest
    rw [Erased.ofOperators]
    by_cases hkey : mode.skips key = true
    · -- a skipped key yields nothing, so what is compiled is the rest
      rw [if_pos hkey, compileOperators_widen, hrest, compileOperators,
        compileOperator_of_skips hkey]
      cases mode.compileOperators field rest <;> rfl
    · rw [if_neg hkey, compileOperators, compileOperators, compileOperator_erased field key operand,
        hrest]
termination_by sizeOf operators

end

mutual

lemma compileEntry_erased (key : String) (v : Value) :
    mode.compileEntry key (Erased.ofEntry mode.skips key v) = mode.compileEntry key v := by
  cases EntryForm.of key v with
  | branches items hkey =>
    rw [Erased.ofEntry_branches hkey, compileEntry_branches hkey, compileEntry_branches hkey,
      compileBranches_erased _ 0 items]
  | malformed hkey hv => rw [Erased.ofEntry_malformed hkey hv]
  | operators conditions hkey hop =>
    have hop' : hasOperator (Erased.ofOperators mode.skips conditions) = true := by
      rw [Erased.hasOperator_ofOperators, hop]
    rw [Erased.ofEntry_operators hkey hop, compileEntry_operators hkey hop',
      compileEntry_operators hkey hop, compileOperators_erased key conditions]
  | nested conditions hkey hop =>
    have hop' : hasOperator (Erased.ofEntries mode.skips conditions) = false := by
      rw [Erased.hasOperator_ofEntries, hop]
    rw [Erased.ofEntry_nested hkey hop, compileEntry_nested hkey hop',
      compileEntry_nested hkey hop, compileFields_erased conditions]
  | literal hkey hv => rw [Erased.ofEntry_literal hkey hv]
termination_by sizeOf v

lemma compileBranches_erased (connective : Connective) (index : Nat) (items : List Value) :
    mode.compileBranches connective index (Erased.ofBranches mode.skips items) =
      mode.compileBranches connective index items := by
  match items with
  | [] => rfl
  | v :: items =>
    have hrest := compileBranches_erased connective (index + 1) items
    rw [Erased.ofBranches]
    cases ConditionForm.of v with
    | record conditions =>
      rw [Erased.ofCondition, compileBranches, compileBranches, compileFields_erased conditions,
        hrest]
    | null =>
      rw [Erased.ofCondition_malformed rfl, compileBranches, compileBranches, hrest]
    | malformed hrecord hnull =>
      rw [Erased.ofCondition_malformed hrecord, compileBranches_malformed hrecord hnull,
        compileBranches_malformed hrecord hnull, hrest]
termination_by sizeOf items

lemma compileFields_erased {bound : Option String} (conditions : SortedMap Value bound) :
    mode.compileFields (Erased.ofEntries mode.skips conditions) =
      mode.compileFields conditions := by
  match conditions with
  | .nil => rfl
  | .cons key v _ rest =>
    rw [Erased.ofEntries, compileFields, compileFields, compileEntry_erased key v,
      compileFields_erased rest]
termination_by sizeOf conditions

end

/-- Without the keys that a mode passes over, a condition compiles to the same predicates, or has
the same fault; and of the keys that are read as operators of a field, exactly those that the mode
does not pass over are left, in the same places. -/
theorem compile_erased (mode : Mode) (v : Value) :
    mode.compile (some (Erased.ofCondition mode.skips v)) = mode.compile (some v) ∧
      OperatorKeys.ofCondition (Erased.ofCondition mode.skips v) =
        (OperatorKeys.ofCondition v).filter fun key => !mode.skips key := by
  refine ⟨?_, OperatorKeys.ofCondition_erased v⟩
  cases ConditionForm.of v with
  | record conditions => exact compileFields_erased conditions
  | null => rfl
  | malformed hrecord _ => rw [Erased.ofCondition_malformed hrecord]

/-- One and the same key can be passed over among the operators of a field, and be a field
elsewhere. -/
example :
    let branches : Value := .sequence [.record (.single "note" .null), .null]
    Erased.ofCondition lenient.skips
        (.record (.ofList [("age", .record (.ofList [("$or", branches), ("note", .null)])),
          ("note", .record (.single "note" .null))])) =
      .record (.ofList [("age", .record (.ofList [("$or", .sequence [.record .nil, .null])])),
        ("note", .record (.single "note" .null))]) := rfl

end Mode

end Criteria
