import Criteria.Filter
import Criteria.Proofs.Condition.Form

/-!
# The meaning of conditions

What a condition says about an item, read off the condition itself: `Meaning.ofCondition` takes the
fields of an item and a condition and goes through the condition key by key, without predicates and
without their evaluation of connectives (`Connective.holds` stands on its own).
-/

namespace Criteria

/-- Whether an operator that is no connective holds between the value of a field, which may be
absent, and an operand. An operand that the operator cannot use lets nothing through. -/
def Operator.relates (op : Operator) (actual : Option Value) (operand : Value) : Bool :=
  match op with
  | .less => actual.any fun v => v.compare? operand == some .lt
  | .lessEqual =>
    actual.any fun v => v.compare? operand == some .lt || v.compare? operand == some .eq
  | .greater => actual.any fun v => v.compare? operand == some .gt
  | .greaterEqual =>
    actual.any fun v => v.compare? operand == some .gt || v.compare? operand == some .eq
  | .equal => actual.any fun v => v.equal operand
  | .not => !actual.any fun v => v.equal operand
  | .dateBefore => actual.any fun v => v.compareInstant? operand.toInstant? == some .lt
  | .dateAfter => actual.any fun v => v.compareInstant? operand.toInstant? == some .gt
  | .oneOf => actual.any fun v => (Mode.candidates operand).any fun candidate => candidate.equal v
  | .notOneOf =>
    !actual.any fun v => (Mode.candidates operand).any fun candidate => candidate.equal v
  | .contains => actual.any fun v => v.containsAll (Mode.candidates operand)
  | .notContains => !actual.any fun v => v.containsAll (Mode.candidates operand)
  | .matches => actual.any fun v =>
    match operand.text?.bind Pattern.parse?, v.toText? with
    | some pattern, some s => pattern.isMatch s
    | _, _ => false
  | .any | .all | .none => false

/-- Whether a connective holds, given which of its branches hold. -/
def Connective.holds : Connective → List Bool → Bool
  | .all, branches => branches.all id
  | .any, branches => branches.any id
  | .none, branches => branches.all (!·)

namespace Meaning

mutual

/-- What one key says among the operators of a field: an operator relates the value of the field to
the operand, a connective joins further operators of the same field, and any other key says
nothing. -/
def ofOperator (actual : Option Value) (key : String) (operand : Value) : Bool :=
  match Operator.ofKey? key with
  | none => true
  | some op =>
    match op.connective? with
    | none => op.relates actual operand
    | some connective =>
      match operand with
      | .sequence items => connective.holds (ofOperatorBranches actual items)
      | _ => false

/-- What each branch of a connective says about a field; one that is no record fails. -/
def ofOperatorBranches (actual : Option Value) : List Value → List Bool
  | [] => []
  | .record operators :: items => ofOperators actual operators :: ofOperatorBranches actual items
  | _ :: items => false :: ofOperatorBranches actual items

/-- What the operators of a field say together. -/
def ofOperators (actual : Option Value) : {bound : Option String} → SortedMap Value bound → Bool
  | _, .nil => true
  | _, .cons key operand _ rest => ofOperator actual key operand && ofOperators actual rest

end

mutual

/-- What a condition says about an item with the given fields. A null says nothing; any other value
that is no record fails. -/
def ofCondition (fields : String → Option Value) : Value → Bool
  | .null => true
  | .record conditions => ofEntries fields conditions
  | _ => false

/-- What each of some conditions says about an item. -/
def ofBranches (fields : String → Option Value) : List Value → List Bool
  | [] => []
  | branch :: branches => ofCondition fields branch :: ofBranches fields branches

/-- What the keys of a condition say together. -/
def ofEntries (fields : String → Option Value) : {bound : Option String} →
    SortedMap Value bound → Bool
  | _, .nil => true
  | _, .cons key v _ rest => ofEntry fields key v && ofEntries fields rest

/-- What one key says in a condition: a connective joins conditions on the item, and a field is
tested by operators, has to match a condition of its own, or has to equal a literal. -/
def ofEntry (fields : String → Option Value) (key : String) (v : Value) : Bool :=
  match Connective.ofKey? key, v with
  | some connective, .sequence items => connective.holds (ofBranches fields items)
  | some _, _ => false
  | none, .record conditions =>
    if hasOperator conditions then ofOperators (fields key) conditions
    else (fields key).any fun inner => !inner.isNull && ofEntries inner.get? conditions
  | none, v => (fields key).any fun actual => actual.equal v

end

/-! ### Form by form -/

section

variable {actual : Option Value} {fields : String → Option Value} {key : String}
  {operand v : Value} {op : Operator} {connective : Connective}

lemma ofOperator_unknown (hkey : Operator.ofKey? key = none) :
    ofOperator actual key operand = true := by
  rw [ofOperator, hkey]

lemma ofOperator_test (hkey : Operator.ofKey? key = some op) (hop : op.connective? = none) :
    ofOperator actual key operand = op.relates actual operand := by
  simp only [ofOperator, hkey, hop]

lemma ofOperator_branches (hkey : Operator.ofKey? key = some op)
    (hop : op.connective? = some connective) (items : List Value) :
    ofOperator actual key (.sequence items) =
      connective.holds (ofOperatorBranches actual items) := by
  simp only [ofOperator, hkey, hop]

lemma ofOperator_malformed (hkey : Operator.ofKey? key = some op)
    (hop : op.connective? = some connective) (hoperand : operand.sequence? = none) :
    ofOperator actual key operand = false := by
  cases operand with
  | sequence items => cases hoperand
  | _ => simp only [ofOperator, hkey, hop]

lemma ofOperatorBranches_malformed (hv : v.record? = none) (items : List Value) :
    ofOperatorBranches actual (v :: items) = false :: ofOperatorBranches actual items := by
  cases v with
  | record operators => cases hv
  | _ =>
    rw [ofOperatorBranches]
    -- what is left is that the earlier case, for records, does not apply
    intros
    contradiction

lemma ofCondition_malformed (hrecord : v.record? = none) (hnull : v.isNull = false) :
    ofCondition fields v = false := by
  cases v with
  | record conditions => cases hrecord
  | null => cases hnull
  | _ => rw [ofCondition] <;> (intros; contradiction)

lemma ofEntry_branches (hkey : Connective.ofKey? key = some connective) (items : List Value) :
    ofEntry fields key (.sequence items) = connective.holds (ofBranches fields items) := by
  rw [ofEntry.eq_def, hkey]

lemma ofEntry_malformed (hkey : Connective.ofKey? key = some connective)
    (hv : v.sequence? = none) : ofEntry fields key v = false := by
  cases v with
  | sequence items => cases hv
  | _ => rw [ofEntry.eq_def, hkey]

lemma ofEntry_operators {conditions : Record} (hkey : Connective.ofKey? key = none)
    (hop : hasOperator conditions = true) :
    ofEntry fields key (.record conditions) = ofOperators (fields key) conditions := by
  rw [ofEntry.eq_def, hkey]
  exact if_pos hop

lemma ofEntry_nested {conditions : Record} (hkey : Connective.ofKey? key = none)
    (hop : hasOperator conditions = false) :
    ofEntry fields key (.record conditions) =
      (fields key).any fun inner => !inner.isNull && ofEntries inner.get? conditions := by
  rw [ofEntry.eq_def, hkey]
  exact if_neg (ne_true_of_eq_false hop)

lemma ofEntry_literal (hkey : Connective.ofKey? key = none) (hv : v.record? = none) :
    ofEntry fields key v = (fields key).any fun actual => actual.equal v := by
  cases v with
  | record conditions => cases hv
  | _ => rw [ofEntry.eq_def, hkey]

end

/-! ### Entry by entry -/

lemma ofOperators_eq_all (actual : Option Value) {bound : Option String}
    (operators : SortedMap Value bound) :
    ofOperators actual operators = operators.toList.all fun e => ofOperator actual e.1 e.2 := by
  induction operators with
  | nil => rfl
  | cons key operand hbelow rest ih => rw [ofOperators, SortedMap.toList_cons, List.all_cons, ih]

lemma ofEntries_eq_all (fields : String → Option Value) {bound : Option String}
    (conditions : SortedMap Value bound) :
    ofEntries fields conditions = conditions.toList.all fun e => ofEntry fields e.1 e.2 := by
  induction conditions with
  | nil => rfl
  | cons key v hbelow rest ih => rw [ofEntries, SortedMap.toList_cons, List.all_cons, ih]

end Meaning

end Criteria
