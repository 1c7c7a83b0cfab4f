import Criteria.Proofs.Condition.Connective
import Criteria.Proofs.Condition.Strict

/-!
# Items that agree on a condition

A condition looks at the fields that it mentions and at nothing else: it gives the same result on
two items that agree on it (`holds_eq_of_agreement`), however it is compiled.

Items agree on a field with operators or with a literal if they have the same value there, or both
have none. Under a nested condition they need not: null and absent count as one there, and of two
other values only what the nested condition mentions in them has to agree.
-/

namespace Criteria

/-! ### Agreement -/

/-- A value is absent or the explicit null. -/
def AbsentOrNull (actual : Option Value) : Prop := ∀ v ∈ actual, v.isNull = true

namespace Agreement

mutual

/-- Two items, given by their fields, agree on what a condition mentions. -/
def ofCondition (fields others : String → Option Value) : Value → Prop
  | .record conditions => ofEntries fields others conditions
  | _ => True

/-- Two items agree on each of some conditions. -/
def ofBranches (fields others : String → Option Value) : List Value → Prop
  | [] => True
  | branch :: branches => ofCondition fields others branch ∧ ofBranches fields others branches

/-- Two items agree on every key of a condition. -/
def ofEntries (fields others : String → Option Value) : {bound : Option String} →
    SortedMap Value bound → Prop
  | _, .nil => True
  | _, .cons key v _ rest => ofEntry fields others key v ∧ ofEntries fields others rest

/-- Two items agree on one key of a condition: on the branches of a connective, on what a nested
condition mentions in the values of the field, or else on the field itself. -/
def ofEntry (fields others : String → Option Value) (key : String) (v : Value) : Prop :=
  match Connective.ofKey? key, v with
  | some _, .sequence items => ofBranches fields others items
  | some _, _ => True
  | none, .record conditions =>
    if hasOperator conditions then fields key = others key
    else
      AbsentOrNull (fields key) ∧ AbsentOrNull (others key) ∨
        ∃ a b, fields key = some a ∧ others key = some b ∧
          a.isNull = false ∧ b.isNull = false ∧ ofEntries a.get? b.get? conditions
  | none, _ => fields key = others key

end

/-! ### Form by form -/

section

variable {fields others : String → Option Value} {key : String} {v : Value}
  {connective : Connective} {conditions : Record}

lemma ofEntry_branches (hkey : Connective.ofKey? key = some connective) (items : List Value) :
    ofEntry fields others key (.sequence items) = ofBranches fields others items := by
  rw [ofEntry.eq_def, hkey]

lemma ofEntry_operators (hkey : Connective.ofKey? key = none)
    (hop : hasOperator conditions = true) :
    ofEntry fields others key (.record conditions) = (fields key = others key) := by
  rw [ofEntry.eq_def, hkey]
  exact if_pos hop

lemma ofEntry_nested (hkey : Connective.ofKey? key = none)
    (hop : hasOperator conditions = false) :
    ofEntry fields others key (.record conditions) =
      (AbsentOrNull (fields key) ∧ AbsentOrNull (others key) ∨
        ∃ a b, fields key = some a ∧ others key = some b ∧
          a.isNull = false ∧ b.isNull = false ∧ ofEntries a.get? b.get? conditions) := by
  rw [ofEntry.eq_def, hkey]
  exact if_neg (ne_true_of_eq_false hop)

lemma ofEntry_literal (hkey : Connective.ofKey? key = none) (hv : v.record? = none) :
    ofEntry fields others key v = (fields key = others key) := by
  cases v with
  | record conditions => cases hv
  | _ => rw [ofEntry.eq_def, hkey]

end

end Agreement

/-! ### Results on items that agree -/

lemma AbsentOrNull.any_eq_false {actual : Option Value} (h : AbsentOrNull actual)
    (test : Value → Bool) : (actual.any fun v => !v.isNull && test v) = false := by
  cases actual with
  | none => rfl
  | some v =>
    have hv : v.isNull = true := h v rfl
    simp [hv]

namespace Meaning

mutual

lemma ofEntry_congr {fields others : String → Option Value} (key : String) (v : Value)
    (h : Agreement.ofEntry fields others key v) :
    ofEntry fields key v = ofEntry others key v := by
  cases EntryForm.of key v with
  | branches items hkey =>
    rw [Agreement.ofEntry_branches hkey] at h
    rw [ofEntry_branches hkey, ofEntry_branches hkey, ofBranches_congr items h]
  | malformed hkey hv => rw [ofEntry_malformed hkey hv, ofEntry_malformed hkey hv]
  | operators conditions hkey hop =>
    rw [Agreement.ofEntry_operators hkey hop] at h
    rw [ofEntry_operators hkey hop, ofEntry_operators hkey hop, h]
  | nested conditions hkey hop =>
    rw [Agreement.ofEntry_nested hkey hop] at h
    rw [ofEntry_nested hkey hop, ofEntry_nested hkey hop]
    obtain ⟨hfield, hother⟩ | ⟨a, b, hfield, hother, ha, hb, hconditions⟩ := h
    · -- neither item gets as far as the nested condition
      rw [hfield.any_eq_false, hother.any_eq_false]
    · -- the values of the field take the place of the items
      have hresult := ofEntries_congr conditions hconditions
      rw [hfield, hother, Option.any_some, Option.any_some, ha, hb, hresult]
  | literal hkey hv =>
    rw [Agreement.ofEntry_literal hkey hv] at h
    rw [ofEntry_literal hkey hv, ofEntry_literal hkey hv, h]
termination_by sizeOf v

lemma ofBranches_congr {fields others : String → Option Value} (items : List Value)
    (h : Agreement.ofBranches fields others items) :
    ofBranches fields items = ofBranches others items := by
  match items with
  | [] => rfl
  | v :: items =>
    rw [Agreement.ofBranches] at h
    obtain ⟨hv, hitems⟩ := h
    rw [ofBranches, ofBranches, ofBranches_congr items hitems]
    cases ConditionForm.of v with
    | record conditions =>
      rw [Agreement.ofCondition] at hv
      rw [ofCondition, ofCondition, ofEntries_congr conditions hv]
    | null => rw [ofCondition, ofCondition]
    | malformed hrecord hnull =>
      rw [ofCondition_malformed hrecord hnull, ofCondition_malformed hrecord hnull]
termination_by sizeOf items

lemma ofEntries_congr {fields others : String → Option Value} {bound : Option String}
    (conditions : SortedMap Value bound)
    (h : Agreement.ofEntries fields others conditions) :
    ofEntries fields conditions = ofEntries others conditions := by
  match conditions with
  | .nil => rfl
  | .cons key v _ rest =>
    rw [Agreement.ofEntries] at h
    obtain ⟨hv, hrest⟩ := h
    rw [ofEntries, ofEntries, ofEntry_congr key v hv, ofEntries_congr rest hrest]
termination_by sizeOf conditions

end

end Meaning

/-! ### Both ways of compiling -/

section

variable {α β : Type} [Document α] [Document β]

/-- Two items that agree on a condition give the same result, with the lenient filter of the
condition and with its strict filter if it has one. -/
theorem Filter.holds_eq_of_agreement {conditions : Record} (item : α) (other : β)
    (h : Agreement.ofEntries (Document.field? item) (Document.field? other) conditions) :
    let condition : Option Value := some (.record conditions)
    (Filter.ofCondition condition).holds item = (Filter.ofCondition condition).holds other ∧
      ∀ filter, Filter.ofCondition? condition = .ok filter →
        filter.holds item = filter.holds other := by
  intro condition
  have hlenient :
      (Filter.ofCondition condition).holds item = (Filter.ofCondition condition).holds other := by
    rw [Filter.holds_ofCondition, Filter.holds_ofCondition, Meaning.ofCondition,
      Meaning.ofCondition]
    exact Meaning.ofEntries_congr conditions h
  refine ⟨hlenient, fun filter hfilter => ?_⟩
  rw [Filter.eq_ofCondition_of_strict hfilter]
  exact hlenient

theorem Filter.holds_eq_of_agreement_nested :
    let item := Value.ofFields [("age", .number (.signed 30)),
      ("user", .ofFields [("age", .number (.signed 30)), ("name", .text "Ada")])]
    let other := Value.ofFields [("team", .null),
      ("user", .ofFields [("name", .text "Ada"), ("role", .text "admin")])]
    let conditions : Record := .ofList [
      ("$nor", .sequence [.single "team" (.single "lead" (.single "$not" (.bool true)))]),
      ("user", .single "name" (.text "Ada"))]
    Agreement.ofEntries item.get? other.get? conditions ∧
      (Filter.ofCondition (some (.record conditions))).holds item = true ∧
      (Filter.ofCondition (some (.record conditions))).holds other = true := by
  intro item other conditions
  have hteam : Agreement.ofEntry item.get? other.get? "team"
      (.single "lead" (.single "$not" (.bool true))) := by
    rw [Value.single, Agreement.ofEntry_nested (by decide) (by decide)]
    -- the one item has no team, and that of the other is null
    left
    constructor <;> rintro v ⟨⟩
    rfl
  have huser : Agreement.ofEntry item.get? other.get? "user" (.single "name" (.text "Ada")) := by
    rw [Value.single, Agreement.ofEntry_nested (by decide) (by decide)]
    right
    refine ⟨_, _, rfl, rfl, rfl, rfl, ?_, trivial⟩
    rw [Agreement.ofEntry_literal (by decide) rfl]
    rfl
  have hnor : Agreement.ofEntry item.get? other.get? Connective.none.key
      (.sequence [.single "team" (.single "lead" (.single "$not" (.bool true)))]) := by
    rw [Agreement.ofEntry_branches (Connective.ofKey?_key .none)]
    exact ⟨⟨hteam, trivial⟩, trivial⟩
  have hagree : Agreement.ofEntries item.get? other.get? conditions := ⟨hnor, huser, trivial⟩
  have hitem : (Filter.ofCondition (some (.record conditions))).holds item = true := by
    decide +kernel
  have hsame := (Filter.holds_eq_of_agreement item other hagree).1
  exact ⟨hagree, hitem, hsame ▸ hitem⟩

end

end Criteria
