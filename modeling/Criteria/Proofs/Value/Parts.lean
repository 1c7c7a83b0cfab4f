import Criteria.Value.Basic
import Mathlib.Tactic.Lemma

/-!
# The parts of a value

The values inside a value, at every depth, and the value itself. What a law asks of "every number in
a value" or of "a value without dates" is asked of the parts.
-/

namespace Criteria

namespace Value

mutual

/-- A value and everything inside it. -/
def parts : Value → List Value
  | .sequence items => .sequence items :: elementParts items
  | .record fields => .record fields :: fieldParts fields
  | v => [v]

/-- The parts of the elements of a sequence. -/
def elementParts : List Value → List Value
  | [] => []
  | v :: vs => parts v ++ elementParts vs

/-- The parts of the values of a record. -/
def fieldParts : {bound : Option String} → SortedMap Value bound → List Value
  | _, .nil => []
  | _, .cons _ v _ rest => parts v ++ fieldParts rest

end

lemma mem_parts_self (v : Value) : v ∈ v.parts := by
  cases v <;> simp [parts]

section

variable {P : Value → Prop}

lemma forall_parts_sequence {items : List Value} :
    (∀ part ∈ (sequence items).parts, P part) ↔
      P (.sequence items) ∧ ∀ part ∈ elementParts items, P part := by
  rw [parts, List.forall_mem_cons]

lemma forall_parts_record {fields : Record} :
    (∀ part ∈ (record fields).parts, P part) ↔
      P (.record fields) ∧ ∀ part ∈ fieldParts fields, P part := by
  rw [parts, List.forall_mem_cons]

lemma forall_elementParts_cons {v : Value} {vs : List Value} :
    (∀ part ∈ elementParts (v :: vs), P part) ↔
      (∀ part ∈ v.parts, P part) ∧ ∀ part ∈ elementParts vs, P part := by
  rw [elementParts, List.forall_mem_append]

lemma forall_fieldParts_cons {bound : Option String} {key : String} {v : Value}
    {h : Below bound key} {rest : SortedMap Value (some key)} :
    (∀ part ∈ fieldParts (.cons key v h rest), P part) ↔
      (∀ part ∈ v.parts, P part) ∧ ∀ part ∈ fieldParts rest, P part := by
  rw [fieldParts, List.forall_mem_append]

end

/-- The parts of an element are parts of the sequence. -/
lemma mem_parts_sequence {part v : Value} {items : List Value} (hv : v ∈ items)
    (h : part ∈ v.parts) : part ∈ (sequence items).parts := by
  have helements : part ∈ elementParts items := by
    induction items with
    | nil => cases hv
    | cons item items ih =>
      rw [elementParts, List.mem_append]
      rcases List.mem_cons.1 hv with rfl | hv
      · exact .inl h
      · exact .inr (ih hv)
  rw [parts]
  exact List.mem_cons_of_mem _ helements

lemma mem_fieldParts {part v : Value} {key : String} (h : part ∈ v.parts) :
    {bound : Option String} → {fields : SortedMap Value bound} → (key, v) ∈ fields.toList →
    part ∈ fieldParts fields
  | _, .nil, hv => by cases hv
  | _, .cons k w _ rest, hv => by
    rw [fieldParts, List.mem_append]
    rcases List.mem_cons.1 hv with heq | hv
    · cases heq
      exact .inl h
    · exact .inr (mem_fieldParts h hv)

/-- The parts of the value of a field are parts of the record. -/
lemma mem_parts_record {part v : Value} {key : String} {fields : Record}
    (hv : fields.find? key = some v) (h : part ∈ v.parts) : part ∈ (record fields).parts := by
  rw [parts]
  exact List.mem_cons_of_mem _ (mem_fieldParts h ((SortedMap.mem_toList_iff fields).2 hv))

/-! ### Induction -/

/-- What holds of a sequence if it holds of the elements, of a record if it holds of the values of
its fields, and of all other values, holds of every value. -/
@[elab_as_elim]
lemma inductionOn {P : Value → Prop} (v : Value) (null : P .null) (bool : ∀ b, P (.bool b))
    (number : ∀ n, P (.number n)) (text : ∀ s, P (.text s)) (date : ∀ t, P (.date t))
    (sequence : ∀ items, (∀ item ∈ items, P item) → P (.sequence items))
    (record : ∀ fields : Record, (∀ e ∈ fields.toList, P e.2) → P (.record fields)) : P v := by
  refine @Value.rec P (fun items => ∀ item ∈ items, P item)
    (fun _ fields => ∀ e ∈ fields.toList, P e.2) null bool number text date sequence record
    ?_ ?_ ?_ ?_ v
  · exact fun _ h => nomatch h
  · exact fun v vs hv hvs => List.forall_mem_cons.2 ⟨hv, hvs⟩
  · exact fun _ h => nomatch h
  · exact fun k v hk rest hv hrest => List.forall_mem_cons.2 ⟨hv, hrest⟩

end Value

end Criteria
