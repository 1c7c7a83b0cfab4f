import Criteria.Proofs.Value.Equality

/-!
# Equality from both sides and with itself

Deep equality is not written alike for its two sides: of two records of one size, the fields of one
are looked up in the other (`equal_record_eq`), and membership compares the candidates with the
value, where an equality test compares the value with its operand. It is symmetric all the same
(`equal_comm`). A value equals itself exactly if there is no NaN in it, at any depth
(`equal_self_iff`); one with a NaN equals nothing.
-/

namespace Criteria

lemma Number.compare?_self_iff (n : Number) : n.compare? n = some .eq ↔ n.isNaN = false := by
  constructor
  · intro h
    exact (isNaN_of_compare? h).1
  · intro h
    exact (compare?_eq_iff h h).2 (SameValue.agree rfl)

namespace Value

/-! ### A value and itself -/

mutual

/-- A value equals itself exactly if there is no NaN in it. -/
lemma equal_self_iff (v : Value) : v.equal v = true ↔ v.HasNoNaN := by
  rw [HasNoNaN]
  match v with
  | .null => simp [equal, parts, number?]
  | .bool b => simp [equal, parts, number?]
  | .number n => simp [equal, parts, number?, n.compare?_self_iff]
  | .text s => simp [equal, parts, number?]
  | .date t => simp [equal, parts, number?]
  -- a sequence or a record is no number itself, so only the parts inside it count
  | .sequence items =>
    rw [equal, equalElements_self_iff items, forall_parts_sequence]
    simp [number?]
  | .record fields =>
    rw [equal, equalFields_self_iff fields, forall_parts_record]
    simp [number?]

lemma equalElements_self_iff (items : List Value) :
    equalElements items items = true ↔
      ∀ part ∈ elementParts items, ∀ n ∈ part.number?, n.isNaN = false := by
  match items with
  | [] => simp [equalElements, elementParts]
  | v :: vs =>
    rw [equalElements, Bool.and_eq_true, equal_self_iff v, equalElements_self_iff vs,
      forall_elementParts_cons, HasNoNaN]

lemma equalFields_self_iff {bound : Option String} (fields : SortedMap Value bound) :
    equalFields fields fields = true ↔
      ∀ part ∈ fieldParts fields, ∀ n ∈ part.number?, n.isNaN = false := by
  match fields with
  | .nil => simp [equalFields, fieldParts]
  | .cons key v _ rest =>
    rw [equalFields, Bool.and_eq_true, Bool.and_eq_true, beq_self_eq_true, equal_self_iff v,
      equalFields_self_iff rest, forall_fieldParts_cons, HasNoNaN]
    exact and_iff_right rfl

end

/-! ### Two sides -/

/-- Records are equal if they are of one size and every field of the first is found in the second
with an equal value. -/
lemma equal_record_eq (r s : Record) :
    (record r).equal (record s) =
      (r.size == s.size && r.toList.all fun e => (s.find? e.1).any e.2.equal) := by
  rw [Bool.eq_iff_iff, equal_record_iff, Bool.and_eq_true, beq_iff_eq, List.all_eq_true]
  simp only [Prod.forall, SortedMap.mem_toList_iff, Option.any_eq_true]

/-- Membership does not depend on which side the candidates stand on. -/
lemma memberOf_eq (v : Value) (candidates : List Value) :
    v.memberOf candidates = candidates.any v.equal := by
  have hsides : (fun candidate => candidate.equal v) = v.equal :=
    funext fun candidate => equal_comm candidate v
  rw [memberOf, hsides]

/-- Equality of two values is the same from both sides, and a value equals itself exactly if there
is no NaN in it. So of two records of one size it does not matter which one is looked up in the
other, and a member of a list is one that the value equals. -/
theorem equal_symmetric_reflexive :
    (∀ a b : Value, a.equal b = b.equal a) ∧
    (∀ a : Value, a.equal a = true ↔ a.HasNoNaN) ∧
    (∀ r s : Record,
      (record r).equal (record s) =
          (r.size == s.size && r.toList.all fun e => (s.find? e.1).any e.2.equal) ∧
        (record r).equal (record s) =
          (s.size == r.size && s.toList.all fun e => (r.find? e.1).any e.2.equal)) ∧
    ∀ (v : Value) (candidates : List Value), v.memberOf candidates = candidates.any v.equal := by
  refine ⟨equal_comm, equal_self_iff, fun r s => ⟨equal_record_eq r s, ?_⟩, memberOf_eq⟩
  rw [equal_comm, equal_record_eq]

end Value

end Criteria
