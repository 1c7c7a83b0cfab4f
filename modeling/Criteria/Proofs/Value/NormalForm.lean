import Criteria.Proofs.Double.Value
import Criteria.Proofs.Value.Parts
import Criteria.Proofs.Value.TotalOrder
import Criteria.Value.Json

/-!
# The normal form of a value

Both ways from values to JSON and back lead to one and the same value, the normal form: integers
take the signed width where they fit, infinities and NaNs become null, and dates become texts or
numbers. The normal form is its own normal form. Where there was nothing to replace, it is equal to
the value and ties with it in the order of values (`Value.json_roundTrip`).
-/

namespace Criteria

/-! ### Normal forms -/

/-- The normal form of a number: integers in the signed width if they fit, and null for an infinity
or a NaN. -/
def Number.normal : Number → Value
  | .signed n => .number (.signed n)
  | .unsigned n =>
    if n.toNat ≤ Int64.maxValue.toInt then .number (.signed (Int64.ofInt n.toNat))
    else .number (.unsigned n)
  | .double x => if x.isFinite then .number (.double x) else .null

/-- The normal form of a date: its text, or its milliseconds if it has none. -/
def Instant.normal (t : Instant) : Value := (t.toText?.map .text).getD (.number (.signed t.millis))

namespace Value

mutual

/-- The normal form of a value: numbers and dates in their normal forms, and everything else as it
is. -/
def normal : Value → Value
  | .null => .null
  | .bool b => .bool b
  | .number n => n.normal
  | .text s => .text s
  | .date t => t.normal
  | .sequence items => .sequence (normalElements items)
  | .record fields => .record (normalFields fields)

/-- The normal forms of the elements of a sequence. -/
def normalElements : List Value → List Value
  | [] => []
  | v :: vs => normal v :: normalElements vs

/-- The normal forms of the values of a record. -/
def normalFields : {bound : Option String} → SortedMap Value bound → SortedMap Value bound
  | _, .nil => .nil
  | _, .cons k v h rest => .cons k (normal v) h (normalFields rest)

end

end Value

/-! ### The two ways to JSON -/

lemma Number.emit_document (n : Number) : n.emit Emitter.document = n.toJson := by
  cases n <;> rfl

lemma Instant.emit_document (t : Instant) : t.emit Emitter.document = t.toJson := rfl

namespace Value

mutual

lemma emit_document (v : Value) : v.emit Emitter.document = v.toJson := by
  match v with
  | .null | .bool _ | .text _ => rfl
  | .number n => rw [emit, toJson, n.emit_document]
  | .date t => rw [emit, toJson, t.emit_document]
  | .sequence items =>
    rw [emit, toJson, emitElements_document items]
    rfl
  | .record fields =>
    rw [emit, toJson, emitFields_document fields]
    exact congrArg Json.object (SortedMap.ofList_toList _)

lemma emitElements_document (vs : List Value) :
    emitElements Emitter.document vs = elementsToJson vs := by
  match vs with
  | [] => rfl
  | v :: vs => rw [emitElements, elementsToJson, emit_document v, emitElements_document vs]

lemma emitFields_document {bound : Option String} (fields : SortedMap Value bound) :
    emitFields Emitter.document fields = (fieldsToJson fields).toList := by
  match fields with
  | .nil => rfl
  | .cons k v _ rest =>
    rw [emitFields, fieldsToJson, SortedMap.toList_cons, emit_document v, emitFields_document rest]

end

end Value

/-! ### The way back -/

namespace Number

lemma ofInt_toInt (n : Int64) : ofInt n.toInt = .signed n := by
  rw [ofInt, if_pos ⟨n.minValue_le_toInt, n.toInt_le⟩, Int64.ofInt_toInt]

lemma ofInt_toNat (n : UInt64) : Value.number (ofInt n.toNat) = normal (.unsigned n) := by
  have hmin : Int64.minValue.toInt ≤ (n.toNat : Int) := by
    rw [Int64.toInt_minValue]
    omega
  have hsize : (0 : Int) ≤ n.toNat ∧ (n.toNat : Int) < UInt64.size :=
    ⟨Int.natCast_nonneg _, Int.ofNat_lt.2 n.toNat_lt_size⟩
  rw [ofInt, normal]
  by_cases hle : (n.toNat : Int) ≤ Int64.maxValue.toInt
  · rw [if_pos ⟨hmin, hle⟩, if_pos hle]
  · rw [if_neg fun h => hle h.2, if_pos hsize, if_neg hle, Int.toNat_natCast, UInt64.ofNat_toNat]

lemma ofJson_toJson (n : Number) : Value.ofJson n.toJson = n.normal := by
  cases n with
  | signed n => rw [toJson, Value.ofJson, ofInt_toInt, normal]
  | unsigned n => rw [toJson, Value.ofJson, ofInt_toNat]
  | double x =>
    rw [toJson, normal]
    split <;> rw [Value.ofJson]

end Number

lemma Instant.ofJson_toJson (t : Instant) : Value.ofJson t.toJson = t.normal := by
  rw [toJson, normal]
  cases t.toText? with
  | some s => rfl
  | none =>
    rw [Option.map_none, Option.map_none, Option.getD_none, Option.getD_none, Value.ofJson,
      Number.ofInt_toInt]

namespace Value

mutual

lemma ofJson_toJson (v : Value) : ofJson v.toJson = v.normal := by
  match v with
  | .null | .bool _ | .text _ => rfl
  | .number n => rw [toJson, normal, n.ofJson_toJson]
  | .date t => rw [toJson, normal, t.ofJson_toJson]
  | .sequence items => rw [toJson, ofJson, normal, elementsOfJson_elementsToJson items]
  | .record fields => rw [toJson, ofJson, normal, fieldsOfJson_fieldsToJson fields]

lemma elementsOfJson_elementsToJson (vs : List Value) :
    elementsOfJson (elementsToJson vs) = normalElements vs := by
  match vs with
  | [] => rfl
  | v :: vs =>
    rw [elementsToJson, elementsOfJson, normalElements, ofJson_toJson v,
      elementsOfJson_elementsToJson vs]

lemma fieldsOfJson_fieldsToJson {bound : Option String} (fields : SortedMap Value bound) :
    fieldsOfJson (fieldsToJson fields) = normalFields fields := by
  match fields with
  | .nil => rfl
  | .cons k v _ rest =>
    rw [fieldsToJson, fieldsOfJson, normalFields, ofJson_toJson v, fieldsOfJson_fieldsToJson rest]

end

end Value

/-! ### Normal forms of normal forms -/

lemma Number.normal_normal (n : Number) : n.normal.normal = n.normal := by
  cases n with
  | signed n => rfl
  | unsigned n =>
    rw [normal]
    split
    · rfl
    · rename_i h
      exact if_neg h
  | double x =>
    rw [normal]
    split
    · rename_i h
      exact if_pos h
    · rfl

lemma Instant.normal_normal (t : Instant) : t.normal.normal = t.normal := by
  rw [normal]
  cases t.toText? <;> rfl

namespace Value

mutual

lemma normal_normal (v : Value) : v.normal.normal = v.normal := by
  match v with
  | .null | .bool _ | .text _ => rfl
  | .number n => rw [normal, n.normal_normal]
  | .date t => rw [normal, t.normal_normal]
  | .sequence items => rw [normal, normal, normalElements_normalElements items]
  | .record fields => rw [normal, normal, normalFields_normalFields fields]

lemma normalElements_normalElements (vs : List Value) :
    normalElements (normalElements vs) = normalElements vs := by
  match vs with
  | [] => rfl
  | v :: vs =>
    rw [normalElements, normalElements, normal_normal v, normalElements_normalElements vs]

lemma normalFields_normalFields {bound : Option String} (fields : SortedMap Value bound) :
    normalFields (normalFields fields) = normalFields fields := by
  match fields with
  | .nil => rfl
  | .cons k v _ rest =>
    rw [normalFields, normalFields, normal_normal v, normalFields_normalFields rest]

end

end Value

/-! ### Values without dates and with finite numbers -/

/-- Whether JSON has the value, what is inside it left aside: it has no dates, no infinities and no
NaNs. -/
def Value.hasDocument : Value → Bool
  | .number (.double x) => x.isFinite
  | .date _ => false
  | _ => true

namespace Number

lemma totalCompare_eq_of_eq {m n : Number} (hdouble : m.toDouble = n.toDouble)
    (hpart : m.integerPart = n.integerPart) : m.totalCompare n = .eq := by
  have hfirst : n.toDouble.totalCompare n.toDouble = .eq := Std.ReflCmp.compare_self
  have hthen : compare n.integerPart n.integerPart = .eq := Std.ReflCmp.compare_self
  rw [totalCompare, hdouble, hpart, hfirst, hthen, Ordering.eq_then]

/-- Another width of a number does not count in comparisons. -/
lemma exists_normal_eq {n : Number} (h : (Value.number n).hasDocument = true) :
    ∃ m, n.normal = .number m ∧ n.compare? m = some .eq ∧ n.totalCompare m = .eq := by
  cases n with
  | signed n =>
    exact ⟨.signed n, rfl, congrArg some Std.ReflCmp.compare_self, Std.ReflCmp.compare_self⟩
  | unsigned n =>
    rw [normal]
    split
    · rename_i hle
      rw [Int64.toInt_maxValue] at hle
      -- the same integer in the other width, which is what both comparisons look at
      have hvalue : (Int64.ofInt n.toNat).toInt = n.toNat :=
        Int64.toInt_ofInt_of_le (by omega) (by omega)
      have hdouble : (unsigned n).toDouble = (signed (Int64.ofInt n.toNat)).toDouble := by
        rw [toDouble, toDouble, hvalue]
      have hpart : (unsigned n).integerPart = (signed (Int64.ofInt n.toNat)).integerPart :=
        hvalue.symm
      refine ⟨.signed (Int64.ofInt n.toNat), rfl, ?_, totalCompare_eq_of_eq hdouble hpart⟩
      show (unsigned n).toDouble.compare? (signed (Int64.ofInt n.toNat)).toDouble = some .eq
      rw [← hdouble]
      exact Double.compare?_self (Double.isNaN_ofInt _)
    · exact ⟨.unsigned n, rfl, congrArg some Std.ReflCmp.compare_self, Std.ReflCmp.compare_self⟩
  | double x =>
    have hnormal : normal (.double x) = .number (.double x) := if_pos h
    exact ⟨.double x, hnormal, Double.compare?_self (Double.isNaN_of_isFinite h),
      Std.ReflCmp.compare_self⟩

end Number

namespace Value

mutual

lemma equal_normal {v : Value} (h : ∀ part ∈ v.parts, part.hasDocument = true) :
    v.equal v.normal = true ∧ v.totalCompare v.normal = .eq := by
  match v with
  | .null => exact ⟨rfl, rfl⟩
  | .bool b => exact ⟨beq_self_eq_true b, @Std.ReflCmp.compare_self _ compare _ b⟩
  | .text s => exact ⟨beq_self_eq_true s, @Std.ReflCmp.compare_self _ compare _ s⟩
  | .number n =>
    obtain ⟨m, hnormal, hequal, htied⟩ := Number.exists_normal_eq (h _ (mem_parts_self _))
    rw [normal, hnormal, equal, totalCompare, hequal]
    exact ⟨rfl, htied⟩
  -- a date has no document, so it is none of the parts
  | .date t => cases h _ (mem_parts_self _)
  | .sequence items =>
    rw [normal, equal, totalCompare]
    exact equalElements_normalElements (forall_parts_sequence.1 h).2
  | .record fields =>
    rw [normal, equal, totalCompare]
    exact equalFields_normalFields (forall_parts_record.1 h).2

lemma equalElements_normalElements {vs : List Value}
    (h : ∀ part ∈ elementParts vs, part.hasDocument = true) :
    equalElements vs (normalElements vs) = true ∧
      totalCompareElements vs (normalElements vs) = .eq := by
  match vs with
  | [] => exact ⟨rfl, rfl⟩
  | v :: vs =>
    obtain ⟨hv, hvs⟩ := forall_elementParts_cons.1 h
    obtain ⟨hequal, htied⟩ := equal_normal hv
    rw [normalElements, equalElements, totalCompareElements, hequal, htied]
    exact equalElements_normalElements hvs

lemma equalFields_normalFields {bound : Option String} {fields : SortedMap Value bound}
    (h : ∀ part ∈ fieldParts fields, part.hasDocument = true) :
    equalFields fields (normalFields fields) = true ∧
      totalCompareFields fields (normalFields fields) = .eq := by
  match fields with
  | .nil => exact ⟨rfl, rfl⟩
  | .cons k v _ rest =>
    obtain ⟨hv, hrest⟩ := forall_fieldParts_cons.1 h
    obtain ⟨hequal, htied⟩ := equal_normal hv
    have hkey : compare k k = .eq := Std.ReflCmp.compare_self
    rw [normalFields, equalFields, totalCompareFields, hequal, htied, hkey, beq_self_eq_true]
    exact equalFields_normalFields hrest

end

/-- Both ways to JSON and back lead to the normal form, which is its own normal form. Of a value
without dates, and with finite numbers only, the normal form is equal to the value and ties with
it. -/
theorem json_roundTrip (v : Value) :
    ofJson v.toJson = v.normal ∧ v.throughJson = v.normal ∧ v.normal.normal = v.normal ∧
      ((∀ part ∈ v.parts, part.hasDocument = true) →
        v.equal v.normal = true ∧ v.totalCompare v.normal = .eq) := by
  refine ⟨v.ofJson_toJson, ?_, v.normal_normal, equal_normal⟩
  rw [throughJson, emit_document, ofJson_toJson]

theorem json_roundTrip_widths :
    let v : Value := .record (.ofList [("count", .number (.unsigned 30)),
      ("offset", .number (.double (.zero true))),
      ("sizes", .sequence [.number (.unsigned 9223372036854775808), .null, .text "Ada"])])
    (∀ part ∈ v.parts, part.hasDocument = true) ∧
      v.equal v.normal = true ∧ v.totalCompare v.normal = .eq := by
  intro v
  have hparts : ∀ part ∈ v.parts, part.hasDocument = true := by decide +kernel
  exact ⟨hparts, (json_roundTrip v).2.2.2 hparts⟩

end Value

end Criteria
