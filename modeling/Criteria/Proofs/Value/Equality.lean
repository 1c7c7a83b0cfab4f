import Criteria.Proofs.Number.Value
import Criteria.Proofs.Value.Parts
import Criteria.Value.Order
import Mathlib.Data.List.Perm.Subperm

/-!
# Deep equality is correspondence of parts

Two values are equal exactly if they have the same shape and the numbers at corresponding places are
equal (`equal_iff_corresponds`); of two records, it is enough to look up every field of one in the
other if both are of one size (`equal_record_iff`). So equality is symmetric (`equal_comm`). Values
with numbers that stand for the same are equal. As numbers of different widths are rounded before
they are compared, there are values that are equal although their numbers do not stand for the same,
and equality carries over from two values to a third one only if numbers of one width stand for the
same there.
-/

namespace Criteria

/-! ### Maps with the same keys -/

namespace SortedMap

variable {α : Type} {bound bound' : Option String}

lemma pairwise_keys (m : SortedMap α bound) : m.keys.Pairwise (· < ·) := by
  rw [keys, List.pairwise_map]
  exact m.pairwise_toList

/-- Of two maps of one size, one has the keys of the other only if both have the same keys. -/
lemma keys_eq_of_subset {m : SortedMap α bound} {n : SortedMap α bound'} (hsize : m.size = n.size)
    (hsub : m.keys ⊆ n.keys) : m.keys = n.keys := by
  have hnodup : m.keys.Nodup :=
    m.pairwise_keys.imp fun {k l} (hlt : k < l) (heq : k = l) => String.lt_irrefl l (heq ▸ hlt)
  have hlength : n.keys.length ≤ m.keys.length := by
    rw [keys, keys, List.length_map, List.length_map]
    exact hsize.ge
  have hperm := (hnodup.subperm hsub).perm_of_length_le hlength
  -- of the same keys there is only one list in order
  refine hperm.eq_of_pairwise (fun k l _ _ hkl hlk => ?_) m.pairwise_keys n.pairwise_keys
  exact absurd (String.lt_trans hkl hlk) (String.lt_irrefl k)

end SortedMap

namespace Value

/-! ### Correspondence -/

/-- Two values have the same shape, the same texts, truth values, dates and keys, and numbers
related by `R` at corresponding places. -/
inductive Corresponds (R : Number → Number → Prop) : Value → Value → Prop
  | null : Corresponds R .null .null
  | bool (b : Bool) : Corresponds R (.bool b) (.bool b)
  | number {m n : Number} (h : R m n) : Corresponds R (.number m) (.number n)
  | text (s : String) : Corresponds R (.text s) (.text s)
  | date (t : Instant) : Corresponds R (.date t) (.date t)
  | sequence {as bs : List Value} (hlength : as.length = bs.length)
      (h : ∀ (i : Nat) (a b : Value), as[i]? = some a → bs[i]? = some b → Corresponds R a b) :
      Corresponds R (.sequence as) (.sequence bs)
  | record {r s : Record} (hkeys : r.keys = s.keys)
      (h : ∀ (key : String) (v w : Value), r.find? key = some v → s.find? key = some w →
        Corresponds R v w) :
      Corresponds R (.record r) (.record s)

namespace Corresponds

variable {R S : Number → Number → Prop} {a b c : Value}

lemma number_iff {m n : Number} : Corresponds R (.number m) (.number n) ↔ R m n := by
  constructor
  · intro h
    cases h with
    | number h => exact h
  · exact .number

/-- Numbers that correspond are numbers of the two values. -/
lemma imp (h : Corresponds R a b)
    (himp : ∀ m n, .number m ∈ a.parts → .number n ∈ b.parts → R m n → S m n) :
    Corresponds S a b := by
  induction h with
  | null => exact .null
  | bool b => exact .bool b
  | number h => exact .number (himp _ _ (mem_parts_self _) (mem_parts_self _) h)
  | text s => exact .text s
  | date t => exact .date t
  | sequence hlength _ ih =>
    refine .sequence hlength fun i v w hv hw => ih i v w hv hw fun m n hm hn => ?_
    exact himp m n (mem_parts_sequence (List.mem_of_getElem? hv) hm)
      (mem_parts_sequence (List.mem_of_getElem? hw) hn)
  | record hkeys _ ih =>
    refine .record hkeys fun key v w hv hw => ih key v w hv hw fun m n hm hn => ?_
    exact himp m n (mem_parts_record hv hm) (mem_parts_record hw hn)

lemma swap (h : Corresponds R a b) : Corresponds (fun m n => R n m) b a := by
  induction h with
  | null => exact .null
  | bool b => exact .bool b
  | number h => exact .number h
  | text s => exact .text s
  | date t => exact .date t
  | sequence hlength _ ih =>
    exact .sequence hlength.symm fun i v w hv hw => ih i w v hw hv
  | record hkeys _ ih =>
    exact .record hkeys.symm fun key v w hv hw => ih key w v hw hv

/-- Values that correspond to one value correspond to each other. -/
lemma comp (hab : Corresponds R a b) (hbc : Corresponds S b c) :
    Corresponds (fun m n => ∃ k, R m k ∧ S k n) a c := by
  induction hab generalizing c with
  | null =>
    cases hbc
    exact .null
  | bool b =>
    cases hbc
    exact .bool b
  | number h =>
    cases hbc with
    | number h' => exact .number ⟨_, h, h'⟩
  | text s =>
    cases hbc
    exact .text s
  | date t =>
    cases hbc
    exact .date t
  | @sequence as bs hlength h ih =>
    cases hbc with
    | @sequence _ cs hlength' h' =>
      refine .sequence (hlength.trans hlength') fun i v x hv hx => ?_
      -- the element in the middle is there, as the lengths agree
      have hi : i < bs.length := by
        rw [← hlength]
        exact (List.getElem?_eq_some_iff.1 hv).1
      have hw : bs[i]? = some bs[i] := List.getElem?_eq_getElem hi
      exact ih i v bs[i] hv hw (h' i bs[i] x hw hx)
  | @record r s hkeys h ih =>
    cases hbc with
    | @record _ t hkeys' h' =>
      refine .record (hkeys.trans hkeys') fun key v x hv hx => ?_
      have hkey : key ∈ s.keys := by
        rw [← hkeys]
        exact (SortedMap.mem_keys_iff r).2 ⟨v, hv⟩
      obtain ⟨w, hw⟩ := (SortedMap.mem_keys_iff s).1 hkey
      exact ih key v w hv hw (h' key w x hw hx)

lemma and (h : Corresponds R a b) (h' : Corresponds S a b) :
    Corresponds (fun m n => R m n ∧ S m n) a b := by
  induction h with
  | null => exact .null
  | bool b => exact .bool b
  | number h =>
    cases h' with
    | number h' => exact .number ⟨h, h'⟩
  | text s => exact .text s
  | date t => exact .date t
  | sequence hlength _ ih =>
    cases h' with
    | sequence _ h' =>
      exact .sequence hlength fun i v w hv hw => ih i v w hv hw (h' i v w hv hw)
  | record hkeys _ ih =>
    cases h' with
    | record _ h' => exact .record hkeys fun key v w hv hw => ih key v w hv hw (h' key v w hv hw)

end Corresponds

/-! ### Equality place by place -/

lemma equalElements_iff (as bs : List Value) :
    equalElements as bs = true ↔
      as.length = bs.length ∧
        ∀ (i : Nat) (a b : Value), as[i]? = some a → bs[i]? = some b → a.equal b = true := by
  induction as generalizing bs with
  | nil => cases bs <;> simp [equalElements]
  | cons a as ih =>
    cases bs with
    | nil => simp [equalElements]
    | cons b bs =>
      rw [equalElements, Bool.and_eq_true, ih]
      constructor
      · rintro ⟨hab, hlength, hrest⟩
        refine ⟨congrArg Nat.succ hlength, fun i v w hv hw => ?_⟩
        -- the first elements have the first index, and the others move down by one
        cases i with
        | zero =>
          cases hv
          cases hw
          exact hab
        | succ i => exact hrest i v w hv hw
      · rintro ⟨hlength, h⟩
        exact ⟨h 0 a b rfl rfl, Nat.succ.inj hlength, fun i v w hv hw => h (i + 1) v w hv hw⟩

lemma equalFields_iff : {bound bound' : Option String} → (r : SortedMap Value bound) →
    (s : SortedMap Value bound') →
    (equalFields r s = true ↔
      r.keys = s.keys ∧
        ∀ (key : String) (v w : Value), r.find? key = some v → s.find? key = some w →
          v.equal w = true)
  | _, _, .nil, .nil => by simp [equalFields, SortedMap.keys]
  | _, _, .nil, .cons .. => by simp [equalFields, SortedMap.keys]
  | _, _, .cons .., .nil => by simp [equalFields, SortedMap.keys]
  | _, _, .cons k v hk r, .cons l w hl s => by
    rw [equalFields, Bool.and_eq_true, Bool.and_eq_true, beq_iff_eq, equalFields_iff r s,
      SortedMap.keys_cons, SortedMap.keys_cons, List.cons.injEq]
    constructor
    · rintro ⟨rfl, hvw, hkeys, hrest⟩
      refine ⟨⟨rfl, hkeys⟩, fun key v' w' hv hw => ?_⟩
      rw [SortedMap.find?_cons] at hv hw
      by_cases hkey : k = key
      · rw [if_pos hkey] at hv hw
        cases hv
        cases hw
        exact hvw
      · rw [if_neg hkey] at hv hw
        exact hrest key v' w' hv hw
    · rintro ⟨⟨rfl, hkeys⟩, h⟩
      have hvw : v.equal w = true := h k v w (if_pos rfl) (if_pos rfl)
      refine ⟨rfl, hvw, hkeys, fun key v' w' hv hw => ?_⟩
      exact h key v' w' (SortedMap.find?_cons_of_rest v hk hv)
        (SortedMap.find?_cons_of_rest w hl hw)

/-- Records are equal exactly if they are of one size and every field of the first is found in the
second with an equal value. -/
theorem equal_record_iff {r s : Record} :
    (record r).equal (record s) = true ↔
      r.size = s.size ∧ ∀ (key : String) (v : Value), r.find? key = some v →
        ∃ w, s.find? key = some w ∧ v.equal w = true := by
  rw [equal, equalFields_iff]
  constructor
  · rintro ⟨hkeys, hequal⟩
    constructor
    · simpa [SortedMap.keys, SortedMap.size] using congrArg List.length hkeys
    · intro key v hv
      have hkey : key ∈ s.keys := hkeys ▸ (SortedMap.mem_keys_iff r).2 ⟨v, hv⟩
      obtain ⟨w, hw⟩ := (SortedMap.mem_keys_iff s).1 hkey
      exact ⟨w, hw, hequal key v w hv hw⟩
  · rintro ⟨hsize, hfound⟩
    have hsub : r.keys ⊆ s.keys := by
      intro key hkey
      obtain ⟨v, hv⟩ := (SortedMap.mem_keys_iff r).1 hkey
      obtain ⟨w, hw, -⟩ := hfound key v hv
      exact (SortedMap.mem_keys_iff s).2 ⟨w, hw⟩
    refine ⟨SortedMap.keys_eq_of_subset hsize hsub, fun key v w hv hw => ?_⟩
    obtain ⟨w', hw', hequal⟩ := hfound key v hv
    rw [hw] at hw'
    cases hw'
    exact hequal

lemma corresponds_of_equal {a b : Value} (h : a.equal b = true) :
    Corresponds (fun m n => m.compare? n = some .eq) a b := by
  induction a using inductionOn generalizing b with
  | null =>
    cases b with
    | null => exact .null
    | _ => cases h
  | bool p =>
    cases b with
    | bool q =>
      rw [equal, beq_iff_eq] at h
      exact h ▸ .bool p
    | _ => cases h
  | number m =>
    cases b with
    | number n =>
      rw [equal, beq_iff_eq] at h
      exact .number h
    | _ => cases h
  | text p =>
    cases b with
    | text q =>
      rw [equal, beq_iff_eq] at h
      exact h ▸ .text p
    | _ => cases h
  | date p =>
    cases b with
    | date q =>
      rw [equal, beq_iff_eq] at h
      exact h ▸ .date p
    | _ => cases h
  | sequence as ih =>
    cases b with
    | sequence bs =>
      rw [equal, equalElements_iff] at h
      obtain ⟨hlength, h⟩ := h
      refine .sequence hlength fun i v w hv hw => ?_
      exact ih v (List.mem_of_getElem? hv) (h i v w hv hw)
    | _ => cases h
  | record r ih =>
    cases b with
    | record s =>
      rw [equal, equalFields_iff] at h
      obtain ⟨hkeys, h⟩ := h
      refine .record hkeys fun key v w hv hw => ?_
      exact ih (key, v) ((SortedMap.mem_toList_iff r).2 hv) (h key v w hv hw)
    | _ => cases h

lemma equal_of_corresponds {a b : Value}
    (h : Corresponds (fun m n => m.compare? n = some .eq) a b) : a.equal b = true := by
  induction h with
  | null => rfl
  | bool b => exact beq_self_eq_true b
  | number h => rw [equal, h, beq_self_eq_true]
  | text s => exact beq_self_eq_true s
  | date t => exact beq_self_eq_true t
  | sequence hlength _ ih => rwa [equal, equalElements_iff, and_iff_right hlength]
  | record hkeys _ ih => rwa [equal, equalFields_iff, and_iff_right hkeys]

/-- Values are equal exactly if they have the same shape and equal numbers at corresponding
places. -/
lemma equal_iff_corresponds {a b : Value} :
    a.equal b = true ↔ Corresponds (fun m n => m.compare? n = some .eq) a b :=
  ⟨corresponds_of_equal, equal_of_corresponds⟩

lemma equal_symm {a b : Value} (h : a.equal b = true) : b.equal a = true := by
  rw [equal_iff_corresponds] at h ⊢
  refine h.swap.imp fun m n _ _ hnm => ?_
  rw [Number.compare?_swap, hnm]
  rfl

lemma equal_comm (a b : Value) : a.equal b = b.equal a :=
  Bool.eq_iff_iff.2 ⟨equal_symm, equal_symm⟩

/-! ### Equality and the values of numbers -/

/-- No number in a value is a NaN. -/
def HasNoNaN (v : Value) : Prop := ∀ part ∈ v.parts, ∀ n ∈ part.number?, n.isNaN = false

/-- Rounding to double precision keeps every number in a value. -/
def HasExactNumbers (v : Value) : Prop := ∀ part ∈ v.parts, ∀ n ∈ part.number?, n.IsExact

instance (v : Value) : Decidable v.HasNoNaN :=
  inferInstanceAs (Decidable (∀ part ∈ v.parts, ∀ n ∈ part.number?, n.isNaN = false))

section

variable {a b c : Value}

lemma equal_iff_agree (ha : a.HasNoNaN) (hb : b.HasNoNaN) :
    a.equal b = true ↔ Corresponds Number.Agree a b := by
  have hiff {m n : Number} (hm : .number m ∈ a.parts) (hn : .number n ∈ b.parts) :
      m.compare? n = some .eq ↔ m.Agree n :=
    Number.compare?_eq_iff (ha _ hm m rfl) (hb _ hn n rfl)
  rw [equal_iff_corresponds]
  constructor
  · exact fun h => h.imp fun m n hm hn => (hiff hm hn).1
  · exact fun h => h.imp fun m n hm hn => (hiff hm hn).2

lemma equal_of_sameValue (ha : a.HasNoNaN) (hb : b.HasNoNaN)
    (h : Corresponds Number.SameValue a b) : a.equal b = true :=
  (equal_iff_agree ha hb).2 (h.imp fun _ _ _ _ => Number.SameValue.agree)

lemma sameValue_of_equal (ha : a.HasNoNaN) (hb : b.HasNoNaN) (hexact : a.HasExactNumbers)
    (hexact' : b.HasExactNumbers) (h : a.equal b = true) : Corresponds Number.SameValue a b :=
  ((equal_iff_agree ha hb).1 h).imp fun m n hm hn hmn =>
    hmn.sameValue (hexact _ hm m rfl) (hexact' _ hn n rfl)

/-- Two values that are equal to a third one are equal exactly if their numbers of one width stand
for the same. -/
lemma equal_trans_iff (ha : a.HasNoNaN) (hb : b.HasNoNaN) (hc : c.HasNoNaN)
    (hab : a.equal b = true) (hbc : b.equal c = true) :
    a.equal c = true ↔
      Corresponds (fun m n => Number.SameWidth m n → Number.SameValue m n) a c := by
  rw [equal_iff_agree ha hb] at hab
  rw [equal_iff_agree hb hc] at hbc
  rw [equal_iff_agree ha hc]
  constructor
  · exact fun h => h.imp fun m n _ _ => Number.Agree.sameValue_of_sameWidth
  · intro h
    refine ((hab.comp hbc).and h).imp fun m n _ _ hmn => ?_
    obtain ⟨⟨k, hmk, hkn⟩, hwidth⟩ := hmn
    exact hmk.trans hkn hwidth

lemma equal_trans_of_exact (ha : a.HasNoNaN) (hb : b.HasNoNaN) (hc : c.HasNoNaN)
    (hab : a.equal b = true) (hbc : b.equal c = true) (hexact : a.HasExactNumbers)
    (hexact' : c.HasExactNumbers) : a.equal c = true := by
  rw [equal_iff_agree ha hb] at hab
  rw [equal_iff_agree hb hc] at hbc
  apply equal_of_sameValue ha hc
  refine (hab.comp hbc).imp fun m n hm hn hmn => ?_
  obtain ⟨k, hmk, hkn⟩ := hmn
  exact Number.sameValue_of_rounded_eq (hexact _ hm m rfl) (hexact' _ hn n rfl)
    (hmk.rounded_eq.trans hkn.rounded_eq)

end

lemma equal_number_iff {m n : Number} (hm : m.isNaN = false) (hn : n.isNaN = false) :
    (number m).equal (number n) = true ↔ Number.Agree m n := by
  rw [equal, beq_iff_eq, Number.compare?_eq_iff hm hn]

/-- Values without NaNs are equal exactly if they have the same shape and their numbers at
corresponding places agree: those of one width stand for the same, those of different widths do
after rounding. If the numbers stand for the same, the values are equal, and the other way round if
rounding keeps every number, as it does up to `2 ^ 53`. Two values that are equal to a third one are
equal exactly if their numbers of one width stand for the same, which is so if rounding keeps them.
Numbers that do not stand for the same are not equal if they are of one width or if rounding keeps
them. -/
theorem equal_up_to_rounding :
    (∀ a b : Value, a.HasNoNaN → b.HasNoNaN →
      (a.equal b = true ↔ Corresponds Number.Agree a b) ∧
      (Corresponds Number.SameValue a b → a.equal b = true) ∧
      (a.HasExactNumbers → b.HasExactNumbers →
        (a.equal b = true ↔ Corresponds Number.SameValue a b))) ∧
    (∀ a b c : Value, a.HasNoNaN → b.HasNoNaN → c.HasNoNaN →
      a.equal b = true → b.equal c = true →
        (a.equal c = true ↔
          Corresponds (fun m n => Number.SameWidth m n → Number.SameValue m n) a c) ∧
        (a.HasExactNumbers → c.HasExactNumbers → a.equal c = true)) ∧
    (∀ m n : Number, m.isNaN = false → n.isNaN = false → ¬ Number.SameValue m n →
      Number.SameWidth m n ∨ m.IsExact ∧ n.IsExact →
        (number m).equal (number n) = false) ∧
    ∀ n : Number, n.integerPart.natAbs ≤ 2 ^ 53 → n.IsExact := by
  refine ⟨?_, ?_, ?_, fun n => Number.isExact_of_natAbs_le⟩
  · intro a b ha hb
    refine ⟨equal_iff_agree ha hb, equal_of_sameValue ha hb, fun hexact hexact' => ?_⟩
    exact ⟨sameValue_of_equal ha hb hexact hexact', equal_of_sameValue ha hb⟩
  · intro a b c ha hb hc hab hbc
    exact ⟨equal_trans_iff ha hb hc hab hbc, equal_trans_of_exact ha hb hc hab hbc⟩
  · intro m n hm hn hne hapart
    rw [Bool.eq_false_iff, ne_eq, equal_number_iff hm hn]
    intro hagree
    rcases hapart with hwidth | ⟨hexact, hexact'⟩
    · exact hne (hagree.sameValue_of_sameWidth hwidth)
    · exact hne (hagree.sameValue hexact hexact')

/-- Different integers of different widths can be equal, and both of them equal to a third one that
only one of them is equal to. -/
theorem equal_different_integers :
    let a := number (.signed 9007199254740993)
    let b := number (.unsigned 9007199254740992)
    let c := number (.signed 9007199254740992)
    (a.HasNoNaN ∧ b.HasNoNaN ∧ c.HasNoNaN) ∧
      (a.equal b = true ∧ ¬ Corresponds Number.SameValue a b) ∧
      (b.equal c = true ∧ a.equal c = false) := by
  intro a b c
  refine ⟨by decide +kernel, ⟨by decide +kernel, ?_⟩, by decide +kernel⟩
  intro h
  -- rounded alike, but the integers themselves are one apart
  have hvalues := ExtendedRat.ofRat_inj.1 (Corresponds.number_iff.1 h)
  revert hvalues
  decide +kernel

theorem equal_up_to_rounding_widths :
    let value (n : Number) : Value := .sequence [number n, .text "Ada"]
    let a := value (.signed 30)
    let b := value (.double (.ofInt 30))
    let c := value (.unsigned 30)
    (a.equal b = true ↔ Corresponds Number.SameValue a b) ∧ a.equal c = true ∧
      (number (.signed 30)).equal (number (.unsigned 31)) = false := by
  intro value a b c
  obtain ⟨hequal, htrans, hnumbers, hexact⟩ := equal_up_to_rounding
  have hnoNaN : ∀ v ∈ [a, b, c], v.HasNoNaN := by decide +kernel
  have hsmall : ∀ v ∈ [a, b, c], ∀ part ∈ v.parts, ∀ n ∈ part.number?,
      n.integerPart.natAbs ≤ 2 ^ 53 := by decide +kernel
  have hexactIn : ∀ v ∈ [a, b, c], v.HasExactNumbers := fun v hv part hpart n hn =>
    hexact n (hsmall v hv part hpart n hn)
  simp only [List.forall_mem_cons] at hnoNaN hexactIn
  obtain ⟨ha, hb, hc, -⟩ := hnoNaN
  obtain ⟨hexactA, hexactB, hexactC, -⟩ := hexactIn
  refine ⟨(hequal a b ha hb).2.2 hexactA hexactB, ?_, ?_⟩
  · exact (htrans a b c ha hb hc (by decide +kernel) (by decide +kernel)).2 hexactA hexactC
  · refine hnumbers (.signed 30) (.unsigned 31) rfl rfl ?_
      (.inr ⟨hexact _ (by decide +kernel), hexact _ (by decide +kernel)⟩)
    intro h
    have hvalues := ExtendedRat.ofRat_inj.1 h
    revert hvalues
    decide +kernel

end Value

end Criteria
