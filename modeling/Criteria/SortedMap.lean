/-!
# Maps sorted by key

A finite map from texts to values, held as entries in strictly increasing key order. The order is
part of the type: a map is indexed by the key that all of its own keys come after, so a list of
entries out of order, or with a key twice, is not a map.

`find?_insert_self` and `find?_insert_of_ne` say what an insertion changes; `pairwise_toList` says
that the entries come in key order, and `ofList_toList` that they give the map again.
-/

namespace Criteria

/-- A bound lets a key through when the key comes after it; `none` lets every key through. -/
def Below (bound : Option String) (key : String) : Prop := ∀ b ∈ bound, b < key

instance (bound : Option String) (key : String) : Decidable (Below bound key) :=
  inferInstanceAs (Decidable (∀ b ∈ bound, b < key))

@[simp] theorem below_none (key : String) : Below none key := by simp [Below]

@[simp] theorem below_some (b key : String) : Below (some b) key ↔ b < key := by simp [Below]

theorem Below.trans {bound : Option String} {k l : String} (hk : Below bound k) (hl : k < l) :
    Below bound l := fun b hb => String.lt_trans (hk b hb) hl

/-- A finite map whose keys all come after `bound`, in strictly increasing order. -/
inductive SortedMap (α : Type) : Option String → Type where
  /-- The map without entries. -/
  | nil {bound : Option String} : SortedMap α bound
  /-- An entry in front of a map of larger keys. -/
  | cons {bound : Option String} (key : String) (value : α) (below : Below bound key)
      (rest : SortedMap α (some key)) : SortedMap α bound

namespace SortedMap

variable {α β : Type} {bound : Option String}

/-! ### Views -/

/-- The value at a key, if the map has that key. -/
def find? : {bound : Option String} → SortedMap α bound → String → Option α
  | _, .nil, _ => none
  | _, .cons k v _ rest, key => if k = key then some v else rest.find? key

/-- The entries in key order. -/
def toList : {bound : Option String} → SortedMap α bound → List (String × α)
  | _, .nil => []
  | _, .cons k v _ rest => (k, v) :: rest.toList

/-- The keys in order. -/
def keys (m : SortedMap α bound) : List String := m.toList.map Prod.fst

/-- The number of entries. -/
def size (m : SortedMap α bound) : Nat := m.toList.length

/-- Whether the map has no entry. -/
def isEmpty : SortedMap α bound → Bool
  | .nil => true
  | .cons .. => false

@[simp] theorem find?_nil (key : String) : (nil : SortedMap α bound).find? key = none := rfl

@[simp] theorem find?_cons (k key : String) (v : α) (h : Below bound k)
    (rest : SortedMap α (some k)) :
    (cons k v h rest).find? key = if k = key then some v else rest.find? key := rfl

@[simp] theorem toList_nil : (nil : SortedMap α bound).toList = [] := rfl

@[simp] theorem toList_cons (k : String) (v : α) (h : Below bound k)
    (rest : SortedMap α (some k)) : (cons k v h rest).toList = (k, v) :: rest.toList := rfl

@[simp] theorem keys_cons (k : String) (v : α) (h : Below bound k)
    (rest : SortedMap α (some k)) : (cons k v h rest).keys = k :: rest.keys := rfl

theorem below_of_mem : {bound : Option String} → (m : SortedMap α bound) → {e : String × α} →
    e ∈ m.toList → Below bound e.1
  | _, .nil, _, h => by simp at h
  | _, .cons k v hk rest, e, h => by
    rcases List.mem_cons.1 h with rfl | h
    · exact hk
    · exact hk.trans ((below_some _ _).1 (below_of_mem rest h))

/-- The entries come in strictly increasing key order. -/
theorem pairwise_toList : {bound : Option String} → (m : SortedMap α bound) →
    m.toList.Pairwise fun d e => d.1 < e.1
  | _, .nil => .nil
  | _, .cons _ _ _ rest =>
    .cons (fun _ h => (below_some _ _).1 (below_of_mem rest h)) (pairwise_toList rest)

theorem not_below_self (key : String) : ¬ Below (some key) key := by simp

theorem find?_eq_none_of_not_below : {bound : Option String} → (m : SortedMap α bound) →
    {key : String} → ¬ Below bound key → m.find? key = none
  | _, .nil, _, _ => rfl
  | _, .cons k v hk rest, key, h => by
    have hne : k ≠ key := fun e => h (e ▸ hk)
    have : ¬ Below (some k) key := fun hlt => h (hk.trans ((below_some _ _).1 hlt))
    simp [hne, find?_eq_none_of_not_below rest this]

theorem find?_cons_of_rest {k key : String} {value : α} {rest : SortedMap α (some k)} (v : α)
    (hk : Below bound k) (h : rest.find? key = some value) :
    (cons k v hk rest).find? key = some value := by
  have hne : k ≠ key := by
    intro heq
    subst heq
    rw [find?_eq_none_of_not_below rest (not_below_self k)] at h
    cases h
  rw [find?_cons, if_neg hne, h]

/-- The entries are the keys with the values found at them. -/
theorem mem_toList_iff : {bound : Option String} → (m : SortedMap α bound) → {key : String} →
    {value : α} → (key, value) ∈ m.toList ↔ m.find? key = some value
  | _, .nil, _, _ => by simp
  | _, .cons k v hk rest, key, value => by
    rw [toList_cons, List.mem_cons, find?_cons, mem_toList_iff rest, Prod.mk.injEq]
    by_cases h : k = key
    · subst h
      have hrest : rest.find? k = none :=
        find?_eq_none_of_not_below rest fun hlt => String.lt_irrefl k ((below_some k k).1 hlt)
      simp [hrest, eq_comm]
    · simp [h, Ne.symm h]

theorem mem_keys_iff (m : SortedMap α bound) {key : String} :
    key ∈ m.keys ↔ ∃ value, m.find? key = some value := by
  simp [keys, ← mem_toList_iff]

/-! ### Construction -/

/-- The map with one entry. -/
def single (key : String) (value : α) : SortedMap α none := .cons key value (below_none key) .nil

/-- Puts `value` at `key`, in the place of the value that stood there. -/
def insertBelow : {bound : Option String} → SortedMap α bound → (key : String) → α →
    Below bound key → SortedMap α bound
  | _, .nil, key, value, h => .cons key value h .nil
  | _, .cons k v hk rest, key, value, h =>
    if hlt : key < k then
      .cons key value h (.cons k v ((below_some _ _).2 hlt) rest)
    else if heq : key = k then
      .cons k value hk rest
    else
      .cons k v hk (rest.insertBelow key value ((below_some _ _).2 (by grind)))

/-- Puts `value` at `key`, in the place of the value that stood there. -/
def insert (m : SortedMap α none) (key : String) (value : α) : SortedMap α none :=
  m.insertBelow key value (below_none key)

/-- The map of a list of entries; of two entries with one key the later one stays. -/
def ofList (entries : List (String × α)) : SortedMap α none :=
  entries.foldl (fun m e => m.insert e.1 e.2) .nil

/-- Applies `f` to every value. -/
def map (f : α → β) : {bound : Option String} → SortedMap α bound → SortedMap β bound
  | _, .nil => .nil
  | _, .cons k v h rest => .cons k (f v) h (rest.map f)

theorem find?_insertBelow_self : {bound : Option String} → (m : SortedMap α bound) →
    (key : String) → (value : α) → (h : Below bound key) →
    (m.insertBelow key value h).find? key = some value
  | _, .nil, _, _, _ => by simp [insertBelow]
  | _, .cons k v hk rest, key, value, h => by
    rw [insertBelow]
    split
    · simp
    · split
      · simp_all
      · rename_i hne
        simp [Ne.symm hne, find?_insertBelow_self rest]

theorem find?_insertBelow_of_ne : {bound : Option String} → (m : SortedMap α bound) →
    (key : String) → (value : α) → (h : Below bound key) → {other : String} → key ≠ other →
    (m.insertBelow key value h).find? other = m.find? other
  | _, .nil, _, _, _, _, hne => by simp [insertBelow, hne]
  | _, .cons k v hk rest, key, value, h, other, hne => by
    rw [insertBelow]
    split
    · simp [hne]
    · split
      · rename_i heq
        subst heq
        simp [hne]
      · by_cases hk : k = other
        · simp [hk]
        · simp [hk, find?_insertBelow_of_ne rest key value _ hne]

/-- The entries after an insertion are the new one and old ones. -/
theorem mem_toList_insertBelow : {bound : Option String} → (m : SortedMap α bound) →
    (key : String) → (value : α) → (h : Below bound key) → {e : String × α} →
    e ∈ (m.insertBelow key value h).toList → e = (key, value) ∨ e ∈ m.toList
  | _, .nil, _, _, _, _, he => by simpa [insertBelow] using he
  | _, .cons k v hk rest, key, value, h, e, he => by
    rw [insertBelow] at he
    split at he
    · simpa using he
    · split at he
      · rename_i heq
        subst heq
        exact (List.mem_cons.1 he).imp_right (List.mem_cons_of_mem _)
      · rcases List.mem_cons.1 he with rfl | he
        · exact .inr (List.mem_cons_self ..)
        · exact (mem_toList_insertBelow rest key value _ he).imp_right (List.mem_cons_of_mem _)

@[simp] theorem find?_insert_self (m : SortedMap α none) (key : String) (value : α) :
    (m.insert key value).find? key = some value :=
  find?_insertBelow_self m key value (below_none key)

theorem find?_insert_of_ne (m : SortedMap α none) {key other : String} (value : α)
    (h : key ≠ other) : (m.insert key value).find? other = m.find? other :=
  find?_insertBelow_of_ne m key value (below_none key) h

theorem mem_toList_insert {m : SortedMap α none} {key : String} {value : α} {e : String × α}
    (he : e ∈ (m.insert key value).toList) : e = (key, value) ∨ e ∈ m.toList :=
  mem_toList_insertBelow m key value (below_none key) he

theorem isEmpty_insert (m : SortedMap α none) (key : String) (value : α) :
    (m.insert key value).isEmpty = false := by
  cases m with
  | nil => rfl
  | cons k v hk rest =>
    rw [insert, insertBelow]
    split
    · rfl
    · split <;> rfl

/-! ### Maps from their entries -/

theorem toList_injective : {bound : Option String} → {m n : SortedMap α bound} →
    m.toList = n.toList → m = n
  | _, .nil, .nil, _ => rfl
  | _, .nil, .cons .., h => nomatch h
  | _, .cons .., .nil, h => nomatch h
  | _, .cons k v _ rest, .cons l w _ rest', h => by
    rw [toList_cons, toList_cons, List.cons.injEq, Prod.mk.injEq] at h
    obtain ⟨⟨rfl, rfl⟩, hrest⟩ := h
    rw [toList_injective hrest]

/-- An entry with a key beyond all others comes last. -/
theorem toList_insertBelow_of_forall_lt : {bound : Option String} → (m : SortedMap α bound) →
    (key : String) → (value : α) → (h : Below bound key) → (∀ e ∈ m.toList, e.1 < key) →
    (m.insertBelow key value h).toList = m.toList ++ [(key, value)]
  | _, .nil, _, _, _, _ => rfl
  | _, .cons k v hk rest, key, value, h, hlast => by
    rw [toList_cons, List.forall_mem_cons] at hlast
    obtain ⟨hlt, hrest⟩ := hlast
    have hnot : ¬ key < k := fun hkey => String.lt_irrefl k (String.lt_trans hlt hkey)
    have hne : key ≠ k := fun heq => String.lt_irrefl k (heq ▸ hlt)
    rw [insertBelow, dif_neg hnot, dif_neg hne, toList_cons,
      toList_insertBelow_of_forall_lt rest key value _ hrest, toList_cons, List.cons_append]

/-- Entries in key order are inserted one behind the other. -/
theorem toList_foldl_insert (entries : List (String × α)) (m : SortedMap α none)
    (h : (m.toList ++ entries).Pairwise fun d e => d.1 < e.1) :
    (entries.foldl (fun m e => m.insert e.1 e.2) m).toList = m.toList ++ entries := by
  induction entries generalizing m with
  | nil => rw [List.foldl_nil, List.append_nil]
  | cons e entries ih =>
    have hlast : ∀ d ∈ m.toList, d.1 < e.1 := fun d hd =>
      (List.pairwise_append.1 h).2.2 d hd e (List.mem_cons_self ..)
    have hinsert : (m.insert e.1 e.2).toList = m.toList ++ [e] :=
      toList_insertBelow_of_forall_lt m e.1 e.2 _ hlast
    rw [List.foldl_cons, ih, hinsert, List.append_assoc, List.singleton_append]
    rwa [hinsert, List.append_assoc, List.singleton_append]

@[simp] theorem ofList_toList (m : SortedMap α none) : ofList m.toList = m :=
  toList_injective (toList_foldl_insert m.toList .nil m.pairwise_toList)

end SortedMap

end Criteria
