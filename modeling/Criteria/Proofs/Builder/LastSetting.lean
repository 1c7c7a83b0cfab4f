import Criteria.SortedMap
import Mathlib.Tactic.Lemma

/-!
# The last settings count

Steps that each set one key of a map, or none, are taken one after the other. What the map holds in
the end is told by the steps alone: each key has the value that the last step for it gave
(`find?_setAll`), so a property of all entries is a property of the last steps (`all_setAll`).
-/

namespace Criteria

variable {σ : Type}

/-! ### Last steps -/

/-- The last of some steps that sets a key. -/
def lastSetting? (key? : σ → Option String) (key : String) (steps : List σ) : Option σ :=
  steps.reverse.find? fun step => key? step = some key

/-- Whether a step sets a key that none of the later steps sets. -/
def stands (key? : σ → Option String) (step : σ) (later : List σ) : Bool :=
  (key? step).any fun key => later.all fun other => key? other ≠ some key

/-- Whether every step holds that sets a key for the last time. -/
def standingHold (key? : σ → Option String) (holds : σ → Bool) : List σ → Bool
  | [] => true
  | step :: steps =>
    (!stands key? step steps || holds step) && standingHold key? holds steps

section

variable {key? : σ → Option String} {key : String} {step : σ} {steps : List σ}

@[simp] lemma lastSetting?_nil : lastSetting? key? key [] = none := rfl

lemma lastSetting?_cons : lastSetting? key? key (step :: steps) =
    (lastSetting? key? key steps).or (if key? step = some key then some step else none) := by
  rw [lastSetting?, lastSetting?, List.reverse_cons, List.find?_append, List.find?_singleton]
  simp

lemma mem_of_lastSetting? (h : lastSetting? key? key steps = some step) : step ∈ steps :=
  List.mem_reverse.1 (List.mem_of_find?_eq_some h)

lemma lastSetting?_eq_none_iff :
    lastSetting? key? key steps = none ↔ ∀ other ∈ steps, key? other ≠ some key := by
  simp [lastSetting?]

lemma stands_iff : stands key? step steps = true ↔
    ∃ key, key? step = some key ∧ lastSetting? key? key steps = none := by
  rw [stands, Option.any_eq_true]
  refine exists_congr fun key => and_congr_right fun _ => ?_
  rw [List.all_eq_true, lastSetting?_eq_none_iff]
  simp

/-- The steps that hold are, for each key, the last ones. -/
lemma standingHold_iff {holds : σ → Bool} : standingHold key? holds steps = true ↔
    ∀ key, ∀ step ∈ lastSetting? key? key steps, holds step = true := by
  induction steps with
  | nil => simp [standingHold]
  | cons step steps ih =>
    rw [standingHold, Bool.and_eq_true, ih, Bool.or_eq_true, Bool.not_eq_true']
    constructor
    · rintro ⟨hstep, hsteps⟩ key other hother
      rw [lastSetting?_cons, Option.mem_def, Option.or_eq_some_iff] at hother
      -- a later step for the key comes before the first one, which counts if there is none
      rcases hother with hlater | ⟨hnone, hself⟩
      · exact hsteps key other hlater
      · obtain ⟨hkey, rfl⟩ : key? step = some key ∧ step = other := by simpa using hself
        have hstands : stands key? step steps = true := stands_iff.2 ⟨key, hkey, hnone⟩
        rcases hstep with hnot | hholds
        · rw [hstands] at hnot
          cases hnot
        · exact hholds
    · intro hall
      refine ⟨?_, fun key other hother => hall key other ?_⟩
      · cases hstands : stands key? step steps with
        | false => exact .inl rfl
        | true =>
          obtain ⟨key, hkey, hnone⟩ := stands_iff.1 hstands
          refine .inr (hall key step ?_)
          rw [lastSetting?_cons, hnone, if_pos hkey]
          rfl
      · rw [Option.mem_def] at hother ⊢
        rw [lastSetting?_cons, hother, Option.some_or]

end

/-! ### Setting the keys of a map -/

namespace SortedMap

variable {α : Type}

/-- Sets a key, if there is something to set. -/
def setSome (m : SortedMap α none) : Option (String × α) → SortedMap α none
  | some (key, value) => m.insert key value
  | none => m

/-- Takes steps in order, each of which may set a key. -/
def setAll (setting? : σ → Option (String × α)) (m : SortedMap α none) (steps : List σ) :
    SortedMap α none :=
  steps.foldl (fun m step => m.setSome (setting? step)) m

variable {setting? : σ → Option (String × α)} {m : SortedMap α none} {key : String} {steps : List σ}

lemma setAll_cons {step : σ} :
    setAll setting? m (step :: steps) = setAll setting? (m.setSome (setting? step)) steps := rfl

/-- The key that a step sets. -/
abbrev keyOf (setting? : σ → Option (String × α)) (step : σ) : Option String :=
  (setting? step).map Prod.fst

lemma find?_setSome {setting : Option (String × α)} : (m.setSome setting).find? key =
    if setting.map Prod.fst = some key then setting.map Prod.snd else m.find? key := by
  match setting with
  | none => rfl
  | some (k, v) =>
    simp only [setSome, Option.map_some, Option.some.injEq]
    by_cases h : k = key
    · subst h
      rw [if_pos rfl, find?_insert_self]
    · rw [if_neg h, find?_insert_of_ne m v h]

/-- A key has the value that the last step for it gave, or the one that it had before. -/
lemma find?_setAll : (setAll setting? m steps).find? key =
    (lastSetting? (keyOf setting?) key steps).elim (m.find? key) fun step =>
      (setting? step).map Prod.snd := by
  -- for any map at the start, as each step leaves another one
  induction steps generalizing m with
  | nil => rfl
  | cons step steps ih =>
    rw [setAll_cons, ih, lastSetting?_cons]
    cases lastSetting? (keyOf setting?) key steps with
    | some later => rfl
    | none =>
      rw [find?_setSome, Option.none_or, Option.elim_none]
      by_cases h : keyOf setting? step = some key
      · rw [if_pos h, if_pos h, Option.elim_some]
      · rw [if_neg h, if_neg h, Option.elim_none]

lemma mem_toList_setSome {setting : Option (String × α)} {e : String × α}
    (he : e ∈ (m.setSome setting).toList) : setting = some e ∨ e ∈ m.toList := by
  match setting with
  | none => exact .inr he
  | some (k, v) => exact (mem_toList_insert he).imp_left fun heq => congrArg some heq.symm

lemma mem_toList_setAll {e : String × α} (he : e ∈ (setAll setting? m steps).toList) :
    e ∈ m.toList ∨ ∃ step ∈ steps, setting? step = some e := by
  induction steps generalizing m with
  | nil => exact .inl he
  | cons step steps ih =>
    rcases ih he with he | ⟨other, hother, hset⟩
    · rcases mem_toList_setSome he with hset | he
      · exact .inr ⟨step, List.mem_cons_self .., hset⟩
      · exact .inl he
    · exact .inr ⟨other, List.mem_cons_of_mem _ hother, hset⟩

lemma isEmpty_setAll : (setAll setting? m steps).isEmpty =
    (m.isEmpty && steps.all fun step => (setting? step).isNone) := by
  induction steps generalizing m with
  | nil => simp [setAll]
  | cons step steps ih =>
    rw [setAll_cons, ih, List.all_cons]
    match setting? step with
    | none => rfl
    | some (k, v) => simp [setSome, isEmpty_insert]

/-- What the last steps set are the entries of the map. -/
lemma mem_toList_setAll_nil_iff {e : String × α} : e ∈ (setAll setting? nil steps).toList ↔
    ∃ step, lastSetting? (keyOf setting?) e.1 steps = some step ∧ setting? step = some e := by
  obtain ⟨key, value⟩ := e
  rw [mem_toList_iff, find?_setAll]
  cases hlast : lastSetting? (keyOf setting?) key steps with
  | none => simp
  | some step =>
    have hkey : keyOf setting? step = some key := by simpa using List.find?_some hlast
    -- a step is the last one for the key that it sets itself
    obtain ⟨⟨k, v⟩, hset, rfl⟩ := Option.map_eq_some_iff.1 hkey
    simp [hset]

/-- A test passes for every entry of a map that was set step by step exactly if every last step
holds, when a step holds exactly if what it sets passes. -/
lemma all_setAll {test : String → α → Bool} {holds : σ → Bool}
    (h : ∀ step ∈ steps, ∀ e, setting? step = some e → test e.1 e.2 = holds step) :
    ((setAll setting? nil steps).toList.all fun e => test e.1 e.2) =
      standingHold (keyOf setting?) holds steps := by
  rw [Bool.eq_iff_iff, List.all_eq_true, standingHold_iff]
  constructor
  · intro hall key step hlast
    have hkey : keyOf setting? step = some key := by simpa using List.find?_some hlast
    obtain ⟨e, hset, rfl⟩ := Option.map_eq_some_iff.1 hkey
    rw [← h step (mem_of_lastSetting? hlast) e hset]
    exact hall e (mem_toList_setAll_nil_iff.2 ⟨step, hlast, hset⟩)
  · intro hlast e he
    obtain ⟨step, hstep, hset⟩ := mem_toList_setAll_nil_iff.1 he
    rw [h step (mem_of_lastSetting? hstep) e hset]
    exact hlast e.1 step hstep

end SortedMap

end Criteria
