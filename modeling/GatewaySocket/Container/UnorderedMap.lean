import Mathlib.Data.List.Induction
import Mathlib.Logic.Function.Basic
import Mathlib.Tactic.Common

/-!
# Maps with lookup

A map is known by what `find` gives for each key. `insert` follows the standard
containers: where the key is present already it changes nothing, so replacing a
value is an `erase` followed by an `insert`.
-/

/-- A map from keys to values, given by its lookup function. -/
@[ext] structure UnorderedMap (K V : Type*) where
  find : K → Option V

namespace UnorderedMap

variable {K V : Type*}

/-- The map without entries. -/
def empty : UnorderedMap K V := ⟨fun _ => none⟩

/-- The key is present. -/
def Has (m : UnorderedMap K V) (k : K) : Prop := (m.find k).isSome

theorem has_iff {m : UnorderedMap K V} {k : K} : m.Has k ↔ ∃ v, m.find k = some v := by
  rw [Has, Option.isSome_iff_exists]

theorem not_has_iff {m : UnorderedMap K V} {k : K} : ¬m.Has k ↔ m.find k = none := by
  simp [Has]

instance (m : UnorderedMap K V) (k : K) : Decidable (m.Has k) :=
  inferInstanceAs (Decidable ((m.find k).isSome = true))

variable [DecidableEq K]

/-- Remove the entry of `k`, if there is one. -/
def erase (m : UnorderedMap K V) (k : K) : UnorderedMap K V :=
  ⟨Function.update m.find k none⟩

/-- Overwrite the value of `k` in place. -/
def set (m : UnorderedMap K V) (k : K) (v : V) : UnorderedMap K V :=
  ⟨Function.update m.find k (some v)⟩

/-- Add an entry for `k` unless there is one. -/
def insert (m : UnorderedMap K V) (k : K) (v : V) : UnorderedMap K V :=
  if (m.find k).isSome then m else m.set k v

theorem find_erase (m : UnorderedMap K V) (k k' : K) :
    (m.erase k).find k' = if k' = k then none else m.find k' := by
  simp [erase, Function.update_apply]

theorem find_set (m : UnorderedMap K V) (k : K) (v : V) (k' : K) :
    (m.set k v).find k' = if k' = k then some v else m.find k' := by
  simp [set, Function.update_apply]

theorem insert_of_find_eq_none {m : UnorderedMap K V} {k : K} (v : V)
    (h : m.find k = none) : m.insert k v = m.set k v := by
  simp [insert, h]

/-- An `erase` followed by an `insert` replaces the value. -/
theorem find_insert_erase (m : UnorderedMap K V) (k : K) (v : V) (k' : K) :
    ((m.erase k).insert k v).find k' = if k' = k then some v else m.find k' := by
  have hnone : (m.erase k).find k = none := by simp [find_erase]
  rw [insert_of_find_eq_none v hnone, find_set, find_erase]
  split <;> rfl

theorem erase_eq_self {m : UnorderedMap K V} {k : K} (h : m.find k = none) :
    m.erase k = m := by
  ext1
  funext k'
  rw [find_erase]
  split
  · next hk => rw [hk, h]
  · rfl

/-! ## Batches

A batch of requests that each overwrite or remove one entry is decided, for a
key, by the last request that names it. -/

section Batch

variable {α : Type*} {step : UnorderedMap K V → α → UnorderedMap K V} {key : α → K}
  {val : α → Option V}

theorem find_foldl
    (hstep : ∀ m a k, (step m a).find k = if k = key a then val a else m.find k)
    (m : UnorderedMap K V) (as : List α) (k : K) :
    (as.foldl step m).find k =
      ((as.filter fun a => key a = k).getLast?.map val).getD (m.find k) := by
  induction as using List.reverseRecOn with
  | nil => rfl
  | append_singleton as a ih =>
      rw [List.foldl_append, List.foldl_cons, List.foldl_nil, hstep, List.filter_append]
      by_cases hk : k = key a
      · simp [hk]
      · simp [hk, Ne.symm hk, ih]

theorem find_foldl_of_unnamed
    (hstep : ∀ m a k, (step m a).find k = if k = key a then val a else m.find k)
    (m : UnorderedMap K V) {as : List α} {k : K} (h : ∀ a ∈ as, key a ≠ k) :
    (as.foldl step m).find k = m.find k := by
  have hnone : (as.filter fun a => key a = k) = [] := by simpa using h
  rw [find_foldl hstep, hnone]
  rfl

/-- The last request that names a key is one of the batch. -/
theorem find_foldl_of_named
    (hstep : ∀ m a k, (step m a).find k = if k = key a then val a else m.find k)
    (m : UnorderedMap K V) {as : List α} {k : K} (h : ∃ a ∈ as, key a = k) :
    ∃ a ∈ as, key a = k ∧ (as.foldl step m).find k = val a := by
  obtain ⟨b, hb, hkey⟩ := h
  have hmem : b ∈ as.filter fun a => key a = k := by simp [hb, hkey]
  have hlast : (as.filter fun a => key a = k).getLast? =
      some ((as.filter fun a => key a = k).getLast (List.ne_nil_of_mem hmem)) :=
    List.getLast?_eq_some_getLast _
  have hin := List.getLast_mem (List.ne_nil_of_mem hmem)
  rw [List.mem_filter, decide_eq_true_eq] at hin
  refine ⟨_, hin.1, hin.2, ?_⟩
  rw [find_foldl hstep, hlast]
  rfl

end Batch

end UnorderedMap
