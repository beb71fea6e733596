import Mathlib.Data.List.Nodup
import Mathlib.Tactic.Common

/-!
# Keyed tables

A table is a list of rows in which no two have the same key; the structure
carries this as a field. `update` rewrites the rows that meet a condition and
leaves the keys as they are, so its effect is known row by row: `row_update`
gives the row of each key afterwards.
-/

/-- A table of rows, no two of which have the same `key`. -/
structure KeyedTable (ρ : Type*) {K : Type*} (key : ρ → K) where
  rows : List ρ
  keyed : (rows.map key).Nodup

namespace KeyedTable

variable {ρ K : Type*} {key : ρ → K}

theorem eq_of_key_eq (t : KeyedTable ρ key) {r s : ρ} (hr : r ∈ t.rows) (hs : s ∈ t.rows)
    (h : key r = key s) : r = s :=
  List.inj_on_of_nodup_map t.keyed hr hs h

/-- Rewriting some of the rows leaves the keys as they are. -/
theorem map_key_ite {p : ρ → Bool} {f : ρ → ρ} (hf : ∀ r, key (f r) = key r) (rows : List ρ) :
    (rows.map fun r => if p r then f r else r).map key = rows.map key := by
  have hkeys : key ∘ (fun r => if p r then f r else r) = key := by
    funext r
    simp only [Function.comp_apply]
    split
    · exact hf r
    · rfl
  rw [List.map_map, hkeys]

/-- Apply `f`, which keeps the key, to the rows that meet `p`. -/
def update (t : KeyedTable ρ key) (p : ρ → Bool) (f : ρ → ρ) (hf : ∀ r, key (f r) = key r) :
    KeyedTable ρ key where
  rows := t.rows.map fun r => if p r then f r else r
  keyed := by
    rw [map_key_ite hf]
    exact t.keyed

variable {p : ρ → Bool} {f : ρ → ρ} {hf : ∀ r, key (f r) = key r}

@[simp] theorem map_key_update (t : KeyedTable ρ key) :
    (t.update p f hf).rows.map key = t.rows.map key :=
  map_key_ite hf t.rows

theorem mem_update {t : KeyedTable ρ key} {s : ρ} :
    s ∈ (t.update p f hf).rows ↔ ∃ r ∈ t.rows, (if p r then f r else r) = s :=
  List.mem_map

/-- An update that rewrites each row to itself changes nothing. -/
theorem update_eq_self {t : KeyedTable ρ key} (h : ∀ r ∈ t.rows, p r = true → f r = r) :
    t.update p f hf = t := by
  obtain ⟨rows, keyed⟩ := t
  have hrows : (rows.map fun r => if p r then f r else r) = rows := by
    conv_rhs => rw [← List.map_id rows]
    apply List.map_congr_left
    intro r hr
    split
    · next hp => exact h r hr hp
    · rfl
  simp only [update, hrows]

variable [DecidableEq K]

/-- The row with the key, if there is one. -/
def row (t : KeyedTable ρ key) (k : K) : Option ρ := t.rows.find? fun r => key r = k

theorem row_eq_some_iff {t : KeyedTable ρ key} {k : K} {r : ρ} :
    t.row k = some r ↔ r ∈ t.rows ∧ key r = k := by
  constructor
  · intro h
    exact ⟨List.mem_of_find?_eq_some h, by simpa using List.find?_some h⟩
  · rintro ⟨hr, rfl⟩
    cases hfind : t.row (key r) with
    | none => simpa using List.find?_eq_none.mp hfind r hr
    | some s =>
        have hkey : key s = key r := by simpa using List.find?_some hfind
        rw [t.eq_of_key_eq (List.mem_of_find?_eq_some hfind) hr hkey]

theorem row_key {t : KeyedTable ρ key} {r : ρ} (hr : r ∈ t.rows) : t.row (key r) = some r :=
  row_eq_some_iff.mpr ⟨hr, rfl⟩

theorem row_eq_none_iff {t : KeyedTable ρ key} {k : K} :
    t.row k = none ↔ ∀ r ∈ t.rows, key r ≠ k := by
  rw [row, List.find?_eq_none]
  simp

/-- An update acts on each row by itself. -/
theorem row_update (t : KeyedTable ρ key) (k : K) :
    (t.update p f hf).row k = (t.row k).map fun r => if p r then f r else r := by
  have hkey : ∀ r, key (if p r then f r else r) = key r := by
    intro r
    split
    · exact hf r
    · rfl
  cases hrow : t.row k with
  | none =>
      rw [Option.map_none, row_eq_none_iff]
      intro s hs
      obtain ⟨r, hr, rfl⟩ := mem_update.mp hs
      rw [hkey]
      exact row_eq_none_iff.mp hrow r hr
  | some r =>
      obtain ⟨hr, rfl⟩ := row_eq_some_iff.mp hrow
      rw [Option.map_some, row_eq_some_iff]
      exact ⟨mem_update.mpr ⟨r, hr, rfl⟩, hkey r⟩

end KeyedTable
