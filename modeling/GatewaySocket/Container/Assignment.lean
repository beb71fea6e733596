import Mathlib.Data.List.Perm.Subperm
import Mathlib.Logic.Function.Basic
import Mathlib.Tactic.Common

/-!
# Exclusive assignments

Holders are assigned resources, each holder at most one. An assignment is
exclusive if no resource has two holders. Giving out a resource nobody else
holds keeps it so, and so does taking one away from everybody; moving a resource
to a new holder is the one after the other.
-/

/-- What each holder holds. -/
abbrev Assignment (H R : Type*) := H → Option R

namespace Assignment

variable {H R : Type*} {a : Assignment H R} {h : H} {r : R}

/-- No resource has two holders. -/
def Exclusive (a : Assignment H R) : Prop :=
  ∀ h h' r, a h = some r → a h' = some r → h = h'

/-- Nobody holds the resource. -/
def Free (a : Assignment H R) (r : R) : Prop := ∀ h, a h ≠ some r

/-- Where the resources of a pool go to as many holders at most, one of whom has
nothing, not all of the pool is given out. -/
theorem exists_free {pool : List R} {holders : List H} (hpool : pool.Nodup)
    (hholders : ∀ k, ∀ r ∈ pool, a k = some r → k ∈ holders)
    (hlength : holders.length ≤ pool.length) (hmem : h ∈ holders) (hnone : a h = none) :
    ∃ r ∈ pool, a.Free r := by
  by_contra hall
  have hsub : pool ⊆ holders.filterMap a := by
    intro r hr
    by_contra hr'
    refine hall ⟨r, hr, fun k hk => hr' ?_⟩
    exact List.mem_filterMap.mpr ⟨k, hholders k r hr hk, hk⟩
  have hle : pool.length ≤ (holders.filterMap a).length := (hpool.subperm hsub).length_le
  have hlt : (holders.filterMap a).length < holders.length :=
    List.length_filterMap_lt_length_iff_exists.mpr ⟨h, hmem, hnone⟩
  omega

section Revoke

variable [DecidableEq R]

/-- Take the resource away from whoever holds it. -/
def revoke (a : Assignment H R) (r : R) : Assignment H R := fun h =>
  if a h = some r then none else a h

theorem revoke_eq_some_iff {r' : R} : a.revoke r h = some r' ↔ a h = some r' ∧ r' ≠ r := by
  unfold revoke
  split
  · next heq => simp [heq, eq_comm]
  · next hne =>
      constructor
      · intro heq
        exact ⟨heq, fun hr => hne (hr ▸ heq)⟩
      · exact And.left

theorem free_revoke (a : Assignment H R) (r : R) : (a.revoke r).Free r := by
  intro h heq
  exact (revoke_eq_some_iff.mp heq).2 rfl

theorem Exclusive.revoke (ha : a.Exclusive) (r : R) : (a.revoke r).Exclusive := by
  intro h h' r' heq heq'
  exact ha h h' r' (revoke_eq_some_iff.mp heq).1 (revoke_eq_some_iff.mp heq').1

end Revoke

section Give

variable [DecidableEq H]

/-- Let `h` hold `r`, in place of what it held before. -/
def give (a : Assignment H R) (h : H) (r : R) : Assignment H R :=
  Function.update a h (some r)

theorem give_apply (a : Assignment H R) (h : H) (r : R) (h' : H) :
    a.give h r h' = if h' = h then some r else a h' :=
  Function.update_apply a h (some r) h'

theorem give_eq_self (heq : a h = some r) : a.give h r = a := by
  rw [give, ← heq, Function.update_eq_self]

theorem Exclusive.give (ha : a.Exclusive) (hfree : a.Free r) : (a.give h r).Exclusive := by
  intro k k' r' heq heq'
  rw [give_apply] at heq heq'
  split at heq
  · next hk =>
      obtain rfl := Option.some.inj heq
      split at heq'
      · next hk' => rw [hk, hk']
      · exact absurd heq' (hfree k')
  · split at heq'
    · obtain rfl := Option.some.inj heq'
      exact absurd heq (hfree k)
    · exact ha k k' r' heq heq'

/-- Moving a resource to a new holder keeps an assignment exclusive. -/
theorem Exclusive.transfer [DecidableEq R] (ha : a.Exclusive) (h : H) (r : R) :
    ((a.revoke r).give h r).Exclusive :=
  (ha.revoke r).give (free_revoke a r)

end Give

end Assignment
