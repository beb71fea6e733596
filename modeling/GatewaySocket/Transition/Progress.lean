import GatewaySocket.Transition.Run

/-!
# Progress by a rank

Some of the actions are those of a party that one waits for. If each of them that is
not yet the one waited for lowers a rank, and the others do not raise it, then the
party gets there after as many actions of its own as the rank says, whatever happens
in between.
-/

namespace Transition

variable {σ α : Type*} {step : σ → α → Option σ} (own : α → Prop) (goal : α → Prop)
  (rank : σ → ℕ) {W : σ → Prop}

/-- While one waits, `W` holds. -/
theorem exists_goal_of_rank [DecidablePred own]
    (hown : ∀ s a t, W s → step s a = some t → own a → ¬goal a → W t ∧ rank t < rank s)
    (hother : ∀ s a t, W s → step s a = some t → ¬own a → ¬goal a → W t ∧ rank t ≤ rank s)
    {as : List α} {s t : σ} (hs : W s) (hrun : run step s as = some t)
    (hmany : rank s < as.countP fun a => own a) :
    ∃ x ∈ history step s as, W x.1 ∧ goal x.2 := by
  induction as generalizing s with
  | nil => exact absurd hmany (Nat.not_lt_zero _)
  | cons a as ih =>
      obtain ⟨u, hu, hrest⟩ := run_cons_eq_some.mp hrun
      rw [history_cons hu]
      by_cases hgoal : goal a
      · exact ⟨(s, a), List.mem_cons_self, hs, hgoal⟩
      have hlater : W u ∧ rank u < as.countP fun a => own a := by
        by_cases ha : own a
        · obtain ⟨hW, hlt⟩ := hown s a u hs hu ha hgoal
          rw [List.countP_cons_of_pos (by simpa using ha)] at hmany
          exact ⟨hW, by omega⟩
        · obtain ⟨hW, hle⟩ := hother s a u hs hu ha hgoal
          rw [List.countP_cons_of_neg (by simpa using ha)] at hmany
          exact ⟨hW, Nat.lt_of_le_of_lt hle hmany⟩
      obtain ⟨x, hx, hgoal'⟩ := ih hlater.1 hrest hlater.2
      exact ⟨x, List.mem_cons_of_mem _ hx, hgoal'⟩

end Transition
