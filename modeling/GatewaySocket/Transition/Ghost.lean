import GatewaySocket.Transition.Run

/-!
# Ghosts

What a message was meant for may be more than the message says. `withGhost` runs
a system together with a ghost that notes it down step by step. The system is
not aware of the ghost: every run has its ghost (`exists_run_withGhost`), so what
is proved beside the ghost holds of the system.
-/

namespace Transition

variable {σ α γ : Type*}

/-- Take a step and let the ghost note it. -/
def withGhost (step : σ → α → Option σ) (note : σ → α → γ → γ) (x : σ × γ) (a : α) :
    Option (σ × γ) :=
  (step x.1 a).map fun t => (t, note x.1 a x.2)

variable {step : σ → α → Option σ} {note : σ → α → γ → γ}

theorem withGhost_eq_some_iff {x y : σ × γ} {a : α} :
    withGhost step note x a = some y ↔ step x.1 a = some y.1 ∧ note x.1 a x.2 = y.2 := by
  rw [withGhost, Option.map_eq_some_iff]
  constructor
  · rintro ⟨t, ht, rfl⟩
    exact ⟨ht, rfl⟩
  · rintro ⟨ht, hnote⟩
    exact ⟨y.1, ht, Prod.ext rfl hnote⟩

/-- A condition on the steps of a run is one on its steps with the ghost. -/
theorem allSteps_withGhost {C : σ → α → Prop} {s : σ} {as : List α} (c : γ)
    (h : AllSteps step C s as) :
    AllSteps (withGhost step note) (fun x a => C x.1 a) (s, c) as := by
  induction as generalizing s c with
  | nil => trivial
  | cons a as ih =>
      refine ⟨h.1, fun y hy => ?_⟩
      exact ih y.2 (h.2 y.1 (withGhost_eq_some_iff.mp hy).1)

/-- A run with a ghost is a run. -/
theorem run_of_withGhost {x y : σ × γ} {as : List α}
    (h : run (withGhost step note) x as = some y) : run step x.1 as = some y.1 := by
  induction as generalizing x with
  | nil =>
      obtain rfl : x = y := Option.some.inj h
      rfl
  | cons a as ih =>
      obtain ⟨z, hz, hrest⟩ := run_cons_eq_some.mp h
      exact run_cons_eq_some.mpr ⟨z.1, (withGhost_eq_some_iff.mp hz).1, ih hrest⟩

theorem exists_run_withGhost (c : γ) {s t : σ} {as : List α} (h : run step s as = some t) :
    ∃ d, run (withGhost step note) (s, c) as = some (t, d) := by
  induction as generalizing s c with
  | nil =>
      obtain rfl : s = t := Option.some.inj h
      exact ⟨c, rfl⟩
  | cons a as ih =>
      obtain ⟨u, hu, hrest⟩ := run_cons_eq_some.mp h
      obtain ⟨d, hd⟩ := ih (note s a c) hrest
      exact ⟨d, run_cons_eq_some.mpr ⟨(u, note s a c), withGhost_eq_some_iff.mpr ⟨hu, rfl⟩, hd⟩⟩

end Transition
