import Mathlib.Tactic.Common

/-!
# Runs of a labelled transition

A system is given by `step : σ → α → Option σ`: in a state it either takes an
action and moves on, or the action is not possible there. `run` takes a list of
actions one after the other. The action carries whatever the system does not
decide itself (what a device delivers, the clock, which of several rows a query
puts first), so every behaviour is the run of some list.

Three induction rules cover the invariants of runs: `run_induction` for an
invariant every step keeps, `run_induction_of_allSteps` for one that is kept by
the steps that meet a condition, and `history_induction` for an invariant that
speaks about the steps taken so far.
-/

namespace Transition

variable {σ α : Type*}

/-- Take the actions one after the other, from the state `s`. -/
def run (step : σ → α → Option σ) : σ → List α → Option σ
  | s, [] => some s
  | s, a :: as => (step s a).bind fun t => run step t as

@[simp] theorem run_nil (step : σ → α → Option σ) (s : σ) : run step s [] = some s := rfl

theorem run_cons (step : σ → α → Option σ) (s : σ) (a : α) (as : List α) :
    run step s (a :: as) = (step s a).bind fun t => run step t as := rfl

theorem run_cons_eq_some {step : σ → α → Option σ} {s u : σ} {a : α} {as : List α} :
    run step s (a :: as) = some u ↔ ∃ t, step s a = some t ∧ run step t as = some u := by
  rw [run_cons, Option.bind_eq_some_iff]

theorem run_append_eq_some {step : σ → α → Option σ} {s u : σ} {as bs : List α} :
    run step s (as ++ bs) = some u ↔ ∃ t, run step s as = some t ∧ run step t bs = some u := by
  induction as generalizing s with
  | nil => simp
  | cons a as ih =>
      simp only [List.cons_append, run_cons_eq_some, ih]
      constructor
      · rintro ⟨t, ht, v, has, hbs⟩
        exact ⟨v, ⟨t, ht, has⟩, hbs⟩
      · rintro ⟨v, ⟨t, ht, has⟩, hbs⟩
        exact ⟨t, ht, v, has, hbs⟩

/-- What every step keeps, every run keeps. -/
theorem run_induction {step : σ → α → Option σ} {P : σ → Prop}
    (hstep : ∀ s a t, P s → step s a = some t → P t) :
    ∀ {as : List α} {s t : σ}, P s → run step s as = some t → P t
  | [], s, t, hs, hrun => by
      obtain rfl : s = t := Option.some.inj hrun
      exact hs
  | a :: as, s, t, hs, hrun => by
      obtain ⟨u, hu, hrest⟩ := run_cons_eq_some.mp hrun
      exact run_induction hstep (hstep s a u hs hu) hrest

/-- Every step of the run meets `C` in the state it is taken in. -/
def AllSteps (step : σ → α → Option σ) (C : σ → α → Prop) : σ → List α → Prop
  | _, [] => True
  | s, a :: as => C s a ∧ ∀ t, step s a = some t → AllSteps step C t as

theorem AllSteps.mono {step : σ → α → Option σ} {C D : σ → α → Prop}
    (hCD : ∀ s a, C s a → D s a) :
    ∀ {as : List α} {s : σ}, AllSteps step C s as → AllSteps step D s as
  | [], _, _ => trivial
  | _ :: _, _, h => ⟨hCD _ _ h.1, fun t ht => AllSteps.mono hCD (h.2 t ht)⟩

/-- A condition on the actions alone is met by a list of actions that meet it. -/
theorem allSteps_of_forall_mem {step : σ → α → Option σ} {C : σ → α → Prop} :
    ∀ {as : List α} {s : σ}, (∀ a ∈ as, ∀ s, C s a) → AllSteps step C s as
  | [], _, _ => trivial
  | a :: _, s, h =>
      ⟨h a List.mem_cons_self s, fun _ _ =>
        allSteps_of_forall_mem fun b hb => h b (List.mem_cons_of_mem a hb)⟩

theorem AllSteps.and {step : σ → α → Option σ} {C D : σ → α → Prop} :
    ∀ {as : List α} {s : σ}, AllSteps step C s as → AllSteps step D s as →
      AllSteps step (fun s a => C s a ∧ D s a) s as
  | [], _, _, _ => trivial
  | _ :: _, _, hC, hD => ⟨⟨hC.1, hD.1⟩, fun t ht => AllSteps.and (hC.2 t ht) (hD.2 t ht)⟩

/-- What the steps that meet `C` keep, every run of such steps keeps. -/
theorem run_induction_of_allSteps {step : σ → α → Option σ} {C : σ → α → Prop}
    {P : σ → Prop} (hstep : ∀ s a t, P s → C s a → step s a = some t → P t) :
    ∀ {as : List α} {s t : σ}, P s → AllSteps step C s as → run step s as = some t → P t
  | [], s, t, hs, _, hrun => by
      obtain rfl : s = t := Option.some.inj hrun
      exact hs
  | a :: as, s, t, hs, hall, hrun => by
      obtain ⟨u, hu, hrest⟩ := run_cons_eq_some.mp hrun
      exact run_induction_of_allSteps hstep (hstep s a u hs hall.1 hu) (hall.2 u hu) hrest

/-- The steps of a run: each action with the state it was taken in. -/
def history (step : σ → α → Option σ) : σ → List α → List (σ × α)
  | _, [] => []
  | s, a :: as =>
      (s, a) :: match step s a with
        | some t => history step t as
        | none => []

@[simp] theorem history_nil (step : σ → α → Option σ) (s : σ) : history step s [] = [] := rfl

theorem history_cons {step : σ → α → Option σ} {s t : σ} {a : α} {as : List α}
    (ht : step s a = some t) : history step s (a :: as) = (s, a) :: history step t as := by
  simp [history, ht]

theorem history_append {step : σ → α → Option σ} {s t : σ} {as : List α} (bs : List α)
    (hrun : run step s as = some t) :
    history step s (as ++ bs) = history step s as ++ history step t bs := by
  induction as generalizing s with
  | nil =>
      obtain rfl : s = t := Option.some.inj hrun
      rfl
  | cons a as ih =>
      obtain ⟨u, hu, hrest⟩ := run_cons_eq_some.mp hrun
      rw [List.cons_append, history_cons hu, history_cons hu, ih hrest, List.cons_append]

/-- The condition on the steps of a run is one on its history. -/
theorem allSteps_of_history {step : σ → α → Option σ} {C : σ → α → Prop} {as : List α} {s : σ}
    (h : ∀ x ∈ history step s as, C x.1 x.2) : AllSteps step C s as := by
  induction as generalizing s with
  | nil => trivial
  | cons a as ih =>
      refine ⟨h (s, a) List.mem_cons_self, fun t ht => ih fun x hx => h x ?_⟩
      rw [history_cons ht]
      exact List.mem_cons_of_mem _ hx

/-- An invariant of the past and the present: it holds with no past, and every
step keeps it while adding itself to the past. -/
theorem history_induction {step : σ → α → Option σ} {P : List (σ × α) → σ → Prop}
    (hstep : ∀ h s a t, P h s → step s a = some t → P (h ++ [(s, a)]) t) {s t : σ}
    {as : List α} (hs : P [] s) (hrun : run step s as = some t) :
    P (history step s as) t := by
  suffices hgen : ∀ (as : List α) (h : List (σ × α)) (s : σ), P h s →
      run step s as = some t → P (h ++ history step s as) t by
    simpa using hgen as [] s hs hrun
  intro as
  induction as with
  | nil =>
      intro h s hs hrun
      obtain rfl : s = t := Option.some.inj hrun
      simpa using hs
  | cons a as ih =>
      intro h s hs hrun
      obtain ⟨u, hu, hrest⟩ := run_cons_eq_some.mp hrun
      have hnext := ih (h ++ [(s, a)]) u (hstep h s a u hs hu) hrest
      rw [history_cons hu]
      simpa using hnext

/-- Every step of the history was taken. -/
theorem step_of_mem_history {step : σ → α → Option σ} {s t : σ} {as : List α} {x : σ × α}
    (hrun : run step s as = some t) (hx : x ∈ history step s as) : ∃ u, step x.1 x.2 = some u := by
  refine history_induction (P := fun h _ => ∀ x ∈ h, ∃ u, step x.1 x.2 = some u)
    (fun h m a u htaken hu y hy => ?_) (fun _ => nofun) hrun x hx
  rcases List.mem_append.mp hy with hold | hnew
  · exact htaken y hold
  · obtain rfl := List.mem_singleton.mp hnew
    exact ⟨u, hu⟩

theorem map_snd_history {step : σ → α → Option σ} {s t : σ} {as : List α}
    (hrun : run step s as = some t) : (history step s as).map Prod.snd = as := by
  induction as generalizing s with
  | nil => rfl
  | cons a as ih =>
      obtain ⟨u, hu, hrest⟩ := run_cons_eq_some.mp hrun
      rw [history_cons hu, List.map_cons, ih hrest]

/-- An invariant of the past actions and the present, kept by every step. -/
theorem run_induction_snoc {step : σ → α → Option σ} {P : List α → σ → Prop}
    (hstep : ∀ as s a t, P as s → step s a = some t → P (as ++ [a]) t) {s t : σ}
    {as : List α} (hs : P [] s) (hrun : run step s as = some t) : P as t := by
  have hpast : P ((history step s as).map Prod.snd) t := by
    refine history_induction (P := fun h t => P (h.map Prod.snd) t) (fun h s a t hp ht => ?_) hs hrun
    rw [List.map_append]
    exact hstep _ s a t hp ht
  rwa [map_snd_history hrun] at hpast

end Transition
