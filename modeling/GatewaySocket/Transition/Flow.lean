import GatewaySocket.Transition.Run
import Mathlib.Data.List.Forall2

/-!
# What flows through a system

Each step takes something in at one end, passes something on at the other, and
holds the rest in order. Over a run nothing is lost, added or reordered: what was
held before and what was taken in since is what was passed on followed by what is
held now.
-/

namespace Transition

variable {σ α β γ : Type*} {step : σ → α → Option σ}

/-- The step holds back what it takes in and does not pass on, in order. -/
def Conserves (step : σ → α → Option σ) (held : σ → List β) (into out : σ × α → List β) : Prop :=
  ∀ s a t, step s a = some t → held s ++ into (s, a) = out (s, a) ++ held t

theorem Conserves.run {held : σ → List β} {into out : σ × α → List β}
    (h : Conserves step held into out) {as : List α} {s t : σ} (hrun : run step s as = some t) :
    held s ++ (history step s as).flatMap into = (history step s as).flatMap out ++ held t := by
  induction as generalizing s with
  | nil =>
      obtain rfl : s = t := Option.some.inj hrun
      simp
  | cons a as ih =>
      obtain ⟨u, hu, hrest⟩ := run_cons_eq_some.mp hrun
      rw [history_cons hu, List.flatMap_cons, List.flatMap_cons, ← List.append_assoc, h s a u hu,
        List.append_assoc, ih hrest, List.append_assoc]

/-- The part of what flows through that a filter lets pass flows through as well. -/
theorem Conserves.filterMap {held : σ → List β} {into out : σ × α → List β}
    (h : Conserves step held into out) (f : β → Option γ) :
    Conserves step (fun s => (held s).filterMap f) (fun x => (into x).filterMap f)
      fun x => (out x).filterMap f := by
  intro s a t ht
  rw [← List.filterMap_append, h s a t ht, List.filterMap_append]

/-- Two stages in a row. -/
theorem Conserves.comp {held held' : σ → List β} {into mid out : σ × α → List β}
    (h : Conserves step held into mid) (h' : Conserves step held' mid out) :
    Conserves step (fun s => held' s ++ held s) into out := by
  intro s a t ht
  rw [List.append_assoc, h s a t ht, ← List.append_assoc, h' s a t ht, List.append_assoc]

/-- Only what the steps of a run take in matters. -/
theorem Conserves.congr_into {held : σ → List β} {into into' out : σ × α → List β}
    (h : Conserves step held into out)
    (hinto : ∀ s a t, step s a = some t → into' (s, a) = into (s, a)) :
    Conserves step held into' out := by
  intro s a t ht
  rw [hinto s a t ht, h s a t ht]

/-- What the steps of a run have in common the run has. -/
theorem flatMap_history_congr {f g : σ × α → List β}
    (hfg : ∀ s a t, step s a = some t → f (s, a) = g (s, a)) {as : List α} {s t : σ}
    (hrun : run step s as = some t) :
    (history step s as).flatMap f = (history step s as).flatMap g := by
  induction as generalizing s with
  | nil => rfl
  | cons a as ih =>
      obtain ⟨u, hu, hrest⟩ := run_cons_eq_some.mp hrun
      rw [history_cons hu, List.flatMap_cons, List.flatMap_cons, hfg s a u hu, ih hrest]

/-! ## What comes out for what was taken in

`List.SublistForall₂ R outs ins` says that everything that came out is owed to
something that was taken in, in the same order and each to one of its own. -/

section

variable {R : β → γ → Prop} {outs outs' : List β} {ins ins' : List γ}

theorem sublistForall₂_append (h : List.SublistForall₂ R outs ins)
    (h' : List.SublistForall₂ R outs' ins') :
    List.SublistForall₂ R (outs ++ outs') (ins ++ ins') := by
  obtain ⟨owed, howed, hsub⟩ := List.sublistForall₂_iff.mp h
  obtain ⟨owed', howed', hsub'⟩ := List.sublistForall₂_iff.mp h'
  exact List.sublistForall₂_iff.mpr ⟨owed ++ owed', List.rel_append howed howed', hsub.append hsub'⟩

/-- A stage that answers each thing on its own keeps the order. -/
theorem sublistForall₂_flatMap {l : List α} {f : α → List β} {g : α → List γ}
    (h : ∀ a ∈ l, List.SublistForall₂ R (f a) (g a)) :
    List.SublistForall₂ R (l.flatMap f) (l.flatMap g) := by
  induction l with
  | nil => exact .nil
  | cons a l ih =>
      rw [List.flatMap_cons, List.flatMap_cons]
      exact sublistForall₂_append (h a List.mem_cons_self)
        (ih fun b hb => h b (List.mem_cons_of_mem a hb))

/-- Outputs that are owed to inputs may be left out, and further inputs added. -/
theorem sublistForall₂_of_sublist (h : List.SublistForall₂ R outs ins) (houts : outs'.Sublist outs)
    (hins : ins.Sublist ins') : List.SublistForall₂ R outs' ins' := by
  obtain ⟨owed, howed, hsub⟩ := List.sublistForall₂_iff.mp h
  have hsome : ∃ owed', List.Forall₂ R outs' owed' ∧ owed'.Sublist owed := by
    clear h hsub
    induction houts generalizing owed with
    | slnil => exact ⟨[], .nil, List.nil_sublist _⟩
    | cons out _ ih =>
        obtain - | ⟨-, hrest⟩ := howed
        obtain ⟨owed', howed', hsub⟩ := ih _ hrest
        exact ⟨owed', howed', hsub.cons _⟩
    | cons_cons out _ ih =>
        obtain - | ⟨hR, hrest⟩ := howed
        obtain ⟨owed', howed', hsub⟩ := ih _ hrest
        exact ⟨_ :: owed', .cons hR howed', hsub.cons_cons _⟩
  obtain ⟨owed', howed', hsub'⟩ := hsome
  exact List.sublistForall₂_iff.mpr ⟨owed', howed', hsub'.trans (hsub.trans hins)⟩

theorem sublistForall₂_imp {S : β → γ → Prop} (h : List.SublistForall₂ R outs ins)
    (himp : ∀ out, ∀ a ∈ ins, R out a → S out a) : List.SublistForall₂ S outs ins := by
  induction h with
  | nil => exact .nil
  | @cons out a outs ins hR _ ih =>
      exact .cons (himp out a List.mem_cons_self hR)
        (ih fun out' b hb => himp out' b (List.mem_cons_of_mem a hb))
  | @cons_right a outs ins _ ih =>
      exact .cons_right (ih fun out b hb => himp out b (List.mem_cons_of_mem a hb))

end

end Transition
