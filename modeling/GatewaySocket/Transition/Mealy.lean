import GatewaySocket.Transition.Run

/-!
# Machines with outputs

A machine answers each input at once, with an output that depends on its state. A
transition system refines it if each of its steps amounts to some inputs, and writes
what the machine answers to them.

Two inputs may have nothing to do with each other. The unwinding conditions say this
step by step, for states that agree on what one side can see; for whole runs they
give noninterference: what one side is answered does not change when the inputs of
the other side are left out.
-/

namespace Transition

variable {σ τ α ε ω : Type*}

/-- The inputs with the answers to them, one after the other. -/
def outputs (step : τ → ε → τ) (out : τ → ε → ω) : τ → List ε → List (ε × ω)
  | _, [] => []
  | s, e :: es => (e, out s e) :: outputs step out (step s e) es

variable {step : τ → ε → τ} {out : τ → ε → ω} {s s' : τ} {es es' : List ε}

@[simp] theorem outputs_nil (step : τ → ε → τ) (out : τ → ε → ω) (s : τ) :
    outputs step out s [] = [] := rfl

@[simp] theorem outputs_cons (step : τ → ε → τ) (out : τ → ε → ω) (s : τ) (e : ε) (es : List ε) :
    outputs step out s (e :: es) = (e, out s e) :: outputs step out (step s e) es := rfl

theorem outputs_append : outputs step out s (es ++ es') =
    outputs step out s es ++ outputs step out (es.foldl step s) es' := by
  induction es generalizing s with
  | nil => rfl
  | cons e es ih => rw [List.cons_append, outputs_cons, outputs_cons, ih]; rfl

/-! ## Refinement -/

/-- A run whose steps each do what the machine does for some inputs does what the
machine does for all of them. -/
theorem run_refines {next : σ → α → Option σ} {C : σ → α → Prop} {A : σ → τ}
    {inputs : σ × α → List ε} {answered : σ × α → List (ε × ω)}
    (hstep : ∀ s a t, C s a → next s a = some t →
      A t = (inputs (s, a)).foldl step (A s) ∧
        answered (s, a) = outputs step out (A s) (inputs (s, a)))
    {as : List α} {s t : σ} (hall : AllSteps next C s as) (hrun : run next s as = some t) :
    A t = ((history next s as).flatMap inputs).foldl step (A s) ∧
      (history next s as).flatMap answered =
        outputs step out (A s) ((history next s as).flatMap inputs) := by
  induction as generalizing s with
  | nil =>
      obtain rfl : s = t := Option.some.inj hrun
      exact ⟨rfl, rfl⟩
  | cons a as ih =>
      obtain ⟨u, hu, hrest⟩ := run_cons_eq_some.mp hrun
      obtain ⟨habs, hanswered⟩ := hstep s a u hall.1 hu
      obtain ⟨habs', hanswered'⟩ := ih (hall.2 u hu) hrest
      rw [history_cons hu, List.flatMap_cons, List.flatMap_cons, List.foldl_append, outputs_append,
        hanswered, hanswered', habs', habs]
      exact ⟨rfl, rfl⟩

/-! ## Noninterference -/

/-- The unwinding conditions: the answer to an input of one's own, and what it
leaves behind, is a matter of what one can see, and an input of the others leaves
that as it is. -/
structure Unwinds (step : τ → ε → τ) (out : τ → ε → ω) (own other : ε → Prop)
    (Agree : τ → τ → Prop) : Prop where
  output : ∀ s s' e, Agree s s' → own e → out s e = out s' e
  own : ∀ s s' e, Agree s s' → own e → Agree (step s e) (step s' e)
  other : ∀ s s' e, Agree s s' → other e → Agree (step s e) s'

variable {own other : ε → Prop} {Agree : τ → τ → Prop}

/-- The inputs of the others can be left out. -/
theorem Unwinds.purge [DecidablePred own] (h : Unwinds step out own other Agree)
    (hes : ∀ e ∈ es, own e ∨ other e) (hs : Agree s s') :
    (outputs step out s es).filter (fun x => own x.1) = outputs step out s' (es.filter own) := by
  induction es generalizing s s' with
  | nil => rfl
  | cons e es ih =>
      have hrest : ∀ e' ∈ es, own e' ∨ other e' :=
        fun e' he' => hes e' (List.mem_cons_of_mem e he')
      by_cases he : own e
      · rw [outputs_cons, List.filter_cons_of_pos (by simpa using he),
          List.filter_cons_of_pos (by simpa using he), outputs_cons, h.output s s' e hs he,
          ih hrest (h.own s s' e hs he)]
      · have hother := (hes e List.mem_cons_self).resolve_left he
        rw [outputs_cons, List.filter_cons_of_neg (by simpa using he),
          List.filter_cons_of_neg (by simpa using he), ih hrest (h.other s s' e hs hother)]

/-- Two runs with the same inputs of one's own have the same answers to them. -/
theorem Unwinds.outputs_congr [DecidablePred own] (h : Unwinds step out own other Agree)
    (hes : ∀ e ∈ es, own e ∨ other e) (hes' : ∀ e ∈ es', own e ∨ other e)
    (hsame : es.filter own = es'.filter own) (hs : Agree s s') (hrefl : Agree s' s') :
    (outputs step out s es).filter (fun x => own x.1) =
      (outputs step out s' es').filter fun x => own x.1 := by
  rw [h.purge hes hs, h.purge hes' hrefl, hsame]

end Transition
