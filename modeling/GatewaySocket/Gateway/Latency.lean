import GatewaySocket.Gateway.Channel
import GatewaySocket.Transition.Progress

/-!
# How long a request waits

The bursts are bounded, and a pass of libevent runs each handler at most once, so
the gateway's thread comes back to every handler. `wait` counts the actions of its
own that the thread takes before it runs a handler, where it stands now, if there is
something for the handler to do.
-/

namespace GatewaySocket

open Transition

/-- The action is one of the gateway's own thread. -/
def Action.Own : Action → Prop
  | .call _ => False
  | _ => True

instance : DecidablePred Action.Own
  | .call _ => .isFalse id
  | .gettimeofday _ | .inside _ _ | .outside _ _ | .poll | .handle _ | .endPass => .isTrue trivial

namespace Place

/-- The actions of the thread from here to the handler. -/
def wait (h : Handler) : Place → ℕ
  | top => 70
  | inBurst rounds => 38 + (31 - rounds)
  | outBurst rounds => 6 + (31 - rounds)
  | eventLoop => 5
  | dispatch ready => if h ∈ ready then ready.length - 1 else 71 + ready.length

theorem wait_nextIn (h : Handler) (rounds : ℕ) :
    (nextIn rounds).wait h < (inBurst rounds).wait h := by
  unfold nextIn
  split
  · next hlt =>
      simp only [wait, ioBurst] at hlt ⊢
      omega
  · simp only [wait]
    omega

theorem wait_nextOut (h : Handler) (rounds : ℕ) :
    (nextOut rounds).wait h < (outBurst rounds).wait h := by
  unfold nextOut
  split
  · next hlt =>
      simp only [wait, ioBurst] at hlt ⊢
      omega
  · simp only [wait]
    omega

/-- Another handler of the pass has run. -/
theorem wait_erase {h other : Handler} {ready : List Handler} (hmem : other ∈ ready)
    (hne : h ≠ other) : (dispatch (ready.erase other)).wait h < (dispatch ready).wait h := by
  have hlength := List.length_erase_of_mem hmem
  have hpos := List.length_pos_of_mem hmem
  simp only [wait, List.mem_erase_of_ne hne]
  split
  · next hh =>
      have htwo : 1 < ready.length := by
        by_contra hsmall
        obtain ⟨x, hx⟩ := List.length_eq_one_iff.mp (show ready.length = 1 by omega)
        rw [hx, List.mem_singleton] at hmem hh
        exact hne (hh.trans hmem.symm)
      omega
  · omega

end Place

namespace Gateway

theorem length_poll_le (g : Gateway) : g.poll.length ≤ 5 := List.length_filter_le _ _

theorem mem_poll_iff {g : Gateway} {h : Handler} : h ∈ g.poll ↔ g.ready h = true := by
  rw [poll, List.mem_filter, and_iff_right]
  cases h <;> decide

end Gateway

namespace Loop

variable {l l' : Loop} {a : Action} {h : Handler}

/-- The place after an own action of the thread. -/
inductive Advances (g : Gateway) : Place → Action → Place → Prop
  | gettimeofday (now : UInt64) : Advances g .top (.gettimeofday now) (.inBurst 0)
  | inside (rounds : ℕ) (f : Frame) (u : Indeterminate) :
      Advances g (.inBurst rounds) (.inside (some f) u) (.nextIn rounds)
  | insideEnd (rounds : ℕ) (u : Indeterminate) :
      Advances g (.inBurst rounds) (.inside none u) (.outBurst 0)
  | outside (rounds : ℕ) (f : Frame) (u : Indeterminate) :
      Advances g (.outBurst rounds) (.outside (some f) u) (.nextOut rounds)
  | outsideEnd (rounds : ℕ) (u : Indeterminate) :
      Advances g (.outBurst rounds) (.outside none u) .eventLoop
  | poll : Advances g .eventLoop .poll (.dispatch g.poll)
  | handle {ready : List Handler} {h : Handler} (hready : h ∈ ready) :
      Advances g (.dispatch ready) (.handle h) (.dispatch (ready.erase h))
  | endPass : Advances g (.dispatch []) .endPass .top

theorem advances_of_step (hown : a.Own) (hstep : l.step a = some l') :
    Advances l.gateway l.place a l'.place := by
  obtain ⟨⟨_, e⟩, hexec, rfl⟩ := Option.map_eq_some_iff.mp hstep
  cases a with
  | call c => exact hown.elim
  | handle handler =>
      obtain ⟨ready, hplace, hready, rfl, -⟩ := exec_handle hexec
      rw [hplace]
      exact .handle hready
  | inside frame u =>
      cases frame with
      | some f =>
          obtain ⟨rounds, effect, hplace, -, rfl, -⟩ := exec_inside hexec
          rw [hplace]
          exact .inside rounds f u
      | none =>
          cases hplace : l.place with
          | inBurst rounds =>
              simp only [exec, hplace, Option.some.injEq, Prod.mk.injEq] at hexec
              rw [← hexec.1]
              exact .insideEnd rounds u
          | _ => simp [exec, hplace] at hexec
  | outside frame u =>
      cases frame with
      | some f =>
          obtain ⟨rounds, hplace, rfl, -⟩ := exec_outside hexec
          rw [hplace]
          exact .outside rounds f u
      | none =>
          cases hplace : l.place with
          | outBurst rounds =>
              simp only [exec, hplace, Option.some.injEq, Prod.mk.injEq] at hexec
              rw [← hexec.1]
              exact .outsideEnd rounds u
          | _ => simp [exec, hplace] at hexec
  | gettimeofday now =>
      cases hplace : l.place with
      | top =>
          simp only [exec, hplace, Option.some.injEq, Prod.mk.injEq] at hexec
          rw [← hexec.1]
          exact .gettimeofday now
      | _ => simp [exec, hplace] at hexec
  | poll =>
      cases hplace : l.place with
      | eventLoop =>
          simp only [exec, hplace, Option.some.injEq, Prod.mk.injEq] at hexec
          rw [← hexec.1]
          exact .poll
      | _ => simp [exec, hplace] at hexec
  | endPass =>
      cases hplace : l.place with
      | dispatch ready =>
          cases ready with
          | nil =>
              simp only [exec, hplace, Option.some.injEq, Prod.mk.injEq] at hexec
              rw [← hexec.1]
              exact .endPass
          | cons h ready => simp [exec, hplace] at hexec
      | _ => simp [exec, hplace] at hexec

/-- As long as there is something to do for a handler, each own action of the thread
brings its turn nearer. -/
theorem wait_advances {g : Gateway} {place place' : Place} (h : Handler) (hready : g.ready h = true)
    (hne : a ≠ .handle h) (hadvances : Advances g place a place') :
    place'.wait h < place.wait h := by
  cases hadvances with
  | gettimeofday now =>
      simp only [Place.wait]
      omega
  | inside rounds f u => exact Place.wait_nextIn h rounds
  | insideEnd rounds u =>
      simp only [Place.wait]
      omega
  | outside rounds f u => exact Place.wait_nextOut h rounds
  | outsideEnd rounds u =>
      simp only [Place.wait]
      omega
  | poll =>
      have hlength := g.length_poll_le
      simp only [Place.wait, if_pos (Gateway.mem_poll_iff.mpr hready)]
      omega
  | @handle ready other hmem =>
      refine Place.wait_erase hmem ?_
      rintro rfl
      exact hne rfl
  | endPass =>
      simp only [Place.wait, List.not_mem_nil, if_false]
      omega

/-- Calls do not put it off. -/
theorem place_call (hown : ¬a.Own) (hstep : l.step a = some l') : l'.place = l.place := by
  cases a with
  | call c =>
      obtain rfl := Option.some.inj hstep
      rfl
  | _ => exact absurd trivial hown

/-- A pass has no more handlers to run than there are. -/
theorem length_ready_le (hlength : l.place.ready.length ≤ 5) (hstep : l.step a = some l') :
    l'.place.ready.length ≤ 5 := by
  by_cases hown : a.Own
  · have hadvances := advances_of_step hown hstep
    generalize l.place = place at hlength hadvances
    generalize l'.place = place' at hadvances ⊢
    cases hadvances with
    | poll => exact l.gateway.length_poll_le
    | handle hready => exact Nat.le_trans (List.length_erase_le ..) hlength
    | inside rounds f u =>
        unfold Place.nextIn
        split <;> exact Nat.zero_le 5
    | outside rounds f u =>
        unfold Place.nextOut
        split <;> exact Nat.zero_le 5
    | _ => exact Nat.zero_le 5
  · rw [place_call hown hstep]
    exact hlength

theorem wait_le (h : Handler) (hlength : l.place.ready.length ≤ 5) : l.place.wait h ≤ 76 := by
  cases hplace : l.place with
  | dispatch ready =>
      rw [hplace] at hlength
      simp only [Place.ready] at hlength
      simp only [Place.wait]
      split <;> omega
  | top | eventLoop | inBurst rounds | outBurst rounds =>
      simp only [Place.wait]
      omega

end Loop

end GatewaySocket
