import GatewaySocket.Gateway.Latency
import GatewaySocket.System.Pipeline

/-!
# Nothing waits for ever

Whatever is queued for the gateway is handled after at most 77 actions of the
gateway's own thread, however many frames there are on either side and whatever the
other threads do.
-/

namespace GatewaySocket

open ByteMemory Transition Tables

/-- The event is one of the gateway's own thread. -/
def Event.Own : Event → Prop
  | .gateway a => a.Own
  | _ => False

instance : DecidablePred Event.Own
  | .gateway a => inferInstanceAs (Decidable a.Own)
  | .poll | .dispatch _ | .serve _ _ _ _ | .deliver | .others _ => .isFalse id

namespace System

variable {cfg : Config} {s s' s₀ : System} {ev : Event} {es es' : List Event} {t₀ : Tables}
  {inHeap outHeap : Memory} {α : Type} {ch : Channel α} {queued : List α}

/-- What was queued has not been handled yet. -/
structure Pending (ch : Channel α) (queued : List α) (s : System) : Prop where
  queue : queued <+: ch.queue s.loop.gateway
  some_queued : queued ≠ []
  length_ready : s.loop.place.ready.length ≤ 5

theorem Pending.step (hp : Pending ch queued s) (hstep : s.step cfg ev = some s')
    (hgoal : ev ≠ .gateway (.handle ch.handler)) :
    Pending ch queued s' ∧
      (ev.Own → s'.loop.place.wait ch.handler < s.loop.place.wait ch.handler) ∧
      (¬ev.Own → s'.loop.place.wait ch.handler ≤ s.loop.place.wait ch.handler) := by
  rcases step_loop hstep with ⟨hnone, hsame⟩ | ⟨a, ha, hloop⟩
  · have hown : ¬ev.Own := by
      intro h
      cases ev with
      | gateway a => contradiction
      | _ => exact h
    rw [hsame]
    exact ⟨⟨hsame ▸ hp.queue, hp.some_queued, hsame ▸ hp.length_ready⟩, fun h => absurd h hown,
      fun _ => Nat.le_refl _⟩
  · have hne : a ≠ .handle ch.handler := by
      rintro rfl
      cases ev with
      | gateway a' =>
          obtain rfl := Option.some.inj ha
          exact hgoal rfl
      | deliver =>
          obtain ⟨c, -, hc⟩ := Option.map_eq_some_iff.mp ha
          contradiction
      | _ => contradiction
    have hown : ev.Own ↔ a.Own := by
      cases ev with
      | gateway a' =>
          obtain rfl := Option.some.inj ha
          exact Iff.rfl
      | deliver =>
          obtain ⟨c, -, rfl⟩ := Option.map_eq_some_iff.mp ha
          exact Iff.rfl
      | _ => contradiction
    have hnothing : ch.handled s.loop a = [] := by
      cases a with
      | handle h =>
          refine if_neg ?_
          rintro rfl
          exact hne rfl
      | _ => rfl
    have hflow := ch.conserves _ _ _ hloop
    simp only [hnothing, List.nil_append] at hflow
    have hready : s.loop.gateway.ready ch.handler = true := by
      rw [ch.ready_iff]
      intro hempty
      exact hp.some_queued (List.prefix_nil.mp (hempty ▸ hp.queue))
    refine ⟨⟨?_, hp.some_queued, Loop.length_ready_le hp.length_ready hloop⟩, fun h => ?_, fun h => ?_⟩
    · rw [← hflow]
      exact hp.queue.trans (List.prefix_append _ _)
    · exact Loop.wait_advances _ hready hne (Loop.advances_of_step (hown.mp h) hloop)
    · rw [Loop.place_call (fun h' => h (hown.mpr h')) hloop]

theorem length_ready_step (hlength : s.loop.place.ready.length ≤ 5) (hstep : s.step cfg ev = some s') :
    s'.loop.place.ready.length ≤ 5 := by
  rcases step_loop hstep with ⟨-, hsame⟩ | ⟨a, -, hloop⟩
  · rwa [hsame]
  · exact Loop.length_ready_le hlength hloop

/-- What is queued is handled by the thread's own next 77 actions. -/
theorem handled_of_own (ch : Channel α) (hlength : s.loop.place.ready.length ≤ 5)
    (hrun : run (step cfg) s es' = some s') (hmany : 77 ≤ es'.countP fun ev => ev.Own) :
    ch.queue s.loop.gateway <+: (history (step cfg) s es').flatMap (handled ch) := by
  by_cases hempty : ch.queue s.loop.gateway = []
  · rw [hempty]
    exact List.nil_prefix
  obtain ⟨x, hx, hpending, hgoal⟩ := exists_goal_of_rank Event.Own
    (fun ev => ev = .gateway (.handle ch.handler)) (fun m => m.loop.place.wait ch.handler)
    (W := Pending ch (ch.queue s.loop.gateway))
    (fun _ _ _ hW hstep hown hgoal => (hW.step hstep hgoal).imp_right fun h => h.1 hown)
    (fun _ _ _ hW hstep hown hgoal => (hW.step hstep hgoal).imp_right fun h => h.2 hown)
    ⟨List.prefix_rfl, hempty, hlength⟩ hrun (by
      have hle := Loop.wait_le ch.handler hlength
      omega)
  have hhandled : handled ch x = ch.queue x.1.loop.gateway := by
    rw [handled, hgoal]
    exact if_pos rfl
  have hflow := (conserves_channel ch).run hrun
  refine List.prefix_of_prefix_length_le (hflow ▸ List.prefix_append _ _) (List.prefix_append _ _) ?_
  calc (ch.queue s.loop.gateway).length
      ≤ (handled ch x).length := by
        rw [hhandled]
        exact hpending.queue.length_le
    _ ≤ ((history (step cfg) s es').flatMap (handled ch)).length :=
        (List.sublist_flatten_of_mem (List.mem_map_of_mem hx)).length_le

theorem length_ready_run (hstart : start cfg t₀ inHeap outHeap = some s₀)
    (hrun : run (step cfg) s₀ es = some s) : s.loop.place.ready.length ≤ 5 := by
  refine run_induction (P := fun m => m.loop.place.ready.length ≤ 5)
    (fun _ _ _ h hstep => length_ready_step h hstep) ?_ hrun
  rw [(started hstart).place]
  exact Nat.zero_le 5

/-- **Bounded response.** In every run, what is queued for the gateway at some moment
has been handled once the gateway's thread has taken 77 actions, in the order in
which it was queued and before anything that was queued later. -/
theorem bounded_response (ch : Channel α) (hstart : start cfg t₀ inHeap outHeap = some s₀)
    (hrun₀ : run (step cfg) s₀ es = some s) (hrun : run (step cfg) s es' = some s')
    (hmany : 77 ≤ es'.countP fun ev => ev.Own) :
    ch.queue s.loop.gateway <+: (history (step cfg) s es').flatMap (handled ch) :=
  handled_of_own ch (length_ready_run hstart hrun₀) hrun hmany

/-- A pass of the gateway's thread with nothing to do. -/
def sampleIdlePass : List Event :=
  [.gateway (.gettimeofday 1), .gateway (.inside none default), .gateway (.outside none default),
    .gateway .poll, .gateway .endPass]

/-- The first pass, in which the handlers take what `main` has queued, and many more. -/
def samplePasses : List Event :=
  [.gateway (.gettimeofday 1), .gateway (.inside none default), .gateway (.outside none default),
    .gateway .poll, .gateway (.handle .addUser), .gateway (.handle .addStaticIp), .gateway .endPass] ++
    (List.replicate 14 sampleIdlePass).flatten

/-- The user that was loaded has been added. -/
theorem bounded_response_loaded :
    ∃ s₀ s', start sampleConfig sampleTables (fun _ => 0) (fun _ => 0) = some s₀ ∧
      run (step sampleConfig) s₀ samplePasses = some s' ∧
      s₀.loop.gateway.userAddRequest.queue.length = 1 ∧
      s₀.loop.gateway.userAddRequest.queue <+:
        (history (step sampleConfig) s₀ samplePasses).flatMap (handled .userAdd) := by
  have hcheck : ∃ s₀ ∈ start sampleConfig sampleTables (fun _ => 0) (fun _ => 0),
      s₀.loop.gateway.userAddRequest.queue.length = 1 ∧
        (run (step sampleConfig) s₀ samplePasses).isSome := by
    decide +kernel
  obtain ⟨s₀, hstart, hone, hrun⟩ := hcheck
  obtain ⟨s', hs'⟩ := Option.isSome_iff_exists.mp hrun
  exact ⟨s₀, s', hstart, hs', hone,
    bounded_response .userAdd hstart (rfl : run (step sampleConfig) s₀ [] = some s₀) hs' (by decide)⟩

end System

end GatewaySocket
