import GatewaySocket.Gateway.Mapped
import GatewaySocket.System.Earned

/-!
# Users and static addresses in the daemon

The database hands out an address as soon as `static_ip` has a row for it, but
the static map of the gateway is loaded at startup only. Whether every user has a
static entry is up to the handlers: as long as each of them is `Supplied`, no
frame from inside finds a user without one.
-/

namespace GatewaySocket

open ByteMemory Transition Tables

namespace System

variable {cfg : Config} {s s' s₀ : System} {ev : Event} {es : List Event} {t₀ : Tables}
  {inHeap outHeap : Memory}

/-- The handler that the event runs, if any, is supplied. -/
def Supplied (s : System) : Event → Prop
  | .gateway a => s.loop.Supplied a
  | _ => True

instance (s : System) : DecidablePred s.Supplied
  | .gateway a => inferInstanceAs (Decidable (s.loop.Supplied a))
  | .poll | .dispatch _ | .serve _ _ _ _ | .deliver | .others _ => .isTrue trivial

theorem mapped_step (hm : s.loop.Mapped) (hsup : s.Supplied ev) (h : s.step cfg ev = some s') :
    s'.loop.Mapped := by
  rcases step_loop h with ⟨-, hsame⟩ | ⟨a, ha, hloop⟩
  · rwa [hsame]
  · refine Loop.mapped_step hm ?_ hloop
    cases ev with
    | gateway b =>
        obtain rfl := Option.some.inj ha
        exact hsup
    | deliver =>
        obtain ⟨c, -, rfl⟩ := Option.map_eq_some_iff.mp ha
        trivial
    | poll | dispatch handler | serve now choice u fault | others tables => contradiction

/-- **The static entry is there.** In a run whose handlers are all supplied, no
frame from inside ever finds a user without static entry: wherever the loop
processes frames every user address has a static entry, and the read of the
static address is defined. -/
theorem mapped_run (hstart : start cfg t₀ inHeap outHeap = some s₀)
    (hsup : AllSteps (step cfg) Supplied s₀ es) (hrun : run (step cfg) s₀ es = some s) :
    s.loop.place.ready = [] →
      (∀ ip, s.loop.gateway.userMap.Has ip → s.loop.gateway.staticIPMap.Has ip) ∧
      ∀ frame u, (s.loop.gateway.inside s.loop.currentTime s.loop.inPacket frame u).isSome := by
  intro hplace
  have hm₀ : s₀.loop.Mapped := by
    intro ip hip
    rw [(started hstart).userMap] at hip
    contradiction
  have hm : s.loop.Mapped :=
    run_induction_of_allSteps (fun m ev m' hm hsup hstep => mapped_step hm hsup hstep) hm₀ hsup
      hrun
  exact ⟨fun ip hip => hm.has hplace hip, hm.isSome_inside hplace⟩

/-- An address that was there at startup has its static entry when its user comes. -/
theorem mapped_run_grant :
    ∃ s₀ s, start sampleConfig sampleTables (fun _ => 0) (fun _ => 0) = some s₀ ∧
      run (step sampleConfig) s₀ (sampleGrantRun 8) = some s ∧
      s.loop.gateway.userMap.Has sampleIP ∧ s.loop.gateway.staticIPMap.Has sampleIP := by
  have hcheck : ∃ s₀ ∈ start sampleConfig sampleTables (fun _ => 0) (fun _ => 0),
      (∀ x ∈ history (step sampleConfig) s₀ (sampleGrantRun 8), x.1.Supplied x.2) ∧
        ∃ s ∈ run (step sampleConfig) s₀ (sampleGrantRun 8),
          s.loop.place = .top ∧ s.loop.gateway.userMap.Has sampleIP := by
    decide +kernel
  obtain ⟨s₀, hstart, hsup, s, hrun, hplace, huser⟩ := hcheck
  have hready : s.loop.place.ready = [] := by rw [hplace]; rfl
  exact ⟨s₀, s, hstart, hrun, huser,
    (mapped_run hstart (allSteps_of_history hsup) hrun hready).1 sampleIP huser⟩

/-- The pool is empty at startup, and its row is added while the daemon runs. -/
def sampleBefore : Tables := ⟨⟨[], List.nodup_nil⟩, sampleNewcomer⟩

def sampleAddedRun : List Event :=
  [.others ⟨samplePool, sampleNewcomer⟩] ++ pass 1000 [Gateway.bootRequest (sampleMAC 8) 3] [] ++
    turn .createDhcp 1000 2 ++ pass 1001 [] [.addUser, .sendPacket] ++
    [.gateway (.gettimeofday 1002)]

/-- The client of a row added later is granted its address, and its first frame
is read through the end iterator. -/
theorem unmapped_read :
    ∃ s₀ s, start sampleConfig sampleBefore (fun _ => 0) (fun _ => 0) = some s₀ ∧
      run (step sampleConfig) s₀ sampleAddedRun = some s ∧ s.loop.place = .inBurst 0 ∧
      UserMap.owner s.loop.gateway.userMap sampleIP = some (sampleMAC 8) ∧
      s.loop.gateway.staticIPMap.find sampleIP = none ∧
      s.loop.gateway.inside s.loop.currentTime s.loop.inPacket
        (Gateway.sampleRequest (sampleMAC 8)) default = none := by
  have hcheck : ∃ s₀ ∈ start sampleConfig sampleBefore (fun _ => 0) (fun _ => 0),
      ∃ s ∈ run (step sampleConfig) s₀ sampleAddedRun,
        s.loop.place = .inBurst 0 ∧
        UserMap.owner s.loop.gateway.userMap sampleIP = some (sampleMAC 8) ∧
        s.loop.gateway.staticIPMap.find sampleIP = none ∧
        (s.loop.gateway.inside s.loop.currentTime s.loop.inPacket
          (Gateway.sampleRequest (sampleMAC 8)) default).isNone := by
    decide +kernel
  obtain ⟨s₀, hstart, s, hrun, hplace, howner, hstatic, hnone⟩ := hcheck
  exact ⟨s₀, s, hstart, hrun, hplace, howner, hstatic, Option.isNone_iff_eq_none.mp hnone⟩

end System

end GatewaySocket
