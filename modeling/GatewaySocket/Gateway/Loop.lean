import GatewaySocket.Gateway.Outside
import GatewaySocket.Transition.Run

/-!
# The event loop of the gateway

`Gateway::serve` goes round: it reads the clock, forwards a burst of frames in
each direction, and lets libevent poll the descriptors once and run the handlers
of those found readable, in an order it does not promise. `Loop` adds the place
in this round to the gateway, and `Loop.exec` takes one action: a frame, a
handler, or a call of another thread, which can come at any time.
-/

namespace GatewaySocket

open ByteMemory Transition

/-- `IO_BURST`. -/
abbrev ioBurst : ℕ := 32

/-- Where the gateway's thread stands. -/
inductive Place
  /-- before `gettimeofday` -/
  | top
  /-- in the inside loop, with `inBurst` rounds done -/
  | inBurst (rounds : ℕ)
  /-- in the outside loop, with `outBurst` rounds done -/
  | outBurst (rounds : ℕ)
  /-- before `event_base_loop` -/
  | eventLoop
  /-- in `event_base_loop`, with the handlers still to run -/
  | dispatch (ready : List Handler)
  deriving DecidableEq

structure Loop where
  gateway : Gateway
  place : Place
  currentTime : UInt64
  inPacket : Packet
  outPacket : Packet

inductive Action
  | call (c : Call)
  | gettimeofday (now : UInt64)
  /-- a round of the inside loop; `none` is a failed read, which ends the loop -/
  | inside (frame : Option Frame) (u : Indeterminate)
  | outside (frame : Option Frame) (u : Indeterminate)
  | poll
  | handle (h : Handler)
  | endPass

namespace Place

/-- After a round of the inside loop. -/
def nextIn (rounds : ℕ) : Place :=
  if rounds + 1 < ioBurst then inBurst (rounds + 1) else outBurst 0

/-- After a round of the outside loop. -/
def nextOut (rounds : ℕ) : Place :=
  if rounds + 1 < ioBurst then outBurst (rounds + 1) else eventLoop

/-- The handlers this pass has still to run. -/
def ready : Place → List Handler
  | dispatch ready => ready
  | _ => []

end Place

/-- The handlers that a poll finds ready. -/
def Gateway.poll (g : Gateway) : List Handler :=
  [.addStaticIp, .delStaticIp, .addUser, .delUser, .sendPacket].filter g.ready

namespace Loop

/-- The thread before its first round; its two buffers are not zeroed. -/
def init (g : Gateway) (inHeap outHeap : Memory) : Loop where
  gateway := g
  place := .top
  currentTime := 0
  inPacket := Packet.new myPacketLen inHeap
  outPacket := Packet.new myPacketLen outHeap

/-- One action; `none` where it does not fit the place or has undefined behaviour. -/
def exec (l : Loop) : Action → Option (Loop × Emission)
  | .call c => some ({ l with gateway := l.gateway.call c }, {})
  | .gettimeofday now =>
    match l.place with
    | .top => some ({ l with place := .inBurst 0, currentTime := now }, {})
    | _ => none
  | .inside none _ =>
    match l.place with
    | .inBurst _ => some ({ l with place := .outBurst 0 }, {})
    | _ => none
  | .inside (some frame) u =>
    match l.place with
    | .inBurst rounds =>
      (l.gateway.inside l.currentTime l.inPacket frame u).map fun e =>
        ({ l with gateway := e.gateway, place := .nextIn rounds, inPacket := e.packet },
          e.toEmission)
    | _ => none
  | .outside none _ =>
    match l.place with
    | .outBurst _ => some ({ l with place := .eventLoop }, {})
    | _ => none
  | .outside (some frame) u =>
    match l.place with
    | .outBurst rounds =>
      let e := l.gateway.outside l.outPacket frame u
      some ({ l with gateway := e.gateway, place := .nextOut rounds, outPacket := e.packet },
        e.toEmission)
    | _ => none
  | .poll =>
    match l.place with
    | .eventLoop => some ({ l with place := .dispatch l.gateway.poll }, {})
    | _ => none
  | .handle h =>
    match l.place with
    | .dispatch ready =>
      if h ∈ ready then
        let (gateway, toInside) := l.gateway.handle h
        some ({ l with gateway, place := .dispatch (ready.erase h) }, { toInside })
      else none
    | _ => none
  | .endPass =>
    match l.place with
    | .dispatch [] => some ({ l with place := .top }, {})
    | _ => none

def step (l : Loop) (a : Action) : Option Loop := (l.exec a).map Prod.fst

variable {l l' : Loop} {e : Emission}

/-! ## What an action does -/

theorem exec_inside {frame : Frame} {u : Indeterminate}
    (h : l.exec (.inside (some frame) u) = some (l', e)) :
    ∃ rounds effect, l.place = .inBurst rounds ∧
      l.gateway.inside l.currentTime l.inPacket frame u = some effect ∧
      l' = { l with
        gateway := effect.gateway, place := .nextIn rounds, inPacket := effect.packet } ∧
      e = effect.toEmission := by
  cases hplace : l.place with
  | inBurst rounds =>
      simp only [exec, hplace, Option.map_eq_some_iff, Prod.mk.injEq] at h
      obtain ⟨effect, heffect, rfl, rfl⟩ := h
      exact ⟨rounds, effect, rfl, heffect, rfl, rfl⟩
  | _ => simp [exec, hplace] at h

theorem exec_outside {frame : Frame} {u : Indeterminate}
    (h : l.exec (.outside (some frame) u) = some (l', e)) :
    ∃ rounds, l.place = .outBurst rounds ∧
      l' = { l with
        gateway := (l.gateway.outside l.outPacket frame u).gateway
        place := .nextOut rounds
        outPacket := (l.gateway.outside l.outPacket frame u).packet } ∧
      e = (l.gateway.outside l.outPacket frame u).toEmission := by
  cases hplace : l.place with
  | outBurst rounds =>
      simp only [exec, hplace, Option.some.injEq, Prod.mk.injEq] at h
      exact ⟨rounds, rfl, h.1.symm, h.2.symm⟩
  | _ => simp [exec, hplace] at h

theorem exec_handle {handler : Handler} (h : l.exec (.handle handler) = some (l', e)) :
    ∃ ready, l.place = .dispatch ready ∧ handler ∈ ready ∧
      l' = { l with
        gateway := (l.gateway.handle handler).1, place := .dispatch (ready.erase handler) } ∧
      e = { toInside := (l.gateway.handle handler).2 } := by
  cases hplace : l.place with
  | dispatch ready =>
      by_cases hmem : handler ∈ ready
      · simp only [exec, hplace, hmem, if_true, Option.some.injEq, Prod.mk.injEq] at h
        exact ⟨ready, rfl, hmem, h.1.symm, h.2.symm⟩
      · simp [exec, hplace, hmem] at h
  | _ => simp [exec, hplace] at h

/-- The actions that leave the gateway as it is. -/
inductive Quiet : Action → Prop
  | gettimeofday (now : UInt64) : Quiet (.gettimeofday now)
  | inside (u : Indeterminate) : Quiet (.inside none u)
  | outside (u : Indeterminate) : Quiet (.outside none u)
  | poll : Quiet .poll
  | endPass : Quiet .endPass

theorem exec_quiet {a : Action} (ha : Quiet a) (h : l.exec a = some (l', e)) :
    l'.gateway = l.gateway ∧ e = {} := by
  cases ha <;> simp only [exec] at h <;> split at h <;>
    first
    | contradiction
    | (obtain ⟨rfl, rfl⟩ : _ = l' ∧ _ = e := by simpa using h
       exact ⟨rfl, rfl⟩)

/-- What each action does to the loop, and what comes out of it. -/
inductive Execs (l : Loop) : Action → Loop → Emission → Prop
  | call (c : Call) : Execs l (.call c) { l with gateway := l.gateway.call c } {}
  | inside {frame : Frame} {u : Indeterminate} {rounds : ℕ} {effect : Effect}
      (hplace : l.place = .inBurst rounds)
      (h : l.gateway.inside l.currentTime l.inPacket frame u = some effect) :
      Execs l (.inside (some frame) u)
        { l with gateway := effect.gateway, place := .nextIn rounds, inPacket := effect.packet }
        effect.toEmission
  | outside {frame : Frame} {u : Indeterminate} {rounds : ℕ} (hplace : l.place = .outBurst rounds) :
      Execs l (.outside (some frame) u)
        { l with
          gateway := (l.gateway.outside l.outPacket frame u).gateway
          place := .nextOut rounds
          outPacket := (l.gateway.outside l.outPacket frame u).packet }
        (l.gateway.outside l.outPacket frame u).toEmission
  | handle {handler : Handler} {ready : List Handler} (hplace : l.place = .dispatch ready)
      (hready : handler ∈ ready) :
      Execs l (.handle handler)
        { l with
          gateway := (l.gateway.handle handler).1, place := .dispatch (ready.erase handler) }
        { toInside := (l.gateway.handle handler).2 }
  | quiet {a : Action} {l' : Loop} (ha : Quiet a) (hgateway : l'.gateway = l.gateway) :
      Execs l a l' {}

theorem execs_of_exec {a : Action} (h : l.exec a = some (l', e)) : Execs l a l' e := by
  by_cases hquiet : Quiet a
  · obtain ⟨hgateway, rfl⟩ := exec_quiet hquiet h
    exact .quiet hquiet hgateway
  cases a with
  | call c =>
      obtain ⟨rfl, rfl⟩ : _ = l' ∧ _ = e := by simpa [exec] using h
      exact .call c
  | inside frame u =>
      cases frame with
      | none => exact absurd (.inside u) hquiet
      | some frame =>
          obtain ⟨rounds, effect, hplace, heffect, rfl, rfl⟩ := exec_inside h
          exact .inside hplace heffect
  | outside frame u =>
      cases frame with
      | none => exact absurd (.outside u) hquiet
      | some frame =>
          obtain ⟨rounds, hplace, rfl, rfl⟩ := exec_outside h
          exact .outside hplace
  | handle handler =>
      obtain ⟨ready, hplace, hready, rfl, rfl⟩ := exec_handle h
      exact .handle hplace hready
  | gettimeofday now => exact absurd (.gettimeofday now) hquiet
  | poll => exact absurd .poll hquiet
  | endPass => exact absurd .endPass hquiet

/-- The steps of the gateway itself. -/
inductive Moves (l : Loop) : Action → Gateway → Prop
  | call (c : Call) : Moves l (.call c) (l.gateway.call c)
  | inside {frame : Frame} {u : Indeterminate} {effect : Effect}
      (h : l.gateway.inside l.currentTime l.inPacket frame u = some effect) :
      Moves l (.inside (some frame) u) effect.gateway
  | outside (frame : Frame) (u : Indeterminate) :
      Moves l (.outside (some frame) u) (l.gateway.outside l.outPacket frame u).gateway
  | handle {handler : Handler} {ready : List Handler} (hplace : l.place = .dispatch ready)
      (hready : handler ∈ ready) : Moves l (.handle handler) (l.gateway.handle handler).1
  | quiet {a : Action} (ha : Quiet a) : Moves l a l.gateway

theorem step_moves {a : Action} (h : l.step a = some l') : Moves l a l'.gateway := by
  obtain ⟨⟨_, e⟩, he, rfl⟩ := Option.map_eq_some_iff.mp h
  cases execs_of_exec he with
  | call c => exact .call c
  | inside hplace heffect => exact .inside heffect
  | outside hplace => exact .outside _ _
  | handle hplace hready => exact .handle hplace hready
  | quiet ha hgateway =>
      rw [hgateway]
      exact .quiet ha

end Loop

end GatewaySocket
