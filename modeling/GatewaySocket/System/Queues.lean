import GatewaySocket.Container.EventQueue
import GatewaySocket.System.Step

/-!
# The queues of the daemon

Seven queues lie behind a lock and an event descriptor, five in the gateway and
two in the database. The handlers of the gateway process each request as they take
it off, under the lock; those of the database move the batch into `temp` and
process it after they have released the lock. Move by move each of them is an
`EventQueue`. The daemon works on them by atomic operations, a call or a frame by
pushing its requests and a handler by taking all of them, and the moves refine these.
-/

namespace GatewaySocket

open ByteMemory Transition

inductive QueueName
  | staticIPAddRequest
  | staticIPDelRequest
  | userAddRequest
  | userDelRequest
  | sendPacketRequestQueue
  | createDHCPRequestQueue
  | updateTimeQueue
  deriving DecidableEq

namespace QueueName

/-- What is queued. -/
abbrev Request : QueueName → Type
  | staticIPAddRequest => InAddr × EtherAddr
  | staticIPDelRequest => InAddr
  | userAddRequest => UserInfo
  | userDelRequest => InAddr
  | sendPacketRequestQueue => Packet
  | createDHCPRequestQueue => DhcpRequest
  | updateTimeQueue => UpdateTime

/-- The handler of the queue processes the requests after it has released the lock. -/
def deferred : QueueName → Bool
  | createDHCPRequestQueue | updateTimeQueue => true
  | _ => false

/-- The queue in a state of the daemon. -/
def get (s : System) : (name : QueueName) → RequestQueue name.Request
  | staticIPAddRequest => s.loop.gateway.staticIPAddRequest
  | staticIPDelRequest => s.loop.gateway.staticIPDelRequest
  | userAddRequest => s.loop.gateway.userAddRequest
  | userDelRequest => s.loop.gateway.userDelRequest
  | sendPacketRequestQueue => s.loop.gateway.sendPacketRequestQueue
  | createDHCPRequestQueue => s.createDHCPRequestQueue
  | updateTimeQueue => s.updateTimeQueue

/-- The request that a call of the gateway queues. -/
def ofCall : (name : QueueName) → Call → Option name.Request
  | staticIPAddRequest, .addStaticIP ip mac => some (ip, mac)
  | staticIPDelRequest, .delStaticIP ip => some ip
  | userAddRequest, .addUserInfo info => some info
  | userDelRequest, .delUserInfo ip => some ip
  | sendPacketRequestQueue, .sendPacketRequest packet => some packet
  | _, _ => none

/-- The requests that the gateway's thread queues in the database. -/
def ofEmission : (name : QueueName) → Emission → List name.Request
  | createDHCPRequestQueue, e => e.dhcp
  | updateTimeQueue, e => e.updates
  | _, _ => []

end QueueName

/-- The queue that a handler of the gateway works off. -/
def Handler.queue : Handler → QueueName
  | addStaticIp => .staticIPAddRequest
  | delStaticIp => .staticIPDelRequest
  | addUser => .userAddRequest
  | delUser => .userDelRequest
  | sendPacket => .sendPacketRequestQueue

def DbHandler.queue : DbHandler → QueueName
  | createDhcp => .createDHCPRequestQueue
  | updateTime => .updateTimeQueue

namespace System

variable {cfg : Config} {s s' s₀ : System} {ev : Event} {es : List Event} {name : QueueName}

/-- What an event does to a queue: the call at hand or the frame pushes its requests,
and the handler of the queue takes all of them off. -/
def operations (name : QueueName) (s : System) : Event → List (Option name.Request)
  | .gateway (.call c) => (name.ofCall c).toList.map some
  | .gateway (.handle handler) => if handler.queue = name then [none] else []
  | .gateway a => ((s.loop.exec a).elim [] fun x => name.ofEmission x.2).map some
  | .dispatch handler => if handler.queue = name then [none] else []
  | .deliver => (s.thread.calls.head?.bind name.ofCall).toList.map some
  | .poll | .serve _ _ _ _ | .others _ => []

/-- A call pushes its request onto its queue. -/
theorem get_call (s : System) (c : Call) (name : QueueName) :
    name.get { s with loop := { s.loop with gateway := s.loop.gateway.call c } } =
      ((name.ofCall c).toList.map some).foldl EventQueue.atomic (name.get s) := by
  cases c <;> cases name <;> rfl

/-- A handler of the gateway takes all requests off its queue. -/
theorem get_handle (s : System) (handler : Handler) (name : QueueName) :
    name.get { s with loop := { s.loop with gateway := (s.loop.gateway.handle handler).1 } } =
      (if handler.queue = name then [none] else []).foldl EventQueue.atomic (name.get s) := by
  cases handler <;> cases name <;> rfl

theorem get_take (s : System) (handler : DbHandler) (name : QueueName) :
    name.get (s.take handler) =
      (if handler.queue = name then [none] else []).foldl EventQueue.atomic (name.get s) := by
  cases handler <;> cases name <;> rfl

/-- What comes out of the gateway's thread is pushed onto the queues of the database. -/
theorem get_receive {loop : Loop} (hname : name.get { s with loop } = name.get s) (e : Emission) :
    name.get (s.receive loop e) =
      ((name.ofEmission e).map some).foldl EventQueue.atomic (name.get s) := by
  rw [EventQueue.foldl_atomic_map_some]
  cases name with
  | createDHCPRequestQueue | updateTimeQueue => rfl
  | _ => exact hname

/-- **Every event works on every queue by its operations.** -/
theorem operated_step (h : s.step cfg ev = some s') (name : QueueName) :
    name.get s' = (operations name s ev).foldl EventQueue.atomic (name.get s) := by
  cases steps_of_step h with
  | @gateway a loop e hopen hexec =>
      cases Loop.execs_of_exec hexec with
      | call c => exact get_call s c name
      | @inside frame u rounds effect hplace heffect =>
          have hops : operations name s (.gateway (.inside (some frame) u)) =
              (name.ofEmission effect.toEmission).map some := by
            simp only [operations, hexec, Option.elim_some]
          rw [hops]
          refine get_receive ?_ _
          rw [Gateway.inside_eq heffect]
          cases name <;> rfl
      | @outside frame u rounds hplace =>
          have hops : operations name s (.gateway (.outside (some frame) u)) =
              (name.ofEmission (s.loop.gateway.outside s.loop.outPacket frame u).toEmission).map
                some := by
            simp only [operations, hexec, Option.elim_some]
          rw [hops]
          refine get_receive ?_ _
          rw [Gateway.outside_eq]
          cases name <;> rfl
      | @handle handler ready hplace hready => exact get_handle s handler name
      | quiet ha hgateway =>
          have hops : operations name s (.gateway a) = (name.ofEmission {}).map some := by
            cases ha <;> simp only [operations, hexec, Option.elim_some]
          rw [hops]
          refine get_receive ?_ _
          cases name <;> simp only [QueueName.get, hgateway]
  | poll hidle => cases name <;> rfl
  | @dispatch handler hidle => exact get_take s handler name
  | serve hcalls htemp ho => cases name <;> rfl
  | @deliver c calls hcalls =>
      rw [operations, hcalls]
      exact get_call s c name
  | others tables => cases name <;> rfl

theorem operated_run (hrun : run (step cfg) s₀ es = some s) (name : QueueName) :
    name.get s = ((history (step cfg) s₀ es).flatMap fun x => operations name x.1 x.2).foldl
      EventQueue.atomic (name.get s₀) := by
  refine history_induction (P := fun h s => name.get s =
    (h.flatMap fun x => operations name x.1 x.2).foldl EventQueue.atomic (name.get s₀)) ?_ rfl hrun
  intro h s ev s' hs hstep
  rw [List.flatMap_append, List.foldl_append, ← hs, List.flatMap_singleton]
  exact operated_step hstep name

/-- **The daemon's queues are those of the moves.** Where the moves of the threads
amount to the operations of the events, and to the requests that startup has queued
before them, the counted requests are the queue that the daemon has, and a consumer
that reads the counter is about to take what the handler of the daemon takes. -/
theorem moves_refine_queue {ι : Type*} [DecidableEq ι]
    {ms : List (EventQueue.Move ι name.Request)} {q : EventQueue ι name.Request}
    (hmoves : run (EventQueue.step name.deferred) .init ms = some q)
    (hrun : run (step cfg) s₀ es = some s)
    (hops : ((history (EventQueue.step name.deferred) .init ms).flatMap fun x =>
        x.1.operations x.2) =
      (name.get s₀).queue.map some ++
        (history (step cfg) s₀ es).flatMap fun x => operations name x.1 x.2) :
    q.Refines (name.get s) ∧ ∀ q', q.step name.deferred .read = some q' →
      q'.queue = (name.get s).drain.1 ∧
        q'.consumer = .draining (name.get s).drain.1.length [] := by
  have hrefines : q.Refines (name.get s) := by
    have hq := EventQueue.refines_run hmoves
    rwa [hops, List.foldl_append, EventQueue.foldl_atomic_empty, ← operated_run hrun name] at hq
  exact ⟨hrefines, fun q' hread =>
    EventQueue.drains_of_read (EventQueue.sound_run hmoves) hrefines hread⟩

/-- **The queues neither lose nor duplicate.** However the calls of any number of
threads and the handler interleave: with the lock free the counter is the length
of the queue, the handler takes nothing off an empty queue, reading the counter
does not block it, what was pushed has been handled, was put aside or is queued,
in this order, and from where the lock is free the handler alone gets everything
handled. -/
theorem queues_exact (name : QueueName) {ι : Type*} [DecidableEq ι]
    {ms : List (EventQueue.Move ι name.Request)} {s : EventQueue ι name.Request}
    (hrun : run (EventQueue.step name.deferred) .init ms = some s) :
    (s.holder = none → s.counter = s.queue.length) ∧
    (∀ left temp, s.consumer = .draining (left + 1) temp → s.queue ≠ []) ∧
    (s.consumer = .locked → s.counter ≠ 0) ∧
    s.pushed = s.handled ++ s.consumer.temp ++ s.queue ∧
    (s.holder = none → ∃ t, EventQueue.Serves name.deferred s t ∧ t.pushed = s.pushed ∧
      t.handled = s.pushed) := by
  have hs := EventQueue.sound_run hrun
  refine ⟨fun hfree => ?_, fun left temp hd hnil => ?_, fun hd => hs.announced (.inr hd), hs.order,
    EventQueue.exists_serves hs⟩
  · simpa [EventQueue.owed, hfree] using hs.count
  · have hcount := hs.count
    simp [EventQueue.owed, hs.holder_of_consumer hd trivial, hd, EventQueue.Consumer.left, hnil]
      at hcount

/-- Two threads delete a user each, one between the poll and the handler. -/
def sampleMoves : List (EventQueue.Move Bool InAddr) :=
  [.call true sampleIP, .call false (Vector.replicate 4 0), .lock true, .push true, .write true,
    .unlock true, .poll, .lock false, .push false, .write false, .unlock false, .take, .read, .pop]

/-- The handler has taken the first of both. -/
theorem queues_exact_two :
    ∃ s : EventQueue Bool InAddr,
      run (EventQueue.step QueueName.userDelRequest.deferred) .init sampleMoves = some s ∧
      s.pushed = [sampleIP, Vector.replicate 4 0] ∧
      s.pushed = s.handled ++ s.consumer.temp ++ s.queue ∧ s.handled = [sampleIP] := by
  have hcheck : ∃ s ∈ run (EventQueue.step QueueName.userDelRequest.deferred) .init sampleMoves,
      s.pushed = [sampleIP, Vector.replicate 4 0] ∧ s.handled = [sampleIP] := by
    decide
  obtain ⟨s, hrun, hpushed, hhandled⟩ := hcheck
  exact ⟨s, hrun, hpushed, (queues_exact .userDelRequest hrun).2.2.2.1, hhandled⟩

end System

end GatewaySocket
