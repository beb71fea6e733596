import GatewaySocket.Gateway.Maps
import GatewaySocket.Transition.Flow

/-!
# The channels into the gateway

Each of the five queues of the gateway is filled by one kind of call and emptied
by one handler. A `Channel` is such a queue together with the proofs that nothing
else touches it, so what is called through a channel is handled once and in the
order of the calls.
-/

namespace GatewaySocket

open Transition

namespace Call

/-- The static address that the call adds. -/
def addedStatic : Call → Option (InAddr × EtherAddr)
  | addStaticIP ip mac => some (ip, mac)
  | _ => none

/-- The static address that the call deletes. -/
def deletedStatic : Call → Option InAddr
  | delStaticIP ip => some ip
  | _ => none

/-- The packet that the call sends. -/
def packet : Call → Option Packet
  | sendPacketRequest packet => some packet
  | _ => none

end Call

/-- What a call does to the five queues. -/
theorem Gateway.queues_call (g : Gateway) (c : Call) :
    (g.call c).staticIPAddRequest.queue = g.staticIPAddRequest.queue ++ c.addedStatic.toList ∧
    (g.call c).staticIPDelRequest.queue = g.staticIPDelRequest.queue ++ c.deletedStatic.toList ∧
    (g.call c).userAddRequest.queue = g.userAddRequest.queue ++ c.added.toList ∧
    (g.call c).userDelRequest.queue = g.userDelRequest.queue ++ c.deleted.toList ∧
    (g.call c).sendPacketRequestQueue.queue =
      g.sendPacketRequestQueue.queue ++ c.packet.toList := by
  cases c <;> simp [call, addStaticIP, delStaticIP, addUserInfo, delUserInfo, sendPacketRequest,
    Call.addedStatic, Call.deletedStatic, Call.added, Call.deleted, Call.packet]

/-- What a handler does to them. -/
theorem Gateway.queues_handle (g : Gateway) (h : Handler) :
    (g.handle h).1.staticIPAddRequest.queue =
      (if h = .addStaticIp then [] else g.staticIPAddRequest.queue) ∧
    (g.handle h).1.staticIPDelRequest.queue =
      (if h = .delStaticIp then [] else g.staticIPDelRequest.queue) ∧
    (g.handle h).1.userAddRequest.queue =
      (if h = .addUser then [] else g.userAddRequest.queue) ∧
    (g.handle h).1.userDelRequest.queue =
      (if h = .delUser then [] else g.userDelRequest.queue) ∧
    (g.handle h).1.sendPacketRequestQueue.queue =
      (if h = .sendPacket then [] else g.sendPacketRequestQueue.queue) := by
  cases h <;> simp [handle, addStaticIpHandler, delStaticIpHandler, addUserHandler, delUserHandler,
    sendPacketHandler]

/-- A queue of the gateway with its calls and its handler. -/
structure Channel (α : Type) where
  queue : Gateway → List α
  request : Call → Option α
  handler : Handler
  queue_call : ∀ g c, queue (g.call c) = queue g ++ (request c).toList
  queue_handle : ∀ g h, queue (g.handle h).1 = if h = handler then [] else queue g
  queue_userMap : ∀ g m, queue { g with userMap := m } = queue g
  ready_iff : ∀ g, g.ready handler = true ↔ queue g ≠ []

namespace Channel

def staticIPAdd : Channel (InAddr × EtherAddr) where
  queue := fun g => g.staticIPAddRequest.queue
  request := Call.addedStatic
  handler := .addStaticIp
  queue_call := fun g c => (g.queues_call c).1
  queue_handle := fun g h => (g.queues_handle h).1
  queue_userMap := fun _ _ => rfl
  ready_iff := fun g => g.staticIPAddRequest.counter_ne_zero_iff

def staticIPDel : Channel InAddr where
  queue := fun g => g.staticIPDelRequest.queue
  request := Call.deletedStatic
  handler := .delStaticIp
  queue_call := fun g c => (g.queues_call c).2.1
  queue_handle := fun g h => (g.queues_handle h).2.1
  queue_userMap := fun _ _ => rfl
  ready_iff := fun g => g.staticIPDelRequest.counter_ne_zero_iff

def userAdd : Channel UserInfo where
  queue := fun g => g.userAddRequest.queue
  request := Call.added
  handler := .addUser
  queue_call := fun g c => (g.queues_call c).2.2.1
  queue_handle := fun g h => (g.queues_handle h).2.2.1
  queue_userMap := fun _ _ => rfl
  ready_iff := fun g => g.userAddRequest.counter_ne_zero_iff

def userDel : Channel InAddr where
  queue := fun g => g.userDelRequest.queue
  request := Call.deleted
  handler := .delUser
  queue_call := fun g c => (g.queues_call c).2.2.2.1
  queue_handle := fun g h => (g.queues_handle h).2.2.2.1
  queue_userMap := fun _ _ => rfl
  ready_iff := fun g => g.userDelRequest.counter_ne_zero_iff

def sendPacket : Channel Packet where
  queue := fun g => g.sendPacketRequestQueue.queue
  request := Call.packet
  handler := .sendPacket
  queue_call := fun g c => (g.queues_call c).2.2.2.2
  queue_handle := fun g h => (g.queues_handle h).2.2.2.2
  queue_userMap := fun _ _ => rfl
  ready_iff := fun g => g.sendPacketRequestQueue.counter_ne_zero_iff

variable {α : Type} (ch : Channel α) {l l' : Loop} {a : Action}

/-- What the action hands over through the channel. -/
def called : Action → List α
  | .call c => (ch.request c).toList
  | _ => []

/-- What the handler of the channel takes off the queue if the action runs it. -/
def handled (l : Loop) : Action → List α
  | .handle h => if h = ch.handler then ch.queue l.gateway else []
  | _ => []

theorem handled_of_ne (h : a ≠ .handle ch.handler) : ch.handled l a = [] := by
  cases a with
  | handle handler => exact if_neg fun heq => h (congrArg Action.handle heq)
  | _ => rfl

/-- Only its calls and its handler touch the queue of the channel. -/
theorem conserves_moves {g' : Gateway} (h : Loop.Moves l a g') :
    ch.queue l.gateway ++ ch.called a = ch.handled l a ++ ch.queue g' := by
  cases h with
  | call c =>
      rw [ch.queue_call]
      rfl
  | @inside frame u effect h =>
      have hqueue : ch.queue effect.gateway = ch.queue l.gateway := by
        rw [Gateway.inside_eq h]
        exact ch.queue_userMap l.gateway _
      rw [hqueue]
      exact List.append_nil _
  | outside frame u =>
      have hqueue : ch.queue (l.gateway.outside l.outPacket frame u).gateway =
          ch.queue l.gateway := by
        rw [Gateway.outside_eq]
        exact ch.queue_userMap l.gateway _
      rw [hqueue]
      exact List.append_nil _
  | @handle handler ready hplace hready =>
      rw [ch.queue_handle]
      change ch.queue l.gateway ++ [] =
        (if handler = ch.handler then ch.queue l.gateway else []) ++ _
      split
      · rfl
      · exact List.append_nil _
  | quiet ha => cases ha <;> exact List.append_nil _

/-- **A channel handles each call once and in order.** -/
theorem conserves : Conserves Loop.step (fun l => ch.queue l.gateway) (fun x => ch.called x.2)
    fun x => ch.handled x.1 x.2 :=
  fun _ _ _ h => ch.conserves_moves (Loop.step_moves h)

/-- What a sequence of calls puts into the channel. -/
theorem queue_foldl_call (cs : List Call) (g : Gateway) :
    ch.queue (cs.foldl Gateway.call g) = ch.queue g ++ cs.filterMap ch.request := by
  induction cs generalizing g with
  | nil => exact (List.append_nil _).symm
  | cons c cs ih =>
      rw [List.foldl_cons, ih, ch.queue_call, List.append_assoc, List.filterMap_cons]
      cases ch.request c <;> rfl

end Channel

end GatewaySocket
