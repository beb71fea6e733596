import GatewaySocket.Gateway.Mapped
import GatewaySocket.System.Isolation
import GatewaySocket.Transition.Ghost

/-!
# Whether a client is installed before it is told

`create_dhcp` adds the user and then has the ACK sent, but the two travel in
different queues, and the order of their handlers is that of no queue. The ghost
of this module follows each grant from the addition to the written ACK and drops
it where a deletion or another addition intervenes. An ACK is late enough where
`send_packet` leaves no addition behind that it tells of: the addition has been
carried out, or `add_user` has still to run in the same pass.
-/

namespace GatewaySocket

open ByteMemory Transition Tables

inductive Stage
  /-- `addUserInfo` has been called -/
  | added
  /-- the ACK is in the queue of `send_packet` -/
  | queued
  /-- the ACK has been written to `inDev` -/
  | told
  deriving DecidableEq

/-- An address that `create_dhcp` has given to a client. -/
structure Grant where
  ip : InAddr
  mac : EtherAddr
  stage : Stage
  deriving DecidableEq

namespace Grant

/-- `sendPacketRequest` has been called: its packet is the ACK of what was added last. -/
def enqueue (grant : Grant) : Grant :=
  if grant.stage = .added then { grant with stage := .queued } else grant

/-- `send_packet` has run. -/
def tell (grant : Grant) : Grant :=
  if grant.stage = .queued then { grant with stage := .told } else grant

@[simp] theorem ip_enqueue (grant : Grant) : grant.enqueue.ip = grant.ip := by
  unfold enqueue
  split <;> rfl

@[simp] theorem mac_enqueue (grant : Grant) : grant.enqueue.mac = grant.mac := by
  unfold enqueue
  split <;> rfl

@[simp] theorem ip_tell (grant : Grant) : grant.tell.ip = grant.ip := by
  unfold tell
  split <;> rfl

@[simp] theorem mac_tell (grant : Grant) : grant.tell.mac = grant.mac := by
  unfold tell
  split <;> rfl

theorem stage_enqueue_eq_told {grant : Grant} : grant.enqueue.stage = .told ↔ grant.stage = .told := by
  unfold enqueue
  split
  · next hstage => simp [hstage]
  · rfl

theorem stage_tell_eq_told {grant : Grant} :
    grant.tell.stage = .told ↔ grant.stage = .queued ∨ grant.stage = .told := by
  unfold tell
  split
  · next hstage => simp [hstage]
  · next hstage => simp [hstage]

/-- The action is no deletion of the address and adds no other client for it. -/
def Undisturbed (grant : Grant) (l : Loop) : Action → Prop
  | .call (.addUserInfo info) => grant.ip = info.ip → grant.mac = info.userMac
  | .handle .delUser => grant.ip ∉ l.gateway.userDelRequest.queue
  | .outside (some f) u => l.gateway.userMap.Has grant.ip →
      (l.gateway.outside l.outPacket f u).gateway.userMap.Has grant.ip
  | _ => True

instance (grant : Grant) (l : Loop) : DecidablePred (grant.Undisturbed l)
  | .call (.addUserInfo info) =>
      inferInstanceAs (Decidable (grant.ip = info.ip → grant.mac = info.userMac))
  | .handle .delUser => inferInstanceAs (Decidable (grant.ip ∉ l.gateway.userDelRequest.queue))
  | .outside (some f) u => inferInstanceAs (Decidable (l.gateway.userMap.Has grant.ip →
      (l.gateway.outside l.outPacket f u).gateway.userMap.Has grant.ip))
  | .call (.addStaticIP _ _) | .call (.delStaticIP _) | .call (.delUserInfo _)
  | .call (.sendPacketRequest _) | .handle .addStaticIp | .handle .delStaticIp | .handle .addUser
  | .handle .sendPacket | .gettimeofday _ | .inside _ _ | .outside none _ | .poll | .endPass =>
      .isTrue trivial

/-- The entry is in the map or awaited, and once the client is told it is in the
map or will be at the end of the pass. -/
def Kept (l : Loop) (grant : Grant) : Prop :=
  UserMap.owner l.gateway.awaited grant.ip = some grant.mac ∧
    (grant.stage = .told →
      UserMap.owner l.gateway.userMap grant.ip = some grant.mac ∨ .addUser ∈ l.place.ready)

variable {grant : Grant} {l l' : Loop} {a : Action} {g' : Gateway}

theorem Undisturbed.owner_outside {f : Frame} {u : Indeterminate}
    (hu : grant.Undisturbed l (.outside (some f) u)) :
    UserMap.owner (l.gateway.outside l.outPacket f u).gateway.userMap grant.ip =
      UserMap.owner l.gateway.userMap grant.ip := by
  rcases Gateway.find_outside l.gateway l.outPacket f u grant.ip with hsame | ⟨-, hnone⟩
  · exact congrArg (Option.map UserInfo.userMac) hsame
  · have hbefore : l.gateway.userMap.find grant.ip = none :=
      UnorderedMap.not_has_iff.mp fun hhas => UnorderedMap.not_has_iff.mpr hnone (hu hhas)
    rw [UserMap.owner, UserMap.owner, hnone, hbefore]

/-- The awaited entry stays, or is added once more. -/
theorem Undisturbed.awaited (hu : grant.Undisturbed l a) (h : Loop.Moves l a g')
    (howner : UserMap.owner l.gateway.awaited grant.ip = some grant.mac) :
    UserMap.owner g'.awaited grant.ip = some grant.mac := by
  by_cases hadd : ∃ info, a = .call (.addUserInfo info) ∧ grant.ip = info.ip
  · obtain ⟨info, rfl, hip⟩ := hadd
    cases h with
    | call c =>
        rw [Gateway.call, Gateway.awaited_addUserInfo, Gateway.owner_add, if_pos hip, hu hip]
    | quiet ha => contradiction
  · rw [h.owner_awaited_eq, howner]
    · exact fun info ha hip => hadd ⟨info, ha, hip⟩
    · rintro rfl
      exact hu
    · rintro frame u rfl
      exact hu.owner_outside

/-- An entry in the map stays there. -/
theorem Undisturbed.owner (hu : grant.Undisturbed l a) (h : Loop.Moves l a g')
    (ha : a ≠ .handle .addUser) :
    UserMap.owner g'.userMap grant.ip = UserMap.owner l.gateway.userMap grant.ip := by
  cases h with
  | call c => rw [Loop.userMap_call]
  | inside h => exact (Gateway.owner_inside h).2 grant.ip
  | outside frame u => exact hu.owner_outside
  | @handle handler ready hplace hready =>
      cases handler with
      | addUser => contradiction
      | delUser =>
          have hunnamed : ¬l.gateway.Names grant.ip .delUser := hu
          exact congrArg (Option.map UserInfo.userMac) (Gateway.find_handle_of_unnamed hunnamed).2
      | _ => rfl
  | quiet ha => rfl

theorem Kept.step (hk : grant.Kept l) (hu : grant.Undisturbed l a) (h : l.step a = some l') :
    grant.Kept l' := by
  obtain ⟨hawaited, htold⟩ := hk
  have hmoves := Loop.step_moves h
  have hnext := hu.awaited hmoves hawaited
  refine ⟨hnext, fun hstage => ?_⟩
  obtain ⟨⟨_, e⟩, he, rfl⟩ := Option.map_eq_some_iff.mp h
  by_cases ha : a = .handle .addUser
  · -- what was awaited is in the map now
    subst ha
    obtain ⟨ready, -, -, rfl, -⟩ := Loop.exec_handle he
    have hqueue : (l.gateway.handle .addUser).1.userAddRequest.queue = [] :=
      RequestQueue.queue_drain_snd _
    rw [Gateway.awaited_of_queue_eq_nil hqueue] at hnext
    exact .inl hnext
  · rcases htold hstage with howner | hready
    · exact .inl ((hu.owner hmoves ha).trans howner)
    · exact .inr (Loop.mem_ready_of_exec he ha hready)

theorem Kept.enqueue (hk : grant.Kept l) : grant.enqueue.Kept l := by
  rw [Kept, ip_enqueue, mac_enqueue, stage_enqueue_eq_told]
  exact hk

/-- Once no addition for the address is queued the entry is in the map. -/
theorem Kept.owner_of_unqueued (hk : grant.Kept l)
    (hno : ∀ info ∈ l.gateway.userAddRequest.queue, info.ip ≠ grant.ip) :
    UserMap.owner l.gateway.userMap grant.ip = some grant.mac := by
  have hfind := UnorderedMap.find_foldl_of_unnamed UserMap.find_add l.gateway.userMap hno
  rw [← hk.1, Gateway.awaited, UserMap.owner, UserMap.owner, hfind]

/-- `send_packet` keeps the grants that it tells of in time. -/
theorem Kept.tell (hk : grant.Kept l)
    (htimely : grant.stage = .queued →
      (∃ info ∈ l.gateway.userAddRequest.queue, info.ip = grant.ip) → .addUser ∈ l.place.ready)
    (h : l.step (.handle .sendPacket) = some l') : grant.tell.Kept l' := by
  have hu : grant.Undisturbed l (.handle .sendPacket) := trivial
  have hk' : grant.Kept l' := hk.step hu h
  obtain ⟨⟨_, e⟩, he, rfl⟩ := Option.map_eq_some_iff.mp h
  rw [Kept, ip_tell, mac_tell, stage_tell_eq_told]
  refine ⟨hk'.1, fun hstage => ?_⟩
  rcases hstage with hqueued | htold
  · by_cases hadd : ∃ info ∈ l.gateway.userAddRequest.queue, info.ip = grant.ip
    · exact .inr (Loop.mem_ready_of_exec he (by simp) (htimely hqueued hadd))
    · obtain ⟨ready, -, -, rfl, -⟩ := Loop.exec_handle he
      exact .inl (hk'.owner_of_unqueued fun info hinfo hip => hadd ⟨info, hinfo, hip⟩)
  · exact hk'.2 htold

end Grant

namespace System

/-- `send_packet` writes the ACK of a queued addition only if `add_user` has still to
run in the same pass. -/
def Timely (x : System × List Grant) : Event → Prop
  | .gateway (.handle .sendPacket) => ∀ grant ∈ x.2, grant.stage = .queued →
      (∃ info ∈ x.1.loop.gateway.userAddRequest.queue, info.ip = grant.ip) →
        .addUser ∈ x.1.loop.place.ready
  | _ => True

instance (x : System × List Grant) : DecidablePred (Timely x)
  | .gateway (.handle .sendPacket) => inferInstanceAs (Decidable (∀ grant ∈ x.2, _))
  | .gateway (.handle .addStaticIp) | .gateway (.handle .delStaticIp)
  | .gateway (.handle .addUser) | .gateway (.handle .delUser) | .gateway (.call _)
  | .gateway (.gettimeofday _) | .gateway (.inside _ _) | .gateway (.outside _ _)
  | .gateway .poll | .gateway .endPass | .poll | .dispatch _ | .serve _ _ _ _ | .deliver
  | .others _ => .isTrue trivial

variable {cfg : Config} {s s' s₀ : System} {x y : System × List Grant} {ev : Event}
  {es : List Event}

end System

end GatewaySocket
