import GatewaySocket.Gateway.Loop

/-!
# The two maps over a run

What becomes of one address while the loop runs. Frames keep the static map and
the owner of every address with a static entry; a handler changes the entries of
the addresses its batch names. `awaited` is the user map as `add_user` will leave
it, and the view in which an addition counts from its call on.
-/

namespace GatewaySocket

open Transition

namespace Gateway

variable {g : Gateway} {ip : InAddr}

/-! ## Handlers -/

@[simp] theorem staticIPMap_addStaticIpHandler (g : Gateway) :
    g.addStaticIpHandler.staticIPMap =
      g.staticIPAddRequest.queue.foldl StaticIPMap.add g.staticIPMap := by
  simp [addStaticIpHandler]

@[simp] theorem staticIPMap_delStaticIpHandler (g : Gateway) :
    g.delStaticIpHandler.staticIPMap =
      g.staticIPDelRequest.queue.foldl UnorderedMap.erase g.staticIPMap := by
  simp [delStaticIpHandler]

@[simp] theorem userMap_addUserHandler (g : Gateway) :
    g.addUserHandler.userMap = g.userAddRequest.queue.foldl UserMap.add g.userMap := by
  simp [addUserHandler]

@[simp] theorem userMap_delUserHandler (g : Gateway) :
    g.delUserHandler.userMap = g.userDelRequest.queue.foldl UserMap.del g.userMap := by
  simp [delUserHandler]

/-- The batch that the handler would drain names the address. -/
def Names (g : Gateway) (ip : InAddr) : Handler → Prop
  | .addStaticIp => ∃ data ∈ g.staticIPAddRequest.queue, data.1 = ip
  | .delStaticIp => ip ∈ g.staticIPDelRequest.queue
  | .addUser => ∃ info ∈ g.userAddRequest.queue, info.ip = ip
  | .delUser => ip ∈ g.userDelRequest.queue
  | .sendPacket => False

/-- A handler changes no entry of an address its batch does not name. -/
theorem find_handle_of_unnamed {h : Handler} (hnames : ¬g.Names ip h) :
    (g.handle h).1.staticIPMap.find ip = g.staticIPMap.find ip ∧
      (g.handle h).1.userMap.find ip = g.userMap.find ip := by
  cases h with
  | addStaticIp =>
      refine ⟨?_, rfl⟩
      rw [handle, staticIPMap_addStaticIpHandler]
      exact UnorderedMap.find_foldl_of_unnamed StaticIPMap.find_add _
        fun data hdata hip => hnames ⟨data, hdata, hip⟩
  | delStaticIp =>
      refine ⟨?_, rfl⟩
      rw [handle, staticIPMap_delStaticIpHandler]
      exact UnorderedMap.find_foldl_of_unnamed UnorderedMap.find_erase _
        fun a ha hip => hnames (hip ▸ ha)
  | addUser =>
      refine ⟨rfl, ?_⟩
      rw [handle, userMap_addUserHandler]
      exact UnorderedMap.find_foldl_of_unnamed UserMap.find_add _
        fun info hinfo hip => hnames ⟨info, hinfo, hip⟩
  | delUser =>
      refine ⟨rfl, ?_⟩
      rw [handle, userMap_delUserHandler]
      exact UnorderedMap.find_foldl_of_unnamed UserMap.find_del _
        fun a ha hip => hnames (hip ▸ ha)
  | sendPacket => exact ⟨rfl, rfl⟩

/-! ## Frames -/

/-- A frame from inside changes no more of the gateway than the user map. -/
theorem inside_eq {t : UInt64} {p : Packet} {f : Frame} {u : Indeterminate} {e : Effect}
    (h : g.inside t p f u = some e) : e.gateway = { g with userMap := e.gateway.userMap } := by
  rcases inside_cases h with ⟨-, hg, -⟩ |
    ⟨-, -, buf, -, -, ⟨-, rfl⟩ | ⟨r, -, rfl⟩ | ⟨q, user, -, rfl⟩⟩
  · rw [hg]
  · rfl
  · rfl
  · exact touch_eq g t user

/-- A frame from outside changes no more of the gateway than the user map. -/
theorem outside_eq (g : Gateway) (p : Packet) (f : Frame) (u : Indeterminate) :
    (g.outside p f u).gateway = { g with userMap := (g.outside p f u).gateway.userMap } := by
  rcases gateway_outside g p f u with hsame | ⟨ip, -, herase, -⟩
  · rw [hsame]
  · rw [herase]
    rfl

theorem staticIPMap_inside {t : UInt64} {p : Packet} {f : Frame} {u : Indeterminate} {e : Effect}
    (h : g.inside t p f u = some e) : e.gateway.staticIPMap = g.staticIPMap :=
  (owner_inside h).1

theorem staticIPMap_outside (g : Gateway) (p : Packet) (f : Frame) (u : Indeterminate) :
    (g.outside p f u).gateway.staticIPMap = g.staticIPMap := by
  rcases gateway_outside g p f u with hsame | ⟨ip, -, herase, -⟩
  · rw [hsame]
  · rw [herase]
    rfl

/-- A frame from outside leaves an entry alone or, if its address has no static
entry, removes it. -/
theorem find_outside (g : Gateway) (p : Packet) (f : Frame) (u : Indeterminate) (ip : InAddr) :
    (g.outside p f u).gateway.userMap.find ip = g.userMap.find ip ∨
      g.staticIPMap.find ip = none ∧ (g.outside p f u).gateway.userMap.find ip = none := by
  rcases gateway_outside g p f u with hsame | ⟨ip', hstatic, herase, -⟩
  · exact .inl (by rw [hsame])
  · rw [herase]
    by_cases hip : ip = ip'
    · exact .inr ⟨by rw [hip, hstatic], by simp [removeUser, UnorderedMap.find_erase, hip]⟩
    · exact .inl (by simp [removeUser, UnorderedMap.find_erase, hip])

theorem owner_outside (g : Gateway) (p : Packet) (f : Frame) (u : Indeterminate) (ip : InAddr) :
    UserMap.owner (g.outside p f u).gateway.userMap ip = UserMap.owner g.userMap ip ∨
      g.staticIPMap.find ip = none ∧
        UserMap.owner (g.outside p f u).gateway.userMap ip = none := by
  rcases find_outside g p f u ip with hsame | ⟨hstatic, hnone⟩
  · exact .inl (congrArg (Option.map UserInfo.userMac) hsame)
  · exact .inr ⟨hstatic, congrArg (Option.map UserInfo.userMac) hnone⟩

/-- A complete frame leaves the entries of other addresses alone. -/
theorem find_outside_of_ne {p : Packet} {f : Frame} {u : Indeterminate}
    (hf : f.IsIPv4 ∨ f.IsARP ∧ 42 ≤ f.length) (hne : f.destinationIP ≠ ip) :
    (g.outside p f u).gateway.userMap.find ip = g.userMap.find ip := by
  rcases gateway_outside g p f u with hsame | ⟨ip', -, herase, hdest⟩
  · rw [hsame]
  · have hip : ip ≠ ip' := by
      rw [hdest hf]
      exact hne.symm
    simp [herase, removeUser, UnorderedMap.find_erase, hip]

/-! ## The user map to come -/

/-- The user map as the next run of `add_user` will leave it. -/
def awaited (g : Gateway) : UserMap := g.userAddRequest.queue.foldl UserMap.add g.userMap

/-- Among additions the last one for an address decides its owner. -/
theorem owner_foldl_add (m : UserMap) (infos : List UserInfo) (ip : InAddr) :
    UserMap.owner (infos.foldl UserMap.add m) ip =
      ((infos.filter fun info => info.ip = ip).getLast?.map UserInfo.userMac).or
        (UserMap.owner m ip) := by
  rw [UserMap.owner, UnorderedMap.find_foldl UserMap.find_add]
  cases (infos.filter fun info => info.ip = ip).getLast? with
  | none => rfl
  | some info => rfl

/-- After additions an owner is that of an addition, or it was there before. -/
theorem owner_foldl_add_cases {m : UserMap} {infos : List UserInfo} {mac : EtherAddr}
    (h : UserMap.owner (infos.foldl UserMap.add m) ip = some mac) :
    (∃ info ∈ infos, info.ip = ip ∧ info.userMac = mac) ∨ UserMap.owner m ip = some mac := by
  rw [owner_foldl_add] at h
  cases hlast : (infos.filter fun info => info.ip = ip).getLast? with
  | none =>
      rw [hlast] at h
      exact .inr h
  | some info =>
      rw [hlast] at h
      obtain ⟨hmem, hip⟩ := List.mem_filter.mp (List.mem_of_getLast? hlast)
      exact .inl ⟨info, hmem, of_decide_eq_true hip, Option.some.inj h⟩

/-- Additions give no owner back that was taken away before. -/
theorem owner_foldl_add_of_owner {m m' : UserMap} {mac : EtherAddr} (infos : List UserInfo)
    (hm : UserMap.owner m' ip = some mac → UserMap.owner m ip = some mac)
    (h : UserMap.owner (infos.foldl UserMap.add m') ip = some mac) :
    UserMap.owner (infos.foldl UserMap.add m) ip = some mac := by
  rw [owner_foldl_add] at h ⊢
  cases hlast : (infos.filter fun info => info.ip = ip).getLast? with
  | none =>
      rw [hlast] at h
      exact hm h
  | some info =>
      rw [hlast] at h
      exact h

theorem owner_foldl_add_congr {m m' : UserMap} (infos : List UserInfo)
    (h : UserMap.owner m ip = UserMap.owner m' ip) :
    UserMap.owner (infos.foldl UserMap.add m) ip =
      UserMap.owner (infos.foldl UserMap.add m') ip := by
  rw [owner_foldl_add, owner_foldl_add, h]

theorem owner_add (m : UserMap) (info : UserInfo) (ip : InAddr) :
    UserMap.owner (m.add info) ip =
      if ip = info.ip then some info.userMac else UserMap.owner m ip := by
  simp only [UserMap.owner, UserMap.find_add]
  split <;> rfl

theorem owner_del (m : UserMap) (ip' ip : InAddr) :
    UserMap.owner (m.del ip') ip = if ip = ip' then none else UserMap.owner m ip := by
  simp only [UserMap.owner, UserMap.find_del]
  split <;> rfl

@[simp] theorem awaited_addUserInfo (g : Gateway) (info : UserInfo) :
    (g.addUserInfo info).awaited = g.awaited.add info := by
  simp [awaited, addUserInfo]

/-- With no addition queued the awaited map is the user map. -/
theorem awaited_of_queue_eq_nil (h : g.userAddRequest.queue = []) : g.awaited = g.userMap := by
  rw [awaited, h]
  rfl

/-- `add_user` makes the user map what was awaited. -/
@[simp] theorem awaited_addUserHandler (g : Gateway) : g.addUserHandler.awaited = g.awaited := by
  simp [awaited, addUserHandler]

/-- Deletions remove the entries they name. -/
theorem find_foldl_del (m : UserMap) (ips : List InAddr) (ip : InAddr) :
    (ips.foldl UserMap.del m).find ip = if ip ∈ ips then none else m.find ip := by
  split
  · next hmem =>
      obtain ⟨ip', -, -, hfind⟩ := UnorderedMap.find_foldl_of_named UserMap.find_del m
        ⟨ip, hmem, rfl⟩
      exact hfind
  · next hmem =>
      refine UnorderedMap.find_foldl_of_unnamed UserMap.find_del m fun ip' hip' heq => ?_
      subst heq
      exact hmem hip'

/-- A deletion that goes through leaves no owner but those of queued additions. -/
theorem owner_awaited_delUserHandler (g : Gateway) (ip : InAddr) :
    UserMap.owner g.delUserHandler.awaited ip =
      ((g.userAddRequest.queue.filter fun info => info.ip = ip).getLast?.map UserInfo.userMac).or
        (if ip ∈ g.userDelRequest.queue then none else UserMap.owner g.userMap ip) := by
  have hqueue : g.delUserHandler.userAddRequest = g.userAddRequest := rfl
  rw [awaited, owner_foldl_add, hqueue, userMap_delUserHandler, UserMap.owner, find_foldl_del]
  split <;> rfl

end Gateway

/-! ## Steps and runs of the loop -/

namespace Loop

variable {l l' : Loop} {a : Action} {g' : Gateway} {ip : InAddr}

/-- The action runs no handler whose batch names the address. -/
def Spares (ip : InAddr) (l : Loop) (a : Action) : Prop :=
  ∀ h, a = .handle h → ¬l.gateway.Names ip h

@[simp] theorem staticIPMap_call (g : Gateway) (c : Call) :
    (g.call c).staticIPMap = g.staticIPMap := by
  cases c <;> rfl

@[simp] theorem userMap_call (g : Gateway) (c : Call) : (g.call c).userMap = g.userMap := by
  cases c <;> rfl

theorem Moves.find_staticIPMap (h : Moves l a g') (hspare : Spares ip l a) :
    g'.staticIPMap.find ip = l.gateway.staticIPMap.find ip := by
  cases h with
  | call c => rw [staticIPMap_call]
  | inside h => rw [Gateway.staticIPMap_inside h]
  | outside frame u => rw [Gateway.staticIPMap_outside]
  | handle hplace hready => exact (Gateway.find_handle_of_unnamed (hspare _ rfl)).1
  | quiet ha => rfl

/-- The owner of an address with a static entry stays the same. -/
theorem Moves.owner (h : Moves l a g') (hspare : Spares ip l a)
    (hstatic : l.gateway.staticIPMap.Has ip) :
    UserMap.owner g'.userMap ip = UserMap.owner l.gateway.userMap ip := by
  cases h with
  | call c => rw [userMap_call]
  | inside h => exact (Gateway.owner_inside h).2 ip
  | @outside frame u =>
      rcases Gateway.owner_outside l.gateway l.outPacket frame u ip with hsame | ⟨hnone, -⟩
      · exact hsame
      · exact absurd hstatic (UnorderedMap.not_has_iff.mpr hnone)
  | handle hplace hready =>
      rw [UserMap.owner, (Gateway.find_handle_of_unnamed (hspare _ rfl)).2, UserMap.owner]
  | quiet ha => rfl

/-- The awaited owner of an address stays if the move neither queues an addition of
the address nor carries out a deletion of it nor purges its entry. -/
theorem Moves.owner_awaited_eq (h : Moves l a g')
    (hadd : ∀ info, a = .call (.addUserInfo info) → ip ≠ info.ip)
    (hdel : a = .handle .delUser → ip ∉ l.gateway.userDelRequest.queue)
    (houtside : ∀ frame u, a = .outside (some frame) u →
      UserMap.owner (l.gateway.outside l.outPacket frame u).gateway.userMap ip =
        UserMap.owner l.gateway.userMap ip) :
    UserMap.owner g'.awaited ip = UserMap.owner l.gateway.awaited ip := by
  cases h with
  | call c =>
      cases c with
      | addUserInfo info =>
          rw [Gateway.call, Gateway.awaited_addUserInfo, Gateway.owner_add, if_neg (hadd info rfl)]
      | _ => rfl
  | inside h =>
      have hsame := (Gateway.owner_inside h).2 ip
      rw [Gateway.inside_eq h]
      exact Gateway.owner_foldl_add_congr _ hsame
  | outside frame u =>
      rw [Gateway.outside_eq]
      exact Gateway.owner_foldl_add_congr _ (houtside frame u rfl)
  | @handle handler ready hplace hready =>
      cases handler with
      | addUser => rw [Gateway.handle, Gateway.awaited_addUserHandler]
      | delUser =>
          rw [Gateway.handle, Gateway.owner_awaited_delUserHandler, if_neg (hdel rfl),
            ← Gateway.owner_foldl_add, Gateway.awaited]
      | _ => rfl
  | quiet ha => rfl

/-- Only `add_user` gives an address to a user, and to one of its batch. -/
theorem Moves.owner_cases {mac : EtherAddr} (h : Moves l a g')
    (howner : UserMap.owner g'.userMap ip = some mac) :
    UserMap.owner l.gateway.userMap ip = some mac ∨
      a = .handle .addUser ∧ ∃ info ∈ l.gateway.userAddRequest.queue,
        info.ip = ip ∧ info.userMac = mac := by
  cases h with
  | call c =>
      rw [userMap_call] at howner
      exact .inl howner
  | inside h =>
      rw [(Gateway.owner_inside h).2] at howner
      exact .inl howner
  | outside frame u =>
      left
      rcases Gateway.owner_outside l.gateway l.outPacket frame u ip with hsame | ⟨-, hnone⟩
      · rwa [hsame] at howner
      · rw [hnone] at howner
        contradiction
  | @handle handler ready hplace hready =>
      cases handler with
      | addUser =>
          rw [Gateway.handle, Gateway.userMap_addUserHandler] at howner
          rcases Gateway.owner_foldl_add_cases howner with hbatch | hold
          · exact .inr ⟨rfl, hbatch⟩
          · exact .inl hold
      | delUser =>
          left
          rw [Gateway.handle, Gateway.userMap_delUserHandler, UserMap.owner,
            Gateway.find_foldl_del] at howner
          split at howner
          · contradiction
          · exact howner
      | addStaticIp | delStaticIp | sendPacket => exact .inl howner
  | quiet ha => exact .inl howner

/-- Only a call queues a user. -/
theorem Moves.mem_userAddRequest {info : UserInfo} (h : Moves l a g')
    (hinfo : info ∈ g'.userAddRequest.queue) :
    info ∈ l.gateway.userAddRequest.queue ∨ a = .call (.addUserInfo info) := by
  cases h with
  | call c =>
      cases c with
      | addUserInfo other =>
          rcases List.mem_append.mp hinfo with hold | hnew
          · exact .inl hold
          · rw [List.mem_singleton.mp hnew]
            exact .inr rfl
      | _ => exact .inl hinfo
  | inside h =>
      rw [Gateway.inside_eq h] at hinfo
      exact .inl hinfo
  | outside frame u =>
      rw [Gateway.outside_eq] at hinfo
      exact .inl hinfo
  | @handle handler ready hplace hready =>
      cases handler with
      | addUser =>
          rw [Gateway.handle, Gateway.addUserHandler, RequestQueue.queue_drain_snd] at hinfo
          contradiction
      | _ => exact .inl hinfo
  | quiet ha => exact .inl hinfo

/-- Only a call queues a packet. -/
theorem Moves.mem_sendPacketRequestQueue {packet : Packet} {g' : Gateway} (h : Moves l a g')
    (hpacket : packet ∈ g'.sendPacketRequestQueue.queue) :
    packet ∈ l.gateway.sendPacketRequestQueue.queue ∨ a = .call (.sendPacketRequest packet) := by
  cases h with
  | call c =>
      cases c with
      | sendPacketRequest other =>
          rcases List.mem_append.mp hpacket with hold | hnew
          · exact .inl hold
          · rw [List.mem_singleton.mp hnew]
            exact .inr rfl
      | _ => exact .inl hpacket
  | inside h =>
      rw [Gateway.inside_eq h] at hpacket
      exact .inl hpacket
  | outside frame u =>
      rw [Gateway.outside_eq] at hpacket
      exact .inl hpacket
  | @handle handler ready hplace hready =>
      cases handler with
      | sendPacket =>
          rw [Gateway.handle, Gateway.sendPacketHandler, RequestQueue.queue_drain_snd] at hpacket
          contradiction
      | _ => exact .inl hpacket
  | quiet ha => exact .inl hpacket

/-- Only a call queues a deletion, and only `del_user` takes one off the queue. -/
theorem Moves.userDelRequest (h : Moves l a g') (hcall : ∀ ip, a ≠ .call (.delUserInfo ip))
    (ha : a ≠ .handle .delUser) : g'.userDelRequest = l.gateway.userDelRequest := by
  cases h with
  | call c =>
      cases c with
      | delUserInfo ip => exact absurd rfl (hcall ip)
      | _ => rfl
  | inside h => rw [Gateway.inside_eq h]
  | outside frame u => rw [Gateway.outside_eq]
  | @handle handler ready hplace hready =>
      cases handler with
      | delUser => contradiction
      | _ => rfl
  | quiet ha => rfl

/-- An address that no batch names keeps its static entry, or the lack of one. -/
theorem find_staticIPMap_run {as : List Action} (hspare : AllSteps step (Spares ip) l as)
    (hrun : run step l as = some l') :
    l'.gateway.staticIPMap.find ip = l.gateway.staticIPMap.find ip := by
  refine run_induction_of_allSteps (C := Spares ip)
    (P := fun m => m.gateway.staticIPMap.find ip = l.gateway.staticIPMap.find ip)
    ?_ rfl hspare hrun
  intro m a m' hm hspare hstep
  rw [(step_moves hstep).find_staticIPMap hspare, hm]

/-- An address with a static entry that no batch names keeps its owner. -/
theorem owner_run {as : List Action} (hstatic : l.gateway.staticIPMap.Has ip)
    (hspare : AllSteps step (Spares ip) l as) (hrun : run step l as = some l') :
    UserMap.owner l'.gateway.userMap ip = UserMap.owner l.gateway.userMap ip := by
  have hboth := run_induction_of_allSteps (C := Spares ip)
    (P := fun m => m.gateway.staticIPMap.Has ip ∧
      UserMap.owner m.gateway.userMap ip = UserMap.owner l.gateway.userMap ip)
    (fun m a m' hm hspare hstep => by
      have hmoves := step_moves hstep
      refine ⟨?_, by rw [hmoves.owner hspare hm.1, hm.2]⟩
      rw [UnorderedMap.Has, hmoves.find_staticIPMap hspare]
      exact hm.1) ⟨hstatic, rfl⟩ hspare hrun
  exact hboth.2

end Loop

end GatewaySocket
