import GatewaySocket.System.Earned
import GatewaySocket.Transition.Ghost

/-!
# Whom a deletion is meant for

`update_time` deletes the user whose row is gone, and says so with the hardware
address; the call, the queue and the handler know the address only. The ghost of
this module keeps the client beside each deletion that is under way. A deletion
hits another client where that client got into the entry first, before the
deletion was ordered or while it was pending.
-/

namespace GatewaySocket

open ByteMemory Transition Tables

/-- A deletion under way, with the client that has no row any more. An update that
failed with an exception, or changed nothing, deletes too, and then there is no such
client. -/
structure Order where
  ip : InAddr
  client : Option EtherAddr
  deriving DecidableEq

def Job.update : Job → Option UpdateTime
  | updateTime request => some request
  | createDhcp _ => none

namespace System

/-- The deletions that a request orders. -/
def ordered (cfg : Config) (s : System) (request : UpdateTime) (fault : Option ℕ) : List Order :=
  match s.tables.process cfg (.update request fault) with
  | some o => (o.calls.filterMap Call.deleted).map fun ip => {
      ip
      client := if s.tables.user.row (printMAC request.mac) = none then some request.mac else none }
  | none => []

/-- The deletions under way after an event, in the order of the queue and the
calls: `update_time` adds to them and `del_user` carries out those in its queue. -/
def note (cfg : Config) (s : System) (ev : Event) (orders : List Order) : List Order :=
  match ev with
  | .serve _ _ _ fault =>
    match s.thread.temp with
    | .updateTime request :: _ => orders ++ s.ordered cfg request fault
    | _ => orders
  | .gateway (.handle .delUser) => orders.drop s.loop.gateway.userDelRequest.queue.length
  | _ => orders

abbrev traced (cfg : Config) : System × List Order → Event → Option (System × List Order) :=
  withGhost (step cfg) (note cfg)

/-- A deletion is ordered only where the entry, if there is one, is the client's,
and no other client is installed while it is pending. -/
def Aimed (x : System × List Order) : Event → Prop
  | .serve _ _ _ _ => ∀ job ∈ x.1.thread.temp.head?, ∀ request ∈ job.update,
      x.1.tables.user.row (printMAC request.mac) = none →
        ∀ info ∈ x.1.loop.gateway.userMap.find request.ip, info.userMac = request.mac
  | .gateway (.handle .addUser) => ∀ info ∈ x.1.loop.gateway.userAddRequest.queue,
      ∀ order ∈ x.2, order.ip = info.ip → ∀ mac ∈ order.client, info.userMac = mac
  | _ => True

instance (x : System × List Order) : DecidablePred (Aimed x)
  | .serve _ _ _ _ => inferInstanceAs (Decidable (∀ job ∈ x.1.thread.temp.head?, _))
  | .gateway (.handle .addUser) =>
      inferInstanceAs (Decidable (∀ info ∈ x.1.loop.gateway.userAddRequest.queue, _))
  | .gateway (.handle .delUser) | .gateway (.handle .addStaticIp)
  | .gateway (.handle .delStaticIp) | .gateway (.handle .sendPacket) | .gateway (.call _)
  | .gateway (.gettimeofday _) | .gateway (.inside _ _) | .gateway (.outside _ _)
  | .gateway .poll | .gateway .endPass | .poll | .dispatch _ | .deliver | .others _ =>
      .isTrue trivial

variable {cfg : Config} {s s₀ : System} {x y : System × List Order} {ev : Event}
  {es : List Event} {t₀ : Tables} {inHeap outHeap : Memory}

/-- The ghost lists the deletions under way, and none of them finds the entry of
another client. -/
structure Meant (x : System × List Order) : Prop where
  listed : x.2.map Order.ip =
    x.1.loop.gateway.userDelRequest.queue ++ x.1.thread.calls.filterMap Call.deleted
  owned : ∀ order ∈ x.2, ∀ mac ∈ order.client,
    ∀ mac' ∈ UserMap.owner x.1.loop.gateway.userMap order.ip, mac' = mac

theorem ordered_ip {now : UInt64} {choice : Choice} {u : Indeterminate} {fault : Option ℕ}
    {request : UpdateTime} {o : Outcome}
    (ho : s.tables.process cfg (Job.request now choice u fault (.updateTime request)) = some o) :
    (s.ordered cfg request fault).map Order.ip = o.calls.filterMap Call.deleted ∧
      ∀ order ∈ s.ordered cfg request fault, order.ip = request.ip ∧ ∀ mac ∈ order.client,
        mac = request.mac ∧ s.tables.user.row (printMAC request.mac) = none := by
  have ho' : s.tables.process cfg (.update request fault) = some o := ho
  have hdeleted : ∀ ip ∈ o.calls.filterMap Call.deleted, ip = request.ip := by
    intro ip hip
    rcases (process_update ho').2.2.2 with hdel | ⟨hnil, -⟩
    · rw [hdel] at hip
      simpa [Call.deleted] using hip
    · rw [hnil] at hip
      contradiction
  rw [ordered, ho']
  constructor
  · rw [List.map_map]
    exact List.map_id _
  · intro order horder
    obtain ⟨ip, hip, rfl⟩ := List.mem_map.mp horder
    refine ⟨hdeleted ip hip, fun mac hmac => ?_⟩
    by_cases hrow : s.tables.user.row (printMAC request.mac) = none
    · simp only [hrow, if_true, Option.mem_def, Option.some.injEq] at hmac
      exact ⟨hmac.symm, hrow⟩
    · simp [hrow] at hmac

/-- A DHCP request orders no deletion. -/
theorem not_deleted_of_dhcp {t : Tables} {r : DhcpRequest} {now : UInt64} {choice : Choice}
    {u : Indeterminate} {fault : Option ℕ} {o : Outcome}
    (ho : t.process cfg (.dhcp r now choice u fault) = some o) :
    o.calls.filterMap Call.deleted = [] := by
  obtain ⟨ip, -, -, hcalls⟩ := process_dhcp ho
  rw [hcalls]
  cases o.answer with
  | none => rfl
  | some ans =>
      cases hdisc : ans.isDiscover <;> simp [Answer.calls, hdisc, Call.deleted]

/-- What an action of the loop other than `del_user` keeps. -/
theorem Meant.gateway {a : Action} {loop : Loop} {e : Emission} (hm : Meant x) (hopen : a.Open)
    (ha : a ≠ .handle .delUser) (haimed : Aimed x (.gateway a))
    (hexec : x.1.loop.exec a = some (loop, e)) : Meant (x.1.receive loop e, x.2) := by
  have hmoves : Loop.Moves x.1.loop a loop.gateway :=
    Loop.step_moves (by rw [Loop.step, hexec]; rfl)
  have hcall : ∀ ip, a ≠ .call (.delUserInfo ip) := by
    rintro ip rfl
    exact hopen
  constructor
  · rw [hm.listed, receive, hmoves.userDelRequest hcall ha]
  · intro order horder mac hmac mac' hmac'
    rcases hmoves.owner_cases hmac' with hold | ⟨rfl, info, hinfo, hip, rfl⟩
    · exact hm.owned order horder mac hmac mac' hold
    · exact haimed info hinfo order horder hip.symm mac hmac

/-- `del_user` carries out the deletions of its queue, which come first. -/
theorem Meant.delUser {loop : Loop} {e : Emission} (hm : Meant x)
    (hexec : x.1.loop.exec (.handle .delUser) = some (loop, e)) :
    Meant (x.1.receive loop e, x.2.drop x.1.loop.gateway.userDelRequest.queue.length) := by
  have hmoves : Loop.Moves x.1.loop (.handle .delUser) loop.gateway :=
    Loop.step_moves (by rw [Loop.step, hexec]; rfl)
  obtain ⟨ready, -, -, hloop, -⟩ := Loop.exec_handle hexec
  constructor
  · rw [List.map_drop, hm.listed, List.drop_left, receive, hloop]
    simp [Gateway.handle, Gateway.delUserHandler]
  · intro order horder mac hmac mac' hmac'
    rcases hmoves.owner_cases hmac' with hold | ⟨hadd, -⟩
    · exact hm.owned order (List.mem_of_mem_drop horder) mac hmac mac' hold
    · cases Action.handle.inj hadd

/-- The deletions that a request orders join those under way. -/
theorem Meant.serve {now : UInt64} {choice : Choice} {u : Indeterminate} {fault : Option ℕ}
    {job : Job} {temp : List Job} {o : Outcome} (hm : Meant x)
    (haimed : Aimed x (.serve now choice u fault)) (hcalls : x.1.thread.calls = [])
    (htemp : x.1.thread.temp = job :: temp)
    (ho : x.1.tables.process cfg (job.request now choice u fault) = some o) :
    Meant ({ x.1 with
      tables := o.tables, thread := { x.1.thread with temp, calls := o.calls } },
      note cfg x.1 (.serve now choice u fault) x.2) := by
  have hlisted := hm.listed
  rw [hcalls, List.filterMap_nil, List.append_nil] at hlisted
  cases job with
  | createDhcp r =>
      simp only [note, htemp]
      refine ⟨?_, hm.owned⟩
      rw [hlisted, not_deleted_of_dhcp ho, List.append_nil]
  | updateTime request =>
      obtain ⟨hips, hclient⟩ := ordered_ip ho
      simp only [note, htemp]
      refine ⟨by rw [List.map_append, hlisted, hips], ?_⟩
      intro order horder mac hmac mac' hmac'
      rcases List.mem_append.mp horder with hold | hnew
      · exact hm.owned order hold mac hmac mac' hmac'
      · obtain ⟨hip, hfor⟩ := hclient order hnew
        obtain ⟨rfl, hrow⟩ := hfor mac hmac
        rw [hip] at hmac'
        obtain ⟨info, hinfo, rfl⟩ := Option.map_eq_some_iff.mp hmac'
        exact haimed _ (by rw [htemp]; rfl) request rfl hrow info hinfo

theorem meant_step (hm : Meant x) (haimed : Aimed x ev) (h : traced cfg x ev = some y) :
    Meant y := by
  obtain ⟨s, orders⟩ := x
  obtain ⟨s', orders'⟩ := y
  obtain ⟨hstep, rfl⟩ := withGhost_eq_some_iff.mp h
  cases steps_of_step hstep with
  | @gateway a loop e hopen hexec =>
      by_cases ha : a = .handle .delUser
      · subst ha
        exact hm.delUser hexec
      · have hnote : note cfg s (.gateway a) orders = orders := by
          cases a with
          | handle handler =>
              cases handler with
              | delUser => exact absurd rfl ha
              | _ => rfl
          | _ => rfl
        rw [hnote]
        exact hm.gateway hopen ha haimed hexec
  | poll hidle => exact ⟨hm.listed, hm.owned⟩
  | @dispatch handler hidle => cases handler <;> exact ⟨hm.listed, hm.owned⟩
  | serve hcalls htemp ho => exact hm.serve haimed hcalls htemp ho
  | @deliver c calls hcalls =>
      have hlisted := hm.listed
      rw [hcalls] at hlisted
      refine ⟨?_, fun order horder mac hmac mac' hmac' => ?_⟩
      · cases c with
        | delUserInfo ip =>
            exact hlisted.trans (List.append_assoc _ [ip] (calls.filterMap Call.deleted)).symm
        | _ => exact hlisted
      · rw [Loop.userMap_call] at hmac'
        exact hm.owned order horder mac hmac mac' hmac'
  | others tables => exact ⟨hm.listed, hm.owned⟩

/-- **A deletion hits only the client it was meant for.** In a run whose steps are
`Aimed`, the rounds of `del_user` are those of the deletions under way, in their
order, and where one was ordered for a client without a row the round finds the
entry of no other client. -/
theorem deletions_meant (hstart : start cfg t₀ inHeap outHeap = some s₀)
    (haimed : AllSteps (traced cfg) Aimed (s₀, []) es) (hrun : run (step cfg) s₀ es = some s) :
    ∃ orders, run (traced cfg) (s₀, []) es = some (s, orders) ∧
      orders.map Order.ip =
        s.loop.gateway.userDelRequest.queue ++ s.thread.calls.filterMap Call.deleted ∧
      ∀ before order after mac, orders = before ++ order :: after → order.client = some mac →
        ∀ mac', UserMap.owner ((before.map Order.ip).foldl UserMap.del s.loop.gateway.userMap)
          order.ip = some mac' → mac' = mac := by
  have hghosts : ∃ orders, run (traced cfg) (s₀, []) es = some (s, orders) :=
    exists_run_withGhost [] hrun
  obtain ⟨orders, hghost⟩ := hghosts
  have hm₀ : Meant (s₀, []) := by
    have hs₀ := started hstart
    refine ⟨?_, fun _ => nofun⟩
    rw [hs₀.userDelRequest, hs₀.thread]
    rfl
  have hm : Meant (s, orders) :=
    run_induction_of_allSteps (fun x ev y hm haimed hstep => meant_step hm haimed hstep) hm₀ haimed
      hghost
  refine ⟨orders, hghost, hm.listed, ?_⟩
  rintro before order after mac rfl hmac mac' hmac'
  refine hm.owned order (List.mem_append_right before List.mem_cons_self) mac hmac mac' ?_
  -- the rounds before have only removed entries
  rw [UserMap.owner, Gateway.find_foldl_del] at hmac'
  split at hmac'
  · contradiction
  · exact hmac'

/-! The first client of `sampleTables` sends a frame, and its row is removed before
the database thread notes the access. -/

def sampleRemoved : Tables := ⟨samplePool, sampleNewcomer⟩

def sampleRemovalRun : List Event :=
  pass 7200006 [] [.addStaticIp, .addUser] ++
    pass 7200007 [Gateway.sampleRequest (sampleMAC 7)] [] ++ [.others sampleRemoved] ++
    turn .updateTime 7200008 1

/-- The deletion under way is meant for the client that has the entry. -/
theorem deletions_meant_removal :
    ∃ s₀ s, start sampleConfig sampleTables (fun _ => 0) (fun _ => 0) = some s₀ ∧
      run (step sampleConfig) s₀ sampleRemovalRun = some s ∧
      s.loop.gateway.userDelRequest.queue = [sampleIP] ∧
      ∃ orders, run (traced sampleConfig) (s₀, []) sampleRemovalRun = some (s, orders) ∧
        orders.map Order.ip = [sampleIP] := by
  have hcheck : ∃ s₀ ∈ start sampleConfig sampleTables (fun _ => 0) (fun _ => 0),
      (∀ x ∈ history (traced sampleConfig) (s₀, []) sampleRemovalRun, Aimed x.1 x.2) ∧
        ∃ s ∈ run (step sampleConfig) s₀ sampleRemovalRun,
          s.loop.gateway.userDelRequest.queue = [sampleIP] ∧ s.thread.Idle := by
    decide +kernel
  obtain ⟨s₀, hstart, haimed, s, hrun, hqueue, hidle⟩ := hcheck
  obtain ⟨orders, hghost, hlisted, -⟩ :=
    deletions_meant hstart (allSteps_of_history haimed) hrun
  rw [hqueue, hidle.2] at hlisted
  exact ⟨s₀, s, hstart, hrun, hqueue, orders, hghost, hlisted⟩

/-- In the meantime the second client asks for an address and gets the one that is
free again; then the gateway runs `add_user`. -/
def sampleReuseRun : List Event :=
  pass 7200006 [] [.addStaticIp, .addUser] ++
    pass 7200007 [Gateway.sampleRequest (sampleMAC 7), Gateway.bootRequest (sampleMAC 8) 3] [] ++
    [.others sampleRemoved] ++ turn .createDhcp 7200008 2 ++
    [.dispatch .updateTime, .serve 7200008 ⟨0, 0⟩ default none, .deliver] ++
    List.map .gateway [.gettimeofday 7200009, .inside none default, .outside none default, .poll,
      .handle .addUser]

/-- The deletion meant for the first client removes the entry of the second. -/
theorem deletion_hits_other :
    ∃ s₀ s, start sampleConfig sampleTables (fun _ => 0) (fun _ => 0) = some s₀ ∧
      run (traced sampleConfig) (s₀, []) sampleReuseRun =
        some (s, [⟨sampleIP, some (sampleMAC 7)⟩]) ∧
      UserMap.owner s.loop.gateway.userMap sampleIP = some (sampleMAC 8) ∧
      ∃ s', s.step sampleConfig (.gateway (.handle .delUser)) = some s' ∧
        UserMap.owner s'.loop.gateway.userMap sampleIP = none := by
  have hcheck : ∃ s₀ ∈ start sampleConfig sampleTables (fun _ => 0) (fun _ => 0),
      ∃ x ∈ run (traced sampleConfig) (s₀, []) sampleReuseRun,
        x.2 = [⟨sampleIP, some (sampleMAC 7)⟩] ∧
          UserMap.owner x.1.loop.gateway.userMap sampleIP = some (sampleMAC 8) ∧
          ∃ s' ∈ x.1.step sampleConfig (.gateway (.handle .delUser)),
            UserMap.owner s'.loop.gateway.userMap sampleIP = none := by
    decide +kernel
  obtain ⟨s₀, hstart, ⟨s, orders⟩, hrun, rfl, howner, s', hstep, hgone⟩ := hcheck
  exact ⟨s₀, s, hstart, hrun, howner, s', hstep, hgone⟩

end System

end GatewaySocket
