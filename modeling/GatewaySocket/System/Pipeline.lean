import GatewaySocket.Gateway.Channel
import GatewaySocket.System.Earned

/-!
# The way of a request through the daemon

A request goes from the frame it is read from through the queue of the database and
the batch of a handler into the tables; what it leads to goes as calls into the
gateway and through the channels there to the handlers. Each of these stages keeps
the order and neither loses nor repeats anything, and so does the whole way: the
answers on the wire are those to the requests that were read, one by one and in
the order in which they were read.
-/

namespace GatewaySocket

open ByteMemory Transition Tables

def Job.handler : Job → DbHandler
  | createDhcp _ => .createDhcp
  | updateTime _ => .updateTime

namespace System

variable {cfg : Config} {s s' s₀ : System} {ev : Event} {es : List Event} {t₀ : Tables}
  {inHeap outHeap : Memory} {h : List (System × Event)}

/-! ## What a step does -/

/-- What the step hands to the database, from the frame it reads. -/
def handedOver (x : System × Event) : List Job :=
  match x.2 with
  | .gateway a =>
    match x.1.loop.exec a with
    | some (_, e) => e.dhcp.map .createDhcp ++ e.updates.map .updateTime
    | none => []
  | _ => []

/-- The request that the step processes, with what comes of it. -/
def processed (cfg : Config) (x : System × Event) : List (Job × Outcome) :=
  match x.2, x.1.thread.temp with
  | .serve now choice u fault, job :: _ =>
    match x.1.tables.process cfg (job.request now choice u fault) with
    | some o => [(job, o)]
    | none => []
  | _, _ => []

/-- The call that the step delivers for the database thread. -/
def delivered (x : System × Event) : List Call :=
  match x.2 with
  | .deliver => x.1.thread.calls.head?.toList
  | _ => []

/-- What reaches the channel in the step, from whichever thread. -/
def called {α : Type} (ch : Channel α) (x : System × Event) : List α :=
  ((x.1.action x.2).map ch.called).getD []

/-- What the handler of the channel takes off in the step. -/
def handled {α : Type} (ch : Channel α) (x : System × Event) : List α :=
  ((x.1.action x.2).map (ch.handled x.1.loop)).getD []

/-- The requests of one kind that are queued or taken off and not yet processed. -/
def waiting (s : System) (handler : DbHandler) : List Job :=
  (s.thread.temp.filter fun job => job.handler = handler) ++
    match handler with
    | .createDhcp => s.createDHCPRequestQueue.queue.map .createDhcp
    | .updateTime => s.updateTimeQueue.queue.map .updateTime

/-! ## The stages -/

theorem filter_createDhcp (rs : List DhcpRequest) (handler : DbHandler) :
    ((rs.map Job.createDhcp).filter fun job => job.handler = handler) =
      if handler = .createDhcp then rs.map Job.createDhcp else [] := by
  cases handler <;> simp [Job.handler, List.filter_map, Function.comp_def]

theorem filter_updateTime (rs : List UpdateTime) (handler : DbHandler) :
    ((rs.map Job.updateTime).filter fun job => job.handler = handler) =
      if handler = .updateTime then rs.map Job.updateTime else [] := by
  cases handler <;> simp [Job.handler, List.filter_map, Function.comp_def]

/-- The requests wait in the order in which they came. -/
theorem conserves_requests (handler : DbHandler) :
    Conserves (step cfg) (fun s => s.waiting handler)
      (fun x => (handedOver x).filter fun job => job.handler = handler)
      fun x => ((processed cfg x).map Prod.fst).filter fun job => job.handler = handler := by
  intro s ev s' hstep
  cases steps_of_step hstep with
  | @gateway a loop e hopen hexec =>
      simp only [handedOver, hexec, processed, List.filter_append, filter_createDhcp,
        filter_updateTime]
      cases handler <;> simp [waiting, receive, RequestQueue.queue_foldl_push]
  | poll hidle => simp [handedOver, processed, waiting]
  | @dispatch other hidle =>
      have htemp : s.thread.temp = [] := hidle.1
      cases other <;> cases handler <;>
        simp [handedOver, processed, waiting, take, htemp, filter_createDhcp, filter_updateTime]
  | @serve now choice u fault job temp o hcalls htemp ho =>
      simp only [handedOver, processed, htemp, ho, waiting, List.filter_cons, List.map_cons,
        List.map_nil, List.filter_nil, List.append_nil]
      split <;> rfl
  | deliver hcalls => simp [handedOver, processed, waiting]
  | others tables => simp [handedOver, processed, waiting]

/-- The calls of a request are delivered in their order, before those of the next. -/
theorem conserves_calls : Conserves (step cfg) (fun s => s.thread.calls)
    (fun x => (processed cfg x).flatMap fun y => y.2.calls) delivered := by
  intro s ev s' hstep
  cases steps_of_step hstep with
  | gateway hopen hexec => exact List.append_nil _
  | poll hidle => exact List.append_nil _
  | @dispatch handler hidle =>
      cases handler <;> exact List.append_nil _
  | serve hcalls htemp ho => simp [processed, delivered, hcalls, htemp, ho]
  | deliver hcalls => simp [processed, delivered, hcalls]
  | others tables => exact List.append_nil _

/-- A channel of the gateway keeps the order of the calls. -/
theorem conserves_channel {α : Type} (ch : Channel α) :
    Conserves (step cfg) (fun s => ch.queue s.loop.gateway) (called ch) (handled ch) := by
  intro s ev s' hstep
  rcases step_loop hstep with ⟨hnone, hsame⟩ | ⟨a, ha, hloop⟩
  · simp [called, handled, hnone, hsame]
  · simpa [called, handled, ha] using ch.conserves _ _ _ hloop

/-- What the database thread calls goes through the channel; the calls of other
threads are about static addresses. -/
theorem conserves_way {α : Type} (ch : Channel α)
    (hstatic : ∀ c : Call, c.IsStatic → ch.request c = none) :
    Conserves (step cfg)
      (fun s => ch.queue s.loop.gateway ++ s.thread.calls.filterMap ch.request)
      (fun x => ((processed cfg x).flatMap fun y => y.2.calls).filterMap ch.request)
      (handled ch) := by
  refine (conserves_calls.filterMap ch.request).comp ((conserves_channel ch).congr_into ?_)
  intro s ev s' hstep
  cases steps_of_step hstep with
  | @gateway a loop e hopen hexec =>
      cases a with
      | call c => simp [called, delivered, action, Channel.called, hstatic c hopen]
      | _ => rfl
  | @deliver c calls hcalls =>
      simp only [called, delivered, action, Channel.called, hcalls, List.head?_cons,
        Option.map_some, Option.getD_some, Option.toList_some, List.filterMap_cons,
        List.filterMap_nil]
      cases ch.request c <;> rfl
  | _ => rfl

/-! ## From startup on -/

/-- The calls that `main` makes before it starts the threads. -/
def startupCalls (cfg : Config) (t : Tables) : List Call :=
  (t.getAllStaticIP.getD []).map (fun data => .addStaticIP data.1 data.2) ++
    ((t.getAllUser cfg.timeout.toUInt64).getD []).map .addUserInfo

theorem gateway_start (hstart : start cfg t₀ inHeap outHeap = some s) :
    s.loop.gateway = (startupCalls cfg t₀).foldl Gateway.call Gateway.init := by
  obtain ⟨allIP, hip, hstart⟩ := Option.bind_eq_some_iff.mp hstart
  obtain ⟨allUser, huser, hstart⟩ := Option.bind_eq_some_iff.mp hstart
  obtain rfl := Option.some.inj hstart
  rw [startupCalls, hip, huser, Option.getD_some, Option.getD_some, List.foldl_append,
    List.foldl_map, List.foldl_map]
  rfl

/-- **Every request is processed once, in the order of the frames.** What the
gateway has handed to the database, of either kind, is what has been processed
followed by what waits. -/
theorem requests_in_order (hstart : start cfg t₀ inHeap outHeap = some s₀)
    (hrun : run (step cfg) s₀ es = some s) (handler : DbHandler) :
    (((history (step cfg) s₀ es).flatMap handedOver).filter fun job => job.handler = handler) =
      (((history (step cfg) s₀ es).flatMap (processed cfg)).map Prod.fst).filter
        (fun job => job.handler = handler) ++ s.waiting handler := by
  have hs := started hstart
  have hnone : s₀.waiting handler = [] := by
    cases handler <;>
      simp [waiting, hs.thread, hs.createDHCPRequestQueue, hs.updateTimeQueue]
  have hflow := (conserves_requests handler).run hrun
  rw [hnone, List.nil_append] at hflow
  rw [List.filter_flatMap, hflow, List.map_flatMap, List.filter_flatMap]

/-- Both clients ask in one pass, the first one for the address that it has. -/
def sampleBothRun : List Event :=
  pass 7200006 [Gateway.bootRequest (sampleMAC 7) 3, Gateway.bootRequest (sampleMAC 8) 1]
      [.addStaticIp, .addUser] ++
    turn .createDhcp 7200006 2 ++ [.serve 7200006 ⟨0, 0⟩ default none, .deliver] ++
    pass 7200007 [] [.addUser, .sendPacket]

def sampleJobs : List Job :=
  [.createDhcp ⟨sampleMAC 7, Vector.replicate 4 0, myMtu, false⟩,
    .createDhcp ⟨sampleMAC 8, Vector.replicate 4 0, myMtu, true⟩]

/-- Their requests have been processed in turn. -/
theorem requests_in_order_grant :
    ∃ s₀ s, start sampleConfig sampleTables (fun _ => 0) (fun _ => 0) = some s₀ ∧
      run (step sampleConfig) s₀ sampleBothRun = some s ∧
      ((((history (step sampleConfig) s₀ sampleBothRun).flatMap
          (processed sampleConfig)).map Prod.fst).filter
            fun job => job.handler = .createDhcp) = sampleJobs ∧
      (((history (step sampleConfig) s₀ sampleBothRun).flatMap handedOver).filter
          fun job => job.handler = .createDhcp) = sampleJobs := by
  have hcheck : ∃ s₀ ∈ start sampleConfig sampleTables (fun _ => 0) (fun _ => 0),
      ∃ s ∈ run (step sampleConfig) s₀ sampleBothRun,
        s.waiting .createDhcp = [] ∧
        ((((history (step sampleConfig) s₀ sampleBothRun).flatMap
          (processed sampleConfig)).map Prod.fst).filter
            fun job => job.handler = .createDhcp) = sampleJobs := by
    decide +kernel
  obtain ⟨s₀, hstart, s, hrun, hwaiting, hprocessed⟩ := hcheck
  refine ⟨s₀, s, hstart, hrun, hprocessed, ?_⟩
  rw [requests_in_order hstart hrun, hwaiting, List.append_nil, hprocessed]

/-- The way through a channel, from startup on. -/
theorem way_in_order {α : Type} (ch : Channel α) (hstatic : ∀ c : Call, c.IsStatic → ch.request c = none)
    (hinit : ch.queue Gateway.init = []) (hstart : start cfg t₀ inHeap outHeap = some s₀)
    (hrun : run (step cfg) s₀ es = some s) :
    (startupCalls cfg t₀).filterMap ch.request ++
        ((history (step cfg) s₀ es).flatMap (processed cfg)).flatMap
          (fun y => y.2.calls.filterMap ch.request) =
      (history (step cfg) s₀ es).flatMap (handled ch) ++ ch.queue s.loop.gateway ++
        s.thread.calls.filterMap ch.request := by
  have hflow := (conserves_way ch hstatic).run hrun
  rw [gateway_start hstart, ch.queue_foldl_call, hinit, (started hstart).thread, List.filterMap_nil,
    List.append_nil, List.nil_append] at hflow
  rw [List.append_assoc, ← hflow]
  simp only [List.flatMap_assoc, List.filterMap_flatMap]

/-- The frames that `send_packet` writes in the step. -/
def answersWritten (x : System × Event) : List Frame :=
  match x.2 with
  | .gateway (.handle .sendPacket) =>
    match x.1.loop.exec (.handle .sendPacket) with
    | some (_, e) => e.toInside
    | none => []
  | _ => []

theorem answersWritten_eq (hstep : s.step cfg ev = some s') :
    answersWritten (s, ev) = (handled .sendPacket (s, ev)).flatMap
      fun packet => Device.writePacket packet.inMemory packet.getLength := by
  cases steps_of_step hstep with
  | @gateway a loop e hopen hexec =>
      cases a with
      | handle handler =>
          obtain ⟨ready, -, -, -, rfl⟩ := Loop.exec_handle hexec
          cases handler with
          | sendPacket =>
              simp only [answersWritten, hexec, handled, action, Option.map_some, Option.getD_some,
                Channel.handled, Channel.sendPacket, if_true, Gateway.handle,
                Gateway.sendPacketHandler, RequestQueue.drain_fst]
          | _ => rfl
      | _ => rfl
  | deliver hcalls => simp [answersWritten, handled, action, Channel.handled, hcalls]
  | _ => rfl

theorem mem_processed {x : System × Event} {y : Job × Outcome} (hy : y ∈ processed cfg x) :
    ∃ now choice u fault, x.1.tables.process cfg (y.1.request now choice u fault) = some y.2 := by
  unfold processed at hy
  split at hy
  · next now choice u fault job temp hev htemp =>
      split at hy
      · next o ho =>
          rw [List.mem_singleton.mp hy]
          exact ⟨now, choice, u, fault, ho⟩
      · contradiction
  · contradiction

theorem mem_processed_history {y : Job × Outcome} (hy : y ∈ h.flatMap (processed cfg)) :
    ∃ x ∈ h, ∃ now choice u fault,
      x.1.tables.process cfg (y.1.request now choice u fault) = some y.2 := by
  obtain ⟨x, hx, hy⟩ := List.mem_flatMap.mp hy
  exact ⟨x, hx, mem_processed hy⟩

/-- The packet of an answer is the only one that is passed on for a request. -/
theorem packet_calls {t : Tables} {a : Request} {o : Outcome} (ho : t.process cfg a = some o) :
    o.calls.filterMap Call.packet = (o.answer.map Answer.packet).toList := by
  cases a with
  | dhcp request now choice u fault =>
      obtain ⟨ip, -, -, hcalls⟩ := process_dhcp ho
      rw [hcalls]
      cases o.answer with
      | none => rfl
      | some ans =>
          rw [Option.map_some, Option.getD_some, Answer.calls]
          cases ans.isDiscover <;> rfl
  | update request fault =>
      obtain ⟨hnone, -, -, hcalls⟩ := process_update ho
      rw [hnone]
      rcases hcalls with hdel | ⟨hnil, -⟩
      · rw [hdel]
        rfl
      · rw [hnil]
        rfl

/-- The user of an accepted REQUEST is the only one that is added for a request. -/
theorem added_calls {t : Tables} {a : Request} {o : Outcome} (ho : t.process cfg a = some o) :
    o.calls.filterMap Call.added =
      ((o.answer.filter fun ans => !ans.isDiscover).map Answer.userInfo).toList := by
  cases a with
  | dhcp request now choice u fault =>
      obtain ⟨ip, -, -, hcalls⟩ := process_dhcp ho
      rw [hcalls]
      cases o.answer with
      | none => rfl
      | some ans =>
          rw [Option.map_some, Option.getD_some, Answer.calls, Option.filter]
          cases ans.isDiscover <;> rfl
  | update request fault =>
      obtain ⟨hnone, -, -, hcalls⟩ := process_update ho
      rw [hnone]
      rcases hcalls with hdel | ⟨hnil, -⟩
      · rw [hdel]
        rfl
      · rw [hnil]
        rfl

/-- **The answers go out once and in the order of the requests.** The packets that
`create_dhcp` has built so far are those that were written, those in the queue of
the gateway and the one on its way there, and `send_packet` writes nothing else. -/
theorem answers_in_order (hstart : start cfg t₀ inHeap outHeap = some s₀)
    (hrun : run (step cfg) s₀ es = some s) :
    ((history (step cfg) s₀ es).flatMap (processed cfg)).flatMap
        (fun y => (y.2.answer.map Answer.packet).toList) =
      (history (step cfg) s₀ es).flatMap (handled .sendPacket) ++
        s.loop.gateway.sendPacketRequestQueue.queue ++ s.thread.calls.filterMap Call.packet ∧
    (history (step cfg) s₀ es).flatMap answersWritten =
      ((history (step cfg) s₀ es).flatMap (handled .sendPacket)).flatMap
        fun packet => Device.writePacket packet.inMemory packet.getLength := by
  constructor
  · have hway := way_in_order .sendPacket (by rintro ⟨⟩ hc <;> first | rfl | exact hc.elim) rfl hstart
      hrun
    have hnone : (startupCalls cfg t₀).filterMap Channel.sendPacket.request = [] := by
      simp [startupCalls, Channel.sendPacket, Call.packet]
    rw [hnone, List.nil_append] at hway
    refine Eq.trans (List.flatMap_congr fun y hy => ?_) hway
    obtain ⟨x, -, now, choice, u, fault, ho⟩ := mem_processed_history hy
    exact (packet_calls ho).symm
  · rw [List.flatMap_assoc]
    exact flatMap_history_congr (fun _ _ _ hstep => answersWritten_eq hstep) hrun

/-- The answers to both clients have been written, in turn. -/
theorem answers_in_order_grant :
    ∃ s₀ s, start sampleConfig sampleTables (fun _ => 0) (fun _ => 0) = some s₀ ∧
      run (step sampleConfig) s₀ sampleBothRun = some s ∧
      ∃ packets, ((history (step sampleConfig) s₀ sampleBothRun).flatMap
          (processed sampleConfig)).flatMap
            (fun y => (y.2.answer.map Answer.packet).toList) = packets ∧
        (history (step sampleConfig) s₀ sampleBothRun).flatMap (handled .sendPacket) = packets ∧
        packets.flatMap (fun packet => Device.writePacket packet.inMemory packet.getLength) =
          (history (step sampleConfig) s₀ sampleBothRun).flatMap answersWritten ∧
        ((history (step sampleConfig) s₀ sampleBothRun).flatMap answersWritten).map
          Frame.etherDestination = [sampleMAC 7, sampleMAC 8] := by
  have hcheck : ∃ s₀ ∈ start sampleConfig sampleTables (fun _ => 0) (fun _ => 0),
      ∃ s ∈ run (step sampleConfig) s₀ sampleBothRun,
        s.loop.gateway.sendPacketRequestQueue.queue.length = 0 ∧ s.thread.calls.length = 0 ∧
        ((history (step sampleConfig) s₀ sampleBothRun).flatMap answersWritten).map
          Frame.etherDestination = [sampleMAC 7, sampleMAC 8] := by
    decide +kernel
  obtain ⟨s₀, hstart, s, hrun, hqueue, hcalls, hwritten⟩ := hcheck
  obtain ⟨hbuilt, hframes⟩ := answers_in_order hstart hrun
  rw [List.length_eq_zero_iff.mp hqueue, List.length_eq_zero_iff.mp hcalls,
    List.filterMap_nil, List.append_nil, List.append_nil] at hbuilt
  exact ⟨s₀, s, hstart, hrun, _, hbuilt, rfl, hframes.symm, hwritten⟩

/-- **Users are added and deleted once and in order.** The users that `main` loaded
and those of the accepted REQUESTs are those that `add_user` has added, those in
its queue and the one on its way there; and likewise with the deletions. -/
theorem users_in_order (hstart : start cfg t₀ inHeap outHeap = some s₀)
    (hrun : run (step cfg) s₀ es = some s) :
    (t₀.getAllUser cfg.timeout.toUInt64).getD [] ++
        ((history (step cfg) s₀ es).flatMap (processed cfg)).flatMap
          (fun y => ((y.2.answer.filter fun ans => !ans.isDiscover).map Answer.userInfo).toList) =
      (history (step cfg) s₀ es).flatMap (handled .userAdd) ++ s.loop.gateway.userAddRequest.queue ++
        s.thread.calls.filterMap Call.added ∧
    ((history (step cfg) s₀ es).flatMap (processed cfg)).flatMap
        (fun y => y.2.calls.filterMap Call.deleted) =
      (history (step cfg) s₀ es).flatMap (handled .userDel) ++ s.loop.gateway.userDelRequest.queue ++
        s.thread.calls.filterMap Call.deleted := by
  constructor
  · have hway := way_in_order .userAdd (by rintro ⟨⟩ hc <;> first | rfl | exact hc.elim) rfl hstart
      hrun
    have hloaded : (startupCalls cfg t₀).filterMap Channel.userAdd.request =
        (t₀.getAllUser cfg.timeout.toUInt64).getD [] := by
      simp [startupCalls, Channel.userAdd, Call.added, Function.comp_def]
    rw [hloaded] at hway
    refine Eq.trans (congrArg _ (List.flatMap_congr fun y hy => ?_)) hway
    obtain ⟨x, -, now, choice, u, fault, ho⟩ := mem_processed_history hy
    exact (added_calls ho).symm
  · have hway := way_in_order .userDel (by rintro ⟨⟩ hc <;> first | rfl | exact hc.elim) rfl hstart
      hrun
    have hnone : (startupCalls cfg t₀).filterMap Channel.userDel.request = [] := by
      simp [startupCalls, Channel.userDel, Call.deleted]
    rw [hnone, List.nil_append] at hway
    exact hway

/-- The first client was loaded, and the second one accepted after it. -/
theorem users_in_order_grant :
    ∃ s₀ s, start sampleConfig sampleTables (fun _ => 0) (fun _ => 0) = some s₀ ∧
      run (step sampleConfig) s₀ (sampleGrantRun 8) = some s ∧
      ∃ loaded, sampleTables.getAllUser sampleConfig.timeout.toUInt64 = some loaded ∧
        loaded.length = 1 ∧
        loaded <+: (history (step sampleConfig) s₀ (sampleGrantRun 8)).flatMap (handled .userAdd) ∧
        ((history (step sampleConfig) s₀ (sampleGrantRun 8)).flatMap (handled .userAdd)).length =
          2 := by
  have hcheck : ∃ s₀ ∈ start sampleConfig sampleTables (fun _ => 0) (fun _ => 0),
      ∃ s ∈ run (step sampleConfig) s₀ (sampleGrantRun 8),
        s.loop.gateway.userAddRequest.queue = [] ∧ s.thread.calls.length = 0 ∧
        (∃ loaded ∈ sampleTables.getAllUser sampleConfig.timeout.toUInt64, loaded.length = 1) ∧
        ((history (step sampleConfig) s₀ (sampleGrantRun 8)).flatMap
          (handled .userAdd)).length = 2 := by
    decide +kernel
  obtain ⟨s₀, hstart, s, hrun, hqueue, hcalls, ⟨loaded, hloaded, hone⟩, htwo⟩ := hcheck
  have horder := (users_in_order hstart hrun).1
  rw [Option.mem_def.mp hloaded, hqueue, List.length_eq_zero_iff.mp hcalls, List.filterMap_nil,
    List.append_nil, List.append_nil] at horder
  exact ⟨s₀, s, hstart, hrun, loaded, hloaded, hone, ⟨_, horder⟩, htwo⟩

end System

end GatewaySocket
