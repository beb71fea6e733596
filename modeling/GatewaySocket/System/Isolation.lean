import GatewaySocket.Gateway.Isolation
import GatewaySocket.System.Earned

/-!
# DHCP isolation

The inside hears only one DHCP server. No datagram of a client leaves and none of
a server comes in, and the packets that `send_packet` writes were built by
`create_dhcp`: the proof follows them from the request through the calls of the
database thread and the queue of the gateway.
-/

namespace GatewaySocket

open ByteMemory Transition Tables

namespace System

variable {cfg : Config} {s s' s₀ : System} {ev : Event} {es : List Event} {t₀ : Tables}
  {inHeap outHeap : Memory} {h : List (System × Event)} {packet : Packet}

/-- In this step `create_dhcp` built the packet, for the answer to a request. -/
def Built (cfg : Config) (x : System × Event) (packet : Packet) : Prop :=
  ∃ r now choice u fault temp o ans, x.2 = .serve now choice u fault ∧
    x.1.thread.temp = .createDhcp r :: temp ∧
    x.1.tables.process cfg (.dhcp r now choice u fault) = some o ∧
    o.answer = some ans ∧ ans.packet = packet

/-- In this step `create_dhcp` passed the packet to `sendPacketRequest`. -/
def Passed (x : System × Event) (packet : Packet) : Prop :=
  x.2 = .deliver ∧ x.1.thread.calls.head? = some (.sendPacketRequest packet)

/-- The packet was built and then passed on. -/
def BuiltAndPassed (cfg : Config) (h : List (System × Event)) (packet : Packet) : Prop :=
  ∃ x y, [x, y].Sublist h ∧ Built cfg x packet ∧ Passed y packet

/-- Packets in the hands of the database thread were built, those in the queue of
the gateway were passed on as well. -/
structure Sources (cfg : Config) (h : List (System × Event)) (s : System) : Prop where
  called : ∀ packet, .sendPacketRequest packet ∈ s.thread.calls → ∃ x ∈ h, Built cfg x packet
  queued : ∀ packet ∈ s.loop.gateway.sendPacketRequestQueue.queue, BuiltAndPassed cfg h packet

theorem Sources.snoc (hs : Sources cfg h s) (x : System × Event) : Sources cfg (h ++ [x]) s where
  called := fun packet hp =>
    (hs.called packet hp).imp fun _ hy => ⟨List.mem_append_left _ hy.1, hy.2⟩
  queued := by
    intro packet hp
    obtain ⟨y, z, hsub, hyz⟩ := hs.queued packet hp
    exact ⟨y, z, hsub.trans (List.sublist_append_left h [x]), hyz⟩

theorem queue_sendPacketRequest_start (hstart : start cfg t₀ inHeap outHeap = some s) :
    s.loop.gateway.sendPacketRequestQueue.queue = [] := by
  obtain ⟨allIP, -, hstart⟩ := Option.bind_eq_some_iff.mp hstart
  obtain ⟨allUser, -, hstart⟩ := Option.bind_eq_some_iff.mp hstart
  obtain rfl := Option.some.inj hstart
  have hstatic : ∀ (l : List (InAddr × EtherAddr)) (g : Gateway),
      (l.foldl (fun g data => g.addStaticIP data.1 data.2) g).sendPacketRequestQueue =
        g.sendPacketRequestQueue := by
    intro l
    induction l with
    | nil => exact fun g => rfl
    | cons data l ih => exact fun g => ih _
  have huser : ∀ (l : List UserInfo) (g : Gateway),
      (l.foldl Gateway.addUserInfo g).sendPacketRequestQueue = g.sendPacketRequestQueue := by
    intro l
    induction l with
    | nil => exact fun g => rfl
    | cons info l ih => exact fun g => ih _
  simp only [Loop.init, huser, hstatic]
  rfl

theorem sources_start (hstart : start cfg t₀ inHeap outHeap = some s) : Sources cfg [] s where
  called := by
    rw [(started hstart).thread]
    exact fun _ => nofun
  queued := by
    rw [queue_sendPacketRequest_start hstart]
    exact fun _ => nofun

theorem sources_step (hs : Sources cfg h s) (hstep : s.step cfg ev = some s') :
    Sources cfg (h ++ [(s, ev)]) s' := by
  have hsnoc := hs.snoc (s, ev)
  cases steps_of_step hstep with
  | @gateway a loop e hopen hexec =>
      have hmoves : Loop.Moves s.loop a loop.gateway :=
        Loop.step_moves (by rw [Loop.step, hexec]; rfl)
      refine ⟨hsnoc.called, fun packet hp => ?_⟩
      rcases hmoves.mem_sendPacketRequestQueue hp with hold | rfl
      · exact hsnoc.queued packet hold
      · exact absurd hopen id
  | poll hidle => exact ⟨hsnoc.called, hsnoc.queued⟩
  | @dispatch handler hidle => cases handler <;> exact ⟨hsnoc.called, hsnoc.queued⟩
  | @serve now choice u fault job temp o hcalls htemp ho =>
      refine ⟨fun packet hp => ⟨(s, _), List.mem_append_right h (List.mem_singleton.mpr rfl), ?_⟩,
        hsnoc.queued⟩
      obtain ⟨ans, hans, hpacket⟩ := answer_of_sendPacketRequest ho hp
      cases job with
      | updateTime request =>
          rw [(process_update ho).1] at hans
          contradiction
      | createDhcp r =>
          exact ⟨r, now, choice, u, fault, temp, o, ans, rfl, htemp, ho, hans, hpacket⟩
  | @deliver c calls hcalls =>
      refine ⟨fun packet hp => hsnoc.called packet ?_, fun packet hp => ?_⟩
      · rw [hcalls]
        exact List.mem_cons_of_mem c hp
      · rcases (Loop.Moves.call c).mem_sendPacketRequestQueue hp with hold | hnew
        · exact hsnoc.queued packet hold
        · obtain rfl := Action.call.inj hnew
          obtain ⟨x, hx, hbuilt⟩ := hs.called packet (by rw [hcalls]; exact List.mem_cons_self)
          exact ⟨x, _, (List.singleton_sublist.mpr hx).append (List.Sublist.refl [_]), hbuilt, rfl,
            by rw [hcalls]; rfl⟩
  | others tables => exact ⟨hsnoc.called, hsnoc.queued⟩

/-- **DHCP isolation.** Whatever state the loop is in, a datagram from inside
between the ports of a DHCP client is not forwarded and no such datagram is
written to the outside; nor is a datagram from outside between the ports of a
server forwarded to the inside. In a run of the daemon all such datagrams written
to the inside are packets that `create_dhcp` built and passed on. -/
theorem dhcp_isolation :
    (∀ l l' : Loop, ∀ a e, l.exec a = some (l', e) →
      (∀ f u, a = .inside (some f) u → f.IsUDP 68 67 → e.toOutside = []) ∧
      (∀ out ∈ e.toOutside, ¬out.IsUDP 68 67) ∧
      ∀ f u, a = .outside (some f) u → f.IsUDP 67 68 → e.toInside = []) ∧
    ∀ cfg t₀ inHeap outHeap s₀ es s, start cfg t₀ inHeap outHeap = some s₀ →
      run (step cfg) s₀ es = some s → ∀ a loop e, s.loop.exec a = some (loop, e) →
        ∀ out ∈ e.toInside, out.IsUDP 67 68 → a = .handle .sendPacket ∧
          ∃ packet, BuiltAndPassed cfg (history (step cfg) s₀ es) packet ∧
            out ∈ Device.writePacket packet.inMemory packet.getLength := by
  constructor
  · intro l l' a e hexec
    refine ⟨?_, fun out => Loop.not_client_toOutside hexec, ?_⟩
    · rintro f u rfl hudp
      obtain ⟨-, effect, -, heffect, -, rfl⟩ := Loop.exec_inside hexec
      exact Gateway.toOutside_of_client heffect hudp
    · rintro f u rfl hudp
      obtain ⟨-, -, -, rfl⟩ := Loop.exec_outside hexec
      exact Gateway.toInside_of_server hudp
  · intro cfg t₀ inHeap outHeap s₀ es s hstart hrun a loop e hexec out hout hudp
    have hs : Sources cfg (history (step cfg) s₀ es) s :=
      history_induction (fun h m ev m' hs hstep => sources_step hs hstep) (sources_start hstart) hrun
    obtain ⟨ha, packet, hpacket, hmem⟩ := Loop.queued_of_server_toInside hexec hout hudp
    exact ⟨ha, packet, hs.queued packet hpacket, hmem⟩

/-- The ACK of the second client is one of them. -/
theorem dhcp_isolation_ack :
    ∃ s₀ s loop e, start sampleConfig sampleTables (fun _ => 0) (fun _ => 0) = some s₀ ∧
      run (step sampleConfig) s₀ ((sampleGrantRun 8).dropLast.dropLast) = some s ∧
      s.loop.exec (.handle .sendPacket) = some (loop, e) ∧
      ∃ out ∈ e.toInside, out.IsUDP 67 68 ∧
        ∃ packet, BuiltAndPassed sampleConfig
          (history (step sampleConfig) s₀ ((sampleGrantRun 8).dropLast.dropLast)) packet ∧
          out ∈ Device.writePacket packet.inMemory packet.getLength := by
  have hcheck : ∃ s₀ ∈ start sampleConfig sampleTables (fun _ => 0) (fun _ => 0),
      ∃ s ∈ run (step sampleConfig) s₀ ((sampleGrantRun 8).dropLast.dropLast),
        ∃ x ∈ s.loop.exec (.handle .sendPacket), ∃ out ∈ x.2.toInside, out.IsUDP 67 68 := by
    decide +kernel
  obtain ⟨s₀, hstart, s, hrun, ⟨loop, e⟩, hexec, out, hout, hudp⟩ := hcheck
  exact ⟨s₀, s, loop, e, hstart, hrun, hexec, out, hout, hudp,
    (dhcp_isolation.2 _ _ _ _ _ _ _ hstart hrun _ _ _ hexec out hout hudp).2⟩

end System

end GatewaySocket
