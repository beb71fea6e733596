import GatewaySocket.Database.Response
import GatewaySocket.Gateway.Bounds
import GatewaySocket.Gateway.Refinement
import GatewaySocket.System.Isolation

/-!
# No packet exceeds its block

`create_dhcp` sets the length of an answer to what `makePacket` returns, which is -1
where the frame would exceed the block. So the packets on their way through the
queue are bounded like the two buffers, and the daemon writes no frame that is
longer than a device takes.
-/

namespace GatewaySocket

open ByteMemory Transition Tables

/-- The packet of an answer, of whatever length its payload is. -/
theorem bounded_answer (cfg : Config) (request : DhcpRequest) (ip : InAddr) (u : Indeterminate) :
    (answer cfg request ip u).packet.Bounded := by
  rw [answer_packet]
  by_cases hfits : UDP.totalHeaderLen + (answerDatagram cfg request ip u).data.length ≤ myPacketLen
  · rw [UDP.Datagram.make_eq hfits (Int.ofNat_le.mpr hfits)]
    exact ⟨rfl, Int.ofNat_le.mpr hfits⟩
  · rw [UDP.Datagram.make_of_exceeds (Nat.lt_of_not_le hfits)]
    exact ⟨rfl, Int.le_trans (Int.negSucc_le_zero 0) (Int.natCast_nonneg _)⟩

namespace System

variable {cfg : Config} {s s' s₀ : System} {ev : Event} {es : List Event} {t₀ : Tables}
  {inHeap outHeap : Memory}

/-- The packets of the gateway's thread are bounded, and so are those that the
database thread is about to pass on. -/
structure Bounded (s : System) : Prop where
  loop : s.loop.Bounded
  called : ∀ packet, .sendPacketRequest packet ∈ s.thread.calls → packet.Bounded

/-- What the gateway's thread sends in the step. -/
def emission (x : System × Event) : Emission :=
  match x.2 with
  | .gateway a => Loop.emitted (x.1.loop, a)
  | _ => {}

theorem emission_gateway {a : Action} {loop : Loop} {e : Emission}
    (h : s.loop.exec a = some (loop, e)) : emission (s, .gateway a) = e := by
  simp only [emission, Loop.emitted, h, Option.map_some, Option.getD_some]

/-- The frames that the step writes to the two devices. -/
def written (x : System × Event) : List Frame := (emission x).toInside ++ (emission x).toOutside

theorem bounded_step (hs : s.Bounded) (hstep : s.step cfg ev = some s') :
    s'.Bounded ∧ ∀ out ∈ written (s, ev), out.length ≤ myPacketLen := by
  cases steps_of_step hstep with
  | @gateway a loop e hopen hexec =>
      have hcall : ∀ packet, a = .call (.sendPacketRequest packet) → packet.Bounded := by
        rintro packet rfl
        exact absurd hopen id
      obtain ⟨hloop, hlength⟩ := Loop.bounded_exec hs.loop hcall hexec
      refine ⟨⟨hloop, hs.called⟩, ?_⟩
      rw [written, emission_gateway hexec]
      exact hlength
  | poll hidle => exact ⟨⟨hs.loop, hs.called⟩, fun _ => nofun⟩
  | @dispatch handler hidle => cases handler <;> exact ⟨⟨hs.loop, hs.called⟩, fun _ => nofun⟩
  | @serve now choice u fault job temp o hcalls htemp ho =>
      refine ⟨⟨hs.loop, fun packet hpacket => ?_⟩, fun _ => nofun⟩
      obtain ⟨ans, hans, rfl⟩ := answer_of_sendPacketRequest ho hpacket
      obtain ⟨r, _, _, u', _, text, -, -, -, -, rfl⟩ := answer_eq ho hans
      exact bounded_answer cfg r (inetAddr text) u'
  | @deliver c calls hcalls =>
      refine ⟨⟨⟨hs.loop.inPacket, hs.loop.outPacket, fun packet hpacket => ?_⟩,
        fun packet hpacket => hs.called packet ?_⟩, fun _ => nofun⟩
      · rcases (Loop.Moves.call c).mem_sendPacketRequestQueue hpacket with hold | hnew
        · exact hs.loop.queued packet hold
        · obtain rfl := Action.call.inj hnew
          exact hs.called packet (hcalls ▸ List.mem_cons_self)
      · exact hcalls ▸ List.mem_cons_of_mem c hpacket
  | others tables => exact ⟨⟨hs.loop, hs.called⟩, fun _ => nofun⟩

theorem bounded_start (hstart : start cfg t₀ inHeap outHeap = some s) : s.Bounded := by
  have hnew : ∀ heap, (Packet.new myPacketLen heap).Bounded :=
    fun heap => ⟨rfl, Int.natCast_nonneg _⟩
  have hqueue := queue_sendPacketRequest_start hstart
  obtain ⟨allIP, -, hstart⟩ := Option.bind_eq_some_iff.mp hstart
  obtain ⟨allUser, -, hstart⟩ := Option.bind_eq_some_iff.mp hstart
  obtain rfl := Option.some.inj hstart
  refine ⟨⟨hnew inHeap, hnew outHeap, ?_⟩, fun _ => nofun⟩
  rw [hqueue]
  exact fun _ => nofun

/-- **Everything fits.** Whatever frames arrive and however many servers are
configured, the packets of the daemon are never longer than their blocks, which are
made for one frame, and no frame that it writes is longer than a device takes. -/
theorem bounded_run (hstart : start cfg t₀ inHeap outHeap = some s₀)
    (hrun : run (step cfg) s₀ es = some s) :
    (s.loop.inPacket.Bounded ∧ s.loop.outPacket.Bounded ∧
      (∀ packet ∈ s.loop.gateway.sendPacketRequestQueue.queue, packet.Bounded) ∧
      ∀ packet, .sendPacketRequest packet ∈ s.thread.calls → packet.Bounded) ∧
    ∀ out ∈ (history (step cfg) s₀ es).flatMap written, out.length ≤ myPacketLen := by
  have hbounded : s.Bounded ∧
      ∀ x ∈ history (step cfg) s₀ es, ∀ out ∈ written x, out.length ≤ myPacketLen := by
    refine history_induction (P := fun h m => m.Bounded ∧
      ∀ x ∈ h, ∀ out ∈ written x, out.length ≤ myPacketLen) ?_
      ⟨bounded_start hstart, fun _ => nofun⟩ hrun
    intro h m ev m' ⟨hm, hwritten⟩ hstep
    obtain ⟨hm', hlength⟩ := bounded_step hm hstep
    refine ⟨hm', fun x hx => ?_⟩
    rcases List.mem_append.mp hx with hx | hx
    · exact hwritten x hx
    · exact List.mem_singleton.mp hx ▸ hlength
  obtain ⟨⟨hloop, hcalled⟩, hwritten⟩ := hbounded
  refine ⟨⟨hloop.inPacket, hloop.outPacket, hloop.queued, hcalled⟩, fun out hout => ?_⟩
  obtain ⟨x, hx, hmem⟩ := List.mem_flatMap.mp hout
  exact hwritten x hx out hmem

/-- The answer to the second client is among the frames that are written. -/
theorem bounded_run_grant :
    ∃ s₀ s out, start sampleConfig sampleTables (fun _ => 0) (fun _ => 0) = some s₀ ∧
      run (step sampleConfig) s₀ (sampleGrantRun 8) = some s ∧
      out ∈ (history (step sampleConfig) s₀ (sampleGrantRun 8)).flatMap written ∧
      out.IsUDP 67 68 ∧ out.length ≤ myPacketLen := by
  have hcheck : ∃ s₀ ∈ start sampleConfig sampleTables (fun _ => 0) (fun _ => 0),
      ∃ s ∈ run (step sampleConfig) s₀ (sampleGrantRun 8),
        ∃ out ∈ (history (step sampleConfig) s₀ (sampleGrantRun 8)).flatMap written, out.IsUDP 67 68 := by
    decide +kernel
  obtain ⟨s₀, hstart, s, hrun, out, hout, hudp⟩ := hcheck
  exact ⟨s₀, s, out, hstart, hrun, hout, hudp, (bounded_run hstart hrun).2 out hout⟩

end System

end GatewaySocket
