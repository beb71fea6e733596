import GatewaySocket.Gateway.Isolation
import GatewaySocket.Gateway.Maps

/-!
# Blocks and lengths

The accessors of a packet compare with its length and never with its block, so
they stay in the block as long as the length does not exceed the capacity. Lengths
are set to what a read returns, cut to the size of the buffer, and to what
`makePacket` returns. No packet is longer than its block, and none that is written
to a device is longer than what the device takes.
-/

namespace GatewaySocket

open ByteMemory

namespace Packet

variable {p q : Packet} {out : Frame}

/-- The packet has a block for one frame, and its length lies within it. -/
structure Bounded (p : Packet) : Prop where
  capacity : p.capacity = myPacketLen
  length : p.writtenByte ≤ p.capacity

@[simp] theorem capacity_writeByteArray (p : Packet) (pos : ℕ) (bytes : List UInt8) :
    (p.writeByteArray pos bytes).capacity = p.capacity := by
  unfold writeByteArray
  split <;> rfl

theorem Bounded.writeByteArray (h : p.Bounded) (pos : ℕ) (bytes : List UInt8) :
    (p.writeByteArray pos bytes).Bounded where
  capacity := by rw [capacity_writeByteArray, h.capacity]
  length := by
    rw [writtenByte_writeByteArray, capacity_writeByteArray]
    exact h.length

/-- A read fills no more than the block, and the length is set to no more. -/
theorem Bounded.received (hp : p.Bounded) {f : Frame} {length : ℤ} (h : length ≤ myPacketLen) :
    ({ p with inMemory := Device.readPacket p.inMemory myPacketLen f }.setLength length).Bounded where
  capacity := hp.capacity
  length := by
    rw [setLength, hp.capacity]
    exact h

/-- What is written of the packet fits a device. -/
theorem Bounded.length_le (h : p.Bounded) (hout : out ∈ Device.writePacket p.inMemory p.getLength) :
    out.length ≤ myPacketLen := by
  obtain ⟨-, rfl⟩ := Device.mem_writePacket hout
  have hlength : p.writtenByte ≤ (myPacketLen : ℕ) := h.capacity ▸ h.length
  rw [image_length, getLength]
  exact Int.toNat_le.mpr hlength

end Packet

/-- The answer to a frame that is too long has 70 bytes. -/
theorem length_icmpMtu {packet : Packet} {mtu : UInt16} {u : Indeterminate} {out : Frame}
    (h : out ∈ icmpMtu packet mtu u) : out.length = 70 := by
  simp only [icmpMtu] at h
  split at h
  · contradiction
  split at h
  · contradiction
  split at h
  · contradiction
  obtain ⟨-, rfl⟩ := Device.mem_writePacket h
  simp [Packet.getLength, Packet.setLength, Ethernet.setSource, Ethernet.setDestination,
    Ethernet.setProtocol]

namespace Gateway

variable {g : Gateway} {p q : Packet} {f out : Frame} {u : Indeterminate} {t : UInt64} {e : Effect}
  {user : Option (InAddr × UserInfo)} {n : ℤ}

section Rewritten

variable {P : Packet → Prop} (hwrite : ∀ q pos bytes, P q → P (q.writeByteArray pos bytes))
include hwrite

/-- What goes outside is the packet at hand after some writes. -/
theorem rewritten_of_insideVerdict (hp : P p) (hv : g.insideVerdict p n u = .pass q user) : P q := by
  have hpasses : ∀ destIP srcIP mac (rewrite : EtherAddr → Packet), (∀ mac, P (rewrite mac)) →
      Passes g p destIP srcIP mac rewrite q user → P q := by
    intro destIP srcIP mac rewrite hrewrite h
    cases h with
    | owned info mac => exact hrewrite mac
    | foreign => exact hp
  unfold insideVerdict at hv
  split at hv
  · rw [insideARP_eq] at hv
    split at hv
    · exact hpasses _ _ _ _ (fun mac => hwrite _ _ _ (hwrite _ _ _ hp)) (passes_of_outbound hv)
    · contradiction
  · split at hv
    · obtain ⟨-, hout⟩ := outbound_of_insideIP hv (by simp) (by simp)
      exact hpasses _ _ _ _ (fun mac => hwrite _ _ _ hp) (passes_of_outbound hout)
    · injection hv with hpacket
      exact hpacket ▸ hp

/-- What goes inside is the packet at hand after some writes. -/
theorem rewritten_of_outsideVerdict (hp : P p) (hv : (g.outsideVerdict p n u).2 = some q) : P q := by
  have hdelivers : ∀ arp destIP srcIP mac (rewrite : EtherAddr → Packet) g' q',
      (∀ mac, P (rewrite mac)) → Delivers arp g p destIP srcIP mac rewrite g' q' → P q' := by
    intro arp destIP srcIP mac rewrite g' q' hrewrite h
    cases h with
    | translated mac info => exact hrewrite info.userMac
    | unowned | stale | foreign => exact hp
  unfold outsideVerdict at hv
  split at hv
  · rcases outsideARP_cases g p u with hdrop | ⟨-, g', q', hdel, hout⟩
    · rw [hdrop] at hv
      contradiction
    · rw [hout] at hv
      obtain rfl := Option.some.inj hv
      exact hdelivers _ _ _ _ _ _ _ (fun mac => hwrite _ _ _ (hwrite _ _ _ hp)) hdel
  · split at hv
    · rcases outsideIP_cases g p n u with hdrop | ⟨-, -, g', q', hdel, hout⟩
      · rw [hdrop] at hv
        contradiction
      · obtain rfl : q' = q := by
          rw [hout] at hv
          split at hv
          · contradiction
          · exact Option.some.inj hv
        exact hdelivers _ _ _ _ _ _ _ (fun mac => hwrite _ _ _ hp) hdel
    · obtain rfl := Option.some.inj hv
      exact hp

end Rewritten

theorem bounded_inside (hp : p.Bounded) (h : g.inside t p f u = some e) :
    e.packet.Bounded ∧ ∀ out ∈ e.toInside ++ e.toOutside, out.length ≤ myPacketLen := by
  simp only [inside] at h
  split at h
  · obtain rfl := Option.some.inj h
    refine ⟨hp.received (Int.le_refl _), fun out hout => ?_⟩
    simp only [List.append_nil] at hout
    have hicmp : out.length = 70 := length_icmpMtu hout
    exact hicmp ▸ by decide
  next hlong =>
  have hread := hp.received (f := f) (Int.not_lt.mp hlong)
  split at h
  · obtain rfl := Option.some.inj h
    exact ⟨⟨hp.capacity, hp.length⟩, fun out hout => absurd hout List.not_mem_nil⟩
  split at h
  · contradiction
  · obtain rfl := Option.some.inj h
    exact ⟨hread, fun out hout => absurd hout List.not_mem_nil⟩
  · obtain rfl := Option.some.inj h
    exact ⟨hread, fun out hout => absurd hout List.not_mem_nil⟩
  · next packet user hv =>
      obtain rfl := Option.some.inj h
      have hpacket : packet.Bounded :=
        rewritten_of_insideVerdict (fun _ pos bytes hq => hq.writeByteArray pos bytes) hread hv
      exact ⟨hpacket, fun out hout => hpacket.length_le hout⟩

theorem bounded_outside (hp : p.Bounded) : (g.outside p f u).packet.Bounded ∧
    ∀ out ∈ (g.outside p f u).toInside ++ (g.outside p f u).toOutside, out.length ≤ myPacketLen := by
  simp only [outside]
  split
  · refine ⟨hp.received (Int.le_refl _), fun out hout => ?_⟩
    simp only [List.nil_append] at hout
    have hicmp : out.length = 70 := length_icmpMtu hout
    exact hicmp ▸ by decide
  next hlong =>
  have hread := hp.received (f := f) (Int.not_lt.mp hlong)
  split
  · exact ⟨hread, fun out hout => absurd hout List.not_mem_nil⟩
  · next g' packet hv =>
      have hpacket : packet.Bounded :=
        rewritten_of_outsideVerdict (fun _ pos bytes hq => hq.writeByteArray pos bytes) hread
          (congrArg Prod.snd hv)
      refine ⟨hpacket, fun out hout => hpacket.length_le ?_⟩
      simpa only [List.append_nil] using hout

end Gateway

namespace Loop

variable {l l' : Loop} {a : Action} {e : Emission}

/-- The packets of the gateway's thread are within their blocks. -/
structure Bounded (l : Loop) : Prop where
  inPacket : l.inPacket.Bounded
  outPacket : l.outPacket.Bounded
  queued : ∀ packet ∈ l.gateway.sendPacketRequestQueue.queue, packet.Bounded

theorem packets_of_quiet (ha : Quiet a) (h : l.exec a = some (l', e)) :
    l'.inPacket = l.inPacket ∧ l'.outPacket = l.outPacket := by
  cases ha <;> simp only [exec] at h <;> split at h <;>
    first
    | contradiction
    | (obtain ⟨rfl, rfl⟩ : _ = l' ∧ _ = e := by simpa using h
       exact ⟨rfl, rfl⟩)

theorem bounded_exec (hl : l.Bounded)
    (hcall : ∀ packet, a = .call (.sendPacketRequest packet) → packet.Bounded)
    (h : l.exec a = some (l', e)) :
    l'.Bounded ∧ ∀ out ∈ e.toInside ++ e.toOutside, out.length ≤ myPacketLen := by
  have hqueued : ∀ packet ∈ l'.gateway.sendPacketRequestQueue.queue, packet.Bounded := by
    intro packet hpacket
    have hmoves : Moves l a l'.gateway := step_moves (by rw [step, h]; rfl)
    rcases hmoves.mem_sendPacketRequestQueue hpacket with hold | hnew
    · exact hl.queued packet hold
    · exact hcall packet hnew
  by_cases hquiet : Quiet a
  · obtain ⟨hin, hout⟩ := packets_of_quiet hquiet h
    obtain ⟨-, rfl⟩ := exec_quiet hquiet h
    exact ⟨⟨hin ▸ hl.inPacket, hout ▸ hl.outPacket, hqueued⟩, fun out hout => absurd hout List.not_mem_nil⟩
  cases execs_of_exec h with
  | call c => exact ⟨⟨hl.inPacket, hl.outPacket, hqueued⟩, fun out hout => absurd hout List.not_mem_nil⟩
  | inside hplace heffect =>
      obtain ⟨hpacket, hlength⟩ := Gateway.bounded_inside hl.inPacket heffect
      exact ⟨⟨hpacket, hl.outPacket, hqueued⟩, hlength⟩
  | outside hplace =>
      obtain ⟨hpacket, hlength⟩ := Gateway.bounded_outside hl.outPacket
      exact ⟨⟨hl.inPacket, hpacket, hqueued⟩, hlength⟩
  | @handle handler ready hplace hready =>
      refine ⟨⟨hl.inPacket, hl.outPacket, hqueued⟩, fun out hout => ?_⟩
      cases handler with
      | sendPacket =>
          rw [List.append_nil] at hout
          obtain ⟨packet, hpacket, hmem⟩ := List.mem_flatMap.mp hout
          exact (hl.queued packet (List.mem_of_mem_take hpacket)).length_le hmem
      | _ => contradiction
  | quiet ha hgateway => exact absurd ha hquiet

end Loop

end GatewaySocket
