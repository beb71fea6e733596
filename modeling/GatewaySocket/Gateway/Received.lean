import GatewaySocket.Gateway.MessageType

/-!
# What a round makes of the received bytes

A round starts from a buffer that still holds what earlier frames left in it, and
from locals of any content. For an IPv4 frame that fits the buffer neither makes a
difference: two runs of a round on the same frame have the same outcome, since each
accessor is called only where its field has been received.
-/

namespace GatewaySocket

open ByteMemory

/-- What a round does to the gateway, the devices and the database. -/
def Effect.outcome (e : Effect) : Gateway × Emission := (e.gateway, e.toEmission)

namespace Packet

/-- Two packets that hold the same frame. -/
def Alike (p q : Packet) : Prop := ∃ f, p.Holds f ∧ q.Holds f

variable {p q : Packet} {f : Frame}

/-- A write makes the same of both, also where it is silently dropped. -/
theorem Alike.writeByteArray (h : p.Alike q) (pos : ℕ) (bytes : List UInt8) :
    (p.writeByteArray pos bytes).Alike (q.writeByteArray pos bytes) := by
  obtain ⟨f, hp, hq⟩ := h
  by_cases hlen : pos + bytes.length ≤ f.length
  · exact ⟨f.patch pos bytes, hp.writeByteArray hlen, hq.writeByteArray hlen⟩
  · have hout : ∀ r : Packet, r.Holds f → r.writeByteArray pos bytes = r := by
      intro r hr
      have hlong : ((pos + bytes.length : ℕ) : ℤ) > r.writtenByte := by
        rw [hr.1]
        omega
      rw [Packet.writeByteArray, if_pos hlong]
    rw [hout p hp, hout q hq]
    exact ⟨f, hp, hq⟩

theorem Alike.writePacket (h : p.Alike q) :
    Device.writePacket p.inMemory p.getLength = Device.writePacket q.inMemory q.getLength := by
  obtain ⟨f, hp, hq⟩ := h
  rw [hp.writePacket, hq.writePacket]

end Packet

namespace Gateway

variable {g : Gateway} {t : UInt64} {p q : Packet} {f : Frame} {u u' : Indeterminate}

/-! ## The inside loop -/

/-- The outcome of a frame that goes nowhere. -/
def dropped (g : Gateway) : Gateway × Emission := (g, {})

/-- The outcome of a verdict of the inside loop. -/
def settle (g : Gateway) (t : UInt64) : Verdict → Option (Gateway × Emission)
  | .undefined => none
  | .drop => some g.dropped
  | .createDHCP request => some (g, { dhcp := [request] })
  | .pass packet user =>
      some ((g.touch t user).1, {
        updates := (g.touch t user).2
        toOutside := Device.writePacket packet.inMemory packet.getLength })

theorem inside_outcome (hheader : 14 ≤ f.length) (hfits : f.length ≤ 1514) :
    (g.inside t p f u).map Effect.outcome =
      g.settle t (g.insideVerdict (p.received f) f.length u) := by
  simp only [inside, if_neg (not_oversized hfits), if_neg (not_headerless hheader),
    Packet.received]
  cases g.insideVerdict _ _ u <;> rfl

/-- `outbound` looks at the addresses it is given and at the maps, and the packets
only get written. -/
theorem settle_outbound_congr {destIP srcIP : InAddr} {sourceMac : EtherAddr}
    {rewrite rewrite' : EtherAddr → Packet} (hpq : p.Alike q)
    (hrewrite : ∀ mac, (rewrite mac).Alike (rewrite' mac)) :
    g.settle t (g.outbound p destIP srcIP sourceMac rewrite) =
      g.settle t (g.outbound q destIP srcIP sourceMac rewrite') := by
  unfold outbound
  cases g.staticIPMap.find destIP with
  | some _ => rfl
  | none =>
      cases g.userMap.find srcIP with
      | some info =>
          by_cases hmac : info.userMac = sourceMac
          · cases g.staticIPMap.find srcIP with
            | some mac => simp [hmac, settle, (hrewrite mac).writePacket]
            | none => simp [hmac, settle]
          · simp [hmac, settle]
      | none =>
          cases g.staticIPMap.find srcIP with
          | some _ => rfl
          | none => simp [settle, hpq.writePacket]

/-- Two packets that hold the frame give it the same outcome. -/
theorem settle_insideVerdict_congr (hp : p.Holds f) (hq : q.Holds f) (hip : f.IsIPv4) :
    g.settle t (g.insideVerdict p f.length u) = g.settle t (g.insideVerdict q f.length u') := by
  rw [insideVerdict_of_isIPv4 hp hip, insideVerdict_of_isIPv4 hq hip]
  split
  · rfl
  split
  · rfl
  · exact settle_outbound_congr ⟨f, hp, hq⟩
      fun mac => Packet.Alike.writeByteArray ⟨f, hp, hq⟩ _ mac.toList

/-! ## The outside loop -/

/-- The outcome of a verdict of the outside loop. -/
def deliver : Gateway × Option Packet → Gateway × Emission
  | (gateway, none) => gateway.dropped
  | (gateway, some packet) =>
      (gateway, { toInside := Device.writePacket packet.inMemory packet.getLength })

theorem outside_outcome (hfits : f.length ≤ 1514) : (g.outside p f u).outcome =
    deliver (g.outsideVerdict (p.received f) f.length u) := by
  simp only [outside, if_neg (not_oversized hfits), Packet.received]
  rcases g.outsideVerdict _ _ u with ⟨g', _ | r⟩ <;> rfl

theorem deliver_congr {g : Gateway} (hpq : p.Alike q) :
    deliver (g, some p) = deliver (g, some q) := by
  simp only [deliver, hpq.writePacket]

theorem outsideDHCP_eq (hread : p.ReadsIPv4 f) (srcIP destIP : InAddr) (u : Indeterminate) :
    outsideDHCP p 14 srcIP destIP u = (f.ipProtocol = ipprotoUdp && ipv4None = srcIP &&
      ipv4Broadcast = destIP && ((f.udpSource = 68 && f.udpDestination = 67) ||
        (f.udpSource = 67 && f.udpDestination = 68))) := by
  simp only [outsideDHCP, hread.nextOffset, hread.protocol, hread.udpSource, hread.udpDestination]

/-- The last test and the write, on packets that hold the same frame. -/
theorem deliver_outsideDHCP_congr {g : Gateway} {srcIP destIP : InAddr} (hp : p.Holds f)
    (hq : q.Holds f) (hlen : 28 + f.ipHeaderLength ≤ f.length) :
    deliver (g, if outsideDHCP p 14 srcIP destIP u then none else some p) =
      deliver (g, if outsideDHCP q 14 srcIP destIP u' then none else some q) := by
  rw [outsideDHCP_eq (hp.readsIPv4 hlen), outsideDHCP_eq (hq.readsIPv4 hlen)]
  split
  · rfl
  · exact deliver_congr ⟨f, hp, hq⟩

theorem deliver_outsideIP_congr (hp : p.Holds f) (hq : q.Holds f) :
    deliver (g.outsideIP p f.length u) = deliver (g.outsideIP q f.length u') := by
  by_cases hshort : f.length < 28 + f.ipHeaderLength
  · rw [outsideIP_of_tooShort ((tooShort_iff hp).mpr hshort),
      outsideIP_of_tooShort ((tooShort_iff hq).mpr hshort)]
  have hlen := Nat.le_of_not_lt hshort
  have hreadp := hp.readsIPv4 hlen
  have hreadq := hq.readsIPv4 hlen
  have hlong : ¬(f.length : ℤ) < ((14 + (14 + f.ipHeaderLength) : ℕ) : ℤ) := by omega
  simp only [outsideIP, Ethernet.getNextOffset, etherHeaderLen, Nat.zero_add, if_neg hlong,
    hreadp.nextOffset, hreadp.protocol, hreadp.source, hreadp.destination,
    hreadp.etherDestination, hreadp.udpSource, hreadp.udpDestination,
    hreadq.nextOffset, hreadq.protocol, hreadq.source, hreadq.destination,
    hreadq.etherDestination, hreadq.udpSource, hreadq.udpDestination]
  split
  · rfl
  cases g.staticIPMap.find f.ipSource with
  | some _ => rfl
  | none =>
  cases g.staticIPMap.find f.ipDestination with
  | some mac =>
      cases g.userMap.find f.ipDestination with
      | some info =>
          by_cases hmac : mac = f.etherDestination
          · have hcovered : 28 + (f.patch 0 info.userMac.toList).ipHeaderLength ≤
                (f.patch 0 info.userMac.toList).length := by
              rw [Frame.ipHeaderLength_patch_zero, Frame.length_patch]
              exact hlen
            simp only [hmac, ne_eq, not_true_eq_false, if_false]
            exact deliver_outsideDHCP_congr (hp.setDestination (by omega) info.userMac)
              (hq.setDestination (by omega) info.userMac) hcovered
          · simp only [ne_eq, hmac, not_false_eq_true, if_true]
      | none => rfl
  | none =>
      cases g.userMap.find f.ipDestination with
      | some info => exact deliver_outsideDHCP_congr hp hq hlen
      | none => exact deliver_outsideDHCP_congr hp hq hlen

/-! ## The outcome of a round -/

/-- A frame that ends in its header goes nowhere. -/
theorem outcome_of_short (hip : f.IsIPv4) (hshort : f.length < 28 + f.ipHeaderLength) :
    (g.inside t p f u).map Effect.outcome = some g.dropped ∧
      (g.outside p f u).outcome = g.dropped := by
  constructor
  · rw [inside_of_tooShort ((insideTooShort_iff p hip).mpr hshort)]
    rfl
  · rw [outside_of_tooShort ((outsideTooShort_iff p hip).mpr hshort)]
    rfl

/-- The intake of a datagram from port 68 to port 67. -/
theorem inside_outcome_of_isUDP (hudp : f.IsUDP 68 67) (hfits : f.length ≤ 1514) :
    (g.inside t p f u).map Effect.outcome = some g.dropped ∨
      (p.received f).ReadsDHCP f ∧
        (g.inside t p f u).map Effect.outcome = some (g, { dhcp := [f.dhcpRequest] }) := by
  have hp := p.received_holds hfits
  by_cases hshort : f.length < 28 + f.ipHeaderLength
  · exact .inl (outcome_of_short hudp.1 hshort).1
  rw [inside_outcome hudp.1.1 hfits, insideVerdict_of_isIPv4 hp hudp.1, if_neg hshort,
    if_pos hudp]
  by_cases htaken : f.IsTakenIn
  · rw [if_pos htaken]
    exact .inr ⟨hp.readsDHCP htaken.2.1, rfl⟩
  · rw [if_neg htaken]
    exact .inl rfl

/-- No other frame is asked for the fields of a DHCP message. -/
theorem dhcp_of_not_isUDP (hip : f.IsIPv4) (hudp : ¬f.IsUDP 68 67) {e : Effect}
    (he : g.inside t p f u = some e) : e.dhcp = [] := by
  cases hlist : e.dhcp with
  | nil => rfl
  | cons r rest =>
      have hboot := isBootRequest_of_inside he (hlist ▸ List.mem_cons_self)
      exact absurd ⟨hip, hboot.protocol, hboot.source, hboot.destination⟩ hudp

/-- **Reads within the frame.** What the two loops do with an IPv4 frame is a function
of its bytes and of the maps: neither the rest of the buffer nor the locals make a
difference. A frame that is not dropped has been received as far as its fields are
read, and a DHCP message that is not dropped is queued with its own fields. -/
theorem ipv4_within_frame (g : Gateway) (t : UInt64) (f : Frame) (hip : f.IsIPv4)
    (hfits : f.length ≤ 1514) :
    (∀ p p' u u', (g.inside t p f u).map Effect.outcome =
        (g.inside t p' f u').map Effect.outcome ∧
      (g.outside p f u).outcome = (g.outside p' f u').outcome) ∧
    (∀ p u, (g.inside t p f u).map Effect.outcome = some g.dropped ∧
        (g.outside p f u).outcome = g.dropped ∨ (p.received f).ReadsIPv4 f) ∧
    (f.IsUDP 68 67 → ∀ p u, (g.inside t p f u).map Effect.outcome = some g.dropped ∨
      (p.received f).ReadsDHCP f ∧
        (g.inside t p f u).map Effect.outcome = some (g, { dhcp := [f.dhcpRequest] })) ∧
    (¬f.IsUDP 68 67 → ∀ p u, ∀ e ∈ g.inside t p f u, e.dhcp = []) := by
  refine ⟨fun p p' u u' => ⟨?_, ?_⟩, fun p u => ?_, fun hudp p u => ?_, fun hudp p u e he => ?_⟩
  · have hp := p.received_holds hfits
    have hp' := p'.received_holds hfits
    rw [inside_outcome hip.1 hfits, inside_outcome hip.1 hfits]
    exact settle_insideVerdict_congr hp hp' hip
  · have hp := p.received_holds hfits
    have hp' := p'.received_holds hfits
    rw [outside_outcome hfits, outside_outcome hfits, outsideVerdict_of_isIPv4 hp hip,
      outsideVerdict_of_isIPv4 hp' hip]
    exact deliver_outsideIP_congr hp hp'
  · by_cases hshort : f.length < 28 + f.ipHeaderLength
    · exact .inl (outcome_of_short hip hshort)
    · exact .inr ((p.received_holds hfits).readsIPv4 (Nat.le_of_not_lt hshort))
  · exact inside_outcome_of_isUDP hudp hfits
  · exact dhcp_of_not_isUDP hip hudp he

/-- A buffer full of ones, and locals of another content. -/
def staleBuffer : Packet := Packet.new myPacketLen fun _ => 255

/-- A DISCOVER of the user of `sample` is queued as it was sent, whatever the buffer
holds behind it. -/
theorem ipv4_within_frame_discover :
    (sample.inside 1 staleBuffer (bootRequest sampleUserMAC 1) default).map Effect.outcome =
        (sample.inside 1 sampleBuffer (bootRequest sampleUserMAC 1) default).map Effect.outcome ∧
      (sample.inside 1 staleBuffer (bootRequest sampleUserMAC 1) default).map Effect.outcome =
        some (sample, { dhcp := [(bootRequest sampleUserMAC 1).dhcpRequest] }) := by
  have hframe := ipv4_within_frame sample 1 (bootRequest sampleUserMAC 1) (by decide +kernel)
    (by decide +kernel)
  have hqueued : ((sample.inside 1 staleBuffer (bootRequest sampleUserMAC 1) default).map
      Effect.outcome).map (fun o => o.2.dhcp.length) = some 1 := by decide +kernel
  refine ⟨(hframe.1 _ _ _ _).1, ?_⟩
  rcases hframe.2.2.1 (by decide +kernel) staleBuffer default with hdrop | ⟨-, hrequest⟩
  · rw [hdrop] at hqueued
    contradiction
  · exact hrequest

end Gateway

end GatewaySocket
