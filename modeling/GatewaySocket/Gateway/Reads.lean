import GatewaySocket.Gateway.Serve

/-!
# Reads within the frame

The accessors of the IPv4 branches do not say when a field was not received. Past
the length check, and in the DHCP intake past the message type, all fields have
been, and the verdict of the inside loop is a matter of the frame.
-/

namespace GatewaySocket

open ByteMemory

namespace Frame

/-- The transaction id of a DHCP message. -/
def dhcpTransactionID (f : Frame) : Octets 4 := f.field (f.udpPayload + 4) 4

/-- The request that a DHCP message of a client stands for. -/
def dhcpRequest (f : Frame) : DhcpRequest where
  isDiscover := f.dhcpMessageType = 1
  mtu := myMtu
  mac := f.dhcpClientMAC
  transID := f.dhcpTransactionID

/-- A DHCP message from port 68 to 67 that the intake takes: it is whole up to its
type, and its sender is the client it names. -/
def IsTakenIn (f : Frame) : Prop :=
  f.dhcpOpcode = 1 ∧ f.udpPayload + 243 ≤ f.length ∧
    (f.dhcpMessageType = 1 ∨ f.dhcpMessageType = 3) ∧ f.dhcpClientMAC = f.etherSource

instance (f : Frame) : Decidable f.IsTakenIn := inferInstanceAs (Decidable (_ ∧ _))

end Frame

namespace Packet

variable {p : Packet} {f : Frame}

/-- The accessors of the IPv4 branches return fields that lie within the frame,
whatever is in their locals. -/
structure ReadsIPv4 (p : Packet) (f : Frame) : Prop where
  within : 28 + f.ipHeaderLength ≤ f.length
  nextOffset : IP.getNextOffset p 14 = 14 + f.ipHeaderLength
  protocol : IP.getProtocol p 14 = f.ipProtocol
  source : ∀ ret, IP.getSource p 14 ret = f.ipSource
  destination : ∀ ret, IP.getDestination p 14 ret = f.ipDestination
  etherSource : ∀ ret, Ethernet.getSource p 0 ret = f.etherSource
  etherDestination : ∀ ret, Ethernet.getDestination p 0 ret = f.etherDestination
  udpSource : ∀ ret, UDP.getSource p (14 + f.ipHeaderLength) ret = f.udpSource
  udpDestination : ∀ ret, UDP.getDestination p (14 + f.ipHeaderLength) ret = f.udpDestination

/-- The accessors of the DHCP intake return fields that lie within the frame, too. -/
structure ReadsDHCP (p : Packet) (f : Frame) : Prop where
  within : f.udpPayload + 243 ≤ f.length
  opcode : DHCP.getOpcode p f.udpPayload = f.dhcpOpcode
  messageType : DHCP.getMessageType p f.udpPayload = f.dhcpMessageType.toNat
  clientMAC : ∀ ret, DHCP.getClientMAC p f.udpPayload ret = f.dhcpClientMAC
  transactionID : ∀ ret, DHCP.getTransactionID p f.udpPayload ret = f.dhcpTransactionID

theorem Holds.readsIPv4 (hp : p.Holds f) (hlen : 28 + f.ipHeaderLength ≤ f.length) :
    p.ReadsIPv4 f := by
  have hge := f.ipHeaderLength_ge
  exact {
    within := hlen
    nextOffset := hp.ipNextOffset (by omega)
    protocol := hp.ipProtocol (by omega)
    source := hp.ipSource (by omega)
    destination := hp.ipDestination (by omega)
    etherSource := hp.etherSource (by omega)
    etherDestination := hp.etherDestination (by omega)
    udpSource := hp.udpSource (by omega)
    udpDestination := hp.udpDestination (by omega) }

theorem Holds.readsDHCP (hp : p.Holds f) (hlen : f.udpPayload + 243 ≤ f.length) :
    p.ReadsDHCP f where
  within := hlen
  opcode := hp.dhcpOpcode (by omega)
  messageType := hp.dhcpMessageType hlen
  clientMAC := hp.dhcpClientMAC (by omega)
  transactionID := fun ret => hp.readByteArray ret (by omega)

end Packet

namespace Gateway

variable {g : Gateway} {p : Packet} {f : Frame} {u : Indeterminate}

/-- A type that stands at its place is the same as a byte and as an `int`. -/
theorem messageType_eq_iff {n : UInt8} : (f.dhcpMessageType.toNat : ℤ) = n.toNat ↔
    f.dhcpMessageType = n := by
  rw [Int.ofNat_inj, UInt8.toNat_inj]

/-- The DHCP intake on a packet that holds a frame. -/
theorem insideDHCP_eq (hp : p.Holds f) (hread : p.ReadsIPv4 f) (u : Indeterminate) :
    insideDHCP p (14 + f.ipHeaderLength) u =
      if f.IsTakenIn then .createDHCP f.dhcpRequest else .drop := by
  have hoffset : UDP.getNextOffset (14 + f.ipHeaderLength) = f.udpPayload := by
    simp only [UDP.getNextOffset, UDP.udpHeaderLen, Frame.udpPayload]
    omega
  have hwithin := hread.within
  by_cases hop : DHCP.getOpcode p f.udpPayload = 1
  swap
  · have hnot : ¬f.IsTakenIn := fun h => hop ((hp.readsDHCP h.2.1).opcode.trans h.1)
    rw [insideDHCP, hoffset, if_neg hop, if_neg hnot]
  by_cases hlen : f.udpPayload + 243 ≤ f.length
  swap
  · -- without a type the message is dropped
    have hnone : DHCP.getMessageType p f.udpPayload = -1 := hp.dhcpMessageType_of_short (by omega)
    rw [insideDHCP, hoffset, if_pos hop, hnone, if_neg fun h : f.IsTakenIn => hlen h.2.1]
    rfl
  have hdhcp := hp.readsDHCP hlen
  have hone : ((f.dhcpMessageType.toNat : ℤ) = 1) = (f.dhcpMessageType = 1) :=
    propext (messageType_eq_iff (n := 1))
  have hthree : ((f.dhcpMessageType.toNat : ℤ) = 3) = (f.dhcpMessageType = 3) :=
    propext (messageType_eq_iff (n := 3))
  simp only [insideDHCP, hoffset, hdhcp.messageType, hdhcp.clientMAC, hdhcp.transactionID,
    hread.etherSource, ne_eq, hone, hthree]
  rw [if_pos hop]
  rw [hdhcp.opcode] at hop
  by_cases htype : f.dhcpMessageType = 1 ∨ f.dhcpMessageType = 3
  · rw [if_neg (by tauto)]
    by_cases hmac : f.dhcpClientMAC = f.etherSource
    · rw [if_neg (not_not.mpr hmac), if_pos ⟨hop, hlen, htype, hmac⟩, Frame.dhcpRequest]
    · rw [if_pos hmac, if_neg fun h : f.IsTakenIn => hmac h.2.2.2]
  · rw [if_pos (by tauto), if_neg fun h : f.IsTakenIn => htype h.2.2.1]

/-! ## The branch of a frame -/

theorem insideVerdict_of_isARP (hp : p.Holds f) (harp : f.IsARP) :
    g.insideVerdict p f.length u = g.insideARP p u := by
  rw [insideVerdict, hp.getProtocol harp.1, if_pos harp.2]

theorem outsideVerdict_of_isARP (hp : p.Holds f) (harp : f.IsARP) :
    g.outsideVerdict p f.length u = g.outsideARP p u := by
  rw [outsideVerdict, hp.getProtocol harp.1, if_pos harp.2]

theorem outsideVerdict_of_isIPv4 (hp : p.Holds f) (hip : f.IsIPv4) :
    g.outsideVerdict p f.length u = g.outsideIP p f.length u := by
  rw [outsideVerdict, hp.getProtocol hip.1, if_neg hip.etherType_ne_arp, if_pos hip.2]

/-- Inside, the verdict on an IPv4 frame is a matter of its fields. -/
theorem insideVerdict_of_isIPv4 (hp : p.Holds f) (hip : f.IsIPv4) :
    g.insideVerdict p f.length u =
      if f.length < 28 + f.ipHeaderLength then .drop
      else if f.IsUDP 68 67 then if f.IsTakenIn then .createDHCP f.dhcpRequest else .drop
      else g.outbound p f.ipDestination f.ipSource f.etherSource
        fun mac => Ethernet.setSource p 0 mac := by
  rw [insideVerdict, hp.getProtocol hip.1, if_neg hip.etherType_ne_arp, if_pos hip.2]
  simp only [insideIP, Ethernet.getNextOffset, etherHeaderLen, Nat.zero_add]
  by_cases hshort : (f.length : ℤ) < ((14 + IP.getNextOffset p 14 : ℕ) : ℤ)
  · have hge := f.ipHeaderLength_ge
    have hlen : f.length < 28 + f.ipHeaderLength := by
      by_cases hfirst : 15 ≤ f.length
      · rw [hp.ipNextOffset hfirst] at hshort
        omega
      · omega
    rw [if_pos hshort, if_pos hlen]
  · obtain ⟨hlen, -⟩ := hp.ipNextOffset_of_long hshort
    have hread := hp.readsIPv4 hlen
    have hudp : (f.ipProtocol = ipprotoUdp ∧ f.udpSource = 68 ∧ f.udpDestination = 67) =
        f.IsUDP 68 67 := propext ⟨fun h => ⟨hip, h⟩, fun h => h.2⟩
    rw [if_neg hshort, if_neg (Nat.not_lt.mpr hlen)]
    simp only [hread.nextOffset, hread.protocol, hread.source, hread.destination,
      hread.etherSource, hread.udpSource, hread.udpDestination, insideDHCP_eq hp hread, hudp]

end Gateway

end GatewaySocket
