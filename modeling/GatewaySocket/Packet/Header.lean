import GatewaySocket.Packet.Basic

/-!
# Header views

The classes `Ethernet`, `ARP`, `IP`, `UDP` and `DHCP` are views of a packet at
an offset. A getter reads into a local `ret`; where the read falls outside the
packet the local comes back with the content it had, which the getters here
take as their last argument.

The second half gives the same fields by their place on the wire, for a frame.
The two agree on every packet that holds a frame long enough for the field.
-/

namespace GatewaySocket

open ByteMemory

abbrev ethertypeIp : UInt16 := 0x0800

abbrev ethertypeArp : UInt16 := 0x0806

abbrev arphrdEther : UInt16 := 1

abbrev arpopRequest : UInt16 := 1

abbrev arpopReply : UInt16 := 2

abbrev ipprotoIcmp : UInt8 := 1

abbrev ipprotoUdp : UInt8 := 17

/-- The conversion of an `int` to `unsigned char`. -/
def toUint8 (x : ℤ) : UInt8 := UInt8.ofNat (x % 256).toNat

theorem toUint8_toNat (b : UInt8) : toUint8 (b.toNat : ℤ) = b := by
  apply UInt8.toNat_inj.mp
  have hb : b.toNat < 256 := b.toNat_lt
  simp only [toUint8, UInt8.toNat_ofNat']
  omega

namespace Ethernet

def getSource (packet : Packet) (offset : ℕ) (ret : EtherAddr) : EtherAddr :=
  packet.readByteArray (offset + ethAlen) ret

def getDestination (packet : Packet) (offset : ℕ) (ret : EtherAddr) : EtherAddr :=
  packet.readByteArray offset ret

def setSource (packet : Packet) (offset : ℕ) (addr : EtherAddr) : Packet :=
  packet.writeByteArray (offset + ethAlen) addr.toList

def setDestination (packet : Packet) (offset : ℕ) (addr : EtherAddr) : Packet :=
  packet.writeByteArray offset addr.toList

def getProtocol (packet : Packet) (offset : ℕ) : UInt16 :=
  ntohs (packet.readByteArray (offset + ethAlen + ethAlen) (#v[0, 0] : Octets 2))

def setProtocol (packet : Packet) (offset : ℕ) (protocolHost : UInt16) : Packet :=
  packet.writeByteArray (offset + ethAlen + ethAlen) (htons protocolHost).toList

def getNextOffset (offset : ℕ) : ℕ := offset + etherHeaderLen

end Ethernet

/-- `struct arphdr`, with the numbers in host order. -/
structure ArpHeader where
  arHrd : UInt16
  arPro : UInt16
  arHln : UInt8
  arPln : UInt8
  arOp : UInt16
  deriving DecidableEq

/-- The header that eight octets on the wire stand for. -/
def ArpHeader.ofOctets (b : Octets 8) : ArpHeader where
  arHrd := ntohs #v[b[0], b[1]]
  arPro := ntohs #v[b[2], b[3]]
  arHln := b[4]
  arPln := b[5]
  arOp := ntohs #v[b[6], b[7]]

/-- The octets of the header on the wire. -/
def ArpHeader.toOctets (h : ArpHeader) : Octets 8 :=
  htons h.arHrd ++ htons h.arPro ++ #v[h.arHln, h.arPln] ++ htons h.arOp

theorem ArpHeader.ofOctets_toOctets (h : ArpHeader) : ofOctets h.toOctets = h := by
  calc ofOctets h.toOctets
      = ⟨ntohs (htons h.arHrd), ntohs (htons h.arPro), h.arHln, h.arPln, ntohs (htons h.arOp)⟩ :=
        rfl
    _ = h := by rw [ntohs_htons, ntohs_htons, ntohs_htons]

/-- An Ethernet/IPv4 request or reply. -/
def ArpHeader.WellFormed (h : ArpHeader) : Prop :=
  h.arHrd = arphrdEther ∧ h.arPro = ethertypeIp ∧ h.arHln = 6 ∧ h.arPln = 4 ∧
    (h.arOp = arpopRequest ∨ h.arOp = arpopReply)

instance (h : ArpHeader) : Decidable h.WellFormed := inferInstanceAs (Decidable (_ ∧ _))

namespace ARP

/-- `sizeof(struct arphdr)`. -/
abbrev arpHeaderLen : ℕ := 8

/-- `getHeader` reads into a header that starts out zeroed. -/
def getHeader (packet : Packet) (offset : ℕ) : ArpHeader :=
  ArpHeader.ofOctets (packet.readByteArray offset (#v[0, 0, 0, 0, 0, 0, 0, 0] : Octets 8))

def setHeader (packet : Packet) (offset : ℕ) (header : ArpHeader) : Packet :=
  packet.writeByteArray offset header.toOctets.toList

def getSourceMAC (packet : Packet) (offset : ℕ) (ret : EtherAddr) : EtherAddr :=
  packet.readByteArray (offset + arpHeaderLen) ret

def getDestinationMAC (packet : Packet) (offset : ℕ) (ret : EtherAddr) : EtherAddr :=
  packet.readByteArray (offset + arpHeaderLen + 4 + ethAlen) ret

def getSourceIP (packet : Packet) (offset : ℕ) (ret : InAddr) : InAddr :=
  packet.readByteArray (offset + arpHeaderLen + ethAlen) ret

def getDestinationIP (packet : Packet) (offset : ℕ) (ret : InAddr) : InAddr :=
  packet.readByteArray (offset + arpHeaderLen + 4 + ethAlen + ethAlen) ret

def setSourceMAC (packet : Packet) (offset : ℕ) (sourceMAC : EtherAddr) : Packet :=
  packet.writeByteArray (offset + arpHeaderLen) sourceMAC.toList

def setDestinationMAC (packet : Packet) (offset : ℕ) (destinationMAC : EtherAddr) : Packet :=
  packet.writeByteArray (offset + arpHeaderLen + 4 + ethAlen) destinationMAC.toList

def setSourceIP (packet : Packet) (offset : ℕ) (ip : InAddr) : Packet :=
  packet.writeByteArray (offset + arpHeaderLen + ethAlen) ip.toList

def setDestinationIP (packet : Packet) (offset : ℕ) (ip : InAddr) : Packet :=
  packet.writeByteArray (offset + arpHeaderLen + 4 + ethAlen + ethAlen) ip.toList

end ARP

namespace IP

/-- `sizeof(struct ip)`. -/
abbrev ipHeaderLen : ℕ := 20

def getSource (packet : Packet) (offset : ℕ) (ret : InAddr) : InAddr :=
  packet.readByteArray (offset + 12) ret

def getDestination (packet : Packet) (offset : ℕ) (ret : InAddr) : InAddr :=
  packet.readByteArray (offset + 16) ret

def setSource (packet : Packet) (offset : ℕ) (addr : InAddr) : Packet :=
  packet.writeByteArray (offset + 12) addr.toList

def setDestination (packet : Packet) (offset : ℕ) (addr : InAddr) : Packet :=
  packet.writeByteArray (offset + 16) addr.toList

def getProtocol (packet : Packet) (offset : ℕ) : UInt8 :=
  toUint8 (packet.readByte (offset + 9))

def setProtocol (packet : Packet) (offset : ℕ) (proto : UInt8) : Packet :=
  packet.writeByte (offset + 9) proto

/-- The header length of the first byte, at least five words. -/
def getNextOffset (packet : Packet) (offset : ℕ) : ℕ :=
  let hlen := toUint8 (packet.readByte offset) &&& 0x0F
  let hlen := if hlen < 5 then 5 else hlen
  offset + hlen.toNat * 4

end IP

namespace UDP

/-- `sizeof(struct udphdr)`. -/
abbrev udpHeaderLen : ℕ := 8

def getSource (packet : Packet) (offset : ℕ) (ret : Octets 2) : UInt16 :=
  ntohs (packet.readByteArray (offset + 0) ret)

def getDestination (packet : Packet) (offset : ℕ) (ret : Octets 2) : UInt16 :=
  ntohs (packet.readByteArray (offset + 2) ret)

def setSource (packet : Packet) (offset : ℕ) (src : UInt16) : Packet :=
  packet.writeByteArray (offset + 0) (htons src).toList

def setDestination (packet : Packet) (offset : ℕ) (dest : UInt16) : Packet :=
  packet.writeByteArray (offset + 2) (htons dest).toList

def getNextOffset (offset : ℕ) : ℕ := offset + udpHeaderLen

end UDP

namespace DHCP

def getOpcode (packet : Packet) (offset : ℕ) : UInt8 :=
  toUint8 (packet.readByte offset)

/-- The transaction id, copied as it lies in the packet. -/
def getTransactionID (packet : Packet) (offset : ℕ) (ret : Octets 4) : Octets 4 :=
  packet.readByteArray (offset + 4) ret

def getClientMAC (packet : Packet) (offset : ℕ) (ret : EtherAddr) : EtherAddr :=
  packet.readByteArray (offset + 28) ret

/-- The byte at 242, which is the message type where option 53 comes first. -/
def getMessageType (packet : Packet) (offset : ℕ) : ℤ :=
  packet.readByte (offset + 242)

end DHCP

/-! ## Fields of a frame -/

namespace Frame

def etherDestination (f : Frame) : EtherAddr := f.field 0 6

def etherSource (f : Frame) : EtherAddr := f.field 6 6

def etherType (f : Frame) : UInt16 := ntohs (f.field 12 2)

/-- The frame carries an IPv4 packet. -/
def IsIPv4 (f : Frame) : Prop := 14 ≤ f.length ∧ f.etherType = ethertypeIp

/-- The frame carries an ARP message. -/
def IsARP (f : Frame) : Prop := 14 ≤ f.length ∧ f.etherType = ethertypeArp

instance (f : Frame) : Decidable f.IsIPv4 := inferInstanceAs (Decidable (_ ∧ _))

instance (f : Frame) : Decidable f.IsARP := inferInstanceAs (Decidable (_ ∧ _))

def arpHeader (f : Frame) : ArpHeader := ArpHeader.ofOctets (f.field 14 8)

def arpSenderMAC (f : Frame) : EtherAddr := f.field 22 6

def arpSenderIP (f : Frame) : InAddr := f.field 28 4

def arpTargetMAC (f : Frame) : EtherAddr := f.field 32 6

def arpTargetIP (f : Frame) : InAddr := f.field 38 4

def ipSource (f : Frame) : InAddr := f.field 26 4

def ipDestination (f : Frame) : InAddr := f.field 30 4

def ipProtocol (f : Frame) : UInt8 := f.getD 23 0

/-- The IP header length in bytes; an IHL below five counts as five. -/
def ipHeaderLength (f : Frame) : ℕ := 4 * max ((f.getD 14 0).toNat % 16) 5

def udpSource (f : Frame) : UInt16 := ntohs (f.field (14 + f.ipHeaderLength) 2)

def udpDestination (f : Frame) : UInt16 := ntohs (f.field (16 + f.ipHeaderLength) 2)

/-- The frame carries a UDP datagram over IPv4, from port `src` to port `dst`. -/
def IsUDP (f : Frame) (src dst : UInt16) : Prop :=
  f.IsIPv4 ∧ f.ipProtocol = ipprotoUdp ∧ f.udpSource = src ∧ f.udpDestination = dst

instance (f : Frame) (src dst : UInt16) : Decidable (f.IsUDP src dst) :=
  inferInstanceAs (Decidable (_ ∧ _))

/-- Where the UDP payload starts. -/
def udpPayload (f : Frame) : ℕ := 22 + f.ipHeaderLength

def dhcpOpcode (f : Frame) : UInt8 := f.getD f.udpPayload 0

def dhcpClientMAC (f : Frame) : EtherAddr := f.field (f.udpPayload + 28) 6

def dhcpMessageType (f : Frame) : UInt8 := f.getD (f.udpPayload + 242) 0

/-- A DHCP message of a client, whole up to its message type: sent from port 68
to port 67 by the client it names. -/
structure IsBootRequest (f : Frame) (messageType : UInt8) (mac : EtherAddr) : Prop where
  isIPv4 : f.IsIPv4
  complete : f.udpPayload + 243 ≤ f.length
  protocol : f.ipProtocol = ipprotoUdp
  source : f.udpSource = 68
  destination : f.udpDestination = 67
  opcode : f.dhcpOpcode = 1
  type : f.dhcpMessageType = messageType
  sender : f.etherSource = mac
  client : f.dhcpClientMAC = mac

/-- The source address of an ARP or IPv4 frame. -/
def sourceIP (f : Frame) : InAddr := if f.IsARP then f.arpSenderIP else f.ipSource

/-- The destination address of an ARP or IPv4 frame. -/
def destinationIP (f : Frame) : InAddr := if f.IsARP then f.arpTargetIP else f.ipDestination

theorem ipHeaderLength_ge (f : Frame) : 20 ≤ f.ipHeaderLength := by
  unfold ipHeaderLength
  omega

theorem ipHeaderLength_le (f : Frame) : f.ipHeaderLength ≤ 60 := by
  unfold ipHeaderLength
  omega

theorem IsIPv4.etherType_ne_arp {f : Frame} (h : f.IsIPv4) : f.etherType ≠ ethertypeArp := by
  rw [h.2]
  decide

theorem not_isARP_of_isIPv4 {f : Frame} (h : f.IsIPv4) : ¬f.IsARP :=
  fun harp => h.etherType_ne_arp harp.2

/-- Patching the Ethernet destination leaves the IPv4 fields as they are. -/
theorem field_patch_zero {f : Frame} (mac : EtherAddr) {start n : ℕ} (hstart : 6 ≤ start)
    (hlen : start + n ≤ f.length) : (f.patch 0 mac.toList).field start n = f.field start n :=
  field_patch_of_disjoint hlen (.inr (by simpa using hstart))

theorem getD_patch_zero {f : Frame} (mac : EtherAddr) {i : ℕ} (hi : 6 ≤ i) :
    (f.patch 0 mac.toList).getD i 0 = f.getD i 0 := by
  simp only [List.getD_eq_getElem?_getD]
  rw [getElem?_patch_of_outside (.inr (by simpa using hi))]

theorem ipHeaderLength_patch_zero (f : Frame) (mac : EtherAddr) :
    (f.patch 0 mac.toList).ipHeaderLength = f.ipHeaderLength := by
  rw [ipHeaderLength, getD_patch_zero mac (by decide), ipHeaderLength]

end Frame

namespace Packet.Holds

variable {p : Packet} {f : Frame}

theorem getProtocol (h : p.Holds f) (hlen : 14 ≤ f.length) :
    Ethernet.getProtocol p 0 = f.etherType :=
  congrArg ntohs (h.readByteArray _ hlen)

/-- A frame too short for an EtherType is of no known type. -/
theorem getProtocol_of_short (h : p.Holds f) (hlen : f.length < 14) :
    Ethernet.getProtocol p 0 = 0 := by
  rw [Ethernet.getProtocol, h.readByteArray_of_short _ hlen]
  rfl

theorem etherSource (h : p.Holds f) (hlen : 14 ≤ f.length) (ret : EtherAddr) :
    Ethernet.getSource p 0 ret = f.etherSource :=
  h.readByteArray _ (Nat.le_trans (by decide) hlen)

theorem etherDestination (h : p.Holds f) (hlen : 14 ≤ f.length) (ret : EtherAddr) :
    Ethernet.getDestination p 0 ret = f.etherDestination :=
  h.readByteArray _ (Nat.le_trans (by decide) hlen)

theorem arpHeader (h : p.Holds f) (hlen : 22 ≤ f.length) :
    ARP.getHeader p 14 = f.arpHeader :=
  congrArg ArpHeader.ofOctets (h.readByteArray _ hlen)

theorem arpSenderIP (h : p.Holds f) (hlen : 42 ≤ f.length) (ret : InAddr) :
    ARP.getSourceIP p 14 ret = f.arpSenderIP :=
  h.readByteArray _ (Nat.le_trans (by decide) hlen)

theorem arpTargetIP (h : p.Holds f) (hlen : 42 ≤ f.length) (ret : InAddr) :
    ARP.getDestinationIP p 14 ret = f.arpTargetIP :=
  h.readByteArray _ (Nat.le_trans (by decide) hlen)

theorem ipSource (h : p.Holds f) (hlen : 34 ≤ f.length) (ret : InAddr) :
    IP.getSource p 14 ret = f.ipSource :=
  h.readByteArray _ (Nat.le_trans (by decide) hlen)

theorem ipDestination (h : p.Holds f) (hlen : 34 ≤ f.length) (ret : InAddr) :
    IP.getDestination p 14 ret = f.ipDestination :=
  h.readByteArray _ hlen

theorem ipProtocol (h : p.Holds f) (hlen : 34 ≤ f.length) :
    IP.getProtocol p 14 = f.ipProtocol := by
  rw [IP.getProtocol, h.readByte (by omega), toUint8_toNat]
  rfl

theorem ipNextOffset (h : p.Holds f) (hlen : 15 ≤ f.length) :
    IP.getNextOffset p 14 = 14 + f.ipHeaderLength := by
  have hmask : (f.getD 14 0 &&& 0x0F).toNat = (f.getD 14 0).toNat % 16 := by
    rw [UInt8.toNat_and]
    exact Nat.and_two_pow_sub_one_eq_mod _ 4
  have hlt : f.getD 14 0 &&& 0x0F < 5 ↔ (f.getD 14 0).toNat % 16 < 5 := by
    rw [UInt8.lt_iff_toNat_lt, hmask]
    rfl
  simp only [IP.getNextOffset, h.readByte (show 14 < f.length by omega), toUint8_toNat, hlt,
    Frame.ipHeaderLength]
  split
  · next hsmall =>
      rw [Nat.max_eq_right (by omega)]
      rfl
  · next hlarge =>
      rw [hmask, Nat.max_eq_left (by omega)]
      omega

/-- With the first byte of the IP header missing, the header length reads as
the mask. -/
theorem ipNextOffset_of_short (h : p.Holds f) (hlen : f.length ≤ 14) :
    IP.getNextOffset p 14 = 74 := by
  rw [IP.getNextOffset, h.readByte_of_short hlen]
  decide

/-- The length check of the IPv4 branches: a frame that passes it has a header. -/
theorem ipNextOffset_of_long (h : p.Holds f)
    (hlong : ¬(f.length : ℤ) < ((14 + IP.getNextOffset p 14 : ℕ) : ℤ)) :
    28 + f.ipHeaderLength ≤ f.length ∧ IP.getNextOffset p 14 = 14 + f.ipHeaderLength := by
  have hfirst : 15 ≤ f.length := by
    by_contra hshort
    rw [h.ipNextOffset_of_short (by omega)] at hlong
    omega
  rw [h.ipNextOffset hfirst] at hlong
  exact ⟨by omega, h.ipNextOffset hfirst⟩

theorem udpSource (h : p.Holds f) (hlen : 22 + f.ipHeaderLength ≤ f.length) (ret : Octets 2) :
    UDP.getSource p (14 + f.ipHeaderLength) ret = f.udpSource :=
  congrArg ntohs (h.readByteArray _ (by omega))

theorem udpDestination (h : p.Holds f) (hlen : 22 + f.ipHeaderLength ≤ f.length)
    (ret : Octets 2) :
    UDP.getDestination p (14 + f.ipHeaderLength) ret = f.udpDestination := by
  rw [UDP.getDestination, h.readByteArray _ (by omega), Frame.udpDestination,
    show 14 + f.ipHeaderLength + 2 = 16 + f.ipHeaderLength by omega]

theorem dhcpOpcode (h : p.Holds f) (hlen : f.udpPayload < f.length) :
    DHCP.getOpcode p f.udpPayload = f.dhcpOpcode := by
  rw [DHCP.getOpcode, h.readByte hlen, toUint8_toNat, Frame.dhcpOpcode]

theorem dhcpClientMAC (h : p.Holds f) (hlen : f.udpPayload + 34 ≤ f.length) (ret : EtherAddr) :
    DHCP.getClientMAC p f.udpPayload ret = f.dhcpClientMAC :=
  h.readByteArray _ hlen

theorem dhcpMessageType (h : p.Holds f) (hlen : f.udpPayload + 243 ≤ f.length) :
    DHCP.getMessageType p f.udpPayload = f.dhcpMessageType.toNat :=
  h.readByte hlen

/-- A frame that ends before the message type has none. -/
theorem dhcpMessageType_of_short (h : p.Holds f) (hlen : f.length ≤ f.udpPayload + 242) :
    DHCP.getMessageType p f.udpPayload = -1 :=
  h.readByte_of_short hlen

theorem setSource (h : p.Holds f) (hlen : 12 ≤ f.length) (mac : EtherAddr) :
    (Ethernet.setSource p 0 mac).Holds (f.patch 6 mac.toList) :=
  h.writeByteArray (by rwa [Vector.length_toList])

theorem setDestination (h : p.Holds f) (hlen : 6 ≤ f.length) (mac : EtherAddr) :
    (Ethernet.setDestination p 0 mac).Holds (f.patch 0 mac.toList) :=
  h.writeByteArray (by rwa [Vector.length_toList])

theorem setSourceMAC (h : p.Holds f) (hlen : 28 ≤ f.length) (mac : EtherAddr) :
    (ARP.setSourceMAC p 14 mac).Holds (f.patch 22 mac.toList) :=
  h.writeByteArray (by rwa [Vector.length_toList])

theorem setDestinationMAC (h : p.Holds f) (hlen : 38 ≤ f.length) (mac : EtherAddr) :
    (ARP.setDestinationMAC p 14 mac).Holds (f.patch 32 mac.toList) :=
  h.writeByteArray (by rwa [Vector.length_toList])

end Packet.Holds

end GatewaySocket
