import GatewaySocket.Packet.Header

/-!
# Building packets

The three frames the gateway makes itself: the ICMP "fragmentation needed"
answer of `Gateway::icmp_mtu`, the UDP frame of `UDP::makePacket` and the DHCP
payload of `DHCP::writeResponse`. The checksum loops are the same in all places:
the big-endian words of a block are added up in 32 bits, the carries are folded
in twice and the complement is stored in network order.

Numbers the source copies without a byte swap lie in memory in host order; the
host is little-endian.
-/

namespace GatewaySocket

open ByteMemory

/-- A 16-bit number as it lies in host memory. -/
def hostHalf (v : UInt16) : Octets 2 :=
  #v[UInt8.ofNat (v.toNat % 256), UInt8.ofNat (v.toNat / 256)]

/-- A 32-bit number as it lies in host memory. -/
def hostWord (v : UInt32) : Octets 4 :=
  #v[UInt8.ofNat (v.toNat % 256), UInt8.ofNat (v.toNat / 256 % 256),
    UInt8.ofNat (v.toNat / 65536 % 256), UInt8.ofNat (v.toNat / 16777216)]

/-- Add the big-endian words of a block of even size to `sum`. -/
def sumWords : List UInt8 → UInt32 → UInt32
  | hi :: lo :: rest, sum => sumWords rest (sum + (ntohs #v[hi, lo]).toUInt32)
  | _, sum => sum

/-- Fold the carries of a sum into its low half. -/
def foldCarries (sum : UInt32) : UInt16 :=
  let sum := (sum >>> 16) + (sum &&& 0xFFFF)
  let sum := sum + (sum >>> 16)
  sum.toUInt16

/-- `htons(~sum)`. -/
def complement (sum : UInt32) : Octets 2 := htons (~~~foldCarries sum)

/-- `one_compl`, for a block of even size. -/
def oneCompl (start : List UInt8) : Octets 2 := complement (sumWords start 0)

/-- `struct ip`, with the numbers as they lie in memory. -/
structure IpHdr where
  ipHl : UInt8
  ipV : UInt8
  ipTos : UInt8
  ipLen : Octets 2
  ipId : Octets 2
  ipOff : Octets 2
  ipTtl : UInt8
  ipP : UInt8
  ipSum : Octets 2
  ipSrc : InAddr
  ipDst : InAddr

def IpHdr.bytes (h : IpHdr) : List UInt8 :=
  [h.ipV <<< 4 ||| h.ipHl, h.ipTos] ++ h.ipLen.toList ++ h.ipId.toList ++ h.ipOff.toList ++
    [h.ipTtl, h.ipP] ++ h.ipSum.toList ++ h.ipSrc.toList ++ h.ipDst.toList

@[simp] theorem IpHdr.length_bytes (h : IpHdr) : h.bytes.length = 20 := by
  simp [IpHdr.bytes]

/-- The protocol lies at offset nine of the header. -/
theorem IpHdr.getD_bytes_nine (h : IpHdr) : h.bytes.getD 9 0 = h.ipP := by
  have hsplit : h.bytes = ([h.ipV <<< 4 ||| h.ipHl, h.ipTos] ++ h.ipLen.toList ++ h.ipId.toList ++
      h.ipOff.toList ++ [h.ipTtl]) ++ h.ipP :: (h.ipSum.toList ++ h.ipSrc.toList ++
      h.ipDst.toList) := by
    simp [IpHdr.bytes]
  rw [hsplit, List.getD_append_right _ _ _ _ (by simp)]
  simp

/-- `IP_DF`. -/
abbrev ipDf : UInt16 := 0x4000

/-- `struct icmp_too_big`: the ICMP header with its next-hop MTU, then the quoted
IP header and the eight bytes after it, which one read fills in together. -/
structure IcmpTooBig where
  type : UInt8
  code : UInt8
  checksum : Octets 2
  mtu : Octets 2
  quoted : Octets 28

def IcmpTooBig.bytes (r : IcmpTooBig) : List UInt8 :=
  [r.type, r.code] ++ r.checksum.toList ++ [0, 0] ++ r.mtu.toList ++ r.quoted.toList

@[simp] theorem IcmpTooBig.length_bytes (r : IcmpTooBig) : r.bytes.length = 36 := by
  simp [IcmpTooBig.bytes]

/-- `sizeof(struct icmp_too_big)`. -/
abbrev icmpTooBigLen : ℕ := 36

/-- `Gateway::icmp_mtu`: the frames it writes to the device. -/
def icmpMtu (packet : Packet) (mtu : UInt16) (u : Indeterminate) : List Frame :=
  if packet.getLength < ((etherHeaderLen + IP.ipHeaderLen + 8 : ℕ) : ℤ) then []
  else if Ethernet.getProtocol packet 0 ≠ ethertypeIp then []
  else if IP.getNextOffset packet etherHeaderLen - etherHeaderLen ≠ 20 then []
  else
    let sPacket := Packet.new (etherHeaderLen + icmpTooBigLen + IP.ipHeaderLen) (u.heap 0)
    let sPacket := sPacket.setLength (etherHeaderLen + icmpTooBigLen + IP.ipHeaderLen : ℕ)
    let response : IcmpTooBig := {
      type := 3
      code := 4
      checksum := Vector.replicate 2 0
      mtu := htons mtu
      quoted := packet.readByteArray etherHeaderLen (Vector.replicate 28 0) }
    let response := { response with checksum := oneCompl response.bytes }
    let sPacket := Ethernet.setSource sPacket 0 (Ethernet.getDestination packet 0 (u.etherAddr 0))
    let sPacket := Ethernet.setDestination sPacket 0 (Ethernet.getSource packet 0 (u.etherAddr 1))
    let sPacket := Ethernet.setProtocol sPacket 0 ethertypeIp
    let sIpHdr : IpHdr := {
      ipHl := 5
      ipV := 4
      ipTos := 0
      ipLen := htons (UInt16.ofNat (IP.ipHeaderLen + icmpTooBigLen))
      ipId := Vector.replicate 2 0
      ipOff := htons ipDf
      ipTtl := 64
      ipP := ipprotoIcmp
      ipSum := Vector.replicate 2 0
      ipSrc := IP.getDestination packet etherHeaderLen (u.inAddr 0)
      ipDst := IP.getSource packet etherHeaderLen (u.inAddr 1) }
    let sIpHdr := { sIpHdr with ipSum := oneCompl sIpHdr.bytes }
    let sPacket := sPacket.writeByteArray etherHeaderLen sIpHdr.bytes
    let sPacket := sPacket.writeByteArray (etherHeaderLen + IP.ipHeaderLen) response.bytes
    Device.writePacket sPacket.inMemory sPacket.getLength

/-- The protocol of a frame is that of the IP header written into it. -/
theorem ipProtocol_writePacket {p : Packet} {hdr : IpHdr} {rest : List UInt8} {out : Frame}
    (hlen : 34 ≤ p.writtenByte)
    (h : out ∈ Device.writePacket ((p.writeByteArray 14 hdr.bytes).writeByteArray 34 rest).inMemory
      ((p.writeByteArray 14 hdr.bytes).writeByteArray 34 rest).getLength) :
    out.ipProtocol = hdr.ipP := by
  obtain ⟨-, rfl⟩ := Device.mem_writePacket h
  have hbyte : 23 < ((p.writeByteArray 14 hdr.bytes).writeByteArray 34 rest).getLength.toNat := by
    simp only [Packet.getLength, Packet.writtenByte_writeByteArray]
    omega
  rw [Frame.ipProtocol, image_getD _ hbyte, Packet.inMemory_writeByteArray_of_outside _ (by simp),
    Packet.inMemory_writeByteArray (by simpa using hlen),
    store_of_inside _ (by simp) (by simp), IpHdr.getD_bytes_nine]

/-- The answer is an ICMP packet. -/
theorem ipProtocol_icmpMtu {packet : Packet} {mtu : UInt16} {u : Indeterminate} {out : Frame}
    (h : out ∈ icmpMtu packet mtu u) : out.ipProtocol = ipprotoIcmp := by
  simp only [icmpMtu] at h
  split at h
  · contradiction
  split at h
  · contradiction
  split at h
  · contradiction
  refine (ipProtocol_writePacket ?_ h).trans rfl
  simp [Ethernet.setProtocol, Ethernet.setDestination, Ethernet.setSource, Packet.setLength]

namespace UDP

/-- Ethernet, IP and UDP header together. -/
abbrev totalHeaderLen : ℕ := etherHeaderLen + IP.ipHeaderLen + udpHeaderLen

/-- The loop that adds up the words of the packet from offset `current` on;
the third argument is the number of bytes left. The variable `temp` lives across
the rounds, because a read outside the packet leaves it as it is. -/
def sumPacket (packet : Packet) (current : ℕ) : ℕ → UInt16 → UInt32 → UInt32
  | 0, _, sum => sum
  | 1, _, sum => sum + (((toUint8 (packet.readByte current)).toUInt16 <<< 8).toUInt32)
  | n + 2, temp, sum =>
      let temp := ntohs (packet.readByteArray current (hostHalf temp))
      sumPacket packet (current + 2) n temp (sum + temp.toUInt32)

/-- `UDP::makePacket`: the packet afterwards and the length of the frame, `-1`
if the frame exceeds the capacity. -/
def makePacket (packet : Packet) (etherSrc etherDst : EtherAddr) (ipSrc ipDst : InAddr)
    (pSrc pDst : UInt16) (data : List UInt8) (u : Indeterminate) : Packet × ℤ :=
  let len := totalHeaderLen + data.length
  if len > packet.getCapacity then (packet, -1)
  else
    let packet := Ethernet.setSource packet 0 etherSrc
    let packet := Ethernet.setDestination packet 0 etherDst
    let packet := Ethernet.setProtocol packet 0 ethertypeIp
    let offset := Ethernet.getNextOffset 0
    let iphdr := offset
    let thdr : IpHdr := {
      ipHl := 5
      ipV := 4
      ipTos := 0
      ipLen := htons (UInt16.ofNat (IP.ipHeaderLen + udpHeaderLen + data.length))
      ipId := Vector.replicate 2 0
      ipOff := htons ipDf
      ipTtl := 64
      ipP := ipprotoUdp
      ipSum := Vector.replicate 2 0
      ipSrc := ipSrc
      ipDst := ipDst }
    let thdr := { thdr with ipSum := complement (sumWords thdr.bytes 0) }
    let packet := packet.writeByteArray offset thdr.bytes
    let offset := offset + IP.ipHeaderLen
    let pheader := (IP.getSource packet iphdr (u.inAddr 0)).toList ++
      (IP.getDestination packet iphdr (u.inAddr 1)).toList ++ [0, ipprotoUdp] ++
      (htons (UInt16.ofNat (udpHeaderLen + data.length))).toList
    let packet := setSource packet offset pSrc
    let packet := setDestination packet offset pDst
    let packet := packet.writeByteArray (offset + 4)
      (htons (UInt16.ofNat (udpHeaderLen + data.length))).toList
    let packet := packet.writeByte (offset + 6) 0
    let packet := packet.writeByte (offset + 7) 0
    let offset := getNextOffset offset
    let packet := packet.writeByteArray offset data
    let current := offset - udpHeaderLen
    let sum := sumPacket packet current (len - current) 0 (sumWords pheader 0)
    let packet := packet.writeByteArray (offset - 2) (complement sum).toList
    (packet, len)

end UDP

/-- A packet being filled, with the offset of the next byte. -/
structure Cursor where
  packet : Packet
  currentOffset : ℕ

namespace Cursor

def byte (c : Cursor) (data : UInt8) : Cursor :=
  ⟨c.packet.writeByte c.currentOffset data, c.currentOffset + 1⟩

def array (c : Cursor) (bytes : List UInt8) : Cursor :=
  ⟨c.packet.writeByteArray c.currentOffset bytes, c.currentOffset + bytes.length⟩

/-- A loop that zeroes `count` bytes, followed by an advance of the offset. -/
def zeros (c : Cursor) (count advance : ℕ) : Cursor :=
  ⟨(List.range' c.currentOffset count).foldl (fun p i => p.writeByte i 0) c.packet,
    c.currentOffset + advance⟩

end Cursor

/-- `DHCP::writeResponse`: the packet afterwards and the length of the payload.
The MTU and the addresses come in network order, the lease time in host order. -/
def DHCP.writeResponse (packet : Packet) (offset : ℕ) (discover : Bool) (mtu : Octets 2)
    (transactionId : Octets 4) (clientInAddr : InAddr) (clientEtherAddr : EtherAddr)
    (serverIdentifier subnetMask router : InAddr) (dnsVector : List InAddr)
    (leaseTime : UInt32) : Packet × ℤ :=
  let c : Cursor := ⟨packet, offset⟩
  let c := c.byte 2 |>.byte 1 |>.byte 6 |>.byte 0
  let c := c.array transactionId.toList
  let c := c.zeros 8 8
  let c := c.array clientInAddr.toList
  -- four bytes are zeroed, eight are skipped
  let c := c.zeros 4 8
  let c := c.array clientEtherAddr.toList
  let c := c.zeros 10 10
  let c := c.zeros (64 + 128) (64 + 128)
  let c := c.byte 99 |>.byte 130 |>.byte 83 |>.byte 99
  let c := c.byte 53 |>.byte 1
  let c := if discover then c.byte 2 else c.byte 5
  let c := c.byte 54 |>.byte 4
  let c := c.array serverIdentifier.toList
  let c := c.byte 51 |>.byte 4
  let c := c.array (hostWord leaseTime).toList
  let c := c.byte 1 |>.byte 4
  let c := c.array subnetMask.toList
  let c := c.byte 3 |>.byte 4
  let c := c.array router.toList
  let c := c.byte 26 |>.byte 2
  let c := c.array mtu.toList
  let c := c.byte 6 |>.byte (UInt8.ofNat (dnsVector.length * 4))
  let c := dnsVector.foldl (fun c dns => c.array dns.toList) c
  let c := c.byte 255
  (c.packet, ((c.currentOffset - offset : ℕ) : ℤ))

end GatewaySocket
