import GatewaySocket.Packet.Checksum

/-!
# The frame of a datagram

`UDP::makePacket` puts a frame together from front to back, reads some of it again
for the checksum and patches the checksum into the middle. What is left in the
packet is `Datagram.frame`, a function of the arguments, and the bytes behind it
are as they were.
-/

namespace GatewaySocket

open ByteMemory OnesComplement

namespace Frame

/-- A field of a frame whose parts are known. -/
theorem field_append {f : Frame} {pos n : ℕ} (xs : List UInt8) (v : Octets n) (ys : List UInt8)
    (hf : f = xs ++ v.toList ++ ys) (hpos : pos = xs.length) : f.field pos n = v := by
  rw [hf, hpos]
  exact load_ofList_append xs v ys

end Frame

namespace UDP

/-- The arguments of `makePacket` that say what to put into the packet. -/
structure Datagram where
  etherSrc : EtherAddr
  etherDst : EtherAddr
  ipSrc : InAddr
  ipDst : InAddr
  pSrc : UInt16
  pDst : UInt16
  data : List UInt8

namespace Datagram

def make (d : Datagram) (packet : Packet) (u : Indeterminate) : Packet × ℤ :=
  makePacket packet d.etherSrc d.etherDst d.ipSrc d.ipDst d.pSrc d.pDst d.data u

/-- The length of the UDP header with the payload. -/
def udpLen (d : Datagram) : UInt16 := UInt16.ofNat (udpHeaderLen + d.data.length)

def etherHeader (d : Datagram) : List UInt8 :=
  d.etherDst.toList ++ d.etherSrc.toList ++ (htons ethertypeIp).toList

def ipHeader (d : Datagram) : IpHdr :=
  IpHdr.withSum {
    ipHl := 5
    ipV := 4
    ipTos := 0
    ipLen := htons (UInt16.ofNat (IP.ipHeaderLen + udpHeaderLen + d.data.length))
    ipId := Vector.replicate 2 0
    ipOff := htons ipDf
    ipTtl := 64
    ipP := ipprotoUdp
    ipSum := Vector.replicate 2 0
    ipSrc := d.ipSrc
    ipDst := d.ipDst }

def pseudoheader (d : Datagram) : List UInt8 :=
  d.ipSrc.toList ++ d.ipDst.toList ++ [0, ipprotoUdp] ++ (htons d.udpLen).toList

/-- The headers in front of the UDP header. -/
def headers (d : Datagram) : List UInt8 := d.etherHeader ++ d.ipHeader.bytes

/-- The UDP header with the checksum `sum`, and the payload. -/
def segment (d : Datagram) (sum : Octets 2) : List UInt8 :=
  (htons d.pSrc).toList ++ (htons d.pDst).toList ++ (htons d.udpLen).toList ++ sum.toList ++ d.data

/-- The sum of the words that the checksum of the datagram covers. -/
def total (d : Datagram) : ℕ :=
  (words (d.pseudoheader ++ d.segment (Vector.replicate 2 0))).sum

def udpSum (d : Datagram) : Octets 2 := complement (UInt32.ofNat d.total)

/-- The whole frame. -/
def frame (d : Datagram) : Frame :=
  d.headers ++ d.segment d.udpSum

variable {d : Datagram} {packet : Packet} {u : Indeterminate}

@[simp] theorem length_etherHeader (d : Datagram) : d.etherHeader.length = 14 := by
  simp [etherHeader]

@[simp] theorem length_headers (d : Datagram) : d.headers.length = 34 := by
  simp [headers]

@[simp] theorem length_pseudoheader (d : Datagram) : d.pseudoheader.length = 12 := by
  simp [pseudoheader]

@[simp] theorem length_segment (d : Datagram) (sum : Octets 2) :
    (d.segment sum).length = 8 + d.data.length := by
  simp [segment]
  omega

@[simp] theorem length_frame (d : Datagram) : d.frame.length = 42 + d.data.length := by
  simp [frame]
  omega

/-- The headers with the parts of the IP header. -/
theorem headers_eq (d : Datagram) : d.headers = d.etherHeader ++ d.ipHeader.beforeSum ++
    d.ipHeader.ipSum.toList ++ d.ipSrc.toList ++ d.ipDst.toList := by
  rw [headers, IpHdr.bytes_eq]
  simp only [List.append_assoc]
  rfl

/-- The addresses and the type, written from back to front. -/
theorem etherHeader_eq (hlen : 42 ≤ packet.writtenByte) :
    Ethernet.setProtocol
      (Ethernet.setDestination (Ethernet.setSource packet 0 d.etherSrc) 0 d.etherDst) 0
      ethertypeIp = packet.front d.etherHeader := by
  have haddr : Ethernet.setDestination (Ethernet.setSource packet 0 d.etherSrc) 0 d.etherDst =
      packet.front (d.etherDst.toList ++ d.etherSrc.toList) :=
    Packet.writeByteArray_zero (by simp) (by simp; omega)
  rw [haddr, Ethernet.setProtocol, Packet.front_append (by simp [ethAlen])
    (by simp; omega), etherHeader]

theorem segment_eq (d : Datagram) (sum : Octets 2) :
    d.segment sum = (htons d.pSrc).toList ++ (htons d.pDst).toList ++ (htons d.udpLen).toList ++
      (sum.toList ++ d.data) := by
  simp [segment]

/-- The UDP header with an empty checksum and the payload, written behind the IP header. -/
def writeSegment (d : Datagram) (packet : Packet) : Packet :=
  (((((setDestination (setSource packet 34 d.pSrc) 34 d.pDst).writeByteArray 38
    (htons d.udpLen).toList).writeByte 40 0).writeByte 41 0).writeByteArray 42 d.data)

theorem writeSegment_front {bytes : List UInt8} (hbytes : bytes.length = 34)
    (hlen : 42 + (d.data.length : ℤ) ≤ packet.writtenByte) :
    d.writeSegment (packet.front bytes) =
      packet.front (bytes ++ d.segment (Vector.replicate 2 0)) := by
  have happend : ∀ {xs more : List UInt8} {pos : ℕ}, pos = xs.length →
      pos + more.length ≤ 42 + d.data.length →
      (packet.front xs).writeByteArray pos more = packet.front (xs ++ more) := by
    intro xs more pos hpos hle
    exact Packet.front_append hpos (by omega)
  rw [writeSegment, Packet.writeByte_eq, Packet.writeByte_eq, setDestination, setSource,
    happend (by omega) (by simp; omega), happend (by simp [hbytes]) (by simp; omega),
    happend (by simp [hbytes]) (by simp; omega), happend (by simp [hbytes]) (by simp; omega),
    happend (by simp [hbytes]) (by simp), happend (by simp [hbytes]) (by simp)]
  simp [segment]

/-- The sum over the packet, with the checksum still empty. -/
theorem sumPacket_segment {bytes : List UInt8} (hbytes : bytes.length = 34)
    (hlen : 42 + (d.data.length : ℤ) ≤ packet.writtenByte) :
    sumPacket (packet.front (bytes ++ d.segment (Vector.replicate 2 0))) 34
      (8 + d.data.length) 0 (sumWords d.pseudoheader 0) = UInt32.ofNat d.total := by
  have hcovers : ∀ i, i < (d.segment (Vector.replicate 2 0)).length →
      (packet.front (bytes ++ d.segment (Vector.replicate 2 0))).inMemory (34 + i) =
        (d.segment (Vector.replicate 2 0)).getD i 0 := by
    intro i hi
    rw [Packet.inMemory_front (by rw [List.length_append]; omega),
      List.getD_append_right _ _ _ _ (by omega), hbytes, Nat.add_sub_cancel_left]
  have hsum := sumPacket_eq (by rw [length_segment, Packet.writtenByte_front]; omega) hcovers 0
    (sumWords d.pseudoheader 0)
  rw [length_segment] at hsum
  rw [hsum, sumWords_eq (by simp), total, words_append _ (by simp), List.sum_append,
    UInt32.ofNat_add, UInt32.zero_add]

/-- The packet has room for the headers and the payload. -/
theorem covers_of_le (hlen : ((totalHeaderLen + d.data.length : ℕ) : ℤ) ≤ packet.writtenByte) :
    42 + (d.data.length : ℤ) ≤ packet.writtenByte := by
  have hheader : totalHeaderLen = 42 := rfl
  rw [hheader] at hlen
  omega

/-- **What `makePacket` makes.** The frame is at the start of the packet, which
is otherwise as it was, and its length is returned. -/
theorem make_eq (hcapacity : totalHeaderLen + d.data.length ≤ packet.capacity)
    (hlen : ((totalHeaderLen + d.data.length : ℕ) : ℤ) ≤ packet.writtenByte) :
    d.make packet u = (packet.front d.frame, ((totalHeaderLen + d.data.length : ℕ) : ℤ)) := by
  have hheader : totalHeaderLen = 42 := rfl
  have hlen' : 42 + (d.data.length : ℤ) ≤ packet.writtenByte := covers_of_le hlen
  have hip : (packet.front d.etherHeader).writeByteArray 14 d.ipHeader.bytes =
      packet.front d.headers := Packet.front_append (by simp) (by simp; omega)
  have hsrc : IP.getSource (packet.front d.headers) 14 (u.inAddr 0) = d.ipSrc := by
    rw [IP.getSource, Packet.readByteArray_front _ (by simp) (by simp; omega)]
    exact Frame.field_append _ _ _ d.headers_eq (by simp)
  have hdst : IP.getDestination (packet.front d.headers) 14 (u.inAddr 1) = d.ipDst := by
    rw [IP.getDestination, Packet.readByteArray_front _ (by simp) (by simp; omega)]
    exact Frame.field_append _ _ [] (by rw [headers_eq, List.append_nil]) (by simp)
  have hpatch : (packet.front (d.headers ++ d.segment (Vector.replicate 2 0))).writeByteArray 40
      d.udpSum.toList = packet.front d.frame := by
    rw [segment_eq, ← List.append_assoc, ← List.append_assoc,
      Packet.front_overwrite (by simp) (by simp) (by simp; omega), frame, segment_eq]
    simp only [List.append_assoc]
  have hleft : totalHeaderLen + d.data.length - 34 = 8 + d.data.length := by omega
  rw [make, makePacket, if_neg (by rw [Packet.getCapacity]; omega)]
  dsimp only
  rw [etherHeader_eq (by omega)]
  change ((d.writeSegment
      ((packet.front d.etherHeader).writeByteArray 14 d.ipHeader.bytes)).writeByteArray 40
    (complement (sumPacket (d.writeSegment
        ((packet.front d.etherHeader).writeByteArray 14 d.ipHeader.bytes)) 34
      (totalHeaderLen + d.data.length - 34) 0
      (sumWords ((IP.getSource
          ((packet.front d.etherHeader).writeByteArray 14 d.ipHeader.bytes) 14
          (u.inAddr 0)).toList ++ (IP.getDestination
          ((packet.front d.etherHeader).writeByteArray 14 d.ipHeader.bytes) 14
          (u.inAddr 1)).toList ++ [0, ipprotoUdp] ++ (htons d.udpLen).toList) 0))).toList,
    ((totalHeaderLen + d.data.length : ℕ) : ℤ)) = _
  rw [hip, hsrc, hdst, hleft, writeSegment_front (by simp) hlen', ← pseudoheader,
    sumPacket_segment (by simp) hlen', ← udpSum, hpatch]

/-! ## Reading the frame back -/

/-- What the views read from a packet with this length, each at the offset that
the view before it computes. -/
structure ReadsBack (d : Datagram) (packet : Packet) (length : ℤ) : Prop where
  etherType : Ethernet.getProtocol packet 0 = ethertypeIp
  etherSource : ∀ ret, Ethernet.getSource packet 0 ret = d.etherSrc
  etherDestination : ∀ ret, Ethernet.getDestination packet 0 ret = d.etherDst
  ipProtocol : IP.getProtocol packet (Ethernet.getNextOffset 0) = ipprotoUdp
  ipSource : ∀ ret, IP.getSource packet (Ethernet.getNextOffset 0) ret = d.ipSrc
  ipDestination : ∀ ret, IP.getDestination packet (Ethernet.getNextOffset 0) ret = d.ipDst
  ipLength : ∀ ret : Octets 2,
    ((ntohs (packet.readByteArray (Ethernet.getNextOffset 0 + 2) ret)).toNat : ℤ) = length - 14
  udpSource : ∀ ret,
    UDP.getSource packet (IP.getNextOffset packet (Ethernet.getNextOffset 0)) ret = d.pSrc
  udpDestination : ∀ ret,
    UDP.getDestination packet (IP.getNextOffset packet (Ethernet.getNextOffset 0)) ret = d.pDst
  udpLength : ∀ ret : Octets 2, ((ntohs (packet.readByteArray
    (IP.getNextOffset packet (Ethernet.getNextOffset 0) + 4) ret)).toNat : ℤ) = length - 34
  payload : ∀ ret : Octets d.data.length, (packet.readByteArray
    (UDP.getNextOffset (IP.getNextOffset packet (Ethernet.getNextOffset 0))) ret).toList = d.data

theorem getD_frame (d : Datagram) {i : ℕ} (hi : i < 20) :
    d.frame.getD (14 + i) 0 = d.ipHeader.bytes.getD i 0 := by
  rw [frame, headers, List.getD_append _ _ _ _ (by simp; omega),
    List.getD_append_right _ _ _ _ (by simp), length_etherHeader, Nat.add_sub_cancel_left]

/-- A part of the frame is read where it begins. -/
theorem readByteArray_frame {pos n : ℕ} (xs : List UInt8) {v : Octets n} (ys : List UInt8)
    (hframe : d.frame = xs ++ v.toList ++ ys) (hpos : pos = xs.length)
    (hlen : 42 + (d.data.length : ℤ) ≤ packet.writtenByte) (ret : Octets n) :
    (packet.front d.frame).readByteArray pos ret = v := by
  have hpart := congrArg List.length hframe
  rw [List.length_append, List.length_append, Vector.length_toList] at hpart
  rw [Packet.readByteArray_front _ (by omega) (by simp; omega)]
  exact Frame.field_append _ _ _ hframe hpos

theorem ipNextOffset_frame (hlen : 42 + (d.data.length : ℤ) ≤ packet.writtenByte) :
    IP.getNextOffset (packet.front d.frame) 14 = 34 := by
  have hfirst : d.frame.getD (14 + 0) 0 = 0x45 := by
    have hbyte : (4 : UInt8) <<< 4 ||| 5 = 0x45 := by decide
    rw [getD_frame _ (by decide)]
    exact hbyte
  rw [IP.getNextOffset, Packet.readByte_front (by simp; omega) (by simp; omega), hfirst,
    toUint8_toNat]
  rfl

theorem toNat_ntohs_htons {n : ℕ} (h : n < 65536) :
    (ntohs (htons (UInt16.ofNat n))).toNat = n := by
  rw [ntohs_htons, UInt16.toNat_ofNat', Nat.mod_eq_of_lt h]

/-- The frame with the parts of the UDP header. -/
theorem frame_eq (d : Datagram) : d.frame = d.headers ++ (htons d.pSrc).toList ++
    (htons d.pDst).toList ++ (htons d.udpLen).toList ++ d.udpSum.toList ++ d.data := by
  rw [frame, segment]
  simp only [List.append_assoc]

/-- The frame with the parts of the IP header. -/
theorem frame_eq_ip (d : Datagram) : d.frame = d.etherHeader ++ d.ipHeader.beforeSum ++
    d.ipHeader.ipSum.toList ++ d.ipSrc.toList ++ d.ipDst.toList ++ d.segment d.udpSum := by
  rw [frame, headers_eq]

/-- The frame around the length field of the IP header. -/
theorem frame_eq_ipLen (d : Datagram) : ∃ rest, d.frame = d.etherHeader ++
    [d.ipHeader.ipV <<< 4 ||| d.ipHeader.ipHl, d.ipHeader.ipTos] ++ d.ipHeader.ipLen.toList ++
    rest := by
  rw [frame, headers, IpHdr.bytes_eq_ipLen]
  exact ⟨_, by simp only [List.append_assoc]; rfl⟩

theorem getD_frame_protocol (d : Datagram) : d.frame.getD 23 0 = ipprotoUdp := by
  have hbyte : d.frame.getD (14 + 9) 0 = d.ipHeader.ipP := by
    rw [getD_frame _ (by decide), IpHdr.getD_bytes_nine]
  exact hbyte

theorem readsBack_frame (hlen : 42 + (d.data.length : ℤ) ≤ packet.writtenByte)
    (hdata : 28 + d.data.length ≤ 65535) :
    d.ReadsBack (packet.front d.frame) (42 + d.data.length) := by
  have hip : Ethernet.getNextOffset 0 = 14 := rfl
  have hudp : IP.getNextOffset (packet.front d.frame) (Ethernet.getNextOffset 0) = 34 :=
    ipNextOffset_frame hlen
  -- the frame from the Ethernet addresses on
  have hether : d.frame = d.etherDst.toList ++ d.etherSrc.toList ++ (htons ethertypeIp).toList ++
      (d.ipHeader.bytes ++ d.segment d.udpSum) := by
    rw [frame, headers, etherHeader]
    simp only [List.append_assoc]
  have hipAddr := d.frame_eq_ip
  constructor
  case etherType =>
    rw [Ethernet.getProtocol, readByteArray_frame _ _ hether (by simp [ethAlen]) hlen,
      ntohs_htons]
  case etherSource =>
    intro ret
    rw [List.append_assoc (d.etherDst.toList ++ d.etherSrc.toList)] at hether
    exact readByteArray_frame _ _ hether (by simp) hlen ret
  case etherDestination =>
    intro ret
    rw [← List.nil_append d.etherDst.toList, List.append_assoc, List.append_assoc] at hether
    exact readByteArray_frame _ _ hether (by simp) hlen ret
  case ipProtocol =>
    rw [hip, IP.getProtocol, Packet.readByte_front (by simp; omega) (by simp; omega),
      getD_frame_protocol, toUint8_toNat]
  case ipSource =>
    intro ret
    rw [List.append_assoc _ d.ipDst.toList] at hipAddr
    exact readByteArray_frame _ _ hipAddr (by simp; rfl) hlen ret
  case ipDestination =>
    intro ret
    exact readByteArray_frame _ _ hipAddr (by simp; rfl) hlen ret
  case ipLength =>
    intro ret
    obtain ⟨rest, hsplit⟩ := d.frame_eq_ipLen
    have hipLen : d.ipHeader.ipLen =
        htons (UInt16.ofNat (IP.ipHeaderLen + udpHeaderLen + d.data.length)) := rfl
    have hheader : IP.ipHeaderLen + udpHeaderLen = 28 := rfl
    rw [readByteArray_frame _ _ hsplit (by simp [hip]) hlen, hipLen, hheader,
      toNat_ntohs_htons (by omega)]
    push_cast
    omega
  case udpSource =>
    intro ret
    rw [hudp, UDP.getSource, readByteArray_frame (v := htons d.pSrc) d.headers
      ((htons d.pDst).toList ++ (htons d.udpLen).toList ++ d.udpSum.toList ++ d.data)
      (by rw [frame_eq]; simp only [List.append_assoc]) (by simp) hlen, ntohs_htons]
  case udpDestination =>
    intro ret
    rw [hudp, UDP.getDestination, readByteArray_frame (v := htons d.pDst)
      (d.headers ++ (htons d.pSrc).toList)
      ((htons d.udpLen).toList ++ d.udpSum.toList ++ d.data)
      (by rw [frame_eq]; simp only [List.append_assoc]) (by simp) hlen, ntohs_htons]
  case udpLength =>
    intro ret
    have hheader : udpHeaderLen = 8 := rfl
    rw [hudp, readByteArray_frame (v := htons d.udpLen)
      (d.headers ++ (htons d.pSrc).toList ++ (htons d.pDst).toList)
      (d.udpSum.toList ++ d.data) (by rw [frame_eq]; simp only [List.append_assoc]) (by simp) hlen,
      udpLen, hheader, toNat_ntohs_htons (by omega)]
    push_cast
    omega
  case payload =>
    intro ret
    have hdataList : (⟨d.data.toArray, rfl⟩ : Octets d.data.length).toList = d.data := by simp
    rw [hudp, readByteArray_frame (v := ⟨d.data.toArray, rfl⟩)
      (d.headers ++ (htons d.pSrc).toList ++ (htons d.pDst).toList ++ (htons d.udpLen).toList ++
        d.udpSum.toList) [] (by rw [hdataList, List.append_nil, frame_eq]) (by simp; rfl) hlen,
      hdataList]

/-- The frame in a packet of its own. -/
def held (d : Datagram) : Packet := (Packet.mk 0 d.frame.length fun _ => 0).front d.frame

theorem held_holds (d : Datagram) : d.held.Holds d.frame := Packet.front_holds rfl

theorem readsBack_held (hdata : 28 + d.data.length ≤ 65535) :
    d.ReadsBack d.held (42 + d.data.length) :=
  readsBack_frame (by rw [length_frame]; push_cast; exact Int.le_refl _) hdata

theorem ipHeaderLength_frame (d : Datagram) : d.frame.ipHeaderLength = 20 := by
  have hread : IP.getNextOffset d.held 14 = 34 :=
    ipNextOffset_frame (by rw [length_frame]; push_cast; exact Int.le_refl _)
  rw [d.held_holds.ipNextOffset (by rw [length_frame]; omega)] at hread
  omega

/-- The fields of the frame are the arguments. -/
theorem isUDP_frame (hdata : 28 + d.data.length ≤ 65535) : d.frame.IsUDP d.pSrc d.pDst := by
  have hread := readsBack_held hdata
  have hlen := d.length_frame
  have hihl := d.ipHeaderLength_frame
  have hoffset : IP.getNextOffset d.held (Ethernet.getNextOffset 0) =
      14 + d.frame.ipHeaderLength := d.held_holds.ipNextOffset (by omega)
  refine ⟨⟨by omega, ?_⟩, ?_, ?_, ?_⟩
  · rw [← d.held_holds.getProtocol (by omega), hread.etherType]
  · exact (d.held_holds.ipProtocol (by omega)).symm.trans hread.ipProtocol
  · have hsrc := hread.udpSource (Vector.replicate 2 0)
    rwa [hoffset, d.held_holds.udpSource (by omega)] at hsrc
  · have hdst := hread.udpDestination (Vector.replicate 2 0)
    rwa [hoffset, d.held_holds.udpDestination (by omega)] at hdst

theorem etherDestination_frame (hdata : 28 + d.data.length ≤ 65535) :
    d.frame.etherDestination = d.etherDst :=
  (d.held_holds.etherDestination (by rw [length_frame]; omega) (Vector.replicate 6 0)).symm.trans
    ((readsBack_held hdata).etherDestination _)

theorem ipDestination_frame (hdata : 28 + d.data.length ≤ 65535) :
    d.frame.ipDestination = d.ipDst :=
  (d.held_holds.ipDestination (by rw [length_frame]; omega) (Vector.replicate 4 0)).symm.trans
    ((readsBack_held hdata).ipDestination _)

/-- Behind the headers is the payload. -/
theorem drop_frame (d : Datagram) : d.frame.drop d.frame.udpPayload = d.data := by
  rw [Frame.udpPayload, ipHeaderLength_frame, frame_eq]
  exact List.drop_left' (by simp)

theorem getD_frame_data (d : Datagram) (i : ℕ) :
    d.frame.getD (totalHeaderLen + i) 0 = d.data.getD i 0 := by
  have hheader : totalHeaderLen = 42 := rfl
  rw [frame_eq, List.getD_append_right _ _ _ _ (by simp; omega)]
  congr 1
  simp
  omega

theorem make_of_exceeds (h : packet.capacity < totalHeaderLen + d.data.length) :
    d.make packet u = (packet, -1) := by
  rw [make, makePacket, if_pos (by rwa [Packet.getCapacity])]

/-- **Builder and readers agree.** A frame that fits is read back as it was meant,
all its bytes are given by the arguments, and the bytes behind it are untouched.
A frame that exceeds the capacity leaves the packet alone. -/
theorem make_agrees (d : Datagram) (packet : Packet) (u : Indeterminate) :
    (totalHeaderLen + d.data.length ≤ packet.capacity →
      ((totalHeaderLen + d.data.length : ℕ) : ℤ) ≤ packet.getLength →
      28 + d.data.length ≤ 65535 →
        (d.make packet u).2 = 42 + d.data.length ∧
        d.ReadsBack (d.make packet u).1 (d.make packet u).2 ∧
        (∀ i, i < 42 + d.data.length →
          (d.make packet u).1.inMemory i = d.frame.getD i 0) ∧
        ∀ i, 42 + d.data.length ≤ i → (d.make packet u).1.inMemory i = packet.inMemory i) ∧
      (packet.capacity < totalHeaderLen + d.data.length → d.make packet u = (packet, -1)) := by
  refine ⟨fun hcapacity hlen hdata => ?_, make_of_exceeds⟩
  have hlen' : 42 + (d.data.length : ℤ) ≤ packet.writtenByte := covers_of_le hlen
  have hreturned : ((totalHeaderLen + d.data.length : ℕ) : ℤ) = 42 + d.data.length := by
    push_cast
    rfl
  rw [make_eq hcapacity hlen, hreturned]
  refine ⟨rfl, readsBack_frame hlen' hdata, fun i hi => ?_, fun i hi => ?_⟩
  · exact Packet.inMemory_front (by simpa using hi)
  · exact Packet.inMemory_front_of_outside (by simpa using hi)

/-- Two bytes from 10.0.1.1 to 10.0.1.2, and a packet they fit in. -/
def sample (hi lo : UInt8) : Datagram where
  etherSrc := Vector.replicate 6 1
  etherDst := Vector.replicate 6 2
  ipSrc := #v[10, 0, 1, 1]
  ipDst := #v[10, 0, 1, 2]
  pSrc := 67
  pDst := 68
  data := [hi, lo]

def samplePacket : Packet := ⟨myPacketLen, myPacketLen, fun _ => 1⟩

/-- The sample is read back. -/
theorem make_agrees_sample :
    (sample 0 0).ReadsBack ((sample 0 0).make samplePacket default).1
      ((sample 0 0).make samplePacket default).2 :=
  ((make_agrees (sample 0 0) samplePacket default).1 (by decide) (by decide) (by decide)).2.1

/-! ## Checksums -/

/-- The pseudo-header that a receiver forms from the frame. -/
def receivedPseudoheader (f : Frame) : List UInt8 :=
  f.ipSource.toList ++ f.ipDestination.toList ++ [0, f.ipProtocol] ++ (f.field 38 2).toList

theorem image_make (hcapacity : totalHeaderLen + d.data.length ≤ packet.capacity)
    (hlen : ((totalHeaderLen + d.data.length : ℕ) : ℤ) ≤ packet.getLength) :
    image (d.make packet u).1.inMemory (42 + d.data.length) = d.frame := by
  rw [make_eq hcapacity hlen, ← length_frame d]
  refine (image_congr fun i hi => ?_).trans (image_ofList d.frame)
  exact Packet.inMemory_front hi

theorem receivedPseudoheader_frame (d : Datagram) :
    receivedPseudoheader d.frame = d.pseudoheader := by
  have hsrc : d.frame.ipSource = d.ipSrc :=
    Frame.field_append _ _ _ (d.frame_eq_ip.trans (List.append_assoc _ d.ipDst.toList _)) (by simp)
  have hdst : d.frame.ipDestination = d.ipDst :=
    Frame.field_append _ _ _ d.frame_eq_ip (by simp)
  have hlen : d.frame.field 38 2 = htons d.udpLen :=
    Frame.field_append _ _ _ (d.frame_eq.trans (List.append_assoc _ d.udpSum.toList _)) (by simp)
  rw [receivedPseudoheader, hsrc, hdst, hlen, Frame.ipProtocol, getD_frame_protocol, pseudoheader]

theorem total_lt (d : Datagram) (hdata : 28 + d.data.length ≤ 65535) : d.total < 4294967296 := by
  have hle := sum_words_le (d.pseudoheader ++ d.segment (Vector.replicate 2 0))
  rw [List.length_append, length_pseudoheader, length_segment] at hle
  rw [total]
  omega

theorem sum_words_segment (hdata : 28 + d.data.length ≤ 65535) :
    sum (words (d.pseudoheader ++ d.segment d.udpSum)) = 65535 := by
  have htotal : (UInt32.ofNat d.total).toNat = d.total := by
    rw [UInt32.toNat_ofNat']
    exact Nat.mod_eq_of_lt (d.total_lt hdata)
  rw [segment_eq, ← List.append_assoc, ← List.append_assoc]
  apply sum_words_complement_toList _ (by simp)
  rw [htotal, total, segment_eq]
  simp only [List.append_assoc]
  rfl

/-- **Checksums verify.** The loop over a buffer adds up all its words without an
overflow, two folds give their one's-complement sum, and the checksum in a word
that was zero makes that sum 65535. Both sums over the frame of a datagram are
65535, and the sum behind its UDP checksum does not overflow either. -/
theorem checksums_verify :
    (∀ front back : List UInt8, front.length % 2 = 0 → back.length % 2 = 0 →
      front.length + 2 + back.length < 131072 →
        let buffer := front ++ [0, 0] ++ back
        (sumWords buffer 0).toNat = (words buffer).sum ∧
        (foldCarries (sumWords buffer 0)).toNat = sum (words buffer) ∧
        sum (words (front ++ (oneCompl buffer).toList ++ back)) = 65535) ∧
      ∀ (d : Datagram) (packet : Packet) (u : Indeterminate),
        totalHeaderLen + d.data.length ≤ packet.capacity →
        ((totalHeaderLen + d.data.length : ℕ) : ℤ) ≤ packet.getLength →
        28 + d.data.length ≤ 65535 →
          let sum32 := sumPacket (packet.front (d.headers ++ d.segment (Vector.replicate 2 0))) 34
            (8 + d.data.length) 0 (sumWords d.pseudoheader 0)
          let frame := image (d.make packet u).1.inMemory (42 + d.data.length)
          sum32.toNat = (words (d.pseudoheader ++ d.segment (Vector.replicate 2 0))).sum ∧
          (foldCarries sum32).toNat =
            sum (words (d.pseudoheader ++ d.segment (Vector.replicate 2 0))) ∧
          sum (words ((frame.drop 14).take 20)) = 65535 ∧
          sum (words (receivedPseudoheader frame ++ frame.drop 34)) = 65535 := by
  constructor
  · intro front back hfront hback hlen buffer
    have hsum : (sumWords buffer 0).toNat = (words buffer).sum :=
      toNat_sumWords (by simp [buffer]; omega) (by simp [buffer]; omega)
    exact ⟨hsum, by rw [toNat_foldCarries, hsum, sum_words],
      sum_words_oneCompl _ _ hfront hback hlen⟩
  · intro d packet u hcapacity hlen hdata sum32 frame
    have hlen' : 42 + (d.data.length : ℤ) ≤ packet.writtenByte := covers_of_le hlen
    have hframe : frame = d.frame := image_make hcapacity hlen
    have htotal : sum32.toNat = d.total := by
      rw [show sum32 = _ from sumPacket_segment (by simp) hlen', UInt32.toNat_ofNat']
      exact Nat.mod_eq_of_lt (d.total_lt hdata)
    refine ⟨htotal, by rw [toNat_foldCarries, htotal, total, sum_words], ?_, ?_⟩
    · have hip : (d.frame.drop 14).take 20 = d.ipHeader.bytes := by
        rw [Datagram.frame, headers, List.append_assoc, List.drop_left' (by simp),
          List.take_left' (by simp)]
      rw [hframe, hip]
      exact IpHdr.sum_words_withSum _
    · have hudp : d.frame.drop 34 = d.segment d.udpSum := by
        rw [Datagram.frame, List.drop_left' (by simp)]
      rw [hframe, receivedPseudoheader_frame, hudp, sum_words_segment hdata]

/-- The checksums of the sample verify. -/
theorem checksums_verify_sample :
    sum (words (((image ((sample 0 0).make samplePacket default).1.inMemory 44).drop 14).take 20)) =
      65535 :=
  (checksums_verify.2 (sample 0 0) samplePacket default (by decide) (by decide)
    (by decide)).2.2.1

/-! ## The checksum that is zero -/

/-- A checksum is zero where the sum, reduced, has all bits set. -/
theorem complement_eq_zero_iff (s : UInt32) :
    complement s = Vector.replicate 2 0 ↔ 0 < s.toNat ∧ s.toNat % 65535 = 0 := by
  rw [← reduce_eq_iff, ← toNat_foldCarries]
  constructor
  · intro hzero
    have hnum := toNat_ntohs_complement s
    have hfield : (ntohs (Vector.replicate 2 0)).toNat = 0 := by decide
    have hlt := reduce_lt s.toNat
    rw [hzero, hfield] at hnum
    rw [toNat_foldCarries]
    omega
  · intro hfold
    have hones : foldCarries s = 65535 := UInt16.toNat_inj.mp hfold
    rw [complement, hones]
    decide

/-- **Where the UDP checksum is missing.** The field is not zero exactly if the
words of pseudo-header, UDP header and payload do not add up to a positive
multiple of 65535, as far as 32 bits hold their sum. -/
theorem udp_checksum_ne_zero_iff (d : Datagram) (packet : Packet) (u : Indeterminate)
    (hcapacity : totalHeaderLen + d.data.length ≤ packet.capacity)
    (hlen : ((totalHeaderLen + d.data.length : ℕ) : ℤ) ≤ packet.getLength) :
    load (d.make packet u).1.inMemory 40 2 ≠ Vector.replicate 2 0 ↔
      ¬(0 < d.total % 4294967296 ∧ d.total % 4294967296 % 65535 = 0) := by
  have hlen' : 42 + (d.data.length : ℤ) ≤ packet.writtenByte := covers_of_le hlen
  have hfield : load (d.make packet u).1.inMemory 40 2 = d.udpSum := by
    have hread := readByteArray_frame (v := d.udpSum) (d.headers ++ (htons d.pSrc).toList ++
      (htons d.pDst).toList ++ (htons d.udpLen).toList) d.data d.frame_eq
      (by simp : 40 = _) hlen' (Vector.replicate 2 0)
    rw [make_eq hcapacity hlen, ← hread, Packet.readByteArray,
      if_neg (by rw [Packet.writtenByte_front]; omega)]
  rw [hfield, udpSum, ne_eq, complement_eq_zero_iff, UInt32.toNat_ofNat']

theorem udp_checksum_present :
    load ((sample 0 0).make samplePacket default).1.inMemory 40 2 ≠ Vector.replicate 2 0 :=
  (udp_checksum_ne_zero_iff (sample 0 0) samplePacket default (by decide) (by decide)).mpr
    (by decide)

/-- For one value in 65536 of these bytes the datagram goes out without a checksum. -/
theorem udp_checksum_missing :
    (((sample 0xE9 0x50).make samplePacket default).2 = 44) ∧
      load ((sample 0xE9 0x50).make samplePacket default).1.inMemory 40 2 =
        Vector.replicate 2 0 := by
  decide +kernel

end Datagram

end UDP

end GatewaySocket
