import GatewaySocket.Packet.Datagram

/-!
# The answer to a frame that is too big

`Gateway::icmp_mtu` answers a frame that was cut off at the size of the buffer.
It puts an ICMP message together from the kept part: one read takes the IP header
and the eight bytes after it, and the headers around them go back the way the
frame came.
-/

namespace GatewaySocket

open ByteMemory OnesComplement

namespace IcmpTooBig

/-- The message with its checksum, taken while the checksum is zero. -/
def withSum (r : IcmpTooBig) : IcmpTooBig :=
  { r with checksum := oneCompl { r with checksum := Vector.replicate 2 0 }.bytes }

theorem bytes_eq (r : IcmpTooBig) :
    r.bytes = [r.type, r.code] ++ r.checksum.toList ++ ([0, 0] ++ r.mtu.toList ++ r.quoted.toList) := by
  simp [bytes]

theorem sum_words_withSum (r : IcmpTooBig) : sum (words r.withSum.bytes) = 65535 := by
  rw [bytes_eq]
  have hzero : ({ r with checksum := Vector.replicate 2 0 } : IcmpTooBig).bytes =
      [r.type, r.code] ++ [0, 0] ++ ([0, 0] ++ r.mtu.toList ++ r.quoted.toList) := by
    rw [bytes_eq]
    rfl
  have hsum := sum_words_oneCompl [r.type, r.code]
    ([0, 0] ++ r.mtu.toList ++ r.quoted.toList) (by simp) (by simp) (by simp)
  rwa [← hzero] at hsum

end IcmpTooBig

namespace TooBig

/-- The message about the frame `f`. -/
def response (f : Frame) (mtu : UInt16) : IcmpTooBig :=
  IcmpTooBig.withSum {
    type := 3
    code := 4
    checksum := Vector.replicate 2 0
    mtu := htons mtu
    quoted := f.field 14 28 }

def etherHeader (f : Frame) : List UInt8 :=
  f.etherSource.toList ++ f.etherDestination.toList ++ (htons ethertypeIp).toList

def ipHeader (f : Frame) : IpHdr :=
  IpHdr.withSum {
    ipHl := 5
    ipV := 4
    ipTos := 0
    ipLen := htons (UInt16.ofNat (IP.ipHeaderLen + icmpTooBigLen))
    ipId := Vector.replicate 2 0
    ipOff := htons ipDf
    ipTtl := 64
    ipP := ipprotoIcmp
    ipSum := Vector.replicate 2 0
    ipSrc := f.ipDestination
    ipDst := f.ipSource }

/-- The whole answer. -/
def frame (f : Frame) (mtu : UInt16) : Frame :=
  etherHeader f ++ (ipHeader f).bytes ++ (response f mtu).bytes

@[simp] theorem length_etherHeader (f : Frame) : (etherHeader f).length = 14 := by
  simp [etherHeader]

@[simp] theorem length_frame (f : Frame) (mtu : UInt16) : (frame f mtu).length = 70 := by
  simp [frame]

/-- The packet for the answer, filled from front to back. -/
theorem front_frame {p : Packet} (hlen : p.writtenByte = 70) (f : Frame) (mtu : UInt16) :
    ((Ethernet.setProtocol (Ethernet.setDestination (Ethernet.setSource p 0 f.etherDestination) 0
      f.etherSource) 0 ethertypeIp).writeByteArray 14 (ipHeader f).bytes).writeByteArray 34
      (response f mtu).bytes = p.front (frame f mtu) := by
  have haddr : Ethernet.setDestination (Ethernet.setSource p 0 f.etherDestination) 0 f.etherSource =
      p.front (f.etherSource.toList ++ f.etherDestination.toList) :=
    Packet.writeByteArray_zero (by simp) (by simp; omega)
  rw [haddr, Ethernet.setProtocol, Packet.front_append (by simp [ethAlen]) (by simp; omega),
    ← etherHeader, Packet.front_append (by simp) (by simp; omega),
    Packet.front_append (by simp) (by simp; omega), frame]

/-- **What `icmp_mtu` writes.** -/
theorem icmpMtu_eq {packet : Packet} {f : Frame} (h : packet.Holds f) (hlen : 42 ≤ f.length)
    (mtu : UInt16) (u : Indeterminate) :
    icmpMtu packet mtu u =
      if f.IsIPv4 ∧ f.ipHeaderLength = 20 then [frame f mtu] else [] := by
  have hlong : ¬packet.getLength < ((etherHeaderLen + IP.ipHeaderLen + 8 : ℕ) : ℤ) := by
    rw [Packet.getLength, h.1]
    exact Int.not_lt.mpr (Int.ofNat_le.mpr hlen)
  have hoffset : IP.getNextOffset packet etherHeaderLen - etherHeaderLen = f.ipHeaderLength := by
    rw [h.ipNextOffset (by omega), Nat.add_sub_cancel_left]
  rw [icmpMtu, if_neg hlong, h.getProtocol (by omega), hoffset]
  by_cases hproto : f.etherType = ethertypeIp
  · by_cases hheader : f.ipHeaderLength = 20
    · have hread : packet.readByteArray etherHeaderLen (Vector.replicate 28 0) = f.field 14 28 :=
        h.readByteArray _ hlen
      rw [if_neg (not_not_intro hproto), if_neg (not_not_intro hheader),
        if_pos ⟨⟨by omega, hproto⟩, hheader⟩, h.etherDestination (by omega),
        h.etherSource (by omega), h.ipSource (by omega), h.ipDestination (by omega), hread]
      have hholds : (((Packet.new 70 (u.heap 0)).setLength 70).front (frame f mtu)).Holds
          (frame f mtu) := Packet.front_holds (by rw [length_frame]; rfl)
      rw [← front_frame rfl] at hholds
      exact hholds.writePacket
    · rw [if_neg (not_not_intro hproto), if_pos hheader, if_neg (fun hip => hheader hip.2)]
  · rw [if_pos hproto, if_neg (fun hip => hproto hip.1.2)]

/-! ## What the answer says -/

/-- The answer to the kept part `f` of a frame, field by field. -/
structure Answers (f : Frame) (mtu : UInt16) (out : Frame) : Prop where
  length : out.length = 70
  etherDestination : out.etherDestination = f.etherSource
  etherSource : out.etherSource = f.etherDestination
  etherType : out.etherType = ethertypeIp
  ipHeaderLength : out.ipHeaderLength = 20
  ipLength : (ntohs (out.field 16 2)).toNat = 56
  ipProtocol : out.ipProtocol = ipprotoIcmp
  ipSource : out.ipSource = f.ipDestination
  ipDestination : out.ipDestination = f.ipSource
  ipChecksum : sum (words ((out.drop 14).take 20)) = 65535
  type : out.getD 34 0 = 3
  code : out.getD 35 0 = 4
  nextHopMtu : ntohs (out.field 40 2) = mtu
  quoted : out.drop 42 = (f.drop 14).take 28
  icmpChecksum : sum (words (out.drop 34)) = 65535

theorem toList_field {f : Frame} {pos n : ℕ} (h : pos + n ≤ f.length) :
    (f.field pos n).toList = (f.drop pos).take n := by
  apply List.ext_getElem
  · simp
    omega
  · intro i hi _
    rw [Vector.length_toList] at hi
    simp [Frame.field, ofList, List.getElem?_eq_getElem (show pos + i < f.length by omega)]

/-- The answer with the parts of its IP header. -/
theorem frame_eq_ip (f : Frame) (mtu : UInt16) : frame f mtu = etherHeader f ++
    (ipHeader f).beforeSum ++ (ipHeader f).ipSum.toList ++ f.ipDestination.toList ++
    f.ipSource.toList ++ (response f mtu).bytes := by
  rw [frame, IpHdr.bytes_eq]
  simp only [List.append_assoc]
  rfl

/-- The answer with the parts of the message. -/
theorem frame_eq_icmp (f : Frame) (mtu : UInt16) : frame f mtu = etherHeader f ++
    (ipHeader f).bytes ++ [3, 4] ++ (response f mtu).checksum.toList ++ [0, 0] ++
    (htons mtu).toList ++ (f.field 14 28).toList := by
  rw [frame, IcmpTooBig.bytes_eq]
  simp only [List.append_assoc]
  rfl

/-- The answer around the length field of the IP header. -/
theorem frame_eq_ipLen (f : Frame) (mtu : UInt16) : ∃ rest, frame f mtu = etherHeader f ++
    [(ipHeader f).ipV <<< 4 ||| (ipHeader f).ipHl, (ipHeader f).ipTos] ++
    (ipHeader f).ipLen.toList ++ rest := by
  rw [frame, IpHdr.bytes_eq_ipLen]
  exact ⟨_, by simp only [List.append_assoc]; rfl⟩

theorem getD_frame_ip (f : Frame) (mtu : UInt16) {i : ℕ} (hi : i < 20) :
    (frame f mtu).getD (14 + i) 0 = (ipHeader f).bytes.getD i 0 := by
  rw [frame, List.getD_append _ _ _ _ (by simp; omega), List.getD_append_right _ _ _ _ (by simp),
    length_etherHeader, Nat.add_sub_cancel_left]

theorem answers_frame {f : Frame} (hlen : 42 ≤ f.length) (mtu : UInt16) :
    Answers f mtu (frame f mtu) := by
  have hether : frame f mtu = f.etherSource.toList ++ f.etherDestination.toList ++
      (htons ethertypeIp).toList ++ ((ipHeader f).bytes ++ (response f mtu).bytes) := by
    rw [frame, etherHeader]
    simp only [List.append_assoc]
  constructor
  case length => exact length_frame f mtu
  case etherDestination =>
    rw [← List.nil_append f.etherSource.toList, List.append_assoc, List.append_assoc] at hether
    exact Frame.field_append _ _ _ hether rfl
  case etherSource =>
    rw [List.append_assoc (f.etherSource.toList ++ f.etherDestination.toList)] at hether
    exact Frame.field_append _ _ _ hether (by simp)
  case etherType =>
    rw [Frame.etherType, Frame.field_append _ _ _ hether (by simp), ntohs_htons]
  case ipHeaderLength =>
    have hfirst : (frame f mtu).getD (14 + 0) 0 = 0x45 := by
      have hbyte : (4 : UInt8) <<< 4 ||| 5 = 0x45 := by decide
      rw [getD_frame_ip _ _ (by decide)]
      exact hbyte
    rw [Frame.ipHeaderLength, show 14 = 14 + 0 from rfl, hfirst]
    rfl
  case ipLength =>
    obtain ⟨rest, hsplit⟩ := frame_eq_ipLen f mtu
    have hipLen : (ipHeader f).ipLen = htons (UInt16.ofNat (IP.ipHeaderLen + icmpTooBigLen)) := rfl
    rw [Frame.field_append _ _ _ hsplit (by simp), hipLen, ntohs_htons]
    rfl
  case ipProtocol =>
    have hbyte : (frame f mtu).getD (14 + 9) 0 = (ipHeader f).ipP := by
      rw [getD_frame_ip _ _ (by decide), IpHdr.getD_bytes_nine]
    exact hbyte
  case ipSource =>
    exact Frame.field_append _ _ _
      ((frame_eq_ip f mtu).trans (List.append_assoc _ f.ipSource.toList _)) (by simp)
  case ipDestination => exact Frame.field_append _ _ _ (frame_eq_ip f mtu) (by simp)
  case ipChecksum =>
    have hip : ((frame f mtu).drop 14).take 20 = (ipHeader f).bytes := by
      rw [frame, List.append_assoc, List.drop_left' (by simp), List.take_left' (by simp)]
    rw [hip]
    exact IpHdr.sum_words_withSum _
  case type =>
    rw [frame, List.getD_append_right _ _ _ _ (by simp)]
    simp [IcmpTooBig.bytes]
    rfl
  case code =>
    rw [frame, List.getD_append_right _ _ _ _ (by simp)]
    simp [IcmpTooBig.bytes]
    rfl
  case nextHopMtu =>
    rw [Frame.field_append _ _ _ (frame_eq_icmp f mtu) (by simp), ntohs_htons]
  case quoted =>
    rw [frame_eq_icmp, List.drop_left' (by simp), toList_field hlen]
  case icmpChecksum =>
    have hicmp : (frame f mtu).drop 34 = (response f mtu).bytes := by
      rw [frame, List.drop_left' (by simp)]
    rw [hicmp]
    exact IcmpTooBig.sum_words_withSum _

end TooBig

end GatewaySocket
