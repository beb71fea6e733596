import GatewaySocket.Gateway.Outside

/-!
# The length check of the IPv4 branches

Both loops compare the length of an IPv4 frame with the sum of
`Ethernet::getNextOffset` and `IP::getNextOffset`. The second of the two already
counts from the start of the frame, so the sum counts the Ethernet header twice,
and a complete frame with fewer than fourteen bytes behind its IP header is
dropped as too short.
-/

namespace GatewaySocket

open ByteMemory

/-- The buffer once a frame of length `frame.length` was read into it. -/
def Packet.received (p : Packet) (frame : Frame) : Packet :=
  { p with inMemory := Device.readPacket p.inMemory myPacketLen frame }.setLength frame.length

theorem Packet.received_holds (p : Packet) {f : Frame} (h : f.length ≤ 1514) :
    (p.received f).Holds f := Packet.holds_readPacket h

namespace Gateway

/-- The test of `readLen` in front of the comment "too short ip packet". -/
def TooShort (packet : Packet) (readLen : ℤ) : Prop :=
  readLen < ((Ethernet.getNextOffset 0 +
    IP.getNextOffset packet (Ethernet.getNextOffset 0) : ℕ) : ℤ)

instance (packet : Packet) (readLen : ℤ) : Decidable (TooShort packet readLen) :=
  inferInstanceAs (Decidable (_ < _))

/-- The inside loop ends the round of the frame at the length check. -/
def InsideTooShort (inPacket : Packet) (frame : Frame) : Prop :=
  ¬(frame.length : ℤ) > myPacketLen ∧ ¬(frame.length : ℤ) < (etherHeaderLen : ℤ) ∧
    Ethernet.getProtocol (inPacket.received frame) 0 ≠ ethertypeArp ∧
    Ethernet.getProtocol (inPacket.received frame) 0 = ethertypeIp ∧
    TooShort (inPacket.received frame) frame.length

/-- The outside loop ends the round of the frame at the length check. -/
def OutsideTooShort (outPacket : Packet) (frame : Frame) : Prop :=
  ¬(frame.length : ℤ) > myPacketLen ∧
    Ethernet.getProtocol (outPacket.received frame) 0 ≠ ethertypeArp ∧
    Ethernet.getProtocol (outPacket.received frame) 0 = ethertypeIp ∧
    TooShort (outPacket.received frame) frame.length

instance (p : Packet) (f : Frame) : Decidable (InsideTooShort p f) :=
  inferInstanceAs (Decidable (_ ∧ _))

instance (p : Packet) (f : Frame) : Decidable (OutsideTooShort p f) :=
  inferInstanceAs (Decidable (_ ∧ _))

variable {g : Gateway} {p : Packet} {f : Frame} {u : Indeterminate} {t : UInt64} {n m : ℤ}

/-! ## Frames that are neither oversized nor cut off in their header -/

theorem not_oversized (hfits : f.length ≤ 1514) : ¬(f.length : ℤ) > myPacketLen := by
  simp only [myPacketLen]
  omega

theorem not_headerless (hheader : 14 ≤ f.length) : ¬(f.length : ℤ) < (etherHeaderLen : ℤ) := by
  simp only [etherHeaderLen]
  omega

/-! ## The check in the two branches -/

theorem insideIP_of_tooShort (h : TooShort p n) : g.insideIP p n u = .drop := if_pos h

/-- Past the check the length is not looked at again. -/
theorem insideIP_of_not_tooShort (hn : ¬TooShort p n) (hm : ¬TooShort p m) :
    g.insideIP p n u = g.insideIP p m u :=
  (if_neg hn).trans (if_neg hm).symm

theorem outsideIP_of_tooShort (h : TooShort p n) : g.outsideIP p n u = (g, none) := if_pos h

theorem outsideIP_of_not_tooShort (hn : ¬TooShort p n) (hm : ¬TooShort p m) :
    g.outsideIP p n u = g.outsideIP p m u :=
  (if_neg hn).trans (if_neg hm).symm

/-- A frame that the check stops goes nowhere. -/
theorem inside_of_tooShort (h : InsideTooShort p f) :
    g.inside t p f u = some { gateway := g, packet := p.received f } := by
  obtain ⟨hlong, hshort, harp, hip, htoo⟩ := h
  have hverdict : g.insideVerdict (p.received f) f.length u = .drop := by
    simp only [insideVerdict, if_neg harp, if_pos hip, insideIP_of_tooShort htoo]
  simp only [Packet.received] at hverdict
  simp only [inside, if_neg hlong, if_neg hshort, hverdict, Packet.received]

theorem outside_of_tooShort (h : OutsideTooShort p f) :
    g.outside p f u = { gateway := g, packet := p.received f } := by
  obtain ⟨hlong, harp, hip, htoo⟩ := h
  have hverdict : g.outsideVerdict (p.received f) f.length u = (g, none) := by
    simp only [outsideVerdict, if_neg harp, if_pos hip, outsideIP_of_tooShort htoo]
  simp only [Packet.received] at hverdict
  simp only [outside, if_neg hlong, hverdict, Packet.received]

/-! ## Where the check stops a frame -/

/-- The check asks for the Ethernet header once more than the frame has it. -/
theorem tooShort_iff (hp : p.Holds f) : TooShort p f.length ↔ f.length < 28 + f.ipHeaderLength := by
  have hge := f.ipHeaderLength_ge
  simp only [TooShort, Ethernet.getNextOffset, etherHeaderLen, Nat.zero_add]
  by_cases hfirst : 15 ≤ f.length
  · rw [hp.ipNextOffset hfirst]
    omega
  · rw [hp.ipNextOffset_of_short (by omega)]
    omega

theorem insideTooShort_iff (p : Packet) (hip : f.IsIPv4) :
    InsideTooShort p f ↔ f.length < 28 + f.ipHeaderLength := by
  have hle : f.ipHeaderLength ≤ 60 := f.ipHeaderLength_le
  by_cases hlong : f.length ≤ 1514
  · have hp := p.received_holds hlong
    have hheader := hip.1
    simp only [InsideTooShort, hp.getProtocol hip.1, hip.2, tooShort_iff hp]
    simp only [myPacketLen, etherHeaderLen]
    constructor
    · exact fun h => h.2.2.2.2
    · exact fun h => ⟨by omega, by omega, by decide, trivial, h⟩
  · constructor
    · intro h
      have := h.1
      simp only [myPacketLen] at this
      omega
    · omega

theorem outsideTooShort_iff (p : Packet) (hip : f.IsIPv4) :
    OutsideTooShort p f ↔ f.length < 28 + f.ipHeaderLength := by
  rw [← insideTooShort_iff p hip, InsideTooShort, OutsideTooShort]
  simp only [not_headerless hip.1, not_false_eq_true, true_and]

/-- A frame that the check lets pass is dealt with as at any other length that passes. -/
theorem insideVerdict_of_not_tooShort (hip : f.IsIPv4) (hfits : f.length ≤ 1514)
    (h : ¬InsideTooShort p f) (hn : ¬TooShort (p.received f) n) :
    g.insideVerdict (p.received f) f.length u = g.insideIP (p.received f) n u := by
  have hp := p.received_holds hfits
  have hlen : ¬TooShort (p.received f) f.length := by
    rwa [tooShort_iff hp, ← insideTooShort_iff p hip]
  rw [insideVerdict, hp.getProtocol hip.1, hip.2, if_neg (by decide), if_pos rfl]
  exact insideIP_of_not_tooShort hlen hn

theorem outsideVerdict_of_not_tooShort (hip : f.IsIPv4) (hfits : f.length ≤ 1514)
    (h : ¬OutsideTooShort p f) (hn : ¬TooShort (p.received f) n) :
    g.outsideVerdict (p.received f) f.length u = g.outsideIP (p.received f) n u := by
  have hp := p.received_holds hfits
  have hlen : ¬TooShort (p.received f) f.length := by
    rwa [tooShort_iff hp, ← outsideTooShort_iff p hip]
  rw [outsideVerdict, hp.getProtocol hip.1, hip.2, if_neg (by decide), if_pos rfl]
  exact outsideIP_of_not_tooShort hlen hn

/-- **The length check.** In either direction the check stops just the frames that
end before their IP header does if the frame at hand does so, or reaches fourteen
bytes further. A frame that it stops ends its round there, and with one that it
does not the branch goes on whatever the length. -/
theorem length_check_iff (p : Packet) (hip : f.IsIPv4) :
    ((InsideTooShort p f ↔ f.length < 14 + f.ipHeaderLength) ↔
      f.length < 14 + f.ipHeaderLength ∨ 28 + f.ipHeaderLength ≤ f.length) ∧
    ((OutsideTooShort p f ↔ f.length < 14 + f.ipHeaderLength) ↔
      f.length < 14 + f.ipHeaderLength ∨ 28 + f.ipHeaderLength ≤ f.length) ∧
    (∀ (g : Gateway) (u : Indeterminate),
      (InsideTooShort p f → ∀ t,
        g.inside t p f u = some { gateway := g, packet := p.received f }) ∧
      (OutsideTooShort p f → g.outside p f u = { gateway := g, packet := p.received f }) ∧
      (f.length ≤ 1514 → ∀ n, ¬TooShort (p.received f) n →
        (¬InsideTooShort p f →
          g.insideVerdict (p.received f) f.length u = g.insideIP (p.received f) n u) ∧
        (¬OutsideTooShort p f →
          g.outsideVerdict (p.received f) f.length u = g.outsideIP (p.received f) n u))) := by
  refine ⟨?_, ?_, fun g u => ⟨fun h t => inside_of_tooShort h, outside_of_tooShort,
    fun hfits n hn => ⟨fun h => insideVerdict_of_not_tooShort hip hfits h hn,
      fun h => outsideVerdict_of_not_tooShort hip hfits h hn⟩⟩⟩
  · rw [insideTooShort_iff p hip]
    omega
  · rw [outsideTooShort_iff p hip]
    omega

/-- A UDP datagram of the user of `sample` whose IP header is of full length, with
the given data. -/
def sampleOptions (data : List UInt8) : Frame :=
  [2, 0, 0, 0, 0, 1] ++ sampleUserMAC.toList ++ [8, 0] ++
    [0x4F, 0, 0, 68, 0, 0, 0, 0, 64, 17, 0, 0] ++ sampleIP.toList ++ [10, 0, 0, 1] ++
    List.replicate 40 1 ++ [4, 0, 4, 0, 0, 8, 0, 0] ++ data

/-- A datagram with data enough is not stopped by the check, as it should be. -/
theorem length_check_data :
    InsideTooShort sampleBuffer (sampleOptions [1, 2, 3, 4, 5, 6]) ↔
      (sampleOptions [1, 2, 3, 4, 5, 6]).length <
        14 + (sampleOptions [1, 2, 3, 4, 5, 6]).ipHeaderLength :=
  (length_check_iff sampleBuffer (by decide)).1.mpr (by decide)

/-- Both loops drop the datagram without data, complete as it is; six bytes of data
get it through. -/
theorem complete_frame_too_short :
    (sampleOptions []).IsIPv4 ∧
      14 + (sampleOptions []).ipHeaderLength ≤ (sampleOptions []).length ∧
      ¬(InsideTooShort sampleBuffer (sampleOptions []) ↔
        (sampleOptions []).length < 14 + (sampleOptions []).ipHeaderLength) ∧
      ¬(OutsideTooShort sampleBuffer (sampleOptions []) ↔
        (sampleOptions []).length < 14 + (sampleOptions []).ipHeaderLength) ∧
      (sample.inside 1 sampleBuffer (sampleOptions []) default).map (fun e => e.toOutside) =
        some [] ∧
      (sample.inside 1 sampleBuffer (sampleOptions [1, 2, 3, 4, 5, 6]) default).map
        (fun e => e.toOutside.length) = some 1 := by
  decide +kernel

end Gateway

end GatewaySocket
