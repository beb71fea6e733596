import GatewaySocket.Gateway.Inside
import GatewaySocket.Packet.TooBig

/-!
# Oversized frames

A frame longer than the buffer is cut off at its length. Both loops answer it on
the device it came from and do nothing else with it.
-/

namespace GatewaySocket

open ByteMemory

/-- The part of a frame that fits the buffer. -/
def Frame.kept (f : Frame) : Frame := f.take myPacketLen

theorem Frame.length_kept {f : Frame} (h : 1514 < f.length) : f.kept.length = 1514 := by
  rw [kept, List.length_take]
  exact Nat.min_eq_left (Nat.le_of_lt h)

/-- The buffer once an oversized frame was read into it. -/
def Packet.receivedKept (p : Packet) (frame : Frame) : Packet :=
  { p with inMemory := Device.readPacket p.inMemory myPacketLen frame }.setLength myPacketLen

theorem Packet.receivedKept_holds (p : Packet) {f : Frame} (h : 1514 < f.length) :
    (p.receivedKept f).Holds f.kept := by
  refine ⟨congrArg Int.ofNat (Frame.length_kept h).symm, fun i hi => ?_⟩
  exact store_of_inside _ (Nat.zero_le i) (by rw [Nat.zero_add]; exact hi)

namespace Gateway

variable {g : Gateway} {t : UInt64} {p : Packet} {f : Frame} {u : Indeterminate}

theorem icmpMtu_receivedKept (h : 1514 < f.length) (mtu : UInt16) :
    icmpMtu (p.receivedKept f) mtu u =
      if f.kept.IsIPv4 ∧ f.kept.ipHeaderLength = 20 then [TooBig.frame f.kept mtu] else [] :=
  TooBig.icmpMtu_eq (p.receivedKept_holds h) (by rw [Frame.length_kept h]; decide) mtu u

theorem inside_oversized (h : 1514 < f.length) : g.inside t p f u =
    some { gateway := g, packet := p.receivedKept f, toInside :=
      if f.kept.IsIPv4 ∧ f.kept.ipHeaderLength = 20 then [TooBig.frame f.kept myMtu] else [] } := by
  have hlong : (f.length : ℤ) > myPacketLen := Int.ofNat_lt.mpr h
  simp only [inside, if_pos hlong, ← icmpMtu_receivedKept (p := p) (u := u) h]
  rfl

theorem outside_oversized (h : 1514 < f.length) : g.outside p f u =
    { gateway := g, packet := p.receivedKept f, toOutside :=
      if f.kept.IsIPv4 ∧ f.kept.ipHeaderLength = 20 then [TooBig.frame f.kept myMtu] else [] } := by
  have hlong : (f.length : ℤ) > myPacketLen := Int.ofNat_lt.mpr h
  simp only [outside, if_pos hlong, ← icmpMtu_receivedKept (p := p) (u := u) h]
  rfl

/-- **Oversized frames are answered.** If the kept part is an IPv4 packet with a
header of 20 bytes, `icmp_mtu` writes one frame, else none; the frame is a
function of the kept part and the MTU and says what `Answers` lists. Each loop
writes it to the device the frame came from, and that is all it does. -/
theorem oversized_answered (g : Gateway) (t : UInt64) (p : Packet) (f : Frame) (u : Indeterminate)
    (mtu : UInt16) (h : 1514 < f.length) :
    (∀ packet u', packet.Holds f.kept → icmpMtu packet mtu u' =
      if f.kept.IsIPv4 ∧ f.kept.ipHeaderLength = 20 then [TooBig.frame f.kept mtu] else []) ∧
    TooBig.Answers f.kept mtu (TooBig.frame f.kept mtu) ∧
    g.inside t p f u = some { gateway := g, packet := p.receivedKept f, toInside :=
      if f.kept.IsIPv4 ∧ f.kept.ipHeaderLength = 20 then [TooBig.frame f.kept myMtu] else [] } ∧
    g.outside p f u = { gateway := g, packet := p.receivedKept f, toOutside :=
      if f.kept.IsIPv4 ∧ f.kept.ipHeaderLength = 20 then [TooBig.frame f.kept myMtu] else [] } := by
  have hlen : 42 ≤ f.kept.length := by
    rw [Frame.length_kept h]
    decide
  exact ⟨fun _ u' hp => TooBig.icmpMtu_eq hp hlen mtu u', TooBig.answers_frame hlen mtu,
    inside_oversized h, outside_oversized h⟩

/-- A datagram of the user of `sample` that is too long by a byte. -/
def sampleOversized : Frame :=
  [2, 0, 0, 0, 0, 1] ++ sampleUserMAC.toList ++ [8, 0] ++
    [0x45, 0, 5, 221, 0, 0, 0, 0, 64, 17, 0, 0] ++ sampleIP.toList ++ [10, 0, 0, 1] ++
    List.replicate 1481 0

theorem oversized_answered_sample : TooBig.Answers sampleOversized.kept myMtu
    (TooBig.frame sampleOversized.kept myMtu) :=
  (oversized_answered sample 1 sampleBuffer sampleOversized default myMtu
    (by decide +kernel)).2.1

end Gateway

end GatewaySocket
