import GatewaySocket.Memory.OnesComplement
import GatewaySocket.Packet.Build
import Mathlib.Tactic.IntervalCases

/-!
# The checksum loops

The three loops of the source add up words in 32 bits, fold the carries in twice
and complement the result. Two folds bring every carry around, whatever the sum,
so a checksum is the complement of the one's-complement sum as long as the 32
bits do not overflow.
-/

namespace GatewaySocket

open ByteMemory OnesComplement

theorem toNat_ntohs (hi lo : UInt8) :
    (ntohs #v[hi, lo]).toNat = hi.toNat * 256 + lo.toNat := by
  have hhi : hi.toNat < 256 := hi.toNat_lt
  have hlo : lo.toNat < 256 := lo.toNat_lt
  have hnum : ntohs #v[hi, lo] = UInt16.ofNat (hi.toNat * 256 + lo.toNat) := rfl
  rw [hnum, UInt16.toNat_ofNat', Nat.mod_eq_of_lt (by omega)]

theorem toUInt32_ntohs (hi lo : UInt8) :
    (ntohs #v[hi, lo]).toUInt32 = UInt32.ofNat (hi.toNat * 256 + lo.toNat) := by
  apply UInt32.toNat_inj.mp
  have hhi : hi.toNat < 256 := hi.toNat_lt
  have hlo : lo.toNat < 256 := lo.toNat_lt
  rw [UInt16.toNat_toUInt32, toNat_ntohs, UInt32.toNat_ofNat', Nat.mod_eq_of_lt (by omega)]

/-- The loop over a block of even size adds up its words. -/
theorem sumWords_eq {bytes : List UInt8} (heven : bytes.length % 2 = 0) (s : UInt32) :
    sumWords bytes s = s + UInt32.ofNat (words bytes).sum := by
  induction bytes using words.induct generalizing s with
  | case1 hi lo rest ih =>
    rw [List.length_cons, List.length_cons] at heven
    rw [sumWords, ih (by omega), toUInt32_ntohs, words, List.sum_cons,
      UInt32.ofNat_add _ (words rest).sum, ← UInt32.add_assoc]
  | case2 hi => simp at heven
  | case3 => simp [sumWords, words]

/-- The second fold, after which no carry is left. -/
theorem fold_twice {t : ℕ} (hpos : 0 < t) (hle : t ≤ 131070) :
    (t + t / 65536) % 65536 = (t - 1) % 65535 + 1 := by
  by_cases hcarry : t < 65536
  · omega
  · have hone : t / 65536 = 1 := by omega
    omega

/-- Two folds bring every carry around. -/
theorem toNat_foldCarries (s : UInt32) : (foldCarries s).toNat = reduce s.toNat := by
  have hs : s.toNat < 4294967296 := s.toNat_lt
  have hhigh : ∀ x : UInt32, (x >>> 16).toNat = x.toNat / 65536 := by
    intro x
    rw [UInt32.toNat_shiftRight, Nat.shiftRight_eq_div_pow]
    rfl
  have hlow : (s &&& 0xFFFF).toNat = s.toNat % 65536 := by
    rw [UInt32.toNat_and]
    exact Nat.and_two_pow_sub_one_eq_mod _ 16
  have honce : ((s >>> 16) + (s &&& 0xFFFF)).toNat = s.toNat / 65536 + s.toNat % 65536 := by
    rw [UInt32.toNat_add, hhigh, hlow, Nat.mod_eq_of_lt (by omega)]
  have hfold : (foldCarries s).toNat =
      (s.toNat / 65536 + s.toNat % 65536 + (s.toNat / 65536 + s.toNat % 65536) / 65536) % 65536 := by
    rw [foldCarries, UInt32.toNat_toUInt16, UInt32.toNat_add, hhigh, honce,
      Nat.mod_eq_of_lt (by omega : _ < 2 ^ 32)]
  rw [hfold]
  by_cases hzero : s.toNat = 0
  · simp [reduce, hzero]
  · have hmod : (s.toNat - 1) % 65535 = (s.toNat / 65536 + s.toNat % 65536 - 1) % 65535 := by omega
    rw [reduce, if_neg hzero, hmod, fold_twice (by omega) (by omega)]

/-- A checksum is the complement of the sum. -/
theorem toNat_ntohs_complement (s : UInt32) :
    (ntohs (complement s)).toNat = 65535 - reduce s.toNat := by
  rw [complement, ntohs_htons, UInt16.toNat_not, toNat_foldCarries]
  rfl

/-- **A checksum verifies.** The complement of a sum that did not overflow, stored
in the word that was zero, makes the sum the word with all bits set. -/
theorem sum_words_complement_toList {xs : List UInt8} (ys : List UInt8) {s : UInt32}
    (heven : xs.length % 2 = 0) (hs : s.toNat = (words (xs ++ [0, 0] ++ ys)).sum) :
    sum (words (xs ++ (complement s).toList ++ ys)) = 65535 := by
  obtain ⟨hi, lo, hvec⟩ : ∃ hi lo, complement s = #v[hi, lo] := by
    refine ⟨(complement s)[0], (complement s)[1], Vector.ext fun i hi => ?_⟩
    interval_cases i <;> rfl
  have hnum := toNat_ntohs_complement s
  rw [hvec, toNat_ntohs, hs, ← sum_words] at hnum
  rw [hvec]
  exact sum_words_complement ys heven hnum

/-- The loop over a whole block does not overflow if the block is shorter than
131072 bytes. -/
theorem toNat_sumWords {bytes : List UInt8} (heven : bytes.length % 2 = 0)
    (hlen : bytes.length < 131072) : (sumWords bytes 0).toNat = (words bytes).sum := by
  have hle := sum_words_le bytes
  rw [sumWords_eq heven, UInt32.zero_add, UInt32.toNat_ofNat', Nat.mod_eq_of_lt (by omega)]

theorem sum_words_oneCompl (xs ys : List UInt8) (hxs : xs.length % 2 = 0)
    (hys : ys.length % 2 = 0) (hlen : xs.length + 2 + ys.length < 131072) :
    sum (words (xs ++ (oneCompl (xs ++ [0, 0] ++ ys)).toList ++ ys)) = 65535 :=
  sum_words_complement_toList ys hxs
    (toNat_sumWords (by simp; omega) (by simp; omega))

namespace IpHdr

/-- The bytes in front of the checksum. -/
def beforeSum (h : IpHdr) : List UInt8 :=
  [h.ipV <<< 4 ||| h.ipHl, h.ipTos] ++ h.ipLen.toList ++ h.ipId.toList ++ h.ipOff.toList ++
    [h.ipTtl, h.ipP]

/-- The header with its checksum, taken while the checksum is zero. -/
def withSum (h : IpHdr) : IpHdr :=
  { h with ipSum := oneCompl { h with ipSum := Vector.replicate 2 0 }.bytes }

@[simp] theorem length_beforeSum (h : IpHdr) : h.beforeSum.length = 10 := by
  simp [beforeSum]

theorem bytes_eq (h : IpHdr) :
    h.bytes = h.beforeSum ++ h.ipSum.toList ++ (h.ipSrc.toList ++ h.ipDst.toList) := by
  simp [bytes, beforeSum]

/-- The header around its length field. -/
theorem bytes_eq_ipLen (h : IpHdr) : h.bytes =
    [h.ipV <<< 4 ||| h.ipHl, h.ipTos] ++ h.ipLen.toList ++ (h.ipId.toList ++ h.ipOff.toList ++
      [h.ipTtl, h.ipP] ++ h.ipSum.toList ++ h.ipSrc.toList ++ h.ipDst.toList) := by
  simp [bytes]

theorem sum_words_withSum (h : IpHdr) : sum (words h.withSum.bytes) = 65535 := by
  rw [bytes_eq]
  have hzero : ({ h with ipSum := Vector.replicate 2 0 } : IpHdr).bytes =
      h.beforeSum ++ [0, 0] ++ (h.ipSrc.toList ++ h.ipDst.toList) := by
    rw [bytes_eq]
    rfl
  have hsum := sum_words_oneCompl h.beforeSum (h.ipSrc.toList ++ h.ipDst.toList)
    (by simp) (by simp) (by simp)
  rwa [← hzero] at hsum

end IpHdr

/-- The loop over the rest of a packet adds up the words of the bytes it finds
there, if they all lie within the packet. -/
theorem sumPacket_eq {packet : Packet} {bytes : List UInt8} {current : ℕ}
    (hlen : ((current + bytes.length : ℕ) : ℤ) ≤ packet.writtenByte)
    (hbytes : ∀ i, i < bytes.length → packet.inMemory (current + i) = bytes.getD i 0)
    (temp : UInt16) (s : UInt32) :
    UDP.sumPacket packet current bytes.length temp s = s + UInt32.ofNat (words bytes).sum := by
  induction bytes using words.induct generalizing current temp s with
  | case1 hi lo rest ih =>
    rw [List.length_cons, List.length_cons] at hlen hbytes
    have hread : packet.readByteArray current (hostHalf temp) = #v[hi, lo] := by
      rw [Packet.readByteArray, if_neg (by omega)]
      have hhi : packet.inMemory (current + 0) = hi := hbytes 0 (by omega)
      have hlo : packet.inMemory (current + 1) = lo := hbytes 1 (by omega)
      rw [← hhi, ← hlo]
      rfl
    have hrest : ∀ i, i < rest.length → packet.inMemory (current + 2 + i) = rest.getD i 0 := by
      intro i hi
      rw [Nat.add_assoc, Nat.add_comm 2 i]
      exact hbytes (i + 2) (by omega)
    rw [List.length_cons, List.length_cons, UDP.sumPacket, hread, ih (by omega) hrest,
      toUInt32_ntohs, words, List.sum_cons, UInt32.ofNat_add _ (words rest).sum,
      ← UInt32.add_assoc]
  | case2 hi =>
    have hread : packet.readByte current = hi.toNat := by
      have hhi : packet.inMemory (current + 0) = hi := hbytes 0 (by simp)
      rw [List.length_singleton] at hlen
      rw [Packet.readByte, if_neg (by omega), ← hhi]
      rfl
    have hword : (hi.toUInt16 <<< 8).toUInt32 = UInt32.ofNat (hi.toNat * 256) := by
      apply UInt32.toNat_inj.mp
      have hhi : hi.toNat < 256 := hi.toNat_lt
      have hshift : (hi.toUInt16 <<< 8).toNat = hi.toNat * 256 := by
        have height : (8 : UInt16).toNat % 16 = 8 := rfl
        rw [UInt16.toNat_shiftLeft, UInt8.toNat_toUInt16, height, Nat.shiftLeft_eq,
          Nat.mod_eq_of_lt (by omega)]
      rw [UInt16.toNat_toUInt32, hshift, UInt32.toNat_ofNat', Nat.mod_eq_of_lt (by omega)]
    rw [List.length_singleton, UDP.sumPacket, hread, toUint8_toNat, hword, words, List.sum_singleton]
  | case3 => simp [UDP.sumPacket, words]

end GatewaySocket
