import GatewaySocket.Memory.Options
import GatewaySocket.Packet.Build

/-!
# The bytes of a DHCP response

`DHCP::writeResponse` fills a packet front to back. `Cursor.Appended` follows the
bytes it has put behind the offset, and at the end they are `Response.message`,
if all of them lie within the packet: a fixed part and the encoded options. Four
bytes of the fixed part are not written but passed over, and keep what the buffer
held before.
-/

namespace GatewaySocket

open ByteMemory TypeLengthValue

namespace Cursor

/-- Behind the offset `start` of the packet `p` the cursor has put these bytes.
A write that leaves the packet is dropped, so they are all there only if they fit. -/
structure Appended (p : Packet) (start : ℕ) (c : Cursor) (bytes : List UInt8) : Prop where
  currentOffset : c.currentOffset = start + bytes.length
  writtenByte : c.packet.writtenByte = p.writtenByte
  outside : ∀ i, i < start ∨ start + bytes.length ≤ i → c.packet.inMemory i = p.inMemory i
  inside : ((start + bytes.length : ℕ) : ℤ) ≤ p.writtenByte →
    ∀ i, i < bytes.length → c.packet.inMemory (start + i) = bytes.getD i 0

variable {p : Packet} {start : ℕ} {c : Cursor} {bytes : List UInt8}

theorem appended_nil (p : Packet) (start : ℕ) : Appended p start ⟨p, start⟩ [] where
  currentOffset := rfl
  writtenByte := rfl
  outside := fun _ _ => rfl
  inside := by simp

theorem Appended.array (h : Appended p start c bytes) (more : List UInt8) :
    Appended p start (c.array more) (bytes ++ more) where
  currentOffset := by simp [Cursor.array, h.currentOffset, Nat.add_assoc]
  writtenByte := by simp [Cursor.array, h.writtenByte]
  outside := by
    intro i hi
    rw [List.length_append] at hi
    rw [Cursor.array, Packet.inMemory_writeByteArray_of_outside _ (by rw [h.currentOffset]; omega),
      h.outside i (by omega)]
  inside := by
    intro hfits i hi
    rw [List.length_append] at hfits hi
    rw [Cursor.array, Packet.inMemory_writeByteArray
      (by rw [h.currentOffset, h.writtenByte]; omega), h.currentOffset]
    by_cases hlt : i < bytes.length
    · rw [store_of_outside _ (by omega), h.inside (by omega) i hlt, List.getD_append _ _ _ _ hlt]
    · rw [store_of_inside _ (by omega) (by omega), List.getD_append_right _ _ _ _ (by omega)]
      congr 1
      omega

theorem Appended.byte (h : Appended p start c bytes) (data : UInt8) :
    Appended p start (c.byte data) (bytes ++ [data]) := by
  have hbyte : c.byte data = c.array [data] := by
    simp [Cursor.byte, Cursor.array, Packet.writeByte_eq]
  rw [hbyte]
  exact h.array [data]

/-- A loop that zeroes bytes one by one. -/
theorem Appended.foldl_writeByte (h : Appended p start c bytes) (count : ℕ) :
    Appended p start
      ⟨(List.range' c.currentOffset count).foldl (fun p i => p.writeByte i 0) c.packet,
        c.currentOffset + count⟩ (bytes ++ List.replicate count 0) := by
  induction count generalizing c bytes with
  | zero => simpa using h
  | succ count ih =>
      have hnext := ih (h.byte 0)
      rw [List.append_assoc, List.singleton_append, ← List.replicate_succ] at hnext
      simpa [Cursor.byte, List.range'_succ, Nat.add_comm, Nat.add_left_comm] using hnext

/-- Bytes that the offset passes over keep what they were. -/
theorem Appended.skip (h : Appended p start c bytes) (count : ℕ) :
    Appended p start ⟨c.packet, c.currentOffset + count⟩
      (bytes ++ (load p.inMemory (start + bytes.length) count).toList) where
  currentOffset := by simp [h.currentOffset, Nat.add_assoc]
  writtenByte := h.writtenByte
  outside := by
    intro i hi
    rw [List.length_append] at hi
    exact h.outside i (by omega)
  inside := by
    intro hfits i hi
    simp only [List.length_append, Vector.length_toList] at hfits hi
    by_cases hlt : i < bytes.length
    · rw [h.inside (by omega) i hlt, List.getD_append _ _ _ _ hlt]
    · rw [h.outside _ (by omega), List.getD_append_right _ _ _ _ (by omega)]
      have hi' : i - bytes.length < count := by omega
      simp only [List.getD_eq_getElem?_getD, Vector.getElem?_toList, hi', Vector.getElem?_eq_getElem,
        getElem_load, Option.getD_some]
      congr 1
      omega

theorem Appended.zeros (h : Appended p start c bytes) (count : ℕ) :
    Appended p start (c.zeros count count) (bytes ++ List.replicate count 0) :=
  h.foldl_writeByte count

/-- A loop that zeroes fewer bytes than the offset is then advanced by. -/
theorem Appended.zeros_skip (h : Appended p start c bytes) (count skipped : ℕ) :
    Appended p start (c.zeros count (count + skipped))
      (bytes ++ List.replicate count 0 ++
        (load p.inMemory (start + bytes.length + count) skipped).toList) := by
  simpa [Cursor.zeros, Nat.add_assoc] using (h.foldl_writeByte count).skip skipped

theorem Appended.addresses (h : Appended p start c bytes) (addresses : List InAddr) :
    Appended p start (addresses.foldl (fun c ip => c.array ip.toList) c)
      (bytes ++ addresses.flatMap fun ip => ip.toList) := by
  induction addresses generalizing c bytes with
  | nil => simpa using h
  | cons ip addresses ih => simpa using ih (h.array ip.toList)

theorem Appended.byte_ite (h : Appended p start c bytes) (b : Bool) (x y : UInt8) :
    Appended p start (if b then c.byte x else c.byte y) (bytes ++ [if b then x else y]) := by
  cases b
  · exact h.byte y
  · exact h.byte x

end Cursor

namespace DHCP

/-- The arguments of `writeResponse` that say what to write. -/
structure Response where
  discover : Bool
  mtu : Octets 2
  transactionId : Octets 4
  clientInAddr : InAddr
  clientEtherAddr : EtherAddr
  serverIdentifier : InAddr
  subnetMask : InAddr
  router : InAddr
  dnsVector : List InAddr
  leaseTime : UInt32

namespace Response

def write (r : Response) (packet : Packet) (offset : ℕ) : Packet × ℤ :=
  writeResponse packet offset r.discover r.mtu r.transactionId r.clientInAddr r.clientEtherAddr
    r.serverIdentifier r.subnetMask r.router r.dnsVector r.leaseTime

/-- The options in the order in which they are written. -/
def options (r : Response) : List Item :=
  [(53, [if r.discover then 2 else 5]), (54, r.serverIdentifier.toList),
    (51, (hostWord r.leaseTime).toList), (1, r.subnetMask.toList), (3, r.router.toList),
    (26, r.mtu.toList), (6, r.dnsVector.flatMap fun dns => dns.toList)]

/-- The fixed part in front of the relay agent's address. -/
def front (r : Response) : List UInt8 :=
  [2, 1, 6, 0] ++ r.transactionId.toList ++ List.replicate 8 0 ++ r.clientInAddr.toList ++
    List.replicate 4 0

/-- The fixed part behind the relay agent's address. -/
def back (r : Response) : List UInt8 :=
  r.clientEtherAddr.toList ++ List.replicate 10 0 ++ List.replicate 192 0 ++ [99, 130, 83, 99]

/-- The whole message, with the relay agent's address `giaddr`. -/
def message (r : Response) (giaddr : Octets 4) : List UInt8 :=
  r.front ++ giaddr.toList ++ r.back ++ encode r.options ++ [endMark]

@[simp] theorem length_front (r : Response) : r.front.length = 24 := by
  simp [front]

@[simp] theorem length_back (r : Response) : r.back.length = 212 := by
  simp [back, -List.reduceReplicate]

theorem length_encode_options (r : Response) :
    (encode r.options).length = 33 + r.dnsVector.length * 4 := by
  simp [encode, options]
  omega

@[simp] theorem length_message (r : Response) (giaddr : Octets 4) :
    (r.message giaddr).length = 274 + r.dnsVector.length * 4 := by
  simp [message, length_encode_options]
  omega

/-- **What `writeResponse` writes.** It puts the message behind the offset, with
the relay agent's address that the buffer held, and returns its length. -/
theorem write_appended (r : Response) (p : Packet) (offset : ℕ) :
    ∃ c : Cursor, c.Appended p offset (r.message (load p.inMemory (offset + 24) 4)) ∧
      r.write p offset = (c.packet, ((c.currentOffset - offset : ℕ) : ℤ)) := by
  refine ⟨_, ?_, rfl⟩
  have h := (Cursor.appended_nil p offset).byte 2 |>.byte 1 |>.byte 6 |>.byte 0
    |>.array r.transactionId.toList |>.zeros 8 |>.array r.clientInAddr.toList |>.zeros_skip 4 4
    |>.array r.clientEtherAddr.toList |>.zeros 10 |>.zeros (64 + 128)
    |>.byte 99 |>.byte 130 |>.byte 83 |>.byte 99 |>.byte 53 |>.byte 1
    |>.byte_ite r.discover 2 5 |>.byte 54 |>.byte 4 |>.array r.serverIdentifier.toList
    |>.byte 51 |>.byte 4 |>.array (hostWord r.leaseTime).toList
    |>.byte 1 |>.byte 4 |>.array r.subnetMask.toList |>.byte 3 |>.byte 4 |>.array r.router.toList
    |>.byte 26 |>.byte 2 |>.array r.mtu.toList
    |>.byte 6 |>.byte (UInt8.ofNat (r.dnsVector.length * 4)) |>.addresses r.dnsVector |>.byte 255
  simpa [message, front, back, options, encode, encodeItem, -List.reduceReplicate,
    -List.replicate_append_replicate] using h

theorem write_snd (r : Response) (p : Packet) (offset : ℕ) :
    (r.write p offset).2 = ((274 + r.dnsVector.length * 4 : ℕ) : ℤ) := by
  obtain ⟨c, hc, hwrite⟩ := r.write_appended p offset
  rw [hwrite, hc.currentOffset, length_message]
  simp

/-- A message that fits into the packet is there in full. -/
theorem inMemory_write {r : Response} {p : Packet} {offset i : ℕ}
    (hfits : (offset : ℤ) + (r.write p offset).2 ≤ p.writtenByte)
    (hi : (i : ℤ) < (r.write p offset).2) :
    (r.write p offset).1.inMemory (offset + i) =
      (r.message (load p.inMemory (offset + 24) 4)).getD i 0 := by
  rw [write_snd] at hfits hi
  obtain ⟨c, hc, hwrite⟩ := r.write_appended p offset
  rw [hwrite]
  exact hc.inside (by rw [length_message]; omega) i (by rw [length_message]; omega)

/-! ## Bytes that are not written -/

/-- The bytes of the fixed part that a server leaves zero: the seconds, the flags
and the address of the client; the addresses of the next server and the relay
agent; the padding of the hardware address, the host name and the boot file. -/
def Unset (i : ℕ) : Prop := (8 ≤ i ∧ i < 16) ∨ (20 ≤ i ∧ i < 28) ∨ (34 ≤ i ∧ i < 236)

theorem message_eq (r : Response) (giaddr : Octets 4) :
    r.message giaddr = r.front ++ giaddr.toList ++ (r.back ++ encode r.options ++ [endMark]) := by
  simp [message]

theorem getD_message_giaddr (r : Response) (giaddr : Octets 4) {i : ℕ} (hlo : 24 ≤ i)
    (hhi : i < 28) : (r.message giaddr).getD i 0 = giaddr[i - 24] := by
  rw [message_eq, getD_append_middle (by simpa using hlo) (by simpa using hhi), length_front]
  have hi : i - 24 < 4 := by omega
  simp [hi]

/-- The address of the relay agent is all that a message takes from the buffer. -/
theorem getD_message_congr (r : Response) (giaddr giaddr' : Octets 4) {i : ℕ}
    (h : i < 24 ∨ 28 ≤ i) : (r.message giaddr).getD i 0 = (r.message giaddr').getD i 0 := by
  rw [message_eq, message_eq]
  generalize r.back ++ encode r.options ++ [endMark] = rest
  rcases h with hlt | hge
  · rw [List.append_assoc, List.append_assoc, List.getD_append _ _ _ _ (by simpa using hlt),
      List.getD_append _ _ _ _ (by simpa using hlt)]
  · rw [List.getD_append_right _ _ _ _ (by simpa using hge),
      List.getD_append_right _ _ _ _ (by simpa using hge)]
    simp

theorem getD_message_unset (r : Response) (giaddr : Octets 4) {i : ℕ} (h : Unset i)
    (hi : i < 24 ∨ 28 ≤ i) : (r.message giaddr).getD i 0 = 0 := by
  have hzeros : ∀ (xs ys : List UInt8) (n : ℕ), r.message giaddr = xs ++ List.replicate n 0 ++ ys →
      xs.length ≤ i → i < xs.length + n → (r.message giaddr).getD i 0 = 0 := by
    intro xs ys n hsplit hlo hhi
    rw [hsplit, getD_append_middle hlo (by simpa using hhi)]
    simp
  rcases h with ⟨hlo, hhi⟩ | ⟨hlo, hhi⟩ | ⟨hlo, hhi⟩
  · exact hzeros ([2, 1, 6, 0] ++ r.transactionId.toList) _ 8
      (by simp only [message, front, List.append_assoc]; rfl) (by simpa using hlo) (by simpa using hhi)
  · exact hzeros ([2, 1, 6, 0] ++ r.transactionId.toList ++ List.replicate 8 0 ++
      r.clientInAddr.toList) _ 4 (by simp only [message, front, List.append_assoc]; rfl)
      (by simpa using hlo) (by simp; omega)
  · exact hzeros (r.front ++ giaddr.toList ++ r.clientEtherAddr.toList) _ (10 + 192)
      (by simp only [message, back, List.append_assoc, List.replicate_add]; rfl)
      (by simpa using hlo) (by simpa using hhi)

/-- **Stale bytes.** Two runs over buffers with different contents write the same
bytes, and the unset fields are zero, as far as the buffers already agreed, and
were zero, in the four bytes of the relay agent's address. -/
theorem stale_bytes_iff (r : Response) (p p' : Packet) (offset : ℕ)
    (hp : (offset : ℤ) + (r.write p offset).2 ≤ p.writtenByte)
    (hp' : (offset : ℤ) + (r.write p' offset).2 ≤ p'.writtenByte) :
    ((∀ i : ℕ, (i : ℤ) < (r.write p offset).2 →
        (r.write p offset).1.inMemory (offset + i) = (r.write p' offset).1.inMemory (offset + i)) ↔
      ∀ i, 24 ≤ i → i < 28 → p.inMemory (offset + i) = p'.inMemory (offset + i)) ∧
    ((∀ i, Unset i → (r.write p offset).1.inMemory (offset + i) = 0) ↔
      ∀ i, 24 ≤ i → i < 28 → p.inMemory (offset + i) = 0) := by
  have hlen : (r.write p offset).2 = (r.write p' offset).2 := by rw [write_snd, write_snd]
  have hfixed : ∀ i : ℕ, i < 236 → (i : ℤ) < (r.write p offset).2 := by
    intro i hi
    rw [write_snd]
    omega
  -- the relay agent's address is what the buffer held there
  have hgiaddr : ∀ (q : Packet), (offset : ℤ) + (r.write q offset).2 ≤ q.writtenByte →
      ∀ i, 24 ≤ i → i < 28 → (r.write q offset).1.inMemory (offset + i) = q.inMemory (offset + i) := by
    intro q hq i hlo hhi
    rw [inMemory_write hq (by rw [write_snd]; omega), getD_message_giaddr _ _ hlo hhi, getElem_load]
    congr 1
    omega
  refine ⟨⟨fun h i hlo hhi => ?_, fun h i hi => ?_⟩, fun h i hlo hhi => ?_, fun h i hi => ?_⟩
  · rw [← hgiaddr p hp i hlo hhi, h i (hfixed i (by omega)), hgiaddr p' hp' i hlo hhi]
  · by_cases hinside : 24 ≤ i ∧ i < 28
    · rw [hgiaddr p hp i hinside.1 hinside.2, hgiaddr p' hp' i hinside.1 hinside.2,
        h i hinside.1 hinside.2]
    · rw [inMemory_write hp hi, inMemory_write hp' (hlen ▸ hi)]
      exact getD_message_congr r _ _ (by omega)
  · rw [← hgiaddr p hp i hlo hhi]
    exact h i (.inr (.inl ⟨by omega, hhi⟩))
  · by_cases hinside : 24 ≤ i ∧ i < 28
    · rw [hgiaddr p hp i hinside.1 hinside.2]
      exact h i hinside.1 hinside.2
    · have hbound : i < 236 := by
        unfold Unset at hi
        omega
      rw [inMemory_write hp (hfixed i hbound)]
      exact getD_message_unset r _ hi (by omega)

/-- An ACK without servers, and a buffer filled with one byte. -/
def sample : Response where
  discover := false
  mtu := htons myMtu
  transactionId := Vector.replicate 4 1
  clientInAddr := Vector.replicate 4 10
  clientEtherAddr := Vector.replicate 6 2
  serverIdentifier := Vector.replicate 4 11
  subnetMask := Vector.replicate 4 255
  router := Vector.replicate 4 11
  dnsVector := []
  leaseTime := 7200

def filled (content : UInt8) : Packet := ⟨myPacketLen, 1472, fun _ => content⟩

/-- In a zeroed buffer the relay agent's address is zero. -/
theorem stale_bytes_zero : (sample.write (filled 0) 0).1.inMemory (0 + 24) = 0 :=
  (stale_bytes_iff sample (filled 0) (filled 0) 0 (by rw [write_snd]; decide)
    (by rw [write_snd]; decide)).2.mpr (fun _ _ _ => rfl) 24 (by simp [Unset])

/-- The first byte of the relay agent's address is sent as the buffer had it. -/
theorem stale_byte :
    (24 : ℤ) < (sample.write (filled 0) 0).2 ∧
      ((0 : ℕ) : ℤ) + (sample.write (filled 0) 0).2 ≤ (filled 0).writtenByte ∧
      ((0 : ℕ) : ℤ) + (sample.write (filled 1) 0).2 ≤ (filled 1).writtenByte ∧
      (sample.write (filled 0) 0).1.inMemory 24 = 0 ∧
      (sample.write (filled 1) 0).1.inMemory 24 = 1 := by
  decide +kernel

end Response

end DHCP

end GatewaySocket
