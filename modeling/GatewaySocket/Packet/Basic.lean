import GatewaySocket.Memory.Bytes
import Mathlib.Data.Int.Notation

/-!
# The packet buffer

`Packet` is a malloc'ed block with a length. Reads and writes that leave the
length are silently dropped: a read then leaves the caller's variable as it
was, which is why the readers take that variable's previous content as an
argument. Offsets are sums of sizes and a header length, so they are natural
numbers here and the source's test `from < 0` never fires; lengths are integers,
because `setLength` is handed the `-1` of a failed `UDP::makePacket`.

A frame is the list of bytes on the wire. `Packet.Holds` says that a packet
holds a frame, and the lemmas under it turn the packet operations into
operations on the frame.
-/

namespace GatewaySocket

open ByteMemory

/-- An IPv4 address: the four octets of `s_addr`, in network order. The program
only compares, copies and looks up addresses. -/
abbrev InAddr := Octets 4

/-- `struct ether_addr`. -/
abbrev EtherAddr := Octets 6

abbrev ethAlen : ℕ := 6

/-- `sizeof(struct ether_header)`. -/
abbrev etherHeaderLen : ℕ := 14

/-- `ETH_DATA_LEN`. -/
abbrev myMtu : UInt16 := 1500

/-- `ETH_FRAME_LEN`. -/
abbrev myPacketLen : ℕ := 1514

/-- What the uninitialised locals and blocks hold: an accessor whose read falls
outside the packet returns its local `ret` as it is, and a fresh block has the
content `malloc` left. The index is the place of the call in its branch. -/
structure Indeterminate where
  etherAddr : ℕ → EtherAddr
  inAddr : ℕ → InAddr
  half : ℕ → Octets 2
  word : ℕ → Octets 4
  heap : ℕ → Memory

instance : Inhabited Indeterminate where
  default := ⟨fun _ => Vector.replicate 6 0, fun _ => Vector.replicate 4 0,
    fun _ => Vector.replicate 2 0, fun _ => Vector.replicate 4 0, fun _ _ => 0⟩

/-- A packet buffer. -/
structure Packet where
  capacity : ℕ
  writtenByte : ℤ
  inMemory : Memory

namespace Packet

/-- A fresh packet; its block is not zeroed. -/
def new (capacity : ℕ) (heap : Memory) : Packet := ⟨capacity, 0, heap⟩

def setLength (p : Packet) (length : ℤ) : Packet := { p with writtenByte := length }

def getLength (p : Packet) : ℤ := p.writtenByte

def getCapacity (p : Packet) : ℕ := p.capacity

/-- Copy the bytes `pos` to `pos + n` into `buffer`, which stays as it is when
they do not lie within the length. -/
def readByteArray (p : Packet) (pos : ℕ) {n : ℕ} (buffer : Octets n) : Octets n :=
  if ((pos + n : ℕ) : ℤ) > p.writtenByte then buffer else load p.inMemory pos n

/-- Copy `bytes` to offset `pos`, unless they would not lie within the length. -/
def writeByteArray (p : Packet) (pos : ℕ) (bytes : List UInt8) : Packet :=
  if ((pos + bytes.length : ℕ) : ℤ) > p.writtenByte then p
  else { p with inMemory := store p.inMemory pos bytes }

def readByte (p : Packet) (index : ℕ) : ℤ :=
  if (index : ℤ) ≥ p.writtenByte then -1 else (p.inMemory index).toNat

def writeByte (p : Packet) (index : ℕ) (data : UInt8) : Packet :=
  if (index : ℤ) ≥ p.writtenByte then p
  else { p with inMemory := store p.inMemory index [data] }

@[simp] theorem writtenByte_writeByteArray (p : Packet) (pos : ℕ) (bytes : List UInt8) :
    (p.writeByteArray pos bytes).writtenByte = p.writtenByte := by
  unfold writeByteArray
  split <;> rfl

theorem writeByteArray_eq {p : Packet} {pos : ℕ} {bytes : List UInt8}
    (h : ((pos + bytes.length : ℕ) : ℤ) ≤ p.writtenByte) :
    p.writeByteArray pos bytes = { p with inMemory := store p.inMemory pos bytes } := by
  rw [writeByteArray, if_neg (by omega)]

theorem inMemory_writeByteArray {p : Packet} {pos : ℕ} {bytes : List UInt8}
    (h : ((pos + bytes.length : ℕ) : ℤ) ≤ p.writtenByte) :
    (p.writeByteArray pos bytes).inMemory = store p.inMemory pos bytes := by
  rw [writeByteArray_eq h]

theorem inMemory_writeByteArray_of_outside (p : Packet) {pos i : ℕ} {bytes : List UInt8}
    (h : i < pos ∨ pos + bytes.length ≤ i) :
    (p.writeByteArray pos bytes).inMemory i = p.inMemory i := by
  unfold writeByteArray
  split
  · rfl
  · exact store_of_outside _ h

/-- What was written is what is read. -/
theorem readByteArray_writeByteArray_self {p : Packet} {pos n : ℕ} (v buffer : Octets n)
    (h : ((pos + n : ℕ) : ℤ) ≤ p.writtenByte) :
    (p.writeByteArray pos v.toList).readByteArray pos buffer = v := by
  rw [readByteArray, writtenByte_writeByteArray, if_neg (by omega),
    inMemory_writeByteArray (by rwa [Vector.length_toList]), load_store_self]

/-- A write does not disturb what is read from elsewhere. -/
theorem readByteArray_writeByteArray_of_disjoint (p : Packet) {pos start n : ℕ}
    {bytes : List UInt8} (buffer : Octets n)
    (h : start + n ≤ pos ∨ pos + bytes.length ≤ start) :
    (p.writeByteArray pos bytes).readByteArray start buffer = p.readByteArray start buffer := by
  rw [readByteArray, writtenByte_writeByteArray, readByteArray]
  split
  · rfl
  · apply load_congr
    intro i hlo hhi
    exact p.inMemory_writeByteArray_of_outside (by omega)

/-- A single byte is read like an array of one, unless it is outside. -/
theorem readByte_eq (p : Packet) (index : ℕ) (buffer : Octets 1) :
    p.readByte index = if (index : ℤ) ≥ p.writtenByte then -1
      else (((p.readByteArray index buffer).get 0).toNat : ℤ) := by
  have hiff : (index : ℤ) ≥ p.writtenByte ↔ ((index + 1 : ℕ) : ℤ) > p.writtenByte := by omega
  simp only [readByte, readByteArray, hiff]
  split
  · rfl
  · exact congrArg (fun b : UInt8 => (b.toNat : ℤ)) (getElem_load _ _ _ 0 Nat.one_pos).symm

/-- A single byte is written like an array of one. -/
theorem writeByte_eq (p : Packet) (index : ℕ) (data : UInt8) :
    p.writeByte index data = p.writeByteArray index [data] := by
  have hiff : (index : ℤ) ≥ p.writtenByte ↔
      ((index + [data].length : ℕ) : ℤ) > p.writtenByte := by
    rw [List.length_singleton]
    omega
  simp only [writeByte, writeByteArray, hiff]

@[simp] theorem writtenByte_writeByte (p : Packet) (index : ℕ) (data : UInt8) :
    (p.writeByte index data).writtenByte = p.writtenByte := by
  simp [writeByte_eq]

end Packet

/-- The bytes of a frame on the wire. -/
abbrev Frame := List UInt8

namespace Frame

/-- The `n` bytes at offset `pos` of the frame. -/
def field (f : Frame) (pos n : ℕ) : Octets n := load (ofList f) pos n

/-- The frame with `bytes` written over it at offset `pos`. -/
def patch (f : Frame) (pos : ℕ) (bytes : List UInt8) : Frame :=
  image (store (ofList f) pos bytes) f.length

@[simp] theorem length_patch (f : Frame) (pos : ℕ) (bytes : List UInt8) :
    (f.patch pos bytes).length = f.length := by
  simp [patch]

theorem field_patch_self {f : Frame} {pos n : ℕ} (v : Octets n)
    (h : pos + n ≤ f.length) : (f.patch pos v.toList).field pos n = v := by
  rw [field, patch, load_ofList_image _ h, load_store_self]

theorem field_patch_of_disjoint {f : Frame} {pos start n : ℕ} {bytes : List UInt8}
    (hlen : start + n ≤ f.length)
    (h : start + n ≤ pos ∨ pos + bytes.length ≤ start) :
    (f.patch pos bytes).field start n = f.field start n := by
  rw [field, patch, load_ofList_image _ hlen, load_store_of_disjoint _ h, field]

/-- Outside the patch the frame is as it was. -/
theorem getElem?_patch_of_outside {f : Frame} {pos i : ℕ} {bytes : List UInt8}
    (h : i < pos ∨ pos + bytes.length ≤ i) : (f.patch pos bytes)[i]? = f[i]? := by
  by_cases hi : i < f.length
  · rw [patch, getElem?_image _ hi, store_of_outside _ h, ofList, List.getD_eq_getElem _ _ hi,
      List.getElem?_eq_getElem hi]
  · rw [List.getElem?_eq_none (by simpa using hi), List.getElem?_eq_none (by simpa using hi)]

end Frame

/-- `Device::readPacket`, for a frame that the filters of its loop let through:
`recvfrom` with `MSG_TRUNC` stores at most `length` bytes of the frame. The
result of the call is the length of the frame. -/
def Device.readPacket (buffer : Memory) (length : ℕ) (frame : Frame) : Memory :=
  store buffer 0 (frame.take length)

/-- `Device::writePacket`: the frames put on the wire. `sendto` refuses a
negative length, which it reads as a huge one. -/
def Device.writePacket (buffer : Memory) (length : ℤ) : List Frame :=
  if length < 0 then [] else [image buffer length.toNat]

theorem Device.mem_writePacket {buffer : Memory} {length : ℤ} {out : Frame}
    (h : out ∈ Device.writePacket buffer length) :
    0 ≤ length ∧ out = image buffer length.toNat := by
  unfold Device.writePacket at h
  split at h
  · contradiction
  · next hlen => exact ⟨by omega, by simpa using h⟩

namespace Packet

/-- The packet holds exactly the frame `f`. -/
def Holds (p : Packet) (f : Frame) : Prop :=
  p.writtenByte = f.length ∧ ∀ i, i < f.length → p.inMemory i = f.getD i 0

/-- A packet that `readPacket` filled holds the frame, once its length is set. -/
theorem holds_readPacket {p : Packet} {f : Frame} {n : ℕ} (h : f.length ≤ n) :
    ({ p with inMemory := Device.readPacket p.inMemory n f }.setLength f.length).Holds f := by
  refine ⟨rfl, fun i hi => ?_⟩
  change store p.inMemory 0 (f.take n) i = f.getD i 0
  rw [List.take_of_length_le h, store_of_inside _ (Nat.zero_le i) (by simpa using hi), Nat.sub_zero]

theorem Holds.readByteArray {p : Packet} {f : Frame} (h : p.Holds f) {pos n : ℕ}
    (buffer : Octets n) (hlen : pos + n ≤ f.length) :
    p.readByteArray pos buffer = f.field pos n := by
  have hin : ¬((pos + n : ℕ) : ℤ) > p.writtenByte := by rw [h.1]; omega
  rw [Packet.readByteArray, if_neg hin, Frame.field]
  apply load_congr
  intro i _ hi
  exact h.2 i (by omega)

theorem Holds.readByteArray_of_short {p : Packet} {f : Frame} (h : p.Holds f) {pos n : ℕ}
    (buffer : Octets n) (hlen : f.length < pos + n) :
    p.readByteArray pos buffer = buffer := by
  have hout : ((pos + n : ℕ) : ℤ) > p.writtenByte := by rw [h.1]; omega
  rw [Packet.readByteArray, if_pos hout]

theorem Holds.readByte {p : Packet} {f : Frame} (h : p.Holds f) {i : ℕ}
    (hi : i < f.length) : p.readByte i = (f.getD i 0).toNat := by
  have hin : ¬(i : ℤ) ≥ p.writtenByte := by rw [h.1]; omega
  rw [Packet.readByte, if_neg hin, h.2 i hi]

theorem Holds.readByte_of_short {p : Packet} {f : Frame} (h : p.Holds f) {i : ℕ}
    (hi : f.length ≤ i) : p.readByte i = -1 := by
  have hout : (i : ℤ) ≥ p.writtenByte := by rw [h.1]; omega
  rw [Packet.readByte, if_pos hout]

/-- Writing into the packet patches the frame it holds. -/
theorem Holds.writeByteArray {p : Packet} {f : Frame} (h : p.Holds f) {pos : ℕ}
    {bytes : List UInt8} (hlen : pos + bytes.length ≤ f.length) :
    (p.writeByteArray pos bytes).Holds (f.patch pos bytes) := by
  have hin : ¬((pos + bytes.length : ℕ) : ℤ) > p.writtenByte := by rw [h.1]; omega
  rw [Packet.writeByteArray, if_neg hin]
  refine ⟨by simpa using h.1, fun i hi => ?_⟩
  rw [Frame.length_patch] at hi
  rw [Frame.patch, image_getD _ hi]
  change store p.inMemory pos bytes i = store (ofList f) pos bytes i
  by_cases hpos : pos ≤ i ∧ i < pos + bytes.length
  · rw [store_of_inside _ hpos.1 hpos.2, store_of_inside _ hpos.1 hpos.2]
  · rw [store_of_outside _ (by omega), store_of_outside _ (by omega), h.2 i hi, ofList]

/-- Wherever it goes, a write keeps the length and the bytes outside its place. -/
theorem Holds.exists_writeByteArray {p : Packet} {f : Frame} (h : p.Holds f) (pos : ℕ)
    (bytes : List UInt8) :
    ∃ f', (p.writeByteArray pos bytes).Holds f' ∧ f'.length = f.length ∧
      ∀ i, i < pos ∨ pos + bytes.length ≤ i → f'[i]? = f[i]? := by
  by_cases hlen : pos + bytes.length ≤ f.length
  · exact ⟨f.patch pos bytes, h.writeByteArray hlen, by simp,
      fun i hi => Frame.getElem?_patch_of_outside hi⟩
  · have hout : ((pos + bytes.length : ℕ) : ℤ) > p.writtenByte := by rw [h.1]; omega
    refine ⟨f, ?_, rfl, fun _ _ => rfl⟩
    rwa [Packet.writeByteArray, if_pos hout]

/-- The packet with `bytes` at its start. -/
def front (p : Packet) (bytes : List UInt8) : Packet :=
  { p with inMemory := store p.inMemory 0 bytes }

section Front

variable {p : Packet} {bytes more : List UInt8} {pos : ℕ}

@[simp] theorem writtenByte_front (p : Packet) (bytes : List UInt8) :
    (p.front bytes).writtenByte = p.writtenByte := rfl

theorem inMemory_front {i : ℕ} (hi : i < bytes.length) :
    (p.front bytes).inMemory i = bytes.getD i 0 :=
  store_of_inside _ (Nat.zero_le i) (by rwa [Nat.zero_add])

theorem inMemory_front_of_outside {i : ℕ} (hi : bytes.length ≤ i) :
    (p.front bytes).inMemory i = p.inMemory i :=
  store_of_outside _ (.inr (by rwa [Nat.zero_add]))

/-- The bytes at the start, written from back to front. -/
theorem writeByteArray_zero (hpos : pos = bytes.length)
    (hlen : ((pos + more.length : ℕ) : ℤ) ≤ p.writtenByte) :
    (p.writeByteArray pos more).writeByteArray 0 bytes = p.front (bytes ++ more) := by
  have hstore : store (store p.inMemory pos more) 0 bytes = store p.inMemory 0 (bytes ++ more) := by
    have happ := store_store_append p.inMemory 0 bytes more
    rw [Nat.zero_add, ← hpos] at happ
    exact (store_comm _ (by omega)).trans happ
  rw [writeByteArray_eq (by rw [writtenByte_writeByteArray]; omega), writeByteArray_eq hlen, front]
  exact congrArg _ hstore

/-- A write that continues the bytes at the start. -/
theorem front_append (hpos : pos = bytes.length)
    (hlen : ((pos + more.length : ℕ) : ℤ) ≤ p.writtenByte) :
    (p.front bytes).writeByteArray pos more = p.front (bytes ++ more) := by
  have hstore := store_store_append p.inMemory 0 bytes more
  rw [Nat.zero_add, ← hpos] at hstore
  rw [writeByteArray_eq (by rwa [writtenByte_front]), front, front]
  exact congrArg _ hstore

/-- A write over some of the bytes at the start. -/
theorem front_overwrite {old rest : List UInt8} (hpos : pos = bytes.length)
    (hold : old.length = more.length) (hlen : ((pos + more.length : ℕ) : ℤ) ≤ p.writtenByte) :
    (p.front (bytes ++ old ++ rest)).writeByteArray pos more =
      p.front (bytes ++ more ++ rest) := by
  have hsplit : ∀ xs : List UInt8, xs.length = more.length →
      store p.inMemory 0 (bytes ++ xs ++ rest) =
        store (store (store p.inMemory 0 bytes) pos xs) (pos + more.length) rest := by
    intro xs hxs
    rw [← store_store_append, ← store_store_append, Nat.zero_add, Nat.zero_add,
      List.length_append, hpos, hxs]
  have hstore : store (store p.inMemory 0 (bytes ++ old ++ rest)) pos more =
      store p.inMemory 0 (bytes ++ more ++ rest) := by
    rw [hsplit old hold, store_comm _ (Nat.le_refl _), store_store_self _ _ hold,
      ← hsplit more rfl]
  rw [writeByteArray_eq (by rwa [writtenByte_front]), front, front]
  exact congrArg _ hstore

theorem readByteArray_front {n : ℕ} (buffer : Octets n) (hpos : pos + n ≤ bytes.length)
    (hlen : (bytes.length : ℤ) ≤ p.writtenByte) :
    (p.front bytes).readByteArray pos buffer = Frame.field bytes pos n := by
  rw [readByteArray, if_neg (by rw [writtenByte_front]; omega), Frame.field]
  apply load_congr
  intro i _ hi
  exact inMemory_front (by omega)

theorem readByte_front (hpos : pos < bytes.length) (hlen : (bytes.length : ℤ) ≤ p.writtenByte) :
    (p.front bytes).readByte pos = (bytes.getD pos 0).toNat := by
  rw [readByte, if_neg (by rw [writtenByte_front]; omega), inMemory_front hpos]

theorem front_holds (hlen : p.writtenByte = bytes.length) : (p.front bytes).Holds bytes :=
  ⟨hlen, fun _ hi => inMemory_front hi⟩

end Front

/-- A packet that holds a frame is written to the wire as that frame. -/
theorem Holds.writePacket {p : Packet} {f : Frame} (h : p.Holds f) :
    Device.writePacket p.inMemory p.getLength = [f] := by
  have hnn : ¬p.getLength < 0 := by rw [getLength, h.1]; omega
  have hlen : p.getLength.toNat = f.length := by rw [getLength, h.1]; omega
  rw [Device.writePacket, if_neg hnn, hlen, image_congr fun i hi => h.2 i hi]
  exact congrArg (fun x => [x]) (image_ofList f)

end Packet

end GatewaySocket
