import GatewaySocket.Packet.Header

/-!
# Header views as independent fields

The views of a packet have a getter and a setter for each field. `ViewField` lists the
fields with their place in the header and the octets that stand for their values. The
setters write these octets to that place and the getters read them from there, and no
two fields of a view overlap, so setting one changes no other.

An offset so large that the place of the field is past the range of `int` is an
overflow in the source; the offsets here are those for which there is none.
-/

namespace GatewaySocket

open ByteMemory

/-- The classes of header views with setters. -/
inductive View
  | ethernet
  | arp
  | ip
  | udp
  deriving DecidableEq

inductive ViewField
  | etherDestination
  | etherSource
  | etherProtocol
  | arpHeader
  | arpSourceMAC
  | arpSourceIP
  | arpDestinationMAC
  | arpDestinationIP
  | ipProtocol
  | ipSource
  | ipDestination
  | udpSource
  | udpDestination
  deriving DecidableEq

namespace ViewField

def view : ViewField → View
  | etherDestination | etherSource | etherProtocol => .ethernet
  | arpHeader | arpSourceMAC | arpSourceIP | arpDestinationMAC | arpDestinationIP => .arp
  | ipProtocol | ipSource | ipDestination => .ip
  | udpSource | udpDestination => .udp

/-- What the getter returns and the setter takes. -/
abbrev Value : ViewField → Type
  | etherDestination | etherSource | arpSourceMAC | arpDestinationMAC => EtherAddr
  | arpSourceIP | arpDestinationIP | ipSource | ipDestination => InAddr
  | etherProtocol | udpSource | udpDestination => UInt16
  | arpHeader => ArpHeader
  | ipProtocol => UInt8

/-- Where the field begins in its header. -/
def pos : ViewField → ℕ
  | etherDestination => 0
  | etherSource => 6
  | etherProtocol => 12
  | arpHeader => 0
  | arpSourceMAC => 8
  | arpSourceIP => 14
  | arpDestinationMAC => 18
  | arpDestinationIP => 24
  | ipProtocol => 9
  | ipSource => 12
  | ipDestination => 16
  | udpSource => 0
  | udpDestination => 2

abbrev size : ViewField → ℕ
  | etherDestination | etherSource | arpSourceMAC | arpDestinationMAC => 6
  | arpSourceIP | arpDestinationIP | ipSource | ipDestination => 4
  | etherProtocol | udpSource | udpDestination => 2
  | arpHeader => 8
  | ipProtocol => 1

/-- The octets of a value on the wire: numbers are in network order, and addresses as
they are. -/
def toOctets : (f : ViewField) → f.Value → Octets f.size
  | etherDestination, v | etherSource, v | arpSourceMAC, v | arpDestinationMAC, v => v
  | arpSourceIP, v | arpDestinationIP, v | ipSource, v | ipDestination, v => v
  | etherProtocol, v | udpSource, v | udpDestination, v => htons v
  | arpHeader, v => v.toOctets
  | ipProtocol, v => #v[v]

def ofOctets : (f : ViewField) → Octets f.size → f.Value
  | etherDestination, b | etherSource, b | arpSourceMAC, b | arpDestinationMAC, b => b
  | arpSourceIP, b | arpDestinationIP, b | ipSource, b | ipDestination, b => b
  | etherProtocol, b | udpSource, b | udpDestination, b => ntohs b
  | arpHeader, b => .ofOctets b
  | ipProtocol, b => b.get 0

/-- The getter of the field; `ret` is what its local holds, where that is not
initialised. -/
def get : (f : ViewField) → Packet → ℕ → Octets f.size → f.Value
  | etherDestination, packet, offset, ret => Ethernet.getDestination packet offset ret
  | etherSource, packet, offset, ret => Ethernet.getSource packet offset ret
  | etherProtocol, packet, offset, _ => Ethernet.getProtocol packet offset
  | arpHeader, packet, offset, _ => ARP.getHeader packet offset
  | arpSourceMAC, packet, offset, ret => ARP.getSourceMAC packet offset ret
  | arpSourceIP, packet, offset, ret => ARP.getSourceIP packet offset ret
  | arpDestinationMAC, packet, offset, ret => ARP.getDestinationMAC packet offset ret
  | arpDestinationIP, packet, offset, ret => ARP.getDestinationIP packet offset ret
  | ipProtocol, packet, offset, _ => IP.getProtocol packet offset
  | ipSource, packet, offset, ret => IP.getSource packet offset ret
  | ipDestination, packet, offset, ret => IP.getDestination packet offset ret
  | udpSource, packet, offset, ret => UDP.getSource packet offset ret
  | udpDestination, packet, offset, ret => UDP.getDestination packet offset ret

/-- The setter of the field. -/
def set : (f : ViewField) → Packet → ℕ → f.Value → Packet
  | etherDestination, packet, offset, v => Ethernet.setDestination packet offset v
  | etherSource, packet, offset, v => Ethernet.setSource packet offset v
  | etherProtocol, packet, offset, v => Ethernet.setProtocol packet offset v
  | arpHeader, packet, offset, v => ARP.setHeader packet offset v
  | arpSourceMAC, packet, offset, v => ARP.setSourceMAC packet offset v
  | arpSourceIP, packet, offset, v => ARP.setSourceIP packet offset v
  | arpDestinationMAC, packet, offset, v => ARP.setDestinationMAC packet offset v
  | arpDestinationIP, packet, offset, v => ARP.setDestinationIP packet offset v
  | ipProtocol, packet, offset, v => IP.setProtocol packet offset v
  | ipSource, packet, offset, v => IP.setSource packet offset v
  | ipDestination, packet, offset, v => IP.setDestination packet offset v
  | udpSource, packet, offset, v => UDP.setSource packet offset v
  | udpDestination, packet, offset, v => UDP.setDestination packet offset v

/-- What the local of a getter holds before the read. -/
def unread : (f : ViewField) → Octets f.size → Octets f.size
  | etherProtocol, _ => Vector.replicate 2 0
  | arpHeader, _ => Vector.replicate 8 0
  | ipProtocol, _ => Vector.replicate 1 0xFF
  | _, ret => ret

/-! ## Places -/

theorem ofOctets_toOctets (f : ViewField) (v : f.Value) : f.ofOctets (f.toOctets v) = v := by
  cases f with
  | etherProtocol => exact ntohs_htons v
  | udpSource => exact ntohs_htons v
  | udpDestination => exact ntohs_htons v
  | arpHeader => exact ArpHeader.ofOctets_toOctets v
  | _ => rfl

/-- The fields of a view do not overlap. -/
theorem disjoint {f g : ViewField} (hview : g.view = f.view) (hne : g ≠ f) :
    g.pos + g.size ≤ f.pos ∨ f.pos + f.size ≤ g.pos := by
  cases f <;> cases g <;> first | contradiction | decide

/-- The first byte of an IP header, with its length, is not in any field. -/
theorem one_le_pos {f : ViewField} (hview : f.view = .ip) : 1 ≤ f.pos := by
  cases f <;> first | contradiction | decide

/-- Each setter writes to the place of its field. -/
theorem set_eq (f : ViewField) (p : Packet) (offset : ℕ) (v : f.Value) :
    f.set p offset v = p.writeByteArray (offset + f.pos) (f.toOctets v).toList := by
  cases f with
  | ipProtocol => exact p.writeByte_eq (offset + 9) v
  | _ => rfl

/-- Each getter reads from the place of its field. -/
theorem get_eq (f : ViewField) (p : Packet) (offset : ℕ) (ret : Octets f.size) :
    f.get p offset ret = f.ofOctets (p.readByteArray (offset + f.pos) (f.unread ret)) := by
  cases f with
  | ipProtocol =>
      change toUint8 (p.readByte (offset + 9)) =
        (p.readByteArray (offset + 9) (Vector.replicate 1 0xFF)).get 0
      rw [p.readByte_eq (offset + 9) (Vector.replicate 1 0xFF)]
      split
      · next hout =>
          rw [Packet.readByteArray, if_pos (by omega)]
          decide
      · exact toUint8_toNat _
  | _ => rfl

/-! ## Independence -/

/-- What setting a field does, to its own getter and to everything else. -/
structure Independent (f : ViewField) (p : Packet) (offset : ℕ) (v : f.Value) : Prop where
  /-- the matching getter returns the value -/
  get_self : ((offset + f.pos + f.size : ℕ) : ℤ) ≤ p.writtenByte →
    ∀ ret, f.get (f.set p offset v) offset ret = v
  /-- the value lies in the packet in network order -/
  stored : ((offset + f.pos + f.size : ℕ) : ℤ) ≤ p.writtenByte →
    load (f.set p offset v).inMemory (offset + f.pos) f.size = f.toOctets v
  /-- the other getters of the view return what they did -/
  get_other : ∀ g : ViewField, g.view = f.view → g ≠ f →
    ∀ ret, g.get (f.set p offset v) offset ret = g.get p offset ret
  nextOffset : f.view = .ip → IP.getNextOffset (f.set p offset v) offset = IP.getNextOffset p offset
  /-- no byte outside the field changes -/
  frame : ∀ i, i < offset + f.pos ∨ offset + f.pos + f.size ≤ i →
    (f.set p offset v).inMemory i = p.inMemory i
  length : (f.set p offset v).writtenByte = p.writtenByte
  capacity : (f.set p offset v).capacity = p.capacity
  /-- a field that does not lie within the length is not set -/
  unchanged : p.writtenByte < ((offset + f.pos + f.size : ℕ) : ℤ) → f.set p offset v = p

/-- **The views are independent fields.** -/
theorem independent (f : ViewField) (p : Packet) (offset : ℕ) (v : f.Value) :
    f.Independent p offset v := by
  have hlength : (f.toOctets v).toList.length = f.size := Vector.length_toList
  exact {
    get_self := by
      intro hin ret
      rw [get_eq, set_eq, Packet.readByteArray_writeByteArray_self _ _ hin, ofOctets_toOctets]
    stored := by
      intro hin
      rw [set_eq, Packet.inMemory_writeByteArray (by rwa [hlength]), load_store_self]
    get_other := by
      intro g hview hne ret
      have hdisjoint := disjoint hview hne
      rw [get_eq, get_eq, set_eq, Packet.readByteArray_writeByteArray_of_disjoint]
      omega
    nextOffset := by
      intro hview
      have hpos := one_le_pos hview
      have hbyte : (f.set p offset v).readByte offset = p.readByte offset := by
        rw [set_eq, Packet.readByte_eq _ offset #v[0], p.readByte_eq offset #v[0],
          Packet.writtenByte_writeByteArray, Packet.readByteArray_writeByteArray_of_disjoint]
        omega
      simp only [IP.getNextOffset, hbyte]
    frame := by
      intro i hi
      rw [set_eq]
      exact p.inMemory_writeByteArray_of_outside (by omega)
    length := by rw [set_eq, Packet.writtenByte_writeByteArray]
    capacity := by
      rw [set_eq, Packet.writeByteArray]
      split <;> rfl
    unchanged := by
      intro hout
      rw [set_eq, Packet.writeByteArray, if_pos (by rw [hlength]; exact hout)] }

end ViewField

end GatewaySocket
