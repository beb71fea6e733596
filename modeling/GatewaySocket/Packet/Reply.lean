import GatewaySocket.Packet.Response
import Mathlib.Tactic.IntervalCases

/-!
# How a client reads a reply

`Reply.decode` reads a DHCP message by the layout of the standard: the fixed part
up to the magic cookie, and the options behind it, with numbers in network byte
order. What it makes of a message of `writeResponse` is what the arguments said,
but for the lease time, which is written in the order of the host.
-/

namespace GatewaySocket

open ByteMemory TypeLengthValue

namespace DHCP

/-- The octets of a value of the expected size. -/
def octets (n : ℕ) (bytes : List UInt8) : Option (Octets n) :=
  if h : bytes.length = n then some ⟨bytes.toArray, h⟩ else none

/-- A list of addresses, four octets each. -/
def addresses : List UInt8 → Option (List InAddr)
  | [] => some []
  | a :: b :: c :: d :: rest => (addresses rest).map (#v[a, b, c, d] :: ·)
  | _ => none

/-- A list of addresses that has to name one at least. -/
def someAddresses (bytes : List UInt8) : Option (List InAddr) :=
  (addresses bytes).filter fun ips => !ips.isEmpty

@[simp] theorem octets_toList {n : ℕ} (v : Octets n) : octets n v.toList = some v := by
  simp [octets, Vector.toList]

theorem exists_octets (ip : InAddr) : ∃ a b c d, ip = #v[a, b, c, d] := by
  refine ⟨ip[0], ip[1], ip[2], ip[3], ?_⟩
  apply Vector.ext
  intro i hi
  interval_cases i <;> rfl

theorem addresses_flatMap (ips : List InAddr) :
    addresses (ips.flatMap fun ip => ip.toList) = some ips := by
  induction ips with
  | nil => rfl
  | cons ip ips ih =>
      obtain ⟨a, b, c, d, rfl⟩ := exists_octets ip
      simp [addresses, ih]

theorem someAddresses_flatMap {ips : List InAddr} (h : ips ≠ []) :
    someAddresses (ips.flatMap fun ip => ip.toList) = some ips := by
  simp [someAddresses, addresses_flatMap, h]

structure Reply where
  op : UInt8
  xid : Octets 4
  yiaddr : InAddr
  chaddr : EtherAddr
  options : List Item

namespace Reply

abbrev magicCookie : Octets 4 := #v[99, 130, 83, 99]

/-- The message for an Ethernet client that the bytes stand for. -/
def decode (bytes : List UInt8) : Option Reply :=
  if 240 ≤ bytes.length ∧ bytes.getD 1 0 = 1 ∧ bytes.getD 2 0 = 6 ∧
      Frame.field bytes 236 4 = magicCookie then
    match walk (bytes.drop 240) with
    | (options, some _) => some {
        op := bytes.getD 0 0
        xid := Frame.field bytes 4 4
        yiaddr := Frame.field bytes 16 4
        chaddr := Frame.field bytes 28 6
        options }
    | (_, none) => none
  else none

def option (r : Reply) (code : UInt8) : Option (List UInt8) := find code r.options

def messageType (r : Reply) : Option UInt8 := ((r.option 53).bind (octets 1)).map fun v => v[0]

def serverIdentifier (r : Reply) : Option InAddr := (r.option 54).bind (octets 4)

def leaseTime (r : Reply) : Option UInt32 := ((r.option 51).bind (octets 4)).map ntohl

def subnetMask (r : Reply) : Option InAddr := (r.option 1).bind (octets 4)

def routers (r : Reply) : Option (List InAddr) := (r.option 3).bind someAddresses

def interfaceMtu (r : Reply) : Option UInt16 := ((r.option 26).bind (octets 2)).map ntohs

def domainNameServers (r : Reply) : Option (List InAddr) := (r.option 6).bind someAddresses

end Reply

/-! ## Reading what was written -/

namespace Response

variable {r : Response} {giaddr : Octets 4}

theorem proper_options (r : Response) : ∀ item ∈ r.options, item.Proper := by
  simp [options, Item.Proper, pad, endMark]

/-- The options can be told apart as long as there are no more than 63 servers. -/
theorem length_options_lt_iff (r : Response) :
    (∀ item ∈ r.options, item.2.length < 256) ↔ r.dnsVector.length ≤ 63 := by
  simp [options]
  omega

theorem drop_message (r : Response) (giaddr : Octets 4) :
    (r.message giaddr).drop 240 = encode r.options ++ [endMark] := by
  have hsplit : r.message giaddr = (r.front ++ giaddr.toList ++ r.back) ++
      (encode r.options ++ [endMark]) := by
    simp [message]
  rw [hsplit, List.drop_left' (by simp)]

/-- The walk over the options meets those that were written just if there are no
more than 63 servers. -/
theorem walk_message_iff (r : Response) (giaddr : Octets 4) :
    walk ((r.message giaddr).drop 240) = (r.options, some []) ↔ r.dnsVector.length ≤ 63 := by
  rw [drop_message, walk_encode_iff r.proper_options, length_options_lt_iff]

theorem field_of_append {bytes ys : List UInt8} (xs : List UInt8) {n : ℕ} (v : Octets n) (pos : ℕ)
    (h : bytes = xs ++ v.toList ++ ys) (hpos : xs.length = pos) :
    Frame.field bytes pos n = v := by
  subst hpos
  rw [h]
  exact load_ofList_append xs v ys

/-- A client reads the fixed part and the options as they were meant. -/
theorem decode_message (r : Response) (giaddr : Octets 4) (h : r.dnsVector.length ≤ 63) :
    Reply.decode (r.message giaddr) = some {
      op := 2
      xid := r.transactionId
      yiaddr := r.clientInAddr
      chaddr := r.clientEtherAddr
      options := r.options } := by
  have hbyte : ∀ i < 4, (r.message giaddr).getD i 0 = [2, 1, 6, 0].getD i 0 := by
    intro i hi
    rw [message, front]
    simp only [List.append_assoc]
    exact List.getD_append _ _ _ _ hi
  have hxid : Frame.field (r.message giaddr) 4 4 = r.transactionId :=
    field_of_append [2, 1, 6, 0] _ 4 (by simp only [message, front, List.append_assoc]; rfl)
      rfl
  have hyiaddr : Frame.field (r.message giaddr) 16 4 = r.clientInAddr :=
    field_of_append ([2, 1, 6, 0] ++ r.transactionId.toList ++ List.replicate 8 0) _ 16
      (by simp only [message, front, List.append_assoc]; rfl) (by simp)
  have hchaddr : Frame.field (r.message giaddr) 28 6 = r.clientEtherAddr :=
    field_of_append (r.front ++ giaddr.toList) _ 28
      (by simp only [message, back, List.append_assoc]; rfl) (by simp)
  have hcookie : Frame.field (r.message giaddr) 236 4 = Reply.magicCookie :=
    field_of_append (r.front ++ giaddr.toList ++ r.clientEtherAddr.toList ++
      List.replicate 10 0 ++ List.replicate 192 0) Reply.magicCookie 236
      (by simp only [message, back, List.append_assoc]; rfl) (by simp [-List.reduceReplicate])
  have hlen : 240 ≤ (r.message giaddr).length := by
    rw [length_message]
    omega
  rw [Reply.decode, if_pos ⟨hlen, hbyte 1 (by omega), hbyte 2 (by omega), hcookie⟩,
    (walk_message_iff r giaddr).mpr h, hbyte 0 (by omega), hxid, hyiaddr, hchaddr]
  rfl

end Response

end DHCP

/-- The four octets of the number read the same from either end. -/
def Palindromic (v : UInt32) : Prop :=
  v.toNat % 256 = v.toNat / 16777216 ∧ v.toNat / 256 % 256 = v.toNat / 65536 % 256

instance (v : UInt32) : Decidable (Palindromic v) := inferInstanceAs (Decidable (_ ∧ _))

/-- A number in the order of the host is read back by the order of the network
only if the order does not matter. -/
theorem ntohl_hostWord_iff (v : UInt32) : ntohl (hostWord v) = v ↔ Palindromic v := by
  have hv : v.toNat < 4294967296 := v.toNat_lt
  obtain ⟨a, ha⟩ : ∃ a, a = v.toNat % 256 := ⟨_, rfl⟩
  obtain ⟨b, hb⟩ : ∃ b, b = v.toNat / 256 % 256 := ⟨_, rfl⟩
  obtain ⟨c, hc⟩ : ∃ c, c = v.toNat / 65536 % 256 := ⟨_, rfl⟩
  obtain ⟨d, hd⟩ : ∃ d, d = v.toNat / 16777216 := ⟨_, rfl⟩
  have hvalue : v.toNat = ((d * 256 + c) * 256 + b) * 256 + a := by omega
  rw [← UInt32.toNat_inj, Palindromic]
  simp only [ntohl, hostWord, UInt32.toNat_ofNat', UInt8.toNat_ofNat', Vector.getElem_mk,
    List.getElem_toArray, List.getElem_cons_zero, List.getElem_cons_succ, ← ha, ← hb, ← hc, ← hd]
  have ha' : a < 2 ^ 8 := by omega
  have hb' : b < 2 ^ 8 := by omega
  have hc' : c < 2 ^ 8 := by omega
  have hd' : d < 2 ^ 8 := by omega
  rw [Nat.mod_eq_of_lt ha', Nat.mod_eq_of_lt hb', Nat.mod_eq_of_lt hc', Nat.mod_eq_of_lt hd', hvalue]
  clear ha hb hc hd hvalue
  rw [Nat.mod_eq_of_lt (by omega)]
  constructor
  · intro h
    -- the last digits agree, and then the ones before
    have had : a = d := by omega
    subst had
    exact ⟨rfl, by omega⟩
  · rintro ⟨rfl, rfl⟩
    rfl

end GatewaySocket
