import GatewaySocket.Database.Assigned
import GatewaySocket.Packet.Datagram
import GatewaySocket.Packet.Reply

/-!
# The response that answers a request

`create_dhcp` hands its arguments to `writeResponse` and the payload to
`makePacket`, and looks at the results of neither. A client reads the payload as
the server meant it, but for the lease time, which has the wrong byte order. The
options are framed well for up to 63 servers; with more the length of the last
option is cut to a byte, and from 300 on the packet is passed on with the length
-1.
-/

namespace GatewaySocket

open ByteMemory TypeLengthValue

section

variable (cfg : Config) (request : DhcpRequest) (ipAddr : InAddr) (leaseTime : UInt32)
  (u : Indeterminate)

/-- What `create_dhcp` gives to `writeResponse`. -/
def responseTo : DHCP.Response where
  discover := request.isDiscover
  mtu := htons request.mtu
  transactionId := request.transID
  clientInAddr := ipAddr
  clientEtherAddr := request.mac
  serverIdentifier := cfg.gatewayIP
  subnetMask := cfg.subnetMask
  router := cfg.gatewayIP
  dnsVector := cfg.dnsList
  leaseTime

/-- The packet that it has `writeResponse` fill. -/
def responseBuffer : Packet :=
  (Packet.new myPacketLen (u.heap 1)).setLength ((myPacketLen - UDP.totalHeaderLen : ℕ) : ℤ)

/-- The filled packet, with the returned length. -/
def response : Packet × ℤ :=
  (responseTo cfg request ipAddr leaseTime).write (responseBuffer u) 0

/-- The payload, as long as the returned length says. -/
def payload : List UInt8 :=
  image (response cfg request ipAddr leaseTime u).1.inMemory
    (response cfg request ipAddr leaseTime u).2.toNat

/-- The datagram that carries an answer. -/
def answerDatagram (cfg : Config) (request : DhcpRequest) (ip : InAddr) (u : Indeterminate) :
    UDP.Datagram where
  etherSrc := (readMAC "78:19:f7:58:30:01").getD (Vector.replicate 6 0)
  etherDst := request.mac
  ipSrc := cfg.gatewayIP
  ipDst := ip
  pSrc := 67
  pDst := 68
  data := payload cfg request ip dhcpTimeout u

/-- The packet of an answer is made of the payload with the lease time of the server. -/
theorem answer_packet : (answer cfg request ipAddr u).packet =
    let made := (answerDatagram cfg request ipAddr u).make
      ((Packet.new myPacketLen (u.heap 0)).setLength myPacketLen) u
    made.1.setLength made.2 := rfl

end

variable {cfg : Config} {request : DhcpRequest} {ipAddr : InAddr} {leaseTime : UInt32}
  {u : Indeterminate} {packet : Packet}

theorem response_snd : (response cfg request ipAddr leaseTime u).2 =
    ((274 + cfg.dnsList.length * 4 : ℕ) : ℤ) :=
  DHCP.Response.write_snd _ _ _

@[simp] theorem length_payload : (payload cfg request ipAddr leaseTime u).length =
    274 + cfg.dnsList.length * 4 := by
  rw [payload, image_length, response_snd, Int.toNat_natCast]

theorem response_fits_iff :
    (response cfg request ipAddr leaseTime u).2 ≤ (responseBuffer u).writtenByte ↔
      cfg.dnsList.length ≤ 299 := by
  have hbuffer : (responseBuffer u).writtenByte = 1472 := rfl
  rw [response_snd, hbuffer]
  omega

theorem length_answerDatagram : (answerDatagram cfg request ipAddr u).data.length =
    274 + cfg.dnsList.length * 4 := length_payload

/-- The packet of an answer that fits holds the frame of its datagram. -/
theorem answer_packet_eq (hdns : cfg.dnsList.length ≤ 63) :
    (answer cfg request ipAddr u).packet =
      (Packet.mk myPacketLen ((answerDatagram cfg request ipAddr u).frame.length : ℤ)
        (u.heap 0)).front (answerDatagram cfg request ipAddr u).frame := by
  have hfits : UDP.totalHeaderLen + (answerDatagram cfg request ipAddr u).data.length ≤ 1514 := by
    have hheader : UDP.totalHeaderLen = 42 := rfl
    rw [length_answerDatagram]
    omega
  rw [answer_packet, UDP.Datagram.make_eq hfits (Int.ofNat_le.mpr hfits),
    UDP.Datagram.length_frame]
  rfl

/-- A payload that fits lies in the buffer as the message of the response. -/
theorem inMemory_response (h : cfg.dnsList.length ≤ 299) {i : ℕ}
    (hi : (i : ℤ) < (response cfg request ipAddr leaseTime u).2) :
    (response cfg request ipAddr leaseTime u).1.inMemory i =
      ((responseTo cfg request ipAddr leaseTime).message (load (u.heap 1) 24 4)).getD i 0 := by
  have hfits : (response cfg request ipAddr leaseTime u).2 ≤ (responseBuffer u).writtenByte :=
    response_fits_iff.mpr h
  have hbyte : (response cfg request ipAddr leaseTime u).1.inMemory (0 + i) = _ :=
    DHCP.Response.inMemory_write (by simpa [response] using hfits) hi
  simpa [responseBuffer, Packet.new, Packet.setLength] using hbyte

theorem payload_eq (h : cfg.dnsList.length ≤ 299) :
    payload cfg request ipAddr leaseTime u =
      (responseTo cfg request ipAddr leaseTime).message (load (u.heap 1) 24 4) := by
  apply List.ext_getElem
  · rw [length_payload, DHCP.Response.length_message]
    rfl
  · intro i hi hi'
    have hlt : (i : ℤ) < (response cfg request ipAddr leaseTime u).2 := by
      rw [length_payload] at hi
      rw [response_snd]
      omega
    rw [← List.getD_eq_getElem _ 0 hi, ← List.getD_eq_getElem _ 0 hi', payload,
      image_getD _ (by omega), inMemory_response h hlt]

/-! ## What the client reads -/

/-- The reply says to the client what the server meant. -/
structure Means (cfg : Config) (request : DhcpRequest) (ipAddr : InAddr) (leaseTime : UInt32)
    (reply : DHCP.Reply) : Prop where
  op : reply.op = 2
  xid : reply.xid = request.transID
  yiaddr : reply.yiaddr = ipAddr
  chaddr : reply.chaddr = request.mac
  messageType : reply.messageType = some (if request.isDiscover then 2 else 5)
  serverIdentifier : reply.serverIdentifier = some cfg.gatewayIP
  leaseTime : reply.leaseTime = some leaseTime
  subnetMask : reply.subnetMask = some cfg.subnetMask
  routers : reply.routers = some [cfg.gatewayIP]
  interfaceMtu : reply.interfaceMtu = some request.mtu
  domainNameServers : reply.domainNameServers = some cfg.dnsList

/-- The reply that the client reads. -/
def replyOf (cfg : Config) (request : DhcpRequest) (ipAddr : InAddr) (leaseTime : UInt32) :
    DHCP.Reply where
  op := 2
  xid := request.transID
  yiaddr := ipAddr
  chaddr := request.mac
  options := (responseTo cfg request ipAddr leaseTime).options

theorem decode_payload (h : cfg.dnsList.length ≤ 63) :
    DHCP.Reply.decode (payload cfg request ipAddr leaseTime u) =
      some (replyOf cfg request ipAddr leaseTime) := by
  rw [payload_eq (by omega)]
  exact DHCP.Response.decode_message _ _ h

/-- The lease time is read in the order of the network as it lies in the host. -/
theorem leaseTime_replyOf :
    (replyOf cfg request ipAddr leaseTime).leaseTime = some (ntohl (hostWord leaseTime)) := by
  simp [DHCP.Reply.leaseTime, DHCP.Reply.option, replyOf, responseTo, DHCP.Response.options,
    find]

theorem routers_option (ip : InAddr) : DHCP.someAddresses ip.toList = some [ip] := by
  simpa using DHCP.someAddresses_flatMap (List.cons_ne_nil ip [])

/-- **What the client decodes.** With one to 63 servers the client reads all that
the server meant if and only if the octets of the lease time read the same from
either end. -/
theorem decoded_iff (hdns : cfg.dnsList ≠ []) (hlen : cfg.dnsList.length ≤ 63) :
    (∃ reply, DHCP.Reply.decode (payload cfg request ipAddr leaseTime u) = some reply ∧
      Means cfg request ipAddr leaseTime reply) ↔ Palindromic leaseTime := by
  rw [← ntohl_hostWord_iff]
  constructor
  · rintro ⟨reply, hreply, hmeans⟩
    rw [decode_payload hlen] at hreply
    obtain rfl := Option.some.inj hreply
    have hlease := hmeans.leaseTime
    rw [leaseTime_replyOf] at hlease
    exact Option.some.inj hlease
  · intro hlease
    refine ⟨_, decode_payload hlen, ?_⟩
    have hoption : ∀ code, (replyOf cfg request ipAddr leaseTime).option code =
        find code (responseTo cfg request ipAddr leaseTime).options := fun _ => rfl
    exact {
      op := rfl
      xid := rfl
      yiaddr := rfl
      chaddr := rfl
      messageType := by
        rw [DHCP.Reply.messageType, hoption]
        rfl
      serverIdentifier := by
        simp [DHCP.Reply.serverIdentifier, hoption, responseTo, DHCP.Response.options, find]
      leaseTime := by rw [leaseTime_replyOf, hlease]
      subnetMask := by
        simp [DHCP.Reply.subnetMask, hoption, responseTo, DHCP.Response.options, find]
      routers := by
        simp [DHCP.Reply.routers, hoption, responseTo, DHCP.Response.options, find,
          routers_option]
      interfaceMtu := by
        simp [DHCP.Reply.interfaceMtu, hoption, responseTo, DHCP.Response.options, find,
          ntohs_htons]
      domainNameServers := by
        simp [DHCP.Reply.domainNameServers, hoption, responseTo, DHCP.Response.options,
          find, DHCP.someAddresses_flatMap hdns] }

/-- A server with so many name servers. -/
def sampleServers (count : ℕ) : Config :=
  { Tables.sampleConfig with dnsList := List.replicate count sampleIP }

theorem length_sampleServers (count : ℕ) : (sampleServers count).dnsList.length = count :=
  List.length_replicate

def sampleDiscover : DhcpRequest := ⟨sampleMAC 8, Vector.replicate 4 1, myMtu, true⟩

/-- With a lease time of zero nothing can go wrong. -/
theorem decoded_zero : ∃ reply, DHCP.Reply.decode
      (payload (sampleServers 2) sampleDiscover sampleIP 0 default) = some reply ∧
    Means (sampleServers 2) sampleDiscover sampleIP 0 reply :=
  (decoded_iff (by decide) (by decide)).mpr (by decide)

/-- The two hours of the server are read as 538705920 seconds, seventeen years. -/
theorem lease_time_reversed :
    ∃ reply, DHCP.Reply.decode
        (payload (sampleServers 1) sampleDiscover sampleIP dhcpTimeout default) = some reply ∧
      reply.leaseTime = some 538705920 ∧
      ¬Means (sampleServers 1) sampleDiscover sampleIP dhcpTimeout reply := by
  have hlease : (replyOf (sampleServers 1) sampleDiscover sampleIP dhcpTimeout).leaseTime =
      some 538705920 := by
    rw [leaseTime_replyOf]
    decide
  refine ⟨_, decode_payload (by decide), hlease, fun hmeans => ?_⟩
  have hmeant := hmeans.leaseTime
  rw [hlease] at hmeant
  contradiction

/-! ## The frame of the options -/

/-- The payload is framed well and goes out whole: the walk over the options meets
those that were encoded and ends with the last byte, all bytes lie in the buffer
and were written, but for those that `Unwritten` names, and the packet carries
them. -/
structure Framed (Unwritten : ℕ → Prop) (cfg : Config) (request : DhcpRequest) (ipAddr : InAddr)
    (u : Indeterminate) (packet : Packet) : Prop where
  walk : walk ((payload cfg request ipAddr dhcpTimeout u).drop 240) =
    ((responseTo cfg request ipAddr dhcpTimeout).options, some [])
  fits : (response cfg request ipAddr dhcpTimeout u).2 ≤ (responseBuffer u).writtenByte
  written : ∀ i : ℕ, (i : ℤ) < (response cfg request ipAddr dhcpTimeout u).2 → ¬Unwritten i →
    ∀ u', (response cfg request ipAddr dhcpTimeout u').1.inMemory i =
      (response cfg request ipAddr dhcpTimeout u).1.inMemory i
  length : packet.getLength =
    (UDP.totalHeaderLen : ℤ) + (response cfg request ipAddr dhcpTimeout u).2
  carried : ∀ i, i < (payload cfg request ipAddr dhcpTimeout u).length →
    packet.inMemory (UDP.totalHeaderLen + i) =
      (payload cfg request ipAddr dhcpTimeout u).getD i 0

/-- The place of the relay agent's address in the payload. -/
def IsGiaddr (i : ℕ) : Prop := 24 ≤ i ∧ i < 28

theorem sendPacketRequest_mem_calls {a : Answer} :
    .sendPacketRequest packet ∈ a.calls ↔ packet = a.packet := by
  cases h : a.isDiscover <;> simp [Answer.calls, h]

theorem framed_of_length_le (h : cfg.dnsList.length ≤ 63) :
    Framed IsGiaddr cfg request ipAddr u (answer cfg request ipAddr u).packet := by
  refine ⟨?_, response_fits_iff.mpr (by omega), ?_, ?_, ?_⟩
  · rw [payload_eq (by omega)]
    exact (DHCP.Response.walk_message_iff _ _).mpr h
  · intro i hi hgap u'
    have hi' : (i : ℤ) < (response cfg request ipAddr dhcpTimeout u').2 := by
      rwa [response_snd] at hi ⊢
    rw [inMemory_response (by omega) hi', inMemory_response (by omega) hi]
    apply DHCP.Response.getD_message_congr
    unfold IsGiaddr at hgap
    omega
  · rw [answer_packet_eq h, Packet.getLength, Packet.writtenByte_front, UDP.Datagram.length_frame,
      length_answerDatagram, response_snd]
    push_cast
    rfl
  · intro i hi
    have hinside : UDP.totalHeaderLen + i < (answerDatagram cfg request ipAddr u).frame.length := by
      have hheader : UDP.totalHeaderLen = 42 := rfl
      rw [UDP.Datagram.length_frame, hheader]
      exact Nat.add_lt_add_left hi 42
    rw [answer_packet_eq h, Packet.inMemory_front hinside, UDP.Datagram.getD_frame_data]
    rfl

theorem Framed.length_le {Unwritten : ℕ → Prop} (h : Framed Unwritten cfg request ipAddr u packet) :
    cfg.dnsList.length ≤ 63 := by
  have hwalk := h.walk
  rw [payload_eq (response_fits_iff.mp h.fits)] at hwalk
  exact (DHCP.Response.walk_message_iff _ _).mp hwalk

/-- **The frame of the options.** What `create_dhcp` passes on is framed well, but
for the relay agent's address, if and only if the server has no more than 63 name
servers. That address is not written for any list. -/
theorem framed_iff (cfg : Config) (request : DhcpRequest) (ipAddr : InAddr) (u : Indeterminate) :
    ((∀ packet, .sendPacketRequest packet ∈ (answer cfg request ipAddr u).calls →
        Framed IsGiaddr cfg request ipAddr u packet) ↔ cfg.dnsList.length ≤ 63) ∧
      ¬∀ packet, .sendPacketRequest packet ∈ (answer cfg request ipAddr u).calls →
        Framed (fun _ => False) cfg request ipAddr u packet := by
  simp only [sendPacketRequest_mem_calls, forall_eq]
  refine ⟨⟨Framed.length_le, framed_of_length_le⟩, fun h => ?_⟩
  have hlen := response_fits_iff.mp h.fits
  -- another block has another byte there
  let u' : Indeterminate := { u with heap := fun _ _ => u.heap 1 24 + 1 }
  have hlt : ∀ v, ((24 : ℕ) : ℤ) < (response cfg request ipAddr dhcpTimeout v).2 := by
    intro v
    rw [response_snd]
    omega
  have hsame := h.written 24 (hlt u) id u'
  rw [inMemory_response hlen (hlt u'), inMemory_response hlen (hlt u),
    DHCP.Response.getD_message_giaddr _ _ (by omega) (by omega),
    DHCP.Response.getD_message_giaddr _ _ (by omega) (by omega), getElem_load,
    getElem_load] at hsame
  have hne : u.heap 1 24 + 1 ≠ u.heap 1 24 := by
    simp
  exact hne hsame

/-- With 64 servers the last option says that it is empty, and with 300 the packet
is passed on with the length -1. -/
theorem sixty_four_servers :
    ¬Framed IsGiaddr (sampleServers 64) sampleDiscover sampleIP default
        (answer (sampleServers 64) sampleDiscover sampleIP default).packet ∧
      ¬Framed IsGiaddr (sampleServers 300) sampleDiscover sampleIP default
        (answer (sampleServers 300) sampleDiscover sampleIP default).packet ∧
      (payload (sampleServers 64) sampleDiscover sampleIP dhcpTimeout default).getD 271 0 = 6 ∧
      (payload (sampleServers 64) sampleDiscover sampleIP dhcpTimeout default).getD 272 0 = 0 ∧
      (payload (sampleServers 64) sampleDiscover sampleIP dhcpTimeout default).length = 530 ∧
      (answer (sampleServers 64) sampleDiscover sampleIP default).packet.getLength = 572 ∧
      (answer (sampleServers 300) sampleDiscover sampleIP default).packet.getLength = -1 :=
  ⟨fun h => absurd h.length_le (by rw [length_sampleServers]; decide),
    fun h => absurd h.length_le (by rw [length_sampleServers]; decide), by decide +kernel⟩

end GatewaySocket
