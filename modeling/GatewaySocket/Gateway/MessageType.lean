import GatewaySocket.Gateway.Isolation
import GatewaySocket.Gateway.Length
import GatewaySocket.Packet.Reply

/-!
# The type of a DHCP message

A client may write its options in any order, and the type of its message is that
of option 53 wherever it stands. The gateway looks at one place only, the third
byte behind the magic cookie. The two agree on a frame exactly as far as option 53
comes first, or the byte at that place happens to be the same.
-/

namespace GatewaySocket

open ByteMemory TypeLengthValue

namespace Frame

/-- The options of the DHCP message, as far as the walk over them gets. -/
def dhcpOptions (f : Frame) : List Item := (walk (f.drop (f.udpPayload + 240))).1

/-- The DHCP message has the magic cookie and, as its option 53, this type. -/
def CarriesType (f : Frame) (messageType : UInt8) : Prop :=
  f.udpPayload + 240 ≤ f.length ∧ f.field (f.udpPayload + 236) 4 = DHCP.Reply.magicCookie ∧
    find 53 f.dhcpOptions = some [messageType]

/-- The type stands at the place where the gateway looks for it, in a frame that
the device delivers whole. -/
def ShowsType (f : Frame) (messageType : UInt8) : Prop :=
  f.length ≤ 1514 ∧ f.udpPayload + 243 ≤ f.length ∧ f.dhcpMessageType = messageType

instance (f : Frame) (messageType : UInt8) : Decidable (f.CarriesType messageType) :=
  inferInstanceAs (Decidable (_ ∧ _))

instance (f : Frame) (messageType : UInt8) : Decidable (f.ShowsType messageType) :=
  inferInstanceAs (Decidable (_ ∧ _))

end Frame

namespace Gateway

variable {g : Gateway} {p : Packet} {f : Frame} {u : Indeterminate} {t : UInt64}
  {messageType : UInt8}

/-- The inside loop queues a DHCP request of this type for the frame. -/
def Queues (g : Gateway) (t : UInt64) (p : Packet) (f : Frame) (u : Indeterminate)
    (messageType : UInt8) : Prop :=
  ∃ e, g.inside t p f u = some e ∧ ∃ r ∈ e.dhcp, r.messageType = messageType

/-- A whole message of a client that names itself goes to the intake. -/
theorem insideVerdict_of_client (hp : p.Holds f) (hudp : f.IsUDP 68 67) (htaken : f.IsTakenIn) :
    g.insideVerdict p f.length u = .createDHCP f.dhcpRequest := by
  have hlong : ¬f.length < 28 + f.ipHeaderLength := by
    have hpayload : f.udpPayload = 22 + f.ipHeaderLength := rfl
    have hwhole := htaken.2.1
    omega
  rw [insideVerdict_of_isIPv4 hp hudp.1, if_neg hlong, if_pos hudp, if_pos htaken]

/-- A request is queued for the type that the frame shows. -/
theorem queues_iff (hudp : f.IsUDP 68 67) (hop : f.dhcpOpcode = 1)
    (hv : messageType = 1 ∨ messageType = 3) :
    Queues g t p f u messageType ↔
      f.ShowsType messageType ∧ f.dhcpClientMAC = f.etherSource := by
  constructor
  · rintro ⟨e, he, r, hr, rfl⟩
    have hboot := isBootRequest_of_inside he hr
    refine ⟨⟨?_, hboot.complete, hboot.type⟩, hboot.client.trans hboot.sender.symm⟩
    rcases inside_cases he with ⟨-, -, -, hnone, -⟩ | ⟨-, hfits, -⟩
    · rw [hnone] at hr
      contradiction
    · exact hfits
  · rintro ⟨⟨hfits, hlen, rfl⟩, hmac⟩
    have hp := p.received_holds hfits
    have hverdict : g.insideVerdict (p.received f) f.length u = _ :=
      insideVerdict_of_client hp hudp ⟨hop, hlen, hv, hmac⟩
    have hinside : g.inside t p f u = some {
        gateway := g
        packet := p.received f
        dhcp := [f.dhcpRequest] } := by
      simp only [Packet.received] at hverdict ⊢
      simp only [inside, if_neg (not_oversized hfits), if_neg (not_headerless hudp.1.1), hverdict]
    refine ⟨_, hinside, _, List.mem_singleton.mpr rfl, ?_⟩
    simp only [DhcpRequest.messageType, Frame.dhcpRequest]
    rcases hv with h | h <;> simp [h]

/-- **The message type.** For a message of a client, what the gateway takes it for
agrees with its option 53 if and only if the client names another than itself, or
the frame shows just the types it carries. -/
theorem message_type_iff (g : Gateway) (t : UInt64) (p : Packet) (u : Indeterminate)
    (hudp : f.IsUDP 68 67) (hop : f.dhcpOpcode = 1) :
    (∀ v, v = 1 ∨ v = 3 → (Queues g t p f u v → f.CarriesType v) ∧
        (f.CarriesType v → f.dhcpClientMAC = f.etherSource → Queues g t p f u v)) ↔
      (f.dhcpClientMAC = f.etherSource → ∀ v, v = 1 ∨ v = 3 → (f.ShowsType v ↔ f.CarriesType v)) := by
  constructor
  · intro h hmac v hv
    obtain ⟨honly, hall⟩ := h v hv
    rw [queues_iff hudp hop hv] at honly hall
    exact ⟨fun hshows => honly ⟨hshows, hmac⟩, fun hcarries => (hall hcarries hmac).1⟩
  · intro h v hv
    rw [queues_iff hudp hop hv]
    exact ⟨fun hqueued => (h hqueued.2 v hv).mp hqueued.1,
      fun hcarries hmac => ⟨(h hmac v hv).mpr hcarries, hmac⟩⟩

/-- Where option 53 comes first the gateway takes it in. -/
theorem message_type_first :
    Queues sample 1 sampleBuffer (bootRequest sampleUserMAC 3) default 3 :=
  ((message_type_iff sample 1 sampleBuffer default (f := bootRequest sampleUserMAC 3)
    (by decide +kernel) (by decide +kernel)).mpr (by
      rintro - v (rfl | rfl) <;> decide +kernel) 3 (.inr rfl)).2 (by decide +kernel)
    (by decide +kernel)

/-- A REQUEST that names its client in option 61 before it comes to option 53. -/
def clientIdRequest (mac : EtherAddr) : Frame :=
  (bootRequest mac 3).dropLast.dropLast.dropLast ++ [61, 7, 1] ++ mac.toList ++ [53, 1, 3, 255]

/-- The gateway takes it for a DISCOVER: the byte it looks at says Ethernet. -/
theorem request_taken_for_discover :
    (clientIdRequest sampleUserMAC).IsUDP 68 67 ∧
      (clientIdRequest sampleUserMAC).dhcpOpcode = 1 ∧
      (clientIdRequest sampleUserMAC).dhcpClientMAC = (clientIdRequest sampleUserMAC).etherSource ∧
      (clientIdRequest sampleUserMAC).CarriesType 3 ∧
      ¬(clientIdRequest sampleUserMAC).CarriesType 1 ∧
      (sample.inside 1 sampleBuffer (clientIdRequest sampleUserMAC) default).map
        (fun e => e.dhcp.map DhcpRequest.messageType) = some [1] := by
  decide +kernel

end Gateway

end GatewaySocket
