import GatewaySocket.Gateway.Intake

/-!
# DHCP stays on its side

The inside loop takes the datagrams of DHCP clients for the database, and the
outside loop drops those of DHCP servers; neither forwards them. What the gateway
forwards keeps its EtherType, its IP header and its ports, and what it makes
itself is an ICMP packet, so no datagram between these ports gets across by
another way.
-/

namespace GatewaySocket

open ByteMemory

namespace Frame

variable {f out : Frame} {src dst : UInt16}

theorem field_congr {pos n : ℕ} (h : ∀ i, pos ≤ i → i < pos + n → out[i]? = f[i]?) :
    out.field pos n = f.field pos n := by
  apply load_congr
  intro i hlo hhi
  simp only [ofList, List.getD_eq_getElem?_getD, h i hlo hhi]

/-- The frame `out` is `f`, but for the hardware addresses in it. -/
structure Readdressed (f out : Frame) : Prop where
  length_eq : out.length = f.length
  etherType_eq : out.etherType = f.etherType
  packet_eq : f.IsIPv4 → ∀ i, 12 ≤ i → out[i]? = f[i]?

theorem Readdressed.refl (f : Frame) : Readdressed f f := ⟨rfl, rfl, fun _ _ _ => rfl⟩

/-- New hardware addresses make no datagram of what was none. -/
theorem Readdressed.isUDP (h : Readdressed f out) (hudp : out.IsUDP src dst) :
    f.IsUDP src dst := by
  obtain ⟨⟨hlen, htype⟩, hproto, hsrc, hdst⟩ := hudp
  have hip : f.IsIPv4 := ⟨h.length_eq ▸ hlen, h.etherType_eq ▸ htype⟩
  have hsame := h.packet_eq hip
  have hbyte : ∀ i, 12 ≤ i → out.getD i 0 = f.getD i 0 := by
    intro i hi
    rw [List.getD_eq_getElem?_getD, hsame i hi, ← List.getD_eq_getElem?_getD]
  have hheader : out.ipHeaderLength = f.ipHeaderLength := by
    rw [ipHeaderLength, hbyte 14 (by omega), ipHeaderLength]
  have hfield : ∀ pos, 12 ≤ pos → out.field pos 2 = f.field pos 2 :=
    fun pos hpos => field_congr fun i hi _ => hsame i (by omega)
  refine ⟨hip, ?_, ?_, ?_⟩
  · rw [← hproto, ipProtocol, ipProtocol, hbyte 23 (by omega)]
  · rw [← hsrc, udpSource, udpSource, hheader, hfield _ (by omega)]
  · rw [← hdst, udpDestination, udpDestination, hheader, hfield _ (by omega)]

end Frame

namespace Packet

/-- The packet holds `f`, but for the hardware addresses in it. -/
def HoldsReaddressed (p : Packet) (f : Frame) : Prop :=
  ∃ f', p.Holds f' ∧ f.Readdressed f'

variable {p : Packet} {f out : Frame}

theorem Holds.readdressed (h : p.Holds f) : p.HoldsReaddressed f := ⟨f, h, .refl f⟩

/-- A write in front of the EtherType keeps the rest. -/
theorem HoldsReaddressed.writeByteArray (h : p.HoldsReaddressed f) {pos : ℕ} {bytes : List UInt8}
    (hpos : pos + bytes.length ≤ 12) : (p.writeByteArray pos bytes).HoldsReaddressed f := by
  obtain ⟨f', hp, hf⟩ := h
  obtain ⟨f'', hp', hlen, hsame⟩ := hp.exists_writeByteArray pos bytes
  refine ⟨f'', hp', hlen.trans hf.length_eq, ?_, ?_⟩
  · rw [Frame.etherType, Frame.field_congr fun i hi _ => hsame i (by omega)]
    exact hf.etherType_eq
  · intro hip i hi
    rw [hsame i (by omega), hf.packet_eq hip i hi]

/-- In a frame that is no IPv4 packet so does one behind the EtherType. -/
theorem HoldsReaddressed.writeByteArray_of_not_isIPv4 (h : p.HoldsReaddressed f)
    (hip : ¬f.IsIPv4) {pos : ℕ} {bytes : List UInt8} (hpos : 14 ≤ pos) :
    (p.writeByteArray pos bytes).HoldsReaddressed f := by
  obtain ⟨f', hp, hf⟩ := h
  obtain ⟨f'', hp', hlen, hsame⟩ := hp.exists_writeByteArray pos bytes
  refine ⟨f'', hp', hlen.trans hf.length_eq, ?_, fun hip' => absurd hip' hip⟩
  rw [Frame.etherType, Frame.field_congr fun i _ hi => hsame i (by omega)]
  exact hf.etherType_eq

theorem HoldsReaddressed.setSource (h : p.HoldsReaddressed f) (mac : EtherAddr) :
    (Ethernet.setSource p 0 mac).HoldsReaddressed f :=
  h.writeByteArray (by simp)

theorem HoldsReaddressed.setDestination (h : p.HoldsReaddressed f) (mac : EtherAddr) :
    (Ethernet.setDestination p 0 mac).HoldsReaddressed f :=
  h.writeByteArray (by simp)

theorem HoldsReaddressed.setSourceMAC (h : p.HoldsReaddressed f) (hip : ¬f.IsIPv4)
    (mac : EtherAddr) : (ARP.setSourceMAC p 14 mac).HoldsReaddressed f :=
  h.writeByteArray_of_not_isIPv4 hip (by omega)

theorem HoldsReaddressed.setDestinationMAC (h : p.HoldsReaddressed f) (hip : ¬f.IsIPv4)
    (mac : EtherAddr) : (ARP.setDestinationMAC p 14 mac).HoldsReaddressed f :=
  h.writeByteArray_of_not_isIPv4 hip (by omega)

theorem HoldsReaddressed.of_mem_writePacket (h : p.HoldsReaddressed f)
    (hout : out ∈ Device.writePacket p.inMemory p.getLength) : f.Readdressed out := by
  obtain ⟨f', hp, hf⟩ := h
  rw [hp.writePacket] at hout
  obtain rfl := List.mem_singleton.mp hout
  exact hf

end Packet

namespace Gateway

variable {g g' : Gateway} {p q : Packet} {f out : Frame} {u : Indeterminate} {t : UInt64}
  {e : Effect} {user : Option (InAddr × UserInfo)} {src dst : UInt16}

/-! ## Datagrams that are not forwarded -/

/-- A datagram of a DHCP client is not forwarded to the outside. -/
theorem toOutside_of_client (h : g.inside t p f u = some e) (hudp : f.IsUDP 68 67) :
    e.toOutside = [] := by
  rcases inside_cases h with ⟨-, -, hnone, -⟩ |
    ⟨hlen, -, buf, -, hbuf, ⟨-, rfl⟩ | ⟨r, -, rfl⟩ | ⟨q, user, hv, rfl⟩⟩
  · exact hnone
  · rfl
  · rfl
  · rw [insideVerdict_of_isIPv4 hbuf hudp.1, if_pos hudp] at hv
    split at hv
    · contradiction
    · split at hv <;> contradiction

/-- A datagram of a DHCP server is not forwarded to the inside. -/
theorem toInside_of_server (hudp : f.IsUDP 67 68) : (g.outside p f u).toInside = [] := by
  rcases outside_cases g p f u with ⟨-, -, hnone⟩ | ⟨-, buf, hbuf, -, hlist⟩
  · exact hnone
  · rw [outsideVerdict_of_isIPv4 hbuf hudp.1] at hlist
    rcases outsideIP_cases g buf f.length u with hdrop | ⟨hlong, hserver, -⟩
    · rw [hlist, hdrop]
    · have hread := hbuf.readsIPv4 (hbuf.ipNextOffset_of_long hlong).1
      rw [IsServerDHCP, hread.nextOffset, hread.protocol, hread.udpSource,
        hread.udpDestination] at hserver
      exact absurd hudp.2 hserver

/-! ## What is forwarded -/

theorem Passes.readdressed {destIP srcIP : InAddr} {mac : EtherAddr}
    {rewrite : EtherAddr → Packet} (hp : p.HoldsReaddressed f)
    (hrewrite : ∀ mac, (rewrite mac).HoldsReaddressed f)
    (h : Passes g p destIP srcIP mac rewrite q user) : q.HoldsReaddressed f := by
  cases h with
  | owned info mac hdest huser hstatic hmac => exact hrewrite mac
  | foreign hdest huser hstatic => exact hp

theorem Delivers.readdressed {arp : Prop} {destIP srcIP : InAddr} {mac : EtherAddr}
    {rewrite : EtherAddr → Packet} (hp : p.HoldsReaddressed f)
    (hrewrite : ∀ mac, (rewrite mac).HoldsReaddressed f)
    (h : Delivers arp g p destIP srcIP mac rewrite g' q) : q.HoldsReaddressed f := by
  cases h with
  | translated mac info hsrc hstatic huser hmac => exact hrewrite info.userMac
  | unowned mac harp hsrc hstatic huser => exact hp
  | stale info hsrc hstatic huser => exact hp
  | foreign hsrc hstatic huser => exact hp

theorem not_isIPv4_of_etherType (hp : p.Holds f) (h : Ethernet.getProtocol p 0 = ethertypeArp) :
    ¬f.IsIPv4 := by
  intro hip
  rw [hp.getProtocol hip.1, hip.2] at h
  contradiction

/-- What goes outside is what came from inside, with other hardware addresses. -/
theorem readdressed_of_insideVerdict (hp : p.Holds f)
    (hv : g.insideVerdict p f.length u = .pass q user) : q.HoldsReaddressed f := by
  unfold insideVerdict at hv
  split at hv
  · next harp =>
      have hip := not_isIPv4_of_etherType hp harp
      rw [insideARP_eq] at hv
      split at hv
      · exact (passes_of_outbound hv).readdressed hp.readdressed fun mac =>
          (hp.readdressed.setSourceMAC hip mac).setSource mac
      · contradiction
  · split at hv
    · obtain ⟨-, hout⟩ := outbound_of_insideIP hv (by simp) (by simp)
      exact (passes_of_outbound hout).readdressed hp.readdressed fun mac =>
        hp.readdressed.setSource mac
    · injection hv with hpacket
      exact hpacket ▸ hp.readdressed

/-- What goes inside is what came from outside, with other hardware addresses. -/
theorem readdressed_of_outsideVerdict (hp : p.Holds f)
    (hv : (g.outsideVerdict p f.length u).2 = some q) : q.HoldsReaddressed f := by
  unfold outsideVerdict at hv
  split at hv
  · next harp =>
      have hip := not_isIPv4_of_etherType hp harp
      rcases outsideARP_cases g p u with hdrop | ⟨-, g', q', hdel, hout⟩
      · rw [hdrop] at hv
        contradiction
      · rw [hout] at hv
        obtain rfl := Option.some.inj hv
        exact hdel.readdressed hp.readdressed fun mac =>
          (hp.readdressed.setDestinationMAC hip mac).setDestination mac
  · split at hv
    · rcases outsideIP_cases g p f.length u with hdrop | ⟨-, -, g', q', hdel, hout⟩
      · rw [hdrop] at hv
        contradiction
      · obtain rfl : q' = q := by
          rw [hout] at hv
          split at hv
          · contradiction
          · exact Option.some.inj hv
        exact hdel.readdressed hp.readdressed fun mac => hp.readdressed.setDestination mac
    · obtain rfl := Option.some.inj hv
      exact hp.readdressed

theorem not_isUDP_icmpMtu {mtu : UInt16} (h : out ∈ icmpMtu p mtu u) : ¬out.IsUDP src dst := by
  rintro ⟨-, hproto, -⟩
  rw [ipProtocol_icmpMtu h] at hproto
  contradiction

/-- A datagram written to the outside was received inside, between the same ports. -/
theorem isUDP_of_inside (h : g.inside t p f u = some e) (hout : out ∈ e.toOutside)
    (hudp : out.IsUDP src dst) : f.IsUDP src dst := by
  rcases inside_cases h with ⟨-, -, hnone, -⟩ |
    ⟨-, -, buf, -, hbuf, ⟨-, rfl⟩ | ⟨r, -, rfl⟩ | ⟨q, user, hv, rfl⟩⟩
  · rw [hnone] at hout
    contradiction
  · contradiction
  · contradiction
  · exact ((readdressed_of_insideVerdict hbuf hv).of_mem_writePacket hout).isUDP hudp

theorem isUDP_of_outside (hout : out ∈ (g.outside p f u).toInside) (hudp : out.IsUDP src dst) :
    f.IsUDP src dst := by
  rcases outside_cases g p f u with ⟨-, -, hnone⟩ | ⟨-, buf, hbuf, -, hlist⟩
  · rw [hnone] at hout
    contradiction
  · rw [hlist] at hout
    split at hout
    · contradiction
    · next q hv =>
        exact ((readdressed_of_outsideVerdict hbuf hv).of_mem_writePacket hout).isUDP hudp

/-- Back to where it came from the gateway sends no datagram. -/
theorem not_isUDP_toInside_inside (h : g.inside t p f u = some e) (hout : out ∈ e.toInside) :
    ¬out.IsUDP src dst := by
  simp only [inside] at h
  split at h
  · obtain rfl := Option.some.inj h
    dsimp only at hout
    exact not_isUDP_icmpMtu hout
  split at h
  · obtain rfl := Option.some.inj h
    contradiction
  split at h
  · contradiction
  all_goals
    obtain rfl := Option.some.inj h
    contradiction

theorem not_isUDP_toOutside_outside (hout : out ∈ (g.outside p f u).toOutside) :
    ¬out.IsUDP src dst := by
  simp only [outside] at hout
  split at hout
  · dsimp only at hout
    exact not_isUDP_icmpMtu hout
  · split at hout <;> contradiction

end Gateway

namespace Loop

variable {l l' : Loop} {a : Action} {e : Emission} {out : Frame}

/-- Whatever the loop does, no datagram of a DHCP client gets outside. -/
theorem not_client_toOutside (h : l.exec a = some (l', e)) (hout : out ∈ e.toOutside) :
    ¬out.IsUDP 68 67 := by
  intro hudp
  cases execs_of_exec h with
  | inside hplace heffect =>
      rw [Gateway.toOutside_of_client heffect (Gateway.isUDP_of_inside heffect hout hudp)] at hout
      contradiction
  | outside hplace => exact Gateway.not_isUDP_toOutside_outside hout hudp
  | call c | handle hplace hready | quiet ha hgateway => contradiction

/-- A datagram of a DHCP server gets inside only out of the queue of `send_packet`. -/
theorem queued_of_server_toInside (h : l.exec a = some (l', e)) (hout : out ∈ e.toInside)
    (hudp : out.IsUDP 67 68) :
    a = .handle .sendPacket ∧ ∃ packet ∈ l.gateway.sendPacketRequestQueue.queue,
      out ∈ Device.writePacket packet.inMemory packet.getLength := by
  cases execs_of_exec h with
  | inside hplace heffect => exact absurd hudp (Gateway.not_isUDP_toInside_inside heffect hout)
  | @outside frame u rounds hplace =>
      have hnone : (l.gateway.outside l.outPacket frame u).toInside = [] :=
        Gateway.toInside_of_server (Gateway.isUDP_of_outside hout hudp)
      rw [hnone] at hout
      contradiction
  | @handle handler ready hplace hready =>
      cases handler with
      | sendPacket => exact ⟨rfl, by simpa [Gateway.handle, Gateway.sendPacketHandler] using hout⟩
      | _ => contradiction
  | call c | quiet ha hgateway => contradiction

end Loop

end GatewaySocket
