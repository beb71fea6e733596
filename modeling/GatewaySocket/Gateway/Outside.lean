import GatewaySocket.Gateway.Inside

/-!
# Frames from outside

What the outside loop does with one frame. The ARP and the IPv4 branch treat the
same four combinations of lookups differently; `Delivers` lists what gets
through, with the extra liberties of ARP marked by its first argument. A frame
for one of the gateway's addresses arrives inside only translated to the MAC of
the user of the address, or, as an ARP message nobody owns, untouched.
-/

namespace GatewaySocket

open ByteMemory

namespace Gateway

variable {g g' : Gateway} {p q : Packet} {f : Frame} {u : Indeterminate}

/-- The ways a frame gets through the lookups of an inbound branch. -/
inductive Delivers (arp : Prop) (g : Gateway) (packet : Packet) (destIP srcIP : InAddr)
    (destMac : EtherAddr) (rewrite : EtherAddr → Packet) : Gateway → Packet → Prop
  | translated (mac : EtherAddr) (info : UserInfo) (hsrc : g.staticIPMap.find srcIP = none)
      (hstatic : g.staticIPMap.find destIP = some mac)
      (huser : g.userMap.find destIP = some info)
      (hmac : mac = destMac ∨ arp ∧ etherBroadcast = destMac) :
      Delivers arp g packet destIP srcIP destMac rewrite g (rewrite info.userMac)
  | unowned (mac : EtherAddr) (harp : arp) (hsrc : g.staticIPMap.find srcIP = none)
      (hstatic : g.staticIPMap.find destIP = some mac) (huser : g.userMap.find destIP = none) :
      Delivers arp g packet destIP srcIP destMac rewrite g packet
  | stale (info : UserInfo) (hsrc : g.staticIPMap.find srcIP = none)
      (hstatic : g.staticIPMap.find destIP = none)
      (huser : g.userMap.find destIP = some info) :
      Delivers arp g packet destIP srcIP destMac rewrite (g.removeUser destIP) packet
  | foreign (hsrc : g.staticIPMap.find srcIP = none)
      (hstatic : g.staticIPMap.find destIP = none) (huser : g.userMap.find destIP = none) :
      Delivers arp g packet destIP srcIP destMac rewrite g packet

/-- What the branches do to the gateway: at most they erase the entry of an
address that has no static entry. -/
theorem Delivers.gateway {arp : Prop} {destIP srcIP : InAddr} {destMac : EtherAddr}
    {rewrite : EtherAddr → Packet} (h : Delivers arp g p destIP srcIP destMac rewrite g' q) :
    g' = g ∨ g.staticIPMap.find destIP = none ∧ g' = g.removeUser destIP := by
  cases h with
  | translated mac info hsrc hstatic huser hmac => exact .inl rfl
  | unowned mac harp hsrc hstatic huser => exact .inl rfl
  | stale info hsrc hstatic huser => exact .inr ⟨hstatic, rfl⟩
  | foreign hsrc hstatic huser => exact .inl rfl

/-- The outcomes of the ARP branch. -/
theorem outsideARP_cases (g : Gateway) (p : Packet) (u : Indeterminate) :
    g.outsideARP p u = (g, none) ∨
      arpAccepted (ARP.getHeader p 14) = true ∧ ∃ g' q,
        Delivers True g p (ARP.getDestinationIP p 14 (u.inAddr 0))
          (ARP.getSourceIP p 14 (u.inAddr 1)) (Ethernet.getDestination p 0 (u.etherAddr 0))
          (fun mac => Ethernet.setDestination (ARP.setDestinationMAC p 14 mac) 0 mac) g' q ∧
        g.outsideARP p u = (g', some q) := by
  by_cases hacc : arpAccepted (ARP.getHeader p 14) = true
  swap
  · left
    simp [outsideARP, Ethernet.getNextOffset, hacc]
  cases hsrc : g.staticIPMap.find (ARP.getSourceIP p 14 (u.inAddr 1)) with
  | some mac =>
      left
      simp [outsideARP, Ethernet.getNextOffset, hacc, hsrc]
  | none =>
  cases hstatic : g.staticIPMap.find (ARP.getDestinationIP p 14 (u.inAddr 0)) with
  | some mac =>
      cases huser : g.userMap.find (ARP.getDestinationIP p 14 (u.inAddr 0)) with
      | some info =>
          by_cases hmac : mac ≠ Ethernet.getDestination p 0 (u.etherAddr 0) ∧
              etherBroadcast ≠ Ethernet.getDestination p 0 (u.etherAddr 0)
          · left
            simp [outsideARP, Ethernet.getNextOffset, hacc, hsrc, hstatic, huser, hmac]
          · refine .inr ⟨hacc, _, _, .translated mac info hsrc hstatic huser (by tauto), ?_⟩
            simp only [outsideARP, Ethernet.getNextOffset, Nat.zero_add, hacc, hsrc, hstatic, huser,
              if_neg hmac]
            simp
      | none =>
          refine .inr ⟨hacc, _, _, .unowned mac trivial hsrc hstatic huser, ?_⟩
          simp [outsideARP, Ethernet.getNextOffset, hacc, hsrc, hstatic, huser]
  | none =>
      cases huser : g.userMap.find (ARP.getDestinationIP p 14 (u.inAddr 0)) with
      | some info =>
          refine .inr ⟨hacc, _, _, .stale info hsrc hstatic huser, ?_⟩
          simp [outsideARP, Ethernet.getNextOffset, hacc, hsrc, hstatic, huser]
      | none =>
          refine .inr ⟨hacc, _, _, .foreign hsrc hstatic huser, ?_⟩
          simp [outsideARP, Ethernet.getNextOffset, hacc, hsrc, hstatic, huser]

/-- The packet is a DHCP message from the port of a server to that of a client. -/
def IsServerDHCP (p : Packet) (u : Indeterminate) : Prop :=
  IP.getProtocol p 14 = ipprotoUdp ∧
    UDP.getSource p (IP.getNextOffset p 14) (u.half 0) = 67 ∧
    UDP.getDestination p (IP.getNextOffset p 14) (u.half 1) = 68

/-- The outcomes of the IPv4 branch. -/
theorem outsideIP_cases (g : Gateway) (p : Packet) (n : ℤ) (u : Indeterminate) :
    g.outsideIP p n u = (g, none) ∨
      ¬n < ((14 + IP.getNextOffset p 14 : ℕ) : ℤ) ∧ ¬IsServerDHCP p u ∧ ∃ g' q,
        Delivers False g p (IP.getDestination p 14 (u.inAddr 0)) (IP.getSource p 14 (u.inAddr 1))
          (Ethernet.getDestination p 0 (u.etherAddr 0))
          (fun mac => Ethernet.setDestination p 0 mac) g' q ∧
        g.outsideIP p n u = (g', if outsideDHCP q 14 (IP.getSource p 14 (u.inAddr 1))
          (IP.getDestination p 14 (u.inAddr 0)) u then none else some q) := by
  by_cases hlong : n < ((14 + IP.getNextOffset p 14 : ℕ) : ℤ)
  · exact .inl (if_pos hlong)
  by_cases hserver : IsServerDHCP p u
  · exact .inl ((if_neg hlong).trans (if_pos hserver))
  cases hsrc : g.staticIPMap.find (IP.getSource p 14 (u.inAddr 1)) with
  | some mac =>
      left
      simp [outsideIP, Ethernet.getNextOffset, hsrc]
  | none =>
  cases hstatic : g.staticIPMap.find (IP.getDestination p 14 (u.inAddr 0)) with
  | some mac =>
      cases huser : g.userMap.find (IP.getDestination p 14 (u.inAddr 0)) with
      | some info =>
          by_cases hmac : mac = Ethernet.getDestination p 0 (u.etherAddr 0)
          · refine .inr ⟨hlong, hserver, _, _, .translated mac info hsrc hstatic huser (.inl hmac), ?_⟩
            refine (if_neg hlong).trans ((if_neg hserver).trans ?_)
            simp [Ethernet.getNextOffset, hsrc, hstatic, huser, hmac]
          · left
            simp [outsideIP, Ethernet.getNextOffset, hsrc, hstatic, huser, hmac]
      | none =>
          left
          simp [outsideIP, Ethernet.getNextOffset, hsrc, hstatic, huser]
  | none =>
      cases huser : g.userMap.find (IP.getDestination p 14 (u.inAddr 0)) with
      | some info =>
          refine .inr ⟨hlong, hserver, _, _, .stale info hsrc hstatic huser, ?_⟩
          refine (if_neg hlong).trans ((if_neg hserver).trans ?_)
          simp [Ethernet.getNextOffset, hsrc, hstatic, huser]
      | none =>
          refine .inr ⟨hlong, hserver, _, _, .foreign hsrc hstatic huser, ?_⟩
          refine (if_neg hlong).trans ((if_neg hserver).trans ?_)
          simp [Ethernet.getNextOffset, hsrc, hstatic, huser]

/-! ## One round of the loop -/

/-- The outcomes of one round: the frame was too long, or it lies in the buffer
and its verdict was carried out. -/
theorem outside_cases (g : Gateway) (p : Packet) (f : Frame) (u : Indeterminate) :
    1514 < f.length ∧ (g.outside p f u).gateway = g ∧ (g.outside p f u).toInside = [] ∨
      f.length ≤ 1514 ∧ ∃ buf : Packet, buf.Holds f ∧
        (g.outside p f u).gateway = (g.outsideVerdict buf f.length u).1 ∧
        (g.outside p f u).toInside =
          match (g.outsideVerdict buf f.length u).2 with
          | none => []
          | some q => Device.writePacket q.inMemory q.getLength := by
  by_cases hlong : (f.length : ℤ) > myPacketLen
  · left
    rw [outside]
    simp only [if_pos hlong, and_self, and_true]
    exact Int.ofNat_lt.mp hlong
  · right
    have hfits : f.length ≤ 1514 := Int.ofNat_le.mp (Int.not_lt.mp hlong)
    refine ⟨hfits, _, Packet.holds_readPacket (p := p) hfits, ?_⟩
    rw [outside]
    simp only [if_neg hlong]
    split
    · next hv => simp only [hv, and_self]
    · next hv => simp only [hv, and_self]

/-- The fields of a complete ARP frame decide what becomes of it. -/
theorem outsideVerdict_of_arp (hp : p.Holds f) (harp : f.IsARP) (hlen : 42 ≤ f.length) :
    g.outsideVerdict p f.length u = (g, none) ∨
      f.arpHeader.WellFormed ∧ ∃ g' q,
        Delivers True g p f.arpTargetIP f.arpSenderIP f.etherDestination
          (fun mac => Ethernet.setDestination (ARP.setDestinationMAC p 14 mac) 0 mac) g' q ∧
        g.outsideVerdict p f.length u = (g', some q) := by
  rw [outsideVerdict_of_isARP hp harp]
  have hcases := outsideARP_cases g p u
  rw [hp.arpHeader (by omega), hp.arpTargetIP hlen, hp.arpSenderIP hlen,
    hp.etherDestination harp.1] at hcases
  rcases hcases with hdrop | ⟨hacc, g', q, hdel, hout⟩
  · exact .inl hdrop
  · exact .inr ⟨arpAccepted_iff.mp hacc, g', q, hdel, hout⟩

/-- The fields of an IPv4 frame decide what becomes of it. -/
theorem outsideVerdict_of_ipv4 (hp : p.Holds f) (hip : f.IsIPv4) :
    g.outsideVerdict p f.length u = (g, none) ∨
      28 + f.ipHeaderLength ≤ f.length ∧ ¬IsServerDHCP p u ∧ ∃ g' q,
        Delivers False g p f.ipDestination f.ipSource f.etherDestination
          (fun mac => Ethernet.setDestination p 0 mac) g' q ∧
        g.outsideVerdict p f.length u =
          (g', if outsideDHCP q 14 f.ipSource f.ipDestination u then none else some q) := by
  rw [outsideVerdict_of_isIPv4 hp hip]
  rcases outsideIP_cases g p f.length u with hdrop | ⟨hlong, hserver, g', q, hdel, hout⟩
  · exact .inl hdrop
  · right
    obtain ⟨hlen, -⟩ := hp.ipNextOffset_of_long hlong
    have hge := f.ipHeaderLength_ge
    rw [hp.ipDestination (by omega), hp.ipSource (by omega)] at hdel hout
    rw [hp.etherDestination hip.1] at hdel
    exact ⟨hlen, hserver, g', q, hdel, hout⟩

/-! ## Inbound authorisation -/

/-- What holds of a frame `out` written to the inside for a frame `f` received
outside. -/
structure InboundAuthorised (g : Gateway) (f out : Frame) : Prop where
  source_foreign : ¬g.staticIPMap.Has f.sourceIP
  ipv4_translated : f.IsIPv4 → ∀ mac, g.staticIPMap.find f.destinationIP = some mac →
    f.etherDestination = mac ∧ ∃ info, g.userMap.find f.destinationIP = some info ∧
      out.etherDestination = info.userMac
  arp_translated : f.IsARP → ∀ mac info, g.staticIPMap.find f.destinationIP = some mac →
    g.userMap.find f.destinationIP = some info →
    (f.etherDestination = mac ∨ f.etherDestination = etherBroadcast) ∧
      out.etherDestination = info.userMac ∧ out.arpTargetMAC = info.userMac
  as_received : ¬(g.staticIPMap.Has f.destinationIP ∧ g.userMap.Has f.destinationIP) → out = f
  length_eq : out.length = f.length
  unchanged : ∀ i, 6 ≤ i → ¬(f.IsARP ∧ 32 ≤ i ∧ i < 38) → out[i]? = f[i]?
  wellFormed : f.IsARP → f.arpHeader.WellFormed

/-- A frame that no entry of both maps translates gets in as it is, unless it is
an IPv4 frame for a static address. -/
theorem InboundAuthorised.of_untranslated (hsrc : g.staticIPMap.find f.sourceIP = none)
    (hdest : g.staticIPMap.find f.destinationIP = none ∨
      f.IsARP ∧ g.userMap.find f.destinationIP = none)
    (hform : f.IsARP → f.arpHeader.WellFormed) : InboundAuthorised g f f where
  source_foreign := UnorderedMap.not_has_iff.mpr hsrc
  ipv4_translated := by
    intro hip mac hmac
    rcases hdest with hnone | ⟨harp, -⟩
    · rw [hnone] at hmac
      contradiction
    · exact absurd harp (Frame.not_isARP_of_isIPv4 hip)
  arp_translated := by
    intro _ mac info hmac hinfo
    rcases hdest with hnone | ⟨-, hnone⟩
    · rw [hnone] at hmac
      contradiction
    · rw [hnone] at hinfo
      contradiction
  as_received := fun _ => rfl
  length_eq := rfl
  unchanged := fun _ _ _ => rfl
  wellFormed := hform

theorem inboundAuthorised_of_arp (hp : p.Holds f) (harp : f.IsARP) (hlen : 42 ≤ f.length)
    (hv : (g.outsideVerdict p f.length u).2 = some q) :
    ∀ out ∈ Device.writePacket q.inMemory q.getLength, InboundAuthorised g f out := by
  rcases outsideVerdict_of_arp (g := g) (u := u) hp harp hlen with hdrop |
    ⟨hform, g', q', hdel, hout⟩
  · rw [hdrop] at hv
    contradiction
  obtain rfl : q' = q := by
    rw [hout] at hv
    exact Option.some.inj hv
  have hsrcIP : f.sourceIP = f.arpSenderIP := if_pos harp
  have hdstIP : f.destinationIP = f.arpTargetIP := if_pos harp
  intro out hmem
  cases hdel with
  | translated mac info hsrc hstatic huser hmac =>
      have hpatched : 6 ≤ (f.patch 32 info.userMac.toList).length := by
        rw [Frame.length_patch]
        omega
      rw [((hp.setDestinationMAC (by omega) info.userMac).setDestination hpatched
        info.userMac).writePacket] at hmem
      obtain rfl := List.mem_singleton.mp hmem
      exact {
        source_foreign := by rw [hsrcIP, UnorderedMap.not_has_iff, hsrc]
        ipv4_translated := fun hip => absurd harp (Frame.not_isARP_of_isIPv4 hip)
        arp_translated := by
          intro _ mac' info' hmac' hinfo'
          rw [hdstIP, hstatic] at hmac'
          rw [hdstIP, huser] at hinfo'
          obtain rfl := Option.some.inj hmac'
          obtain rfl := Option.some.inj hinfo'
          refine ⟨?_, Frame.field_patch_self info.userMac hpatched, ?_⟩
          · rcases hmac with hmac | ⟨-, hmac⟩
            · exact .inl hmac.symm
            · exact .inr hmac.symm
          · rw [Frame.arpTargetMAC, Frame.field_patch_of_disjoint
              (by rw [Frame.length_patch]; omega) (by simp)]
            exact Frame.field_patch_self info.userMac (by omega)
        as_received := by
          intro hno
          simp [hdstIP, UnorderedMap.has_iff, hstatic, huser] at hno
        length_eq := by simp
        unchanged := by
          intro i hdest htarget
          simp only [harp, true_and] at htarget
          rw [Frame.getElem?_patch_of_outside (by simp; omega),
            Frame.getElem?_patch_of_outside (by simp; omega)]
        wellFormed := fun _ => hform }
  | unowned mac _ hsrc hstatic huser =>
      rw [hp.writePacket] at hmem
      obtain rfl := List.mem_singleton.mp hmem
      exact .of_untranslated (by rw [hsrcIP, hsrc]) (.inr ⟨harp, by rw [hdstIP, huser]⟩)
        fun _ => hform
  | stale info hsrc hstatic huser | foreign hsrc hstatic huser =>
      rw [hp.writePacket] at hmem
      obtain rfl := List.mem_singleton.mp hmem
      exact .of_untranslated (by rw [hsrcIP, hsrc]) (.inl (by rw [hdstIP, hstatic])) fun _ => hform

theorem inboundAuthorised_of_ipv4 (hp : p.Holds f) (hip : f.IsIPv4)
    (hv : (g.outsideVerdict p f.length u).2 = some q) :
    ∀ out ∈ Device.writePacket q.inMemory q.getLength, InboundAuthorised g f out := by
  rcases outsideVerdict_of_ipv4 (g := g) (u := u) hp hip with hdrop |
    ⟨hlen, -, g', q', hdel, hout⟩
  · rw [hdrop] at hv
    contradiction
  obtain rfl : q' = q := by
    rw [hout] at hv
    split at hv
    · contradiction
    · exact Option.some.inj hv
  have harp : ¬f.IsARP := Frame.not_isARP_of_isIPv4 hip
  have hsrcIP : f.sourceIP = f.ipSource := if_neg harp
  have hdstIP : f.destinationIP = f.ipDestination := if_neg harp
  intro out hmem
  cases hdel with
  | translated mac info hsrc hstatic huser hmac =>
      rw [(hp.setDestination (by omega) info.userMac).writePacket] at hmem
      obtain rfl := List.mem_singleton.mp hmem
      exact {
        source_foreign := by rw [hsrcIP, UnorderedMap.not_has_iff, hsrc]
        ipv4_translated := by
          intro _ mac' hmac'
          rw [hdstIP, hstatic] at hmac'
          obtain rfl := Option.some.inj hmac'
          refine ⟨?_, info, by rw [hdstIP, huser], Frame.field_patch_self info.userMac (by omega)⟩
          rcases hmac with hmac | ⟨hfalse, -⟩
          · exact hmac.symm
          · exact hfalse.elim
        arp_translated := fun h => absurd h harp
        as_received := by
          intro hno
          simp [hdstIP, UnorderedMap.has_iff, hstatic, huser] at hno
        length_eq := by simp
        unchanged := by
          intro i hdest _
          exact Frame.getElem?_patch_of_outside (by simp; omega)
        wellFormed := fun h => absurd h harp }
  | unowned mac hfalse => exact hfalse.elim
  | stale info hsrc hstatic huser | foreign hsrc hstatic huser =>
      rw [hp.writePacket] at hmem
      obtain rfl := List.mem_singleton.mp hmem
      exact .of_untranslated (by rw [hsrcIP, hsrc]) (.inl (by rw [hdstIP, hstatic]))
        fun h => absurd h harp

/-- What the branches of the outside loop do to the gateway: at most they erase
the entry of an address that has no static entry. -/
theorem gateway_outsideVerdict (g : Gateway) (p : Packet) (n : ℤ) (u : Indeterminate) :
    (g.outsideVerdict p n u).1 = g ∨
      ∃ ip, g.staticIPMap.find ip = none ∧ (g.outsideVerdict p n u).1 = g.removeUser ip := by
  unfold outsideVerdict
  split
  · rcases outsideARP_cases g p u with hdrop | ⟨-, g', q, hdel, hout⟩
    · exact .inl (by rw [hdrop])
    · rw [hout]
      exact hdel.gateway.imp_right fun hpurged => ⟨_, hpurged⟩
  · split
    · rcases outsideIP_cases g p n u with hdrop | ⟨-, -, g', q, hdel, hout⟩
      · exact .inl (by rw [hdrop])
      · rw [hout]
        exact hdel.gateway.imp_right fun hpurged => ⟨_, hpurged⟩
    · exact .inl rfl

/-- A complete frame removes no entry but that of its destination address. -/
theorem gateway_outsideVerdict_of_complete (hp : p.Holds f)
    (hf : f.IsIPv4 ∨ f.IsARP ∧ 42 ≤ f.length) :
    (g.outsideVerdict p f.length u).1 = g ∨ g.staticIPMap.find f.destinationIP = none ∧
      (g.outsideVerdict p f.length u).1 = g.removeUser f.destinationIP := by
  rcases hf with hip | ⟨harp, hlen⟩
  · have hdstIP : f.destinationIP = f.ipDestination := if_neg (Frame.not_isARP_of_isIPv4 hip)
    rcases outsideVerdict_of_ipv4 (g := g) (u := u) hp hip with hdrop | ⟨-, -, g', q, hdel, hout⟩
    · exact .inl (by rw [hdrop])
    · rw [hout, hdstIP]
      exact hdel.gateway
  · have hdstIP : f.destinationIP = f.arpTargetIP := if_pos harp
    rcases outsideVerdict_of_arp (g := g) (u := u) hp harp hlen with hdrop | ⟨-, g', q, hdel, hout⟩
    · exact .inl (by rw [hdrop])
    · rw [hout, hdstIP]
      exact hdel.gateway

/-- A frame that is neither IPv4 nor ARP does nothing to the gateway. -/
theorem gateway_outside_of_other (hip : ¬f.IsIPv4) (harp : ¬f.IsARP) :
    (g.outside p f u).gateway = g := by
  rcases outside_cases g p f u with ⟨-, hg, -⟩ | ⟨-, buf, hbuf, hg, -⟩
  · exact hg
  · have hother : Ethernet.getProtocol buf 0 ≠ ethertypeArp ∧
        Ethernet.getProtocol buf 0 ≠ ethertypeIp := by
      by_cases hlen : 14 ≤ f.length
      · rw [hbuf.getProtocol hlen]
        exact ⟨fun h => harp ⟨hlen, h⟩, fun h => hip ⟨hlen, h⟩⟩
      · rw [hbuf.getProtocol_of_short (by omega)]
        decide
    rw [hg, outsideVerdict, if_neg hother.1, if_neg hother.2]

/-- A frame from outside erases at most one user entry, of an address without
static entry. -/
theorem gateway_outside (g : Gateway) (p : Packet) (f : Frame) (u : Indeterminate) :
    (g.outside p f u).gateway = g ∨
      ∃ ip, g.staticIPMap.find ip = none ∧ (g.outside p f u).gateway = g.removeUser ip ∧
        (f.IsIPv4 ∨ f.IsARP ∧ 42 ≤ f.length → ip = f.destinationIP) := by
  rcases outside_cases g p f u with ⟨-, hg, -⟩ | ⟨-, buf, hbuf, hg, -⟩
  · exact .inl hg
  · rw [hg]
    by_cases hf : f.IsIPv4 ∨ f.IsARP ∧ 42 ≤ f.length
    · rcases gateway_outsideVerdict_of_complete (g := g) (u := u) hbuf hf with
        hsame | ⟨hstatic, herase⟩
      · exact .inl hsame
      · exact .inr ⟨f.destinationIP, hstatic, herase, fun _ => rfl⟩
    · rcases gateway_outsideVerdict g buf f.length u with hsame | ⟨ip, hstatic, herase⟩
      · exact .inl hsame
      · exact .inr ⟨ip, hstatic, herase, fun h => absurd h hf⟩

/-- **Inbound authorisation.** A complete ARP or IPv4 frame from outside reaches
the inside only as `InboundAuthorised` says. No frame from outside changes the
static map, and what it may remove from the user map is the entry of an address
without static entry. -/
theorem outside_authorised (g : Gateway) (p : Packet) (f : Frame) (u : Indeterminate) :
    (f.length ≤ 1514 → f.IsIPv4 ∨ f.IsARP ∧ 42 ≤ f.length →
      ∀ out ∈ (g.outside p f u).toInside, InboundAuthorised g f out) ∧
    (g.outside p f u).gateway.staticIPMap = g.staticIPMap ∧
    ((g.outside p f u).gateway.userMap = g.userMap ∨
      ∃ ip, g.staticIPMap.find ip = none ∧
        (g.outside p f u).gateway.userMap = g.userMap.erase ip ∧
        (f.IsIPv4 ∨ f.IsARP ∧ 42 ≤ f.length → ip = f.destinationIP)) := by
  refine ⟨fun _ hproto out hout => ?_, ?_⟩
  · rcases outside_cases g p f u with ⟨-, -, hnone⟩ | ⟨-, buf, hbuf, -, hlist⟩
    · rw [hnone] at hout
      contradiction
    · rw [hlist] at hout
      split at hout
      · contradiction
      · next q hv =>
          rcases hproto with hip | ⟨harp, hlen⟩
          · exact inboundAuthorised_of_ipv4 hbuf hip hv out hout
          · exact inboundAuthorised_of_arp hbuf harp hlen hv out hout
  · rcases gateway_outside g p f u with hsame | ⟨ip, hstatic, herase, hcomplete⟩
    · rw [hsame]
      exact ⟨rfl, .inl rfl⟩
    · rw [herase]
      exact ⟨rfl, .inr ⟨ip, hstatic, rfl, hcomplete⟩⟩

end Gateway

end GatewaySocket
