import GatewaySocket.Gateway.Reads

/-!
# Frames from inside

What the inside loop does with one frame. Both branches end in `outbound`, whose
outcomes are the two constructors of `Passes` and the undefined read; reduced to
the fields of the received frame they say that a frame reaches the outside only
in the name of its owner. It is addressed past the gateway's own addresses, and
where its source is one of them, the sender is the user of that address and the
static hardware address takes the place of the user's.
-/

namespace GatewaySocket

open ByteMemory

/-- The ip-to-mac content of the user map. -/
def UserMap.owner (m : UserMap) (ip : InAddr) : Option EtherAddr :=
  (m.find ip).map UserInfo.userMac

namespace Gateway

variable {g : Gateway} {p q : Packet} {f : Frame} {u : Indeterminate} {t : UInt64}
  {user : Option (InAddr × UserInfo)} {e : Effect}

/-! ## The access time -/

/-- Noting the access time changes no more than the user map. -/
theorem touch_eq (g : Gateway) (t : UInt64) (user : Option (InAddr × UserInfo)) :
    (g.touch t user).1 = { g with userMap := (g.touch t user).1.userMap } := by
  unfold touch
  split
  · rfl
  · split <;> rfl

/-- An entry that is touched keeps all but its access time. -/
theorem find_touch (g : Gateway) (t : UInt64) (key : InAddr) (info : UserInfo) (ip : InAddr) :
    (g.touch t (some (key, info))).1.userMap.find ip = g.userMap.find ip ∨
      ip = key ∧ (g.touch t (some (key, info))).1.userMap.find ip =
        some { info with lastAccess := t } := by
  simp only [touch]
  split
  · simp only [UnorderedMap.find_set]
    split
    · next heq => exact .inr ⟨heq, rfl⟩
    · exact .inl rfl
  · exact .inl rfl

theorem owner_touch (huser : ∀ key info, user = some (key, info) →
      g.userMap.find key = some info) (ip : InAddr) :
    UserMap.owner (g.touch t user).1.userMap ip = UserMap.owner g.userMap ip := by
  cases user with
  | none => rfl
  | some entry =>
      obtain ⟨key, info⟩ := entry
      have hfind := huser key info rfl
      rcases find_touch g t key info ip with hsame | ⟨rfl, hnew⟩
      · simp only [UserMap.owner, hsame]
      · simp only [UserMap.owner, hnew, hfind, Option.map_some]

/-! ## The end of the outbound branches -/

/-- The two ways a frame falls through to the write: rewritten, for the user who
owns its source address, or untouched, for a source that is in neither map. -/
inductive Passes (g : Gateway) (packet : Packet) (destIP srcIP : InAddr)
    (sourceMac : EtherAddr) (rewrite : EtherAddr → Packet) :
    Packet → Option (InAddr × UserInfo) → Prop
  | owned (info : UserInfo) (mac : EtherAddr) (hdest : g.staticIPMap.find destIP = none)
      (huser : g.userMap.find srcIP = some info) (hstatic : g.staticIPMap.find srcIP = some mac)
      (hmac : info.userMac = sourceMac) :
      Passes g packet destIP srcIP sourceMac rewrite (rewrite mac) (some (srcIP, info))
  | foreign (hdest : g.staticIPMap.find destIP = none) (huser : g.userMap.find srcIP = none)
      (hstatic : g.staticIPMap.find srcIP = none) :
      Passes g packet destIP srcIP sourceMac rewrite packet none

section Outbound

variable {destIP srcIP : InAddr} {sourceMac : EtherAddr} {rewrite : EtherAddr → Packet}

theorem Passes.find_user (h : Passes g p destIP srcIP sourceMac rewrite q user) :
    ∀ key info, user = some (key, info) → g.userMap.find key = some info := by
  rintro key info rfl
  cases h with
  | owned info mac hdest huser hstatic hmac => exact huser

theorem passes_of_outbound (h : g.outbound p destIP srcIP sourceMac rewrite = .pass q user) :
    Passes g p destIP srcIP sourceMac rewrite q user := by
  unfold outbound at h
  cases hdest : g.staticIPMap.find destIP with
  | some _ => simp [hdest] at h
  | none =>
      cases huser : g.userMap.find srcIP with
      | some info =>
          by_cases hmac : info.userMac = sourceMac
          · cases hstatic : g.staticIPMap.find srcIP with
            | some mac =>
                simp only [hdest, huser, hmac, hstatic] at h
                obtain ⟨rfl, rfl⟩ : rewrite mac = q ∧ some (srcIP, info) = user := by
                  simpa using h
                exact .owned info mac hdest huser hstatic hmac
            | none => simp [hdest, huser, hmac, hstatic] at h
          · simp [hdest, huser, hmac] at h
      | none =>
          cases hstatic : g.staticIPMap.find srcIP with
          | some _ => simp [hdest, huser, hstatic] at h
          | none =>
              obtain ⟨rfl, rfl⟩ : p = q ∧ none = user := by
                simpa [hdest, huser, hstatic] using h
              exact .foreign hdest huser hstatic

/-- The undefined read happens for a user whose address has no static entry. -/
theorem outbound_eq_undefined_iff :
    g.outbound p destIP srcIP sourceMac rewrite = .undefined ↔
      g.staticIPMap.find destIP = none ∧ g.staticIPMap.find srcIP = none ∧
        g.userMap.owner srcIP = some sourceMac := by
  unfold outbound UserMap.owner
  cases g.staticIPMap.find destIP <;> cases g.userMap.find srcIP <;>
    cases g.staticIPMap.find srcIP <;> simp
  all_goals split <;> simp_all

theorem outbound_ne_createDHCP (r : DhcpRequest) :
    g.outbound p destIP srcIP sourceMac rewrite ≠ .createDHCP r := by
  unfold outbound
  cases g.staticIPMap.find destIP <;> cases g.userMap.find srcIP <;>
    cases g.staticIPMap.find srcIP <;> simp
  all_goals split <;> simp

end Outbound

/-! ## The branches -/

/-- An ARP frame passes the filter and then fares as `outbound` says. -/
theorem insideARP_eq (g : Gateway) (p : Packet) (u : Indeterminate) :
    g.insideARP p u =
      if arpAccepted (ARP.getHeader p 14) then
        g.outbound p (ARP.getDestinationIP p 14 (u.inAddr 0)) (ARP.getSourceIP p 14 (u.inAddr 1))
          (Ethernet.getSource p 0 (u.etherAddr 0))
          fun mac => Ethernet.setSource (ARP.setSourceMAC p 14 mac) 0 mac
      else .drop := by
  simp only [insideARP, Ethernet.getNextOffset, etherHeaderLen, Nat.zero_add]
  split <;> simp_all

/-- An IPv4 frame that is long enough and no DHCP message of a client fares as
`outbound` says. -/
theorem insideIP_of_not_dhcp {n : ℤ} (hlong : ¬n < ((14 + IP.getNextOffset p 14 : ℕ) : ℤ))
    (hdhcp : ¬(IP.getProtocol p 14 = ipprotoUdp ∧
      UDP.getSource p (IP.getNextOffset p 14) (u.half 0) = 68 ∧
      UDP.getDestination p (IP.getNextOffset p 14) (u.half 1) = 67)) :
    g.insideIP p n u =
      g.outbound p (IP.getDestination p 14 (u.inAddr 0)) (IP.getSource p 14 (u.inAddr 1))
        (Ethernet.getSource p 0 (u.etherAddr 0)) fun mac => Ethernet.setSource p 0 mac := by
  simp only [insideIP, Ethernet.getNextOffset, etherHeaderLen, Nat.zero_add]
  rw [if_neg hlong, if_neg hdhcp]

/-- The request that the DHCP intake makes of a packet. -/
def dhcpRequestOf (p : Packet) (dhcp : ℕ) (u : Indeterminate) : DhcpRequest where
  isDiscover := DHCP.getMessageType p dhcp = 1
  mtu := myMtu
  mac := DHCP.getClientMAC p dhcp (u.etherAddr 1)
  transID := DHCP.getTransactionID p dhcp (u.word 0)

/-- The DHCP intake lets nothing through to the write, and it takes in a boot
request of type 1 or 3 whose client address is that of its sender. -/
theorem insideDHCP_cases (p : Packet) (udp : ℕ) (u : Indeterminate) :
    insideDHCP p udp u = .drop ∨
      DHCP.getOpcode p (udp + 8) = 1 ∧
        (DHCP.getMessageType p (udp + 8) = 1 ∨ DHCP.getMessageType p (udp + 8) = 3) ∧
        DHCP.getClientMAC p (udp + 8) (u.etherAddr 1) = Ethernet.getSource p 0 (u.etherAddr 2) ∧
        insideDHCP p udp u = .createDHCP (dhcpRequestOf p (udp + 8) u) := by
  by_cases hop : DHCP.getOpcode p (udp + 8) = 1
  · by_cases htype : DHCP.getMessageType p (udp + 8) ≠ 1 ∧ DHCP.getMessageType p (udp + 8) ≠ 3
    · exact .inl ((if_pos hop).trans (if_pos htype))
    · by_cases hmac : DHCP.getClientMAC p (udp + 8) (u.etherAddr 1) ≠
          Ethernet.getSource p 0 (u.etherAddr 2)
      · exact .inl ((if_pos hop).trans ((if_neg htype).trans (if_pos hmac)))
      · exact .inr ⟨hop, by omega, not_not.mp hmac,
          (if_pos hop).trans ((if_neg htype).trans (if_neg hmac))⟩
  · exact .inl (if_neg hop)

/-- What remains of an IPv4 frame that is not simply dropped: it was long enough,
and it was either handed to the DHCP intake or to `outbound`. -/
theorem insideIP_cases (g : Gateway) (p : Packet) (n : ℤ) (u : Indeterminate) :
    g.insideIP p n u = .drop ∨
      ¬n < ((14 + IP.getNextOffset p 14 : ℕ) : ℤ) ∧
        ((IP.getProtocol p 14 = ipprotoUdp ∧
            UDP.getSource p (IP.getNextOffset p 14) (u.half 0) = 68 ∧
            UDP.getDestination p (IP.getNextOffset p 14) (u.half 1) = 67) ∧
          g.insideIP p n u = insideDHCP p (IP.getNextOffset p 14) u ∨
        g.insideIP p n u =
          g.outbound p (IP.getDestination p 14 (u.inAddr 0)) (IP.getSource p 14 (u.inAddr 1))
            (Ethernet.getSource p 0 (u.etherAddr 0)) fun mac => Ethernet.setSource p 0 mac) := by
  by_cases hlong : n < ((14 + IP.getNextOffset p 14 : ℕ) : ℤ)
  · left
    simp only [insideIP, Ethernet.getNextOffset, etherHeaderLen, Nat.zero_add]
    rw [if_pos hlong]
  · right
    refine ⟨hlong, ?_⟩
    by_cases hdhcp : IP.getProtocol p 14 = ipprotoUdp ∧
        UDP.getSource p (IP.getNextOffset p 14) (u.half 0) = 68 ∧
        UDP.getDestination p (IP.getNextOffset p 14) (u.half 1) = 67
    · left
      refine ⟨hdhcp, ?_⟩
      simp only [insideIP, Ethernet.getNextOffset, etherHeaderLen, Nat.zero_add]
      rw [if_neg hlong, if_pos hdhcp]
    · exact .inr (insideIP_of_not_dhcp hlong hdhcp)

/-- An IPv4 frame that is neither dropped nor handed to `create_dhcp` was long
enough, and its verdict is that of `outbound`. -/
theorem outbound_of_insideIP {n : ℤ} {v : Verdict} (h : g.insideIP p n u = v) (hdrop : v ≠ .drop)
    (hrequest : ∀ r, v ≠ .createDHCP r) :
    ¬n < ((14 + IP.getNextOffset p 14 : ℕ) : ℤ) ∧
      g.outbound p (IP.getDestination p 14 (u.inAddr 0)) (IP.getSource p 14 (u.inAddr 1))
        (Ethernet.getSource p 0 (u.etherAddr 0)) (fun mac => Ethernet.setSource p 0 mac) = v := by
  rcases insideIP_cases g p n u with hnone | ⟨hlong, ⟨-, hdhcp⟩ | hout⟩
  · exact absurd (h.symm.trans hnone) hdrop
  · rw [hdhcp] at h
    rcases insideDHCP_cases p (IP.getNextOffset p 14) u with hd | ⟨-, -, -, hd⟩
    · exact absurd (h.symm.trans hd) hdrop
    · exact absurd (h.symm.trans hd) (hrequest _)
  · exact ⟨hlong, hout.symm.trans h⟩

/-- The user of a verdict is an entry of the map, found under its key. -/
theorem find_of_insideVerdict {n : ℤ} (h : g.insideVerdict p n u = .pass q user) :
    ∀ key info, user = some (key, info) → g.userMap.find key = some info := by
  unfold insideVerdict at h
  split at h
  · rw [insideARP_eq] at h
    split at h
    · exact (passes_of_outbound h).find_user
    · contradiction
  · split at h
    · obtain ⟨-, hout⟩ := outbound_of_insideIP h (by simp) (by simp)
      exact (passes_of_outbound hout).find_user
    · rintro key info rfl
      injection h with _ huser
      contradiction

/-! ## One round of the loop -/

/-- The outcomes of one round: the frame was of no use, or it lies in the buffer
and its verdict was carried out. -/
theorem inside_cases (h : g.inside t p f u = some e) :
    (f.length < 14 ∨ 1514 < f.length) ∧ e.gateway = g ∧ e.toOutside = [] ∧ e.dhcp = [] ∧
        e.updates = [] ∨
      14 ≤ f.length ∧ f.length ≤ 1514 ∧ ∃ buf : Packet,
        buf = { p with inMemory := Device.readPacket p.inMemory myPacketLen f }.setLength f.length ∧
        buf.Holds f ∧
        (g.insideVerdict buf f.length u = .drop ∧ e = { gateway := g, packet := buf } ∨
        (∃ r, g.insideVerdict buf f.length u = .createDHCP r ∧
          e = { gateway := g, packet := buf, dhcp := [r] }) ∨
        ∃ packet user, g.insideVerdict buf f.length u = .pass packet user ∧
          e = {
            gateway := (g.touch t user).1
            packet := packet
            updates := (g.touch t user).2
            toOutside := Device.writePacket packet.inMemory packet.getLength }) := by
  simp only [inside] at h
  split at h
  · next hlong =>
      obtain rfl := Option.some.inj h
      exact .inl ⟨.inr (Int.ofNat_lt.mp hlong), rfl, rfl, rfl, rfl⟩
  next hlong =>
  split at h
  · next hshort =>
      obtain rfl := Option.some.inj h
      exact .inl ⟨.inl (Int.ofNat_lt.mp hshort), rfl, rfl, rfl, rfl⟩
  next hshort =>
  right
  have hfits : f.length ≤ 1514 := Int.ofNat_le.mp (Int.not_lt.mp hlong)
  have hheader : 14 ≤ f.length := Int.ofNat_le.mp (Int.not_lt.mp hshort)
  refine ⟨hheader, hfits, _, rfl, Packet.holds_readPacket (p := p) hfits, ?_⟩
  split at h
  · contradiction
  · next hv => exact .inl ⟨hv, (Option.some.inj h).symm⟩
  · next r hv => exact .inr (.inl ⟨r, hv, (Option.some.inj h).symm⟩)
  · next packet user hv => exact .inr (.inr ⟨packet, user, hv, (Option.some.inj h).symm⟩)

/-! ## Outbound authorisation -/

/-- What holds of a frame `out` written to the outside for a frame `f` received
inside. -/
structure OutboundAuthorised (g : Gateway) (f out : Frame) : Prop where
  destination_foreign : ¬g.staticIPMap.Has f.destinationIP
  source_owned : ∀ mac, g.staticIPMap.find f.sourceIP = some mac →
    ∃ info, g.userMap.find f.sourceIP = some info ∧ f.etherSource = info.userMac ∧
      out.etherSource = mac ∧ (f.IsARP → out.arpSenderMAC = mac)
  length_eq : out.length = f.length
  unchanged : ∀ i, ¬(6 ≤ i ∧ i < 12) → ¬(f.IsARP ∧ 22 ≤ i ∧ i < 28) → out[i]? = f[i]?
  as_received : ¬g.staticIPMap.Has f.sourceIP → ¬g.userMap.Has f.sourceIP → out = f
  wellFormed : f.IsARP → out.arpHeader.WellFormed

/-- An ARP frame that reaches the write has passed the filter, and its fields
decide what is written. -/
theorem passes_of_arp (hp : p.Holds f) (harp : f.IsARP) (hlen : 42 ≤ f.length)
    (hv : g.insideVerdict p f.length u = .pass q user) :
    f.arpHeader.WellFormed ∧
      Passes g p f.arpTargetIP f.arpSenderIP f.etherSource
        (fun mac => Ethernet.setSource (ARP.setSourceMAC p 14 mac) 0 mac) q user := by
  rw [insideVerdict_of_isARP hp harp, insideARP_eq, hp.arpHeader (by omega),
    hp.arpTargetIP hlen, hp.arpSenderIP hlen, hp.etherSource harp.1] at hv
  split at hv
  · next hacc => exact ⟨arpAccepted_iff.mp hacc, passes_of_outbound hv⟩
  · contradiction

/-- An IPv4 frame that reaches the write has a complete header, and its fields
decide what is written. -/
theorem passes_of_ipv4 (hp : p.Holds f) (hip : f.IsIPv4)
    (hv : g.insideVerdict p f.length u = .pass q user) :
    28 + f.ipHeaderLength ≤ f.length ∧
      Passes g p f.ipDestination f.ipSource f.etherSource
        (fun mac => Ethernet.setSource p 0 mac) q user := by
  rw [insideVerdict_of_isIPv4 hp hip] at hv
  split at hv
  · contradiction
  next hlen =>
  split at hv
  · split at hv <;> contradiction
  · exact ⟨Nat.le_of_not_lt hlen, passes_of_outbound hv⟩

/-- A frame whose source is none of the gateway's addresses goes out as it is. -/
theorem OutboundAuthorised.of_foreign (hdest : g.staticIPMap.find f.destinationIP = none)
    (hstatic : g.staticIPMap.find f.sourceIP = none)
    (hform : f.IsARP → f.arpHeader.WellFormed) : OutboundAuthorised g f f where
  destination_foreign := UnorderedMap.not_has_iff.mpr hdest
  source_owned := by
    intro mac hmac
    rw [hstatic] at hmac
    contradiction
  length_eq := rfl
  unchanged := fun _ _ _ => rfl
  as_received := fun _ _ => rfl
  wellFormed := hform

/-- A frame of the user who owns its source goes out under the hardware address
of the static entry. -/
theorem OutboundAuthorised.of_owned {out : Frame} {mac : EtherAddr} {info : UserInfo}
    (hdest : g.staticIPMap.find f.destinationIP = none)
    (huser : g.userMap.find f.sourceIP = some info)
    (hstatic : g.staticIPMap.find f.sourceIP = some mac) (hmac : info.userMac = f.etherSource)
    (hsource : out.etherSource = mac) (hsender : f.IsARP → out.arpSenderMAC = mac)
    (hlength : out.length = f.length)
    (hunchanged : ∀ i, ¬(6 ≤ i ∧ i < 12) → ¬(f.IsARP ∧ 22 ≤ i ∧ i < 28) → out[i]? = f[i]?)
    (hform : f.IsARP → out.arpHeader.WellFormed) : OutboundAuthorised g f out where
  destination_foreign := UnorderedMap.not_has_iff.mpr hdest
  source_owned := by
    intro mac' hmac'
    rw [hstatic] at hmac'
    obtain rfl := Option.some.inj hmac'
    exact ⟨info, huser, hmac.symm, hsource, hsender⟩
  length_eq := hlength
  unchanged := hunchanged
  as_received := by
    intro hno
    rw [UnorderedMap.not_has_iff, hstatic] at hno
    contradiction
  wellFormed := hform

theorem outboundAuthorised_of_arp (hp : p.Holds f) (harp : f.IsARP) (hlen : 42 ≤ f.length)
    (hv : g.insideVerdict p f.length u = .pass q user) :
    ∀ out ∈ Device.writePacket q.inMemory q.getLength, OutboundAuthorised g f out := by
  obtain ⟨hform, hpass⟩ := passes_of_arp hp harp hlen hv
  have hsrc : f.sourceIP = f.arpSenderIP := if_pos harp
  have hdst : f.destinationIP = f.arpTargetIP := if_pos harp
  intro out hout
  cases hpass with
  | owned info mac hdest huser hstatic hmac =>
      have hpatched : 12 ≤ (f.patch 22 mac.toList).length := by
        rw [Frame.length_patch]
        omega
      rw [((hp.setSourceMAC (by omega) mac).setSource hpatched mac).writePacket] at hout
      obtain rfl := List.mem_singleton.mp hout
      refine .of_owned (by rw [hdst, hdest]) (by rw [hsrc, huser]) (by rw [hsrc, hstatic]) hmac
        (Frame.field_patch_self mac hpatched) (fun _ => ?_) (by simp) ?_ fun _ => ?_
      · rw [Frame.arpSenderMAC, Frame.field_patch_of_disjoint
          (by rw [Frame.length_patch]; omega) (by simp)]
        exact Frame.field_patch_self mac (by omega)
      · intro i hsource hsender
        simp only [harp, true_and] at hsender
        rw [Frame.getElem?_patch_of_outside (by simp; omega),
          Frame.getElem?_patch_of_outside (by simp; omega)]
      · rw [Frame.arpHeader, Frame.field_patch_of_disjoint (by rw [Frame.length_patch]; omega)
          (by simp), Frame.field_patch_of_disjoint (by omega) (by simp)]
        exact hform
  | foreign hdest huser hstatic =>
      rw [hp.writePacket] at hout
      obtain rfl := List.mem_singleton.mp hout
      exact .of_foreign (by rw [hdst, hdest]) (by rw [hsrc, hstatic]) fun _ => hform

theorem outboundAuthorised_of_ipv4 (hp : p.Holds f) (hip : f.IsIPv4)
    (hv : g.insideVerdict p f.length u = .pass q user) :
    ∀ out ∈ Device.writePacket q.inMemory q.getLength, OutboundAuthorised g f out := by
  obtain ⟨hlen, hpass⟩ := passes_of_ipv4 hp hip hv
  have harp : ¬f.IsARP := Frame.not_isARP_of_isIPv4 hip
  have hsrc : f.sourceIP = f.ipSource := if_neg harp
  have hdst : f.destinationIP = f.ipDestination := if_neg harp
  intro out hout
  cases hpass with
  | owned info mac hdest huser hstatic hmac =>
      rw [(hp.setSource (by omega) mac).writePacket] at hout
      obtain rfl := List.mem_singleton.mp hout
      exact .of_owned (by rw [hdst, hdest]) (by rw [hsrc, huser]) (by rw [hsrc, hstatic]) hmac
        (Frame.field_patch_self mac (by omega)) (fun h => absurd h harp) (by simp)
        (fun i hsource _ => Frame.getElem?_patch_of_outside (by simp; omega))
        fun h => absurd h harp
  | foreign hdest huser hstatic =>
      rw [hp.writePacket] at hout
      obtain rfl := List.mem_singleton.mp hout
      exact .of_foreign (by rw [hdst, hdest]) (by rw [hsrc, hstatic]) fun h => absurd h harp

/-- A frame from inside changes no static entry and no owner of an address. -/
theorem owner_inside (h : g.inside t p f u = some e) :
    e.gateway.staticIPMap = g.staticIPMap ∧
      ∀ ip, UserMap.owner e.gateway.userMap ip = UserMap.owner g.userMap ip := by
  rcases inside_cases h with
    ⟨-, hg, -⟩ | ⟨-, -, buf, -, -, ⟨-, rfl⟩ | ⟨r, -, rfl⟩ | ⟨q, user, hv, rfl⟩⟩
  · rw [hg]
    exact ⟨rfl, fun _ => rfl⟩
  · exact ⟨rfl, fun _ => rfl⟩
  · exact ⟨rfl, fun _ => rfl⟩
  · exact ⟨by rw [touch_eq], owner_touch (find_of_insideVerdict hv)⟩

/-- What is written for a complete frame is authorised. -/
theorem outboundAuthorised_of_inside {out : Frame} (h : g.inside t p f u = some e)
    (hf : f.IsIPv4 ∨ f.IsARP ∧ 42 ≤ f.length) (hout : out ∈ e.toOutside) :
    OutboundAuthorised g f out := by
  rcases inside_cases h with ⟨-, -, hnone, -⟩ |
    ⟨-, -, buf, -, hbuf, ⟨-, rfl⟩ | ⟨r, -, rfl⟩ | ⟨q, user, hv, rfl⟩⟩
  · rw [hnone] at hout
    contradiction
  · contradiction
  · contradiction
  · rcases hf with hip | ⟨harp, hlen⟩
    · exact outboundAuthorised_of_ipv4 hbuf hip hv out hout
    · exact outboundAuthorised_of_arp hbuf harp hlen hv out hout

/-- **Outbound authorisation.** A complete ARP or IPv4 frame from inside reaches
the outside only as `OutboundAuthorised` says, and no frame from inside changes
the static map or the owner of an address. A source with a user but without a
static entry is the undefined read, for which `inside` has no result. -/
theorem inside_authorised (h : g.inside t p f u = some e) :
    (14 ≤ f.length → f.length ≤ 1514 → f.IsIPv4 ∨ f.IsARP ∧ 42 ≤ f.length →
      ∀ out ∈ e.toOutside, OutboundAuthorised g f out) ∧
    e.gateway.staticIPMap = g.staticIPMap ∧
    ∀ ip, UserMap.owner e.gateway.userMap ip = UserMap.owner g.userMap ip :=
  ⟨fun _ _ hf _ hout => outboundAuthorised_of_inside h hf hout, owner_inside h⟩

/-! A gateway with one user, and the request of that user for the router. -/

def sampleUserMAC : EtherAddr := sampleMAC 7

def sampleStaticMAC : EtherAddr := sampleMAC 9

def sample : Gateway :=
  { Gateway.init with
    staticIPMap := UnorderedMap.empty.set sampleIP sampleStaticMAC
    userMap := UnorderedMap.empty.set sampleIP ⟨sampleIP, sampleUserMAC, 0, 10000⟩ }

def sampleBuffer : Packet := Packet.new myPacketLen fun _ => 0

/-- An ARP request with the given Ethernet and ARP hardware addresses of its
sender, from `sampleIP` for 10.0.0.1. -/
def sampleRequest (mac : EtherAddr) : Frame :=
  [255, 255, 255, 255, 255, 255] ++ mac.toList ++ [8, 6, 0, 1, 8, 0, 6, 4, 0, 1] ++ mac.toList ++
    sampleIP.toList ++ [0, 0, 0, 0, 0, 0, 10, 0, 0, 1]

/-- The request goes out in the name of the static address. -/
theorem inside_authorised_request :
    ∃ e, sample.inside 1 sampleBuffer (sampleRequest sampleUserMAC) default = some e ∧
      e.toOutside = [sampleRequest sampleStaticMAC] ∧
      OutboundAuthorised sample (sampleRequest sampleUserMAC) (sampleRequest sampleStaticMAC) := by
  have hout : (sample.inside 1 sampleBuffer (sampleRequest sampleUserMAC) default).map
      (fun e => e.toOutside) = some [sampleRequest sampleStaticMAC] := by decide
  obtain ⟨e, he, hlist⟩ := Option.map_eq_some_iff.mp hout
  refine ⟨e, he, hlist, (inside_authorised he).1 (by decide) (by decide) (by decide) _ ?_⟩
  rw [hlist]
  exact List.mem_singleton.mpr rfl

end Gateway

end GatewaySocket
