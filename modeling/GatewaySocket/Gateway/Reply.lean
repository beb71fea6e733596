import GatewaySocket.Gateway.Maps

/-!
# Replies

A frame that goes out for a user carries the static hardware address of its
source; a reply is sent to that address. The outside loop turns it back: the
reply reaches the user, whatever frames came in between, because none of them
can touch an address that has entries in both maps.
-/

namespace GatewaySocket

open ByteMemory Transition

namespace Gateway

variable {g : Gateway} {p : Packet} {f r : Frame} {u : Indeterminate} {ip : InAddr}
  {mac : EtherAddr} {info : UserInfo}

/-! ## The outside loop for an address with both entries -/

theorem outsideARP_translated (hacc : arpAccepted (ARP.getHeader p 14) = true)
    (hsrc : g.staticIPMap.find (ARP.getSourceIP p 14 (u.inAddr 1)) = none)
    (hstatic : g.staticIPMap.find (ARP.getDestinationIP p 14 (u.inAddr 0)) = some mac)
    (huser : g.userMap.find (ARP.getDestinationIP p 14 (u.inAddr 0)) = some info)
    (hmac : mac = Ethernet.getDestination p 0 (u.etherAddr 0)) :
    g.outsideARP p u =
      (g, some (Ethernet.setDestination (ARP.setDestinationMAC p 14 info.userMac) 0
        info.userMac)) := by
  simp [outsideARP, Ethernet.getNextOffset, hacc, hsrc, hstatic, huser, ← hmac]

theorem outsideIP_translated {n : ℤ} (hlong : ¬n < ((14 + IP.getNextOffset p 14 : ℕ) : ℤ))
    (hserver : ¬IsServerDHCP p u)
    (hsrc : g.staticIPMap.find (IP.getSource p 14 (u.inAddr 1)) = none)
    (hstatic : g.staticIPMap.find (IP.getDestination p 14 (u.inAddr 0)) = some mac)
    (huser : g.userMap.find (IP.getDestination p 14 (u.inAddr 0)) = some info)
    (hmac : mac = Ethernet.getDestination p 0 (u.etherAddr 0)) :
    g.outsideIP p n u =
      (g, if outsideDHCP (Ethernet.setDestination p 0 info.userMac) 14
        (IP.getSource p 14 (u.inAddr 1)) (IP.getDestination p 14 (u.inAddr 0)) u then none
        else some (Ethernet.setDestination p 0 info.userMac)) := by
  refine (if_neg hlong).trans ((if_neg hserver).trans ?_)
  simp [Ethernet.getNextOffset, hsrc, hstatic, huser, ← hmac]

end Gateway

namespace Frame

/-- A UDP packet between the two DHCP ports, in either direction. -/
def IsDHCP (f : Frame) : Prop :=
  f.ipProtocol = ipprotoUdp ∧
    (f.udpSource = 67 ∧ f.udpDestination = 68 ∨ f.udpSource = 68 ∧ f.udpDestination = 67)

/-- `r` is an IPv4 frame from `peer` to the source `ip` of the frame that left as
`out`, sent to the hardware address that `out` came from. -/
structure RepliesIPv4 (out r : Frame) (ip peer : InAddr) : Prop where
  isIPv4 : r.IsIPv4
  fits : r.length ≤ 1514
  complete : 28 + r.ipHeaderLength ≤ r.length
  source : r.ipSource = peer
  destination : r.ipDestination = ip
  etherDestination : r.etherDestination = out.etherSource
  not_dhcp : ¬r.IsDHCP

/-- `r` is an ARP reply from `peer` for the address `ip`, sent to the hardware
address that the ARP frame `out` advertised. -/
structure RepliesARP (out r : Frame) (ip peer : InAddr) : Prop where
  isARP : r.IsARP
  fits : r.length ≤ 1514
  complete : 42 ≤ r.length
  wellFormed : r.arpHeader.WellFormed
  isReply : r.arpHeader.arOp = arpopReply
  source : r.arpSenderIP = peer
  destination : r.arpTargetIP = ip
  etherDestination : r.etherDestination = out.arpSenderMAC

/-- A frame with a new Ethernet destination is DHCP traffic exactly if it is without. -/
theorem isDHCP_patch_zero {f : Frame} (mac : EtherAddr) (hlen : 28 + f.ipHeaderLength ≤ f.length) :
    (f.patch 0 mac.toList).IsDHCP ↔ f.IsDHCP := by
  simp only [IsDHCP, ipProtocol, udpSource, udpDestination, ipHeaderLength_patch_zero]
  rw [getD_patch_zero mac (by decide), field_patch_zero mac (by omega) (by omega),
    field_patch_zero mac (by omega) (by omega)]

end Frame

namespace Gateway

variable {g : Gateway} {p : Packet} {f r out : Frame} {u : Indeterminate} {ip peer : InAddr}
  {mac : EtherAddr} {info : UserInfo}

/-- The tests for DHCP read the two ports of a complete frame. -/
theorem isServerDHCP_imp (hp : p.Holds f) (hlen : 28 + f.ipHeaderLength ≤ f.length)
    (h : IsServerDHCP p u) : f.IsDHCP := by
  have hge := f.ipHeaderLength_ge
  obtain ⟨hproto, hsource, hdest⟩ := h
  rw [hp.ipNextOffset (by omega), hp.udpSource (by omega)] at hsource
  rw [hp.ipNextOffset (by omega), hp.udpDestination (by omega)] at hdest
  rw [hp.ipProtocol (by omega)] at hproto
  exact ⟨hproto, .inl ⟨hsource, hdest⟩⟩

theorem outsideDHCP_imp {src dst : InAddr} (hp : p.Holds f)
    (hlen : 28 + f.ipHeaderLength ≤ f.length) (h : outsideDHCP p 14 src dst u = true) :
    f.IsDHCP := by
  have hge := f.ipHeaderLength_ge
  simp only [outsideDHCP, hp.ipNextOffset (show 15 ≤ f.length by omega),
    hp.udpSource (show 22 + f.ipHeaderLength ≤ f.length by omega),
    hp.udpDestination (show 22 + f.ipHeaderLength ≤ f.length by omega),
    hp.ipProtocol (show 34 ≤ f.length by omega), Bool.and_eq_true, Bool.or_eq_true,
    decide_eq_true_eq] at h
  obtain ⟨⟨⟨hproto, -⟩, -⟩, hports⟩ := h
  exact ⟨hproto, hports.symm⟩

/-- An IPv4 reply to a user of the gateway gets in. -/
theorem outsideVerdict_ipv4_reply (hp : p.Holds r) (hreply : Frame.RepliesIPv4 out r ip peer)
    (hpeer : g.staticIPMap.find peer = none) (hstatic : g.staticIPMap.find ip = some mac)
    (huser : g.userMap.find ip = some info) (hmac : out.etherSource = mac) :
    g.outsideVerdict p r.length u = (g, some (Ethernet.setDestination p 0 info.userMac)) := by
  have hlen := hreply.complete
  have hge := r.ipHeaderLength_ge
  have hnext := hp.ipNextOffset (show 15 ≤ r.length by omega)
  rw [outsideVerdict_of_isIPv4 hp hreply.isIPv4]
  have hsrc : g.staticIPMap.find (IP.getSource p 14 (u.inAddr 1)) = none := by
    rw [hp.ipSource (by omega), hreply.source, hpeer]
  have hdst : IP.getDestination p 14 (u.inAddr 0) = ip := by
    rw [hp.ipDestination (by omega), hreply.destination]
  have hether : mac = Ethernet.getDestination p 0 (u.etherAddr 0) := by
    rw [hp.etherDestination (by omega), hreply.etherDestination, hmac]
  rw [← hdst] at hstatic huser
  have hlong : ¬(r.length : ℤ) < ((14 + IP.getNextOffset p 14 : ℕ) : ℤ) := by
    rw [hnext]
    omega
  have hbody := outsideIP_translated hlong
    (fun h => hreply.not_dhcp (isServerDHCP_imp hp hlen h)) hsrc hstatic huser hether
  have hpatched := hp.setDestination (show 6 ≤ r.length by omega) info.userMac
  have hdhcp : ∀ src dst, ¬outsideDHCP (Ethernet.setDestination p 0 info.userMac) 14 src dst u := by
    intro src dst h
    have hcomplete : 28 + (r.patch 0 info.userMac.toList).ipHeaderLength ≤
        (r.patch 0 info.userMac.toList).length := by
      rw [Frame.length_patch, Frame.ipHeaderLength_patch_zero]
      exact hlen
    exact hreply.not_dhcp ((Frame.isDHCP_patch_zero info.userMac hlen).mp
      (outsideDHCP_imp hpatched hcomplete h))
  rw [hbody, if_neg (hdhcp _ _)]

/-- An ARP reply to a user of the gateway gets in. -/
theorem outsideVerdict_arp_reply (hp : p.Holds r) (hreply : Frame.RepliesARP out r ip peer)
    (hpeer : g.staticIPMap.find peer = none) (hstatic : g.staticIPMap.find ip = some mac)
    (huser : g.userMap.find ip = some info) (hmac : out.arpSenderMAC = mac) :
    g.outsideVerdict p r.length u =
      (g, some (Ethernet.setDestination (ARP.setDestinationMAC p 14 info.userMac) 0
        info.userMac)) := by
  have hlen := hreply.complete
  rw [outsideVerdict_of_isARP hp hreply.isARP]
  exact outsideARP_translated
    (by rw [hp.arpHeader (by omega), arpAccepted_iff]; exact hreply.wellFormed)
    (by rw [hp.arpSenderIP hlen, hreply.source, hpeer])
    (by rw [hp.arpTargetIP hlen, hreply.destination, hstatic])
    (by rw [hp.arpTargetIP hlen, hreply.destination, huser])
    (by rw [hp.etherDestination (by omega), hreply.etherDestination, hmac])

/-- The frame `d` is the reply `r`, addressed to the user `mac` and otherwise
unchanged. -/
structure Delivered (r d : Frame) (mac : EtherAddr) : Prop where
  etherDestination : d.etherDestination = mac
  arpTargetMAC : r.IsARP → d.arpTargetMAC = mac
  length_eq : d.length = r.length
  unchanged : ∀ i, 6 ≤ i → ¬(r.IsARP ∧ 32 ≤ i ∧ i < 38) → d[i]? = r[i]?

theorem outside_ipv4_reply (hreply : Frame.RepliesIPv4 out r ip peer)
    (hpeer : g.staticIPMap.find peer = none) (hstatic : g.staticIPMap.find ip = some mac)
    (huser : g.userMap.find ip = some info) (hmac : out.etherSource = mac) :
    ∃ d, (g.outside p r u).toInside = [d] ∧ Delivered r d info.userMac := by
  have hlen := hreply.complete
  rcases outside_cases g p r u with ⟨hlong, -⟩ | ⟨-, buf, hbuf, -, hout⟩
  · have hfits := hreply.fits
    omega
  · rw [outsideVerdict_ipv4_reply hbuf hreply hpeer hstatic huser hmac] at hout
    have hnotArp : ¬r.IsARP := Frame.not_isARP_of_isIPv4 hreply.isIPv4
    exact ⟨_, hout.trans (hbuf.setDestination (by omega) info.userMac).writePacket, {
      etherDestination := Frame.field_patch_self info.userMac (by omega)
      arpTargetMAC := fun h => absurd h hnotArp
      length_eq := by simp
      unchanged := fun i hi _ => Frame.getElem?_patch_of_outside (.inr (by simpa using hi)) }⟩

theorem outside_arp_reply (hreply : Frame.RepliesARP out r ip peer)
    (hpeer : g.staticIPMap.find peer = none) (hstatic : g.staticIPMap.find ip = some mac)
    (huser : g.userMap.find ip = some info) (hmac : out.arpSenderMAC = mac) :
    ∃ d, (g.outside p r u).toInside = [d] ∧ Delivered r d info.userMac := by
  have hlen := hreply.complete
  rcases outside_cases g p r u with ⟨hlong, -⟩ | ⟨-, buf, hbuf, -, hout⟩
  · have hfits := hreply.fits
    omega
  · rw [outsideVerdict_arp_reply hbuf hreply hpeer hstatic huser hmac] at hout
    have hpatched : 6 ≤ (r.patch 32 info.userMac.toList).length := by
      rw [Frame.length_patch]
      omega
    exact ⟨_, hout.trans ((hbuf.setDestinationMAC (by omega) info.userMac).setDestination hpatched
        info.userMac).writePacket, {
      etherDestination := Frame.field_patch_self info.userMac hpatched
      arpTargetMAC := by
        intro _
        rw [Frame.arpTargetMAC, Frame.field_patch_zero _ (by omega)
          (by rw [Frame.length_patch]; omega), Frame.field_patch_self _ (by omega)]
      length_eq := by simp
      unchanged := by
        intro i hi htarget
        simp only [hreply.isARP, true_and] at htarget
        rw [Frame.getElem?_patch_of_outside (.inr (by simpa using hi)),
          Frame.getElem?_patch_of_outside (by simp; omega)] }⟩

end Gateway

namespace Loop

variable {l l₁ l₂ l₃ : Loop} {as : List Action} {e₁ e₃ : Emission} {f out r : Frame}
  {u u' : Indeterminate} {ip peer : InAddr} {staticMac userMac : EtherAddr}

/-- **Replies find their way back.** A frame of the user of `ip` went out to
`peer` as `out`. Then a reply to the hardware address in `out` is delivered to
the user, whatever happened in between, unless a handler ran whose batch names
one of the two addresses. -/
theorem reply_delivered (hstatic : l.gateway.staticIPMap.find ip = some staticMac)
    (huser : UserMap.owner l.gateway.userMap ip = some userMac)
    (hf : f.IsIPv4 ∨ f.IsARP ∧ 42 ≤ f.length) (hsource : f.sourceIP = ip)
    (hdest : f.destinationIP = peer) (hforward : l.exec (.inside (some f) u) = some (l₁, e₁))
    (hout : out ∈ e₁.toOutside) (hrun : run step l₁ as = some l₂)
    (hspare : AllSteps step (fun l a => Spares ip l a ∧ Spares peer l a) l₁ as)
    (hreply : f.IsIPv4 ∧ Frame.RepliesIPv4 out r ip peer ∨
      f.IsARP ∧ Frame.RepliesARP out r ip peer)
    (hdeliver : l₂.exec (.outside (some r) u') = some (l₃, e₃)) :
    ∃ d, e₃.toInside = [d] ∧ Gateway.Delivered r d userMac := by
  obtain ⟨rounds, effect, -, heffect, rfl, rfl⟩ := exec_inside hforward
  obtain ⟨_, -, rfl, rfl⟩ := exec_outside hdeliver
  have hauth := Gateway.outboundAuthorised_of_inside heffect hf hout
  have hpeer : l.gateway.staticIPMap.find peer = none := by
    rw [← hdest]
    exact UnorderedMap.not_has_iff.mp hauth.destination_foreign
  obtain ⟨-, -, -, hmacs⟩ := hauth.source_owned staticMac (by rw [hsource, hstatic])
  -- the entries of both addresses last through the run
  obtain ⟨hmaps, howner⟩ := Gateway.owner_inside heffect
  have hstatic₂ : l₂.gateway.staticIPMap.find ip = some staticMac := by
    rw [find_staticIPMap_run (hspare.mono fun _ _ h => h.1) hrun, hmaps, hstatic]
  have hpeer₂ : l₂.gateway.staticIPMap.find peer = none := by
    rw [find_staticIPMap_run (hspare.mono fun _ _ h => h.2) hrun, hmaps, hpeer]
  have huser₂ : UserMap.owner l₂.gateway.userMap ip = some userMac := by
    have hhas : effect.gateway.staticIPMap.Has ip := by
      rw [hmaps, UnorderedMap.Has, hstatic]
      rfl
    rw [owner_run hhas (hspare.mono fun _ _ h => h.1) hrun, howner, huser]
  obtain ⟨info, hinfo, rfl⟩ := Option.map_eq_some_iff.mp huser₂
  rcases hreply with ⟨-, hreply⟩ | ⟨harp, hreply⟩
  · exact Gateway.outside_ipv4_reply hreply hpeer₂ hstatic₂ hinfo hmacs.1
  · exact Gateway.outside_arp_reply hreply hpeer₂ hstatic₂ hinfo (hmacs.2 harp)

/-- The answer of 10.0.0.1 to the request of the user of `sample`. -/
def sampleReply : Frame :=
  Gateway.sampleStaticMAC.toList ++ [2, 0, 0, 0, 0, 1, 8, 6, 0, 1, 8, 0, 6, 4, 0, 2] ++
    [2, 0, 0, 0, 0, 1, 10, 0, 0, 1] ++ Gateway.sampleStaticMAC.toList ++
    sampleIP.toList

def sampleLoop : Loop :=
  { init Gateway.sample (fun _ => 0) (fun _ => 0) with place := .inBurst 0 }

/-- Meanwhile the user asks once more, and somebody outside takes its address. -/
def sampleMeanwhile : List Action :=
  [.inside (some (Gateway.sampleRequest Gateway.sampleUserMAC)) default, .inside none default,
    .outside (some (Gateway.sampleRequest (sampleMAC 1))) default]

/-- The answer reaches that user. -/
theorem reply_delivered_request :
    ∃ l₁ l₂ l₃ e₁ e₃ d,
      sampleLoop.exec (.inside (some (Gateway.sampleRequest Gateway.sampleUserMAC)) default) =
        some (l₁, e₁) ∧
      run step l₁ sampleMeanwhile = some l₂ ∧
      l₂.exec (.outside (some sampleReply) default) = some (l₃, e₃) ∧
      e₃.toInside = [d] ∧ Gateway.Delivered sampleReply d Gateway.sampleUserMAC := by
  have hcheck : ∃ x ∈ sampleLoop.exec
        (.inside (some (Gateway.sampleRequest Gateway.sampleUserMAC)) default),
      x.2.toOutside = [Gateway.sampleRequest Gateway.sampleStaticMAC] ∧
        ∃ l₂ ∈ run step x.1 sampleMeanwhile,
          (l₂.exec (.outside (some sampleReply) default)).isSome := by
    decide +kernel
  obtain ⟨⟨l₁, e₁⟩, hforward, hlist, l₂, hrun, hsome⟩ := hcheck
  obtain ⟨⟨l₃, e₃⟩, hdeliver⟩ := Option.isSome_iff_exists.mp hsome
  have hmem : Gateway.sampleRequest Gateway.sampleStaticMAC ∈ e₁.toOutside := by
    rw [hlist]
    exact List.mem_singleton.mpr rfl
  have hstatic : sampleLoop.gateway.staticIPMap.find sampleIP =
      some Gateway.sampleStaticMAC := by decide
  have huser : UserMap.owner sampleLoop.gateway.userMap sampleIP =
      some Gateway.sampleUserMAC := by decide
  have hreply : Frame.RepliesARP (Gateway.sampleRequest Gateway.sampleStaticMAC) sampleReply
      sampleIP #v[10, 0, 0, 1] :=
    ⟨by decide, by decide, by decide, by decide, by decide, by decide, by decide, by decide⟩
  have hspare : AllSteps step (fun l a => Spares sampleIP l a ∧ Spares #v[10, 0, 0, 1] l a) l₁
      sampleMeanwhile := by
    refine allSteps_of_forall_mem fun a ha l => ?_
    -- no handler runs
    have hframe : ∀ handler, a ≠ .handle handler := by
      rintro handler rfl
      simp [sampleMeanwhile] at ha
    exact ⟨fun handler hhandle => absurd hhandle (hframe handler),
      fun handler hhandle => absurd hhandle (hframe handler)⟩
  obtain ⟨d, hd, hdelivered⟩ := reply_delivered hstatic huser (by decide) (by decide) (by decide)
    hforward hmem hrun hspare (.inr ⟨by decide, hreply⟩) hdeliver
  exact ⟨l₁, l₂, l₃, e₁, e₃, d, hforward, hrun, hdeliver, hd, hdelivered⟩

end Loop

end GatewaySocket
