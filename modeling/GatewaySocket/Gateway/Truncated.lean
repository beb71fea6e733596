import GatewaySocket.Gateway.Oversized
import GatewaySocket.Gateway.Received

/-!
# Truncated ARP messages

The ARP branches check the eight bytes of the ARP header and no length. An accessor
of an address that was not received returns its local as it is, so the branches go
on with addresses that nobody sent. Only where the lookups would drop the frame for
every address does that make no difference.
-/

namespace GatewaySocket

open ByteMemory

/-- The address can be that of the sender, as far as it has been received. -/
def Frame.MaySend (f : Frame) (ip : InAddr) : Prop := 32 ≤ f.length → ip = f.arpSenderIP

/-- Locals that hold these two addresses. -/
def Indeterminate.ofAddresses (destIP srcIP : InAddr) : Indeterminate :=
  { (default : Indeterminate) with inAddr := fun i => if i = 0 then destIP else srcIP }

/-- Over all contents of the locals, the target is any address and the sender any that
the frame allows. -/
theorem Frame.forall_locals_iff {f : Frame} {P Q : InAddr → Prop} :
    (∀ u : Indeterminate, P (u.inAddr 0) ∨
        Q (if 32 ≤ f.length then f.arpSenderIP else u.inAddr 1)) ↔
      (∀ ip, P ip) ∨ ∀ ip, f.MaySend ip → Q ip := by
  constructor
  · intro h
    by_cases hall : ∀ ip, P ip
    · exact .inl hall
    · obtain ⟨destIP, hdest⟩ := not_forall.mp hall
      refine .inr fun srcIP hsrc => ?_
      have hsender : (if 32 ≤ f.length then f.arpSenderIP else srcIP) = srcIP := by
        split
        · next hlen => exact (hsrc hlen).symm
        · rfl
      have hq := (h (.ofAddresses destIP srcIP)).resolve_left hdest
      simp only [Indeterminate.ofAddresses, Nat.one_ne_zero, if_false] at hq
      rwa [hsender] at hq
  · rintro (hall | hall) u
    · exact .inl (hall _)
    · exact .inr (hall _ fun hlen => if_pos hlen)

namespace Packet.Holds

variable {p : Packet} {f : Frame}

/-- A header that was not received is all zeros, which no branch accepts. -/
theorem not_arpAccepted (hp : p.Holds f) (h : f.length < 22 ∨ ¬f.arpHeader.WellFormed) :
    ¬arpAccepted (ARP.getHeader p 14) = true := by
  by_cases hshort : f.length < 22
  · rw [ARP.getHeader, hp.readByteArray_of_short _ hshort]
    decide
  · rw [hp.arpHeader (by omega), arpAccepted_iff]
    exact h.resolve_left hshort

theorem arpTargetIP_of_short (hp : p.Holds f) (hlen : f.length < 42) (ret : InAddr) :
    ARP.getDestinationIP p 14 ret = ret := hp.readByteArray_of_short _ hlen

theorem getSourceIP_eq (hp : p.Holds f) (ret : InAddr) :
    ARP.getSourceIP p 14 ret = if 32 ≤ f.length then f.arpSenderIP else ret := by
  split
  · next hlen => exact hp.readByteArray _ hlen
  · next hlen => exact hp.readByteArray_of_short _ (Nat.lt_of_not_le hlen)

end Packet.Holds

theorem Frame.not_isIPv4_kept {f : Frame} (harp : f.IsARP) :
    ¬f.kept.IsIPv4 := by
  have htype : f.kept.etherType = f.etherType := by
    refine congrArg ntohs (load_congr fun i _ hi => ?_)
    simp only [ofList, kept, List.getD_eq_getElem?_getD]
    rw [List.getElem?_take_of_lt (by simp only [myPacketLen]; omega)]
  rintro ⟨-, hip⟩
  rw [htype, harp.2] at hip
  exact absurd hip (by decide)

namespace Gateway

variable {g : Gateway} {t : UInt64} {p q : Packet} {f : Frame} {u u' : Indeterminate}

/-- A sender with this hardware address is refused the address as its source. -/
def Refuses (g : Gateway) (ip : InAddr) (mac : EtherAddr) : Prop :=
  (∃ info, g.userMap.find ip = some info ∧ info.userMac ≠ mac) ∨
    g.userMap.find ip = none ∧ g.staticIPMap.Has ip

/-- A frame to this hardware address is refused the address as its destination. -/
def Misaddressed (g : Gateway) (ip : InAddr) (mac : EtherAddr) : Prop :=
  ∃ static info, g.staticIPMap.find ip = some static ∧ g.userMap.find ip = some info ∧
    static ≠ mac ∧ etherBroadcast ≠ mac

/-! ## The inside loop -/

/-- An outbound frame goes nowhere if and only if a lookup drops it. -/
theorem settle_outbound_eq_dropped_iff {destIP srcIP : InAddr} {sourceMac : EtherAddr}
    {rewrite : EtherAddr → Packet} (hp : p.Alike p)
    (hrewrite : ∀ mac, (rewrite mac).Alike (rewrite mac)) :
    g.settle t (g.outbound p destIP srcIP sourceMac rewrite) = some g.dropped ↔
      g.staticIPMap.Has destIP ∨ g.Refuses srcIP sourceMac := by
  have hsent : ∀ r : Packet, r.Alike r → ∀ g' : Gateway, ∀ updates : List UpdateTime,
      ¬some (g', ({
        updates
        toOutside := Device.writePacket r.inMemory r.getLength } : Emission)) =
        some g.dropped := by
    rintro r ⟨f, hr, -⟩ g' updates h
    have hout := congrArg (fun o : Gateway × Emission => o.2.toOutside) (Option.some.inj h)
    simp only [hr.writePacket, dropped] at hout
    contradiction
  unfold outbound
  cases hdest : g.staticIPMap.find destIP with
  | some mac => exact iff_of_true rfl (.inl (UnorderedMap.has_iff.mpr ⟨mac, hdest⟩))
  | none =>
  have hopen : ¬g.staticIPMap.Has destIP := UnorderedMap.not_has_iff.mpr hdest
  cases huser : g.userMap.find srcIP with
  | some info =>
      by_cases hmac : info.userMac = sourceMac
      · have hallowed : ¬(g.staticIPMap.Has destIP ∨ g.Refuses srcIP sourceMac) := by
          rintro (hhas | ⟨other, hother, hne⟩ | ⟨hnone, -⟩)
          · exact hopen hhas
          · rw [huser] at hother
            exact hne (Option.some.inj hother ▸ hmac)
          · rw [huser] at hnone
            contradiction
        cases hstatic : g.staticIPMap.find srcIP with
        | some mac =>
            refine iff_of_false ?_ hallowed
            simp only [hmac, ne_eq, not_true_eq_false, if_false]
            exact hsent _ (hrewrite mac) _ _
        | none =>
            refine iff_of_false ?_ hallowed
            simp [hmac, settle]
      · refine iff_of_true ?_ (.inr (.inl ⟨info, huser, hmac⟩))
        simp [hmac, settle]
  | none =>
      cases hstatic : g.staticIPMap.find srcIP with
      | some mac =>
          exact iff_of_true rfl (.inr (.inr ⟨huser, UnorderedMap.has_iff.mpr ⟨mac, hstatic⟩⟩))
      | none =>
          refine iff_of_false (hsent p hp _ _) ?_
          rintro (hhas | ⟨info, hinfo, -⟩ | ⟨-, hhas⟩)
          · exact hopen hhas
          · rw [huser] at hinfo
            contradiction
          · exact UnorderedMap.not_has_iff.mpr hstatic hhas

/-- What becomes of a frame whose header was accepted and whose target address was
not received. -/
theorem settle_insideARP_eq_dropped_iff (hp : p.Holds f) (harp : f.IsARP) (hlen : f.length < 42)
    (hheader : 22 ≤ f.length) (hform : f.arpHeader.WellFormed) :
    g.settle t (g.insideARP p u) = some g.dropped ↔ g.staticIPMap.Has (u.inAddr 0) ∨
      g.Refuses (if 32 ≤ f.length then f.arpSenderIP else u.inAddr 1) f.etherSource := by
  have hacc : arpAccepted (ARP.getHeader p 14) = true := by
    rw [hp.arpHeader hheader]
    exact arpAccepted_iff.mpr hform
  have hself : p.Alike p := ⟨f, hp, hp⟩
  rw [insideARP_eq, if_pos hacc, hp.arpTargetIP_of_short hlen, hp.getSourceIP_eq,
    hp.etherSource harp.1]
  exact settle_outbound_eq_dropped_iff hself
    fun mac => (hself.writeByteArray _ mac.toList).writeByteArray _ mac.toList

/-- Two packets that hold the complete message give it the same outcome. -/
theorem settle_insideARP_congr (hp : p.Holds f) (hq : q.Holds f) (hlen : 42 ≤ f.length) :
    g.settle t (g.insideARP p u) = g.settle t (g.insideARP q u') := by
  have hpq : p.Alike q := ⟨f, hp, hq⟩
  rw [insideARP_eq, insideARP_eq, hp.arpHeader (by omega), hq.arpHeader (by omega),
    hp.arpTargetIP hlen, hq.arpTargetIP hlen, hp.arpSenderIP hlen, hq.arpSenderIP hlen,
    hp.etherSource (by omega), hq.etherSource (by omega)]
  split
  · exact settle_outbound_congr hpq
      fun mac => (hpq.writeByteArray _ mac.toList).writeByteArray _ mac.toList
  · rfl

/-- The outcome of a message inside is that of the received bytes, and a truncated
message goes nowhere. -/
def InsideConfined (g : Gateway) (t : UInt64) (f : Frame) : Prop :=
  (∀ p p' u u', (g.inside t p f u).map Effect.outcome =
    (g.inside t p' f u').map Effect.outcome) ∧
  (f.length < 42 → ∀ p u, (g.inside t p f u).map Effect.outcome = some g.dropped)

theorem inside_outcome_of_isARP (harp : f.IsARP) (hfits : f.length ≤ 1514) :
    (g.inside t p f u).map Effect.outcome = g.settle t (g.insideARP (p.received f) u) := by
  rw [inside_outcome harp.1 hfits, insideVerdict_of_isARP (p.received_holds hfits) harp]

theorem inside_outcome_of_oversized (harp : f.IsARP) (hlong : 1514 < f.length) :
    (g.inside t p f u).map Effect.outcome = some g.dropped := by
  rw [inside_oversized hlong, if_neg fun h => Frame.not_isIPv4_kept harp h.1]
  rfl

/-- A header that is not accepted ends the round. -/
theorem inside_outcome_of_refused (harp : f.IsARP) (hfits : f.length ≤ 1514)
    (h : f.length < 22 ∨ ¬f.arpHeader.WellFormed) :
    (g.inside t p f u).map Effect.outcome = some g.dropped := by
  have hacc := (p.received_holds hfits).not_arpAccepted h
  rw [inside_outcome_of_isARP harp hfits, insideARP_eq, if_neg hacc]
  rfl

theorem InsideConfined.of_dropped
    (h : ∀ p u, (g.inside t p f u).map Effect.outcome = some g.dropped) : InsideConfined g t f :=
  ⟨fun p p' u u' => by rw [h p u, h p' u'], fun _ => h⟩

theorem insideConfined_iff (harp : f.IsARP) : InsideConfined g t f ↔
    f.length < 22 ∨ 42 ≤ f.length ∨ ¬f.arpHeader.WellFormed ∨
      (∀ ip, g.staticIPMap.Has ip) ∨ ∀ ip, f.MaySend ip → g.Refuses ip f.etherSource := by
  rcases Nat.lt_or_ge f.length 22 with hheader | hheader
  · exact iff_of_true (.of_dropped fun p u =>
      inside_outcome_of_refused harp (by omega) (.inl hheader)) (.inl hheader)
  rcases Nat.lt_or_ge 1514 f.length with hlong | hfits
  · exact iff_of_true (.of_dropped fun p u => inside_outcome_of_oversized harp hlong)
      (.inr (.inl (by omega)))
  by_cases hform : f.arpHeader.WellFormed
  swap
  · exact iff_of_true (.of_dropped fun p u => inside_outcome_of_refused harp hfits (.inr hform))
      (.inr (.inr (.inl hform)))
  rcases Nat.lt_or_ge f.length 42 with hlen | hlen
  swap
  · refine iff_of_true ⟨fun p p' u u' => ?_, fun h => by omega⟩ (.inr (.inl hlen))
    rw [inside_outcome_of_isARP harp hfits, inside_outcome_of_isARP harp hfits]
    exact settle_insideARP_congr (p.received_holds hfits) (p'.received_holds hfits) hlen
  -- the header is accepted, and the target address is that of the local
  have hiff : ∀ p u, (g.inside t p f u).map Effect.outcome = some g.dropped ↔
      g.staticIPMap.Has (u.inAddr 0) ∨
        g.Refuses (if 32 ≤ f.length then f.arpSenderIP else u.inAddr 1) f.etherSource := by
    intro p u
    rw [inside_outcome_of_isARP harp hfits]
    exact settle_insideARP_eq_dropped_iff (p.received_holds hfits) harp hlen hheader hform
  rw [← Frame.forall_locals_iff]
  constructor
  · rintro ⟨-, hdrop⟩
    exact .inr (.inr (.inr fun u => (hiff sampleBuffer u).mp (hdrop hlen sampleBuffer u)))
  · rintro (h | h | h | h)
    · omega
    · omega
    · exact absurd hform h
    · exact .of_dropped fun p u => (hiff p u).mpr (h u)

/-! ## The outside loop -/

/-- The outcome of a message outside is that of the received bytes, and a truncated
message goes nowhere. -/
def OutsideConfined (g : Gateway) (f : Frame) : Prop :=
  (∀ p p' u u', (g.outside p f u).outcome = (g.outside p' f u').outcome) ∧
  (f.length < 42 → ∀ p u, (g.outside p f u).outcome = g.dropped)

theorem OutsideConfined.of_dropped (h : ∀ p u, (g.outside p f u).outcome = g.dropped) :
    OutsideConfined g f :=
  ⟨fun p p' u u' => by rw [h p u, h p' u'], fun _ => h⟩

theorem outside_outcome_of_isARP (harp : f.IsARP) (hfits : f.length ≤ 1514) :
    (g.outside p f u).outcome = deliver (g.outsideARP (p.received f) u) := by
  rw [outside_outcome hfits, outsideVerdict_of_isARP (p.received_holds hfits) harp]

theorem outside_outcome_of_oversized (harp : f.IsARP) (hlong : 1514 < f.length) :
    (g.outside p f u).outcome = g.dropped := by
  rw [outside_oversized hlong, if_neg fun h => Frame.not_isIPv4_kept harp h.1]
  rfl

theorem outside_outcome_of_refused (harp : f.IsARP) (hfits : f.length ≤ 1514)
    (h : f.length < 22 ∨ ¬f.arpHeader.WellFormed) : (g.outside p f u).outcome = g.dropped := by
  have hacc := (p.received_holds hfits).not_arpAccepted h
  rw [outside_outcome_of_isARP harp hfits, outsideARP]
  simp only [Ethernet.getNextOffset, Nat.zero_add]
  rw [if_pos hacc]
  rfl

theorem deliver_ne_dropped {g' : Gateway} (hp : p.Alike p) : deliver (g', some p) ≠ g.dropped := by
  obtain ⟨f, hp, -⟩ := hp
  intro h
  have hout := congrArg (fun o : Gateway × Emission => o.2.toInside) h
  simp only [deliver, hp.writePacket, dropped] at hout
  contradiction

/-- An inbound message with an accepted header goes nowhere if and only if a lookup
drops it. -/
theorem deliver_outsideARP_eq_dropped_iff {destIP srcIP : InAddr} {destMac : EtherAddr}
    (hp : p.Alike p) (hacc : arpAccepted (ARP.getHeader p 14) = true)
    (hdest : ARP.getDestinationIP p 14 (u.inAddr 0) = destIP)
    (hsrc : ARP.getSourceIP p 14 (u.inAddr 1) = srcIP)
    (hmac : Ethernet.getDestination p 0 (u.etherAddr 0) = destMac) :
    deliver (g.outsideARP p u) = g.dropped ↔
      g.Misaddressed destIP destMac ∨ g.staticIPMap.Has srcIP := by
  simp only [outsideARP, Ethernet.getNextOffset, etherHeaderLen, Nat.zero_add, hdest, hsrc, hmac]
  rw [if_neg (not_not.mpr hacc)]
  cases hsource : g.staticIPMap.find srcIP with
  | some mac => exact iff_of_true rfl (.inr (UnorderedMap.has_iff.mpr ⟨mac, hsource⟩))
  | none =>
  have hforeign : ¬g.staticIPMap.Has srcIP := UnorderedMap.not_has_iff.mpr hsource
  cases hstatic : g.staticIPMap.find destIP with
  | some static =>
      cases huser : g.userMap.find destIP with
      | some info =>
          by_cases hother : static ≠ destMac ∧ etherBroadcast ≠ destMac
          · refine iff_of_true ?_ (.inl ⟨static, info, hstatic, huser, hother⟩)
            simp [hother, deliver]
          · refine iff_of_false ?_ ?_
            · simp only [Option.isSome_none, Bool.false_eq_true, if_false, if_neg hother]
              exact deliver_ne_dropped
                ((hp.writeByteArray _ info.userMac.toList).writeByteArray _ info.userMac.toList)
            · rintro (⟨static', info', hstatic', -, hne⟩ | hhas)
              · rw [hstatic] at hstatic'
                exact hother (Option.some.inj hstatic' ▸ hne)
              · exact hforeign hhas
      | none =>
          refine iff_of_false (deliver_ne_dropped hp) ?_
          rintro (⟨-, info, -, hinfo, -⟩ | hhas)
          · rw [huser] at hinfo
            contradiction
          · exact hforeign hhas
  | none =>
      have hrefused : ¬(g.Misaddressed destIP destMac ∨ g.staticIPMap.Has srcIP) := by
        rintro (⟨static, -, hhas, -⟩ | hhas)
        · rw [hstatic] at hhas
          contradiction
        · exact hforeign hhas
      cases g.userMap.find destIP with
      | some info => exact iff_of_false (deliver_ne_dropped hp) hrefused
      | none => exact iff_of_false (deliver_ne_dropped hp) hrefused

theorem deliver_outsideARP_congr (hp : p.Holds f) (hq : q.Holds f) (hlen : 42 ≤ f.length) :
    deliver (g.outsideARP p u) = deliver (g.outsideARP q u') := by
  have hpq : p.Alike q := ⟨f, hp, hq⟩
  simp only [outsideARP, Ethernet.getNextOffset, etherHeaderLen, Nat.zero_add,
    hp.arpHeader (show 22 ≤ f.length by omega), hq.arpHeader (show 22 ≤ f.length by omega),
    hp.arpTargetIP hlen, hq.arpTargetIP hlen, hp.arpSenderIP hlen, hq.arpSenderIP hlen,
    hp.etherDestination (show 14 ≤ f.length by omega),
    hq.etherDestination (show 14 ≤ f.length by omega)]
  split
  · rfl
  cases g.staticIPMap.find f.arpSenderIP with
  | some _ => rfl
  | none =>
  cases g.staticIPMap.find f.arpTargetIP with
  | some static =>
      cases g.userMap.find f.arpTargetIP with
      | some info =>
          by_cases hother : static ≠ f.etherDestination ∧ etherBroadcast ≠ f.etherDestination
          · simp only [if_pos hother]
          · simp only [if_neg hother]
            exact deliver_congr
              ((hpq.writeByteArray _ info.userMac.toList).writeByteArray _ info.userMac.toList)
      | none => exact deliver_congr hpq
  | none =>
      cases g.userMap.find f.arpTargetIP with
      | some info => exact deliver_congr hpq
      | none => exact deliver_congr hpq

theorem outsideConfined_iff (harp : f.IsARP) : OutsideConfined g f ↔
    f.length < 22 ∨ 42 ≤ f.length ∨ ¬f.arpHeader.WellFormed ∨
      (∀ ip, g.Misaddressed ip f.etherDestination) ∨
      ∀ ip, f.MaySend ip → g.staticIPMap.Has ip := by
  rcases Nat.lt_or_ge f.length 22 with hheader | hheader
  · exact iff_of_true (.of_dropped fun p u =>
      outside_outcome_of_refused harp (by omega) (.inl hheader)) (.inl hheader)
  rcases Nat.lt_or_ge 1514 f.length with hlong | hfits
  · exact iff_of_true (.of_dropped fun p u => outside_outcome_of_oversized harp hlong)
      (.inr (.inl (by omega)))
  by_cases hform : f.arpHeader.WellFormed
  swap
  · exact iff_of_true (.of_dropped fun p u => outside_outcome_of_refused harp hfits (.inr hform))
      (.inr (.inr (.inl hform)))
  rcases Nat.lt_or_ge f.length 42 with hlen | hlen
  swap
  · refine iff_of_true ⟨fun p p' u u' => ?_, fun h => by omega⟩ (.inr (.inl hlen))
    rw [outside_outcome_of_isARP harp hfits, outside_outcome_of_isARP harp hfits]
    exact deliver_outsideARP_congr (p.received_holds hfits) (p'.received_holds hfits) hlen
  -- as inside, the target address is that of the local
  have hiff : ∀ p u, (g.outside p f u).outcome = g.dropped ↔
      g.Misaddressed (u.inAddr 0) f.etherDestination ∨
        g.staticIPMap.Has (if 32 ≤ f.length then f.arpSenderIP else u.inAddr 1) := by
    intro p u
    have hp := p.received_holds hfits
    have hacc : arpAccepted (ARP.getHeader (p.received f) 14) = true := by
      rw [hp.arpHeader hheader]
      exact arpAccepted_iff.mpr hform
    rw [outside_outcome_of_isARP harp hfits]
    exact deliver_outsideARP_eq_dropped_iff ⟨f, hp, hp⟩ hacc (hp.arpTargetIP_of_short hlen _)
      (hp.getSourceIP_eq _) (hp.etherDestination harp.1 _)
  rw [← Frame.forall_locals_iff]
  constructor
  · rintro ⟨-, hdrop⟩
    exact .inr (.inr (.inr fun u => (hiff sampleBuffer u).mp (hdrop hlen sampleBuffer u)))
  · rintro (h | h | h | h)
    · omega
    · omega
    · exact absurd hform h
    · exact .of_dropped fun p u => (hiff p u).mpr (h u)

/-- **Truncated messages.** What becomes of an ARP message is decided by the received
bytes and the maps, and by nothing else, if and only if its ARP header is missing or
refused, or it is complete, or the lookups drop it whatever the addresses are that
were not received. -/
theorem truncated_iff (g : Gateway) (t : UInt64) (harp : f.IsARP) :
    (InsideConfined g t f ↔ f.length < 22 ∨ 42 ≤ f.length ∨ ¬f.arpHeader.WellFormed ∨
      (∀ ip, g.staticIPMap.Has ip) ∨ ∀ ip, f.MaySend ip → g.Refuses ip f.etherSource) ∧
    (OutsideConfined g f ↔ f.length < 22 ∨ 42 ≤ f.length ∨ ¬f.arpHeader.WellFormed ∨
      (∀ ip, g.Misaddressed ip f.etherDestination) ∨
      ∀ ip, f.MaySend ip → g.staticIPMap.Has ip) :=
  ⟨insideConfined_iff harp, outsideConfined_iff harp⟩

/-- A complete message is confined. -/
theorem truncated_complete : InsideConfined sample 1 (sampleRequest sampleUserMAC) ∧
    OutsideConfined sample (sampleRequest sampleUserMAC) :=
  have hiff := truncated_iff (f := sampleRequest sampleUserMAC) sample 1 (by decide)
  ⟨hiff.1.mpr (.inr (.inl (by decide))), hiff.2.mpr (.inr (.inl (by decide)))⟩

/-- The request without its addresses: the frame ends behind the ARP header. -/
def headerOnly : Frame := (sampleRequest sampleUserMAC).take 22

/-- Either loop forwards it or drops it as the locals have it. -/
theorem truncated_forwarded :
    headerOnly.IsARP ∧ headerOnly.length = 22 ∧
      (sample.inside 1 sampleBuffer headerOnly default).map (fun e => e.toOutside) =
        some [headerOnly] ∧
      (sample.inside 1 sampleBuffer headerOnly (.ofAddresses sampleIP sampleIP)).map
        (fun e => e.toOutside) = some [] ∧
      (sample.outside sampleBuffer headerOnly default).toInside = [headerOnly] ∧
      (sample.outside sampleBuffer headerOnly (.ofAddresses sampleIP sampleIP)).toInside = [] ∧
      ¬InsideConfined sample 1 headerOnly ∧ ¬OutsideConfined sample headerOnly := by
  have hinside : ((sample.inside 1 sampleBuffer headerOnly default).map Effect.outcome).map
      (fun o => o.2.toOutside) = some [headerOnly] := by decide +kernel
  have houtside : (sample.outside sampleBuffer headerOnly default).outcome.2.toInside =
      [headerOnly] := by decide +kernel
  refine ⟨by decide, by decide, by decide +kernel, by decide +kernel, by decide +kernel,
    by decide +kernel, ?_, ?_⟩
  · rintro ⟨-, hdrop⟩
    rw [hdrop (by decide) sampleBuffer default] at hinside
    exact absurd hinside (by decide)
  · rintro ⟨-, hdrop⟩
    rw [hdrop (by decide) sampleBuffer default] at houtside
    exact absurd houtside (by decide)

end Gateway

end GatewaySocket
