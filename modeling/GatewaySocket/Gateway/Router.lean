import GatewaySocket.Container.Translation
import GatewaySocket.Gateway.Truncated
import GatewaySocket.Transition.Mealy

/-!
# The gateway as a translator

The gateway stands between two networks as a translator of hardware addresses: the
static map has the address under which an IP address goes outside, the user map the
one of its owner. `Translator.toOutside` and `Translator.toInside` say what it is
for, frame by frame: what it writes to the other side, for each frame that it can
read. The two loops do just that, to the byte, whatever is in their buffers and
locals. The exception is an ARP message whose header is in order and whose addresses
are cut off; `truncated_iff` says what becomes of it.
-/

namespace GatewaySocket

open ByteMemory Transition

/-- The maps of the gateway as a table of names. -/
def Gateway.translator (g : Gateway) : Translator InAddr EtherAddr where
  outer := g.staticIPMap.find
  inner := UserMap.owner g.userMap

/-- What a loop makes of a frame before it looks into the maps. -/
inductive Reading
  /-- of no use, and dropped -/
  | refused
  /-- neither ARP nor IPv4, and passed on -/
  | other
  | message (ev : Translator.Event InAddr EtherAddr)

/-- What the frame asks of the table of names. -/
def Reading.event : Reading → Option (Translator.Event InAddr EtherAddr)
  | message ev => some ev
  | _ => none

namespace Frame

/-- A message that the maps decide about: ARP with a header in order, or IPv4 with a
whole header, except for DHCP from the port `src` to `dst`. -/
def InOrder (f : Frame) (src dst : UInt16) : Prop :=
  f.IsARP ∧ ¬(f.length < 22 ∨ ¬f.arpHeader.WellFormed) ∨
    f.IsIPv4 ∧ ¬(f.length < 28 + f.ipHeaderLength ∨ f.IsUDP src dst)

instance (f : Frame) (src dst : UInt16) : Decidable (f.InOrder src dst) :=
  inferInstanceAs (Decidable (_ ∨ _))

/-- What the inside loop makes of the frame. -/
def readInside (f : Frame) : Reading :=
  if f.InOrder 68 67 then .message (.leave f.destinationIP f.sourceIP f.etherSource)
  else if f.IsARP ∨ f.IsIPv4 ∨ f.length < 14 then .refused
  else .other

/-- The receiver to whom an ARP message may be sent in place of one. -/
def everybody (f : Frame) : Option EtherAddr :=
  if f.IsARP then some Gateway.etherBroadcast else none

/-- What the outside loop makes of the frame. -/
def readOutside (f : Frame) : Reading :=
  if f.InOrder 67 68 then
    .message (.enter f.everybody f.destinationIP f.sourceIP f.etherDestination)
  else if f.IsARP ∨ f.IsIPv4 then .refused
  else .other

theorem inOrder_of_isARP {f : Frame} {src dst : UInt16} (harp : f.IsARP) :
    f.InOrder src dst ↔ ¬(f.length < 22 ∨ ¬f.arpHeader.WellFormed) := by
  have hip : ¬f.IsIPv4 := fun hip => not_isARP_of_isIPv4 hip harp
  simp only [InOrder, harp, hip, true_and, false_and, or_false]

theorem inOrder_of_isIPv4 {f : Frame} {src dst : UInt16} (hip : f.IsIPv4) :
    f.InOrder src dst ↔ ¬(f.length < 28 + f.ipHeaderLength ∨ f.IsUDP src dst) := by
  simp only [InOrder, hip, not_isARP_of_isIPv4 hip, true_and, false_and, false_or]

/-- DHCP between the null address and the broadcast address. -/
def IsStray (f : Frame) : Prop :=
  (f.IsUDP 68 67 ∨ f.IsUDP 67 68) ∧ f.ipSource = Gateway.ipv4None ∧
    f.ipDestination = Gateway.ipv4Broadcast

instance (f : Frame) : Decidable f.IsStray := inferInstanceAs (Decidable (_ ∧ _))

/-- The frame in the name of another sender. -/
def withSource (f : Frame) (mac : EtherAddr) : Frame :=
  if f.IsARP then (f.patch 22 mac.toList).patch 6 mac.toList else f.patch 6 mac.toList

/-- The frame for another receiver. -/
def withDestination (f : Frame) (mac : EtherAddr) : Frame :=
  if f.IsARP then (f.patch 32 mac.toList).patch 0 mac.toList else f.patch 0 mac.toList

/-- The ARP addresses have been received, or nobody asks for them. -/
def Covered (f : Frame) : Prop :=
  f.IsARP → 42 ≤ f.length ∨ f.length < 22 ∨ ¬f.arpHeader.WellFormed

instance (f : Frame) : Decidable f.Covered := inferInstanceAs (Decidable (_ → _))

/-- The answer to a frame that is too long. -/
def answer (f : Frame) : List Frame :=
  if f.kept.IsIPv4 ∧ f.kept.ipHeaderLength = 20 then [TooBig.frame f.kept myMtu] else []

/-! A new receiver makes no difference to the fields behind the Ethernet addresses. -/

section Receiver

variable {f : Frame}

theorem IsIPv4.patch_zero (h : f.IsIPv4) (mac : EtherAddr) : (f.patch 0 mac.toList).IsIPv4 := by
  refine ⟨by rw [length_patch]; exact h.1, ?_⟩
  rw [etherType, field_patch_zero mac (by decide) h.1]
  exact h.2

theorem ipSource_patch_zero (hlen : 34 ≤ f.length) (mac : EtherAddr) :
    (f.patch 0 mac.toList).ipSource = f.ipSource :=
  field_patch_zero mac (by decide) (by omega)

theorem ipDestination_patch_zero (hlen : 34 ≤ f.length) (mac : EtherAddr) :
    (f.patch 0 mac.toList).ipDestination = f.ipDestination :=
  field_patch_zero mac (by decide) (by omega)

theorem isUDP_patch_zero (hip : f.IsIPv4) (hlen : 28 + f.ipHeaderLength ≤ f.length)
    (mac : EtherAddr) (src dst : UInt16) :
    (f.patch 0 mac.toList).IsUDP src dst ↔ f.IsUDP src dst := by
  simp only [IsUDP, hip, hip.patch_zero mac, ipProtocol, udpSource, udpDestination,
    ipHeaderLength_patch_zero, getD_patch_zero mac (show 6 ≤ 23 by decide)]
  rw [field_patch_zero mac (by omega) (by omega), field_patch_zero mac (by omega) (by omega)]

theorem isStray_patch_zero (hip : f.IsIPv4) (hlen : 28 + f.ipHeaderLength ≤ f.length)
    (mac : EtherAddr) : (f.patch 0 mac.toList).IsStray ↔ f.IsStray := by
  have hge := f.ipHeaderLength_ge
  rw [IsStray, isUDP_patch_zero hip hlen, isUDP_patch_zero hip hlen,
    ipSource_patch_zero (by omega), ipDestination_patch_zero (by omega), IsStray]

end Receiver

end Frame

/-- The frames that are written for a frame with this fate. -/
def Fate.frames (f : Frame) (rename : EtherAddr → Frame) : Fate EtherAddr → List Frame
  | .dropped | .undefined => []
  | .passed => [f]
  | .renamed mac => [rename mac]

namespace Translator

/-- What is written outside for a frame from inside. -/
def toOutside (T : Translator InAddr EtherAddr) (f : Frame) : List Frame :=
  if 1514 < f.length then []
  else
    match f.readInside with
    | .refused => []
    | .other => [f]
    | .message ev => (T.fate ev).frames f f.withSource

/-- What is written inside for a frame from outside. -/
def toInside (T : Translator InAddr EtherAddr) (f : Frame) : List Frame :=
  if 1514 < f.length ∨ f.IsStray then []
  else
    match f.readOutside with
    | .refused => []
    | .other => [f]
    | .message ev => (T.fate ev).frames f f.withDestination

end Translator

namespace Gateway

variable {g : Gateway} {t : UInt64} {p q : Packet} {f : Frame} {u : Indeterminate}
  {destIP srcIP : InAddr} {mac : EtherAddr} {rewrite : EtherAddr → Packet}

/-! ## The inside loop -/

/-- The entry of the user who sends the frame, with its key. -/
def sender (g : Gateway) (srcIP : InAddr) : Option (InAddr × UserInfo) :=
  (g.userMap.find srcIP).map fun info => (srcIP, info)

/-- The outcome of a frame from inside that is subject to translation. -/
def outcomeOf (g : Gateway) (t : UInt64) (f : Frame) (srcIP : InAddr) :
    Fate EtherAddr → Option (Gateway × Emission)
  | .undefined => none
  | .dropped => some g.dropped
  | .passed => some (g, { toOutside := [f] })
  | .renamed mac =>
    some ((g.touch t (g.sender srcIP)).1, {
      updates := (g.touch t (g.sender srcIP)).2
      toOutside := [f.withSource mac] })

theorem settle_outbound (hp : p.Holds f) (hrewrite : ∀ mac, (rewrite mac).Holds (f.withSource mac)) :
    g.settle t (g.outbound p destIP srcIP mac rewrite) =
      g.outcomeOf t f srcIP (g.translator.leave destIP srcIP mac) := by
  simp only [outbound, Translator.leave, translator, UserMap.owner]
  cases g.staticIPMap.find destIP with
  | some _ => rfl
  | none =>
      cases huser : g.userMap.find srcIP with
      | some info =>
          by_cases hmac : info.userMac = mac
          · cases g.staticIPMap.find srcIP with
            | some static =>
                simp [hmac, settle, outcomeOf, sender, huser, (hrewrite static).writePacket]
            | none => simp [hmac, settle, outcomeOf]
          · cases g.staticIPMap.find srcIP <;> simp [hmac, settle, outcomeOf]
      | none =>
          cases g.staticIPMap.find srcIP with
          | some _ => rfl
          | none => simp [settle, outcomeOf, hp.writePacket, touch]

/-- The outcome of a round of the inside loop, from the frame and the maps alone. -/
def insideOutcome (g : Gateway) (t : UInt64) (f : Frame) : Option (Gateway × Emission) :=
  if 1514 < f.length then some (g, { toInside := f.answer })
  else
    match f.readInside with
    | .refused =>
      some (g, { dhcp := if f.IsUDP 68 67 ∧ f.IsTakenIn then [f.dhcpRequest] else [] })
    | .other => some (g, { toOutside := [f] })
    | .message ev => g.outcomeOf t f f.sourceIP (g.translator.fate ev)

theorem settle_insideARP (hp : p.Holds f) (harp : f.IsARP) (hcovered : f.Covered) :
    g.settle t (g.insideARP p u) =
      if f.length < 22 ∨ ¬f.arpHeader.WellFormed then some g.dropped
      else g.outcomeOf t f f.arpSenderIP
        (g.translator.leave f.arpTargetIP f.arpSenderIP f.etherSource) := by
  rw [insideARP_eq]
  split
  · next hacc =>
      have hok : ¬(f.length < 22 ∨ ¬f.arpHeader.WellFormed) :=
        fun h => hp.not_arpAccepted h hacc
      have hlen : 42 ≤ f.length := (hcovered harp).resolve_right hok
      rw [if_neg hok, hp.arpTargetIP hlen, hp.arpSenderIP hlen, hp.etherSource harp.1]
      refine settle_outbound hp fun mac => ?_
      rw [Frame.withSource, if_pos harp]
      refine (hp.setSourceMAC (by omega) mac).setSource ?_ mac
      rw [Frame.length_patch]
      omega
  · next hacc =>
      have hno : f.length < 22 ∨ ¬f.arpHeader.WellFormed := by
        by_contra hok
        refine hacc ?_
        rw [hp.arpHeader (by omega), arpAccepted_iff]
        tauto
      rw [if_pos hno]
      rfl

/-- What becomes of a frame from inside. -/
theorem inside_outcome_eq (hcovered : f.Covered) :
    (g.inside t p f u).map Effect.outcome = g.insideOutcome t f := by
  unfold insideOutcome
  split
  · next hlong =>
      rw [inside_oversized hlong]
      rfl
  next hlong =>
  have hfits := Nat.le_of_not_lt hlong
  have hp := p.received_holds hfits
  by_cases hheader : f.length < 14
  · have harp : ¬f.IsARP := fun h => absurd h.1 (by omega)
    have hip : ¬f.IsIPv4 := fun h => absurd h.1 (by omega)
    have hudp : ¬f.IsUDP 68 67 := fun h => hip h.1
    have hshort : (f.length : ℤ) < (etherHeaderLen : ℤ) := Int.ofNat_lt.mpr hheader
    simp only [Frame.readInside, Frame.InOrder, harp, hip, hheader, hudp, false_and, false_or,
      or_true, if_false, if_true]
    simp only [inside, if_neg (not_oversized hfits), if_pos hshort]
    rfl
  have hlen := Nat.le_of_not_lt hheader
  rw [inside_outcome hlen hfits]
  by_cases harp : f.IsARP
  · have hudp : ¬f.IsUDP 68 67 := fun h => Frame.not_isARP_of_isIPv4 h.1 harp
    have hsource : f.sourceIP = f.arpSenderIP := if_pos harp
    have hdest : f.destinationIP = f.arpTargetIP := if_pos harp
    rw [insideVerdict_of_isARP hp harp, settle_insideARP hp harp hcovered]
    simp only [Frame.readInside, Frame.inOrder_of_isARP harp, harp, true_or, if_true, hudp,
      false_and, if_false, hsource, hdest, ite_not]
    split <;> rfl
  by_cases hip : f.IsIPv4
  · have hsource : f.sourceIP = f.ipSource := if_neg harp
    have hdest : f.destinationIP = f.ipDestination := if_neg harp
    rw [insideVerdict_of_isIPv4 hp hip]
    simp only [Frame.readInside, Frame.inOrder_of_isIPv4 hip, hip, true_or, or_true, if_true,
      hsource, hdest, ite_not]
    by_cases hshort : f.length < 28 + f.ipHeaderLength
    · have htaken : ¬f.IsTakenIn := by
        rintro ⟨-, hwhole, -⟩
        have hpayload : f.udpPayload = 22 + f.ipHeaderLength := rfl
        omega
      simp only [hshort, true_or, if_true, htaken, and_false, if_false]
      rfl
    by_cases hudp : f.IsUDP 68 67
    · simp only [if_neg hshort, hudp, or_true, if_true, true_and]
      split <;> rfl
    · simp only [hshort, hudp, or_self, if_false]
      refine settle_outbound hp fun mac => ?_
      rw [Frame.withSource, if_neg harp]
      exact hp.setSource (by omega) mac
  · have harpType : ¬f.etherType = ethertypeArp := fun h => harp ⟨hlen, h⟩
    have hipType : ¬f.etherType = ethertypeIp := fun h => hip ⟨hlen, h⟩
    simp only [Frame.readInside, Frame.InOrder, harp, hip, hheader, false_and, or_self, if_false]
    rw [insideVerdict, hp.getProtocol hlen, if_neg harpType, if_neg hipType, settle,
      hp.writePacket]
    rfl

/-! ## The outside loop -/

/-- A frame to an address without static entry removes the user of the address. -/
def forget (g : Gateway) (destIP srcIP : InAddr) : Gateway :=
  if g.staticIPMap.find srcIP = none ∧ g.staticIPMap.find destIP = none then g.removeUser destIP
  else g

/-- The outcome of a round of the outside loop, from the frame and the maps alone. -/
def outsideOutcome (g : Gateway) (f : Frame) : Gateway × Emission :=
  if 1514 < f.length then (g, { toOutside := f.answer })
  else
    match f.readOutside with
    | .refused => g.dropped
    | .other => (g, { toInside := [f] })
    | .message ev =>
      (g.forget f.destinationIP f.sourceIP, {
        toInside := if f.IsStray then [] else (g.translator.fate ev).frames f f.withDestination })

theorem removeUser_eq_self (h : g.userMap.find destIP = none) : g.removeUser destIP = g := by
  rw [removeUser, UnorderedMap.erase_eq_self h]

theorem deliver_outsideARP (hp : p.Holds f) (harp : f.IsARP) (hcovered : f.Covered) :
    deliver (g.outsideARP p u) =
      if f.length < 22 ∨ ¬f.arpHeader.WellFormed then g.dropped
      else (g.forget f.arpTargetIP f.arpSenderIP, {
        toInside := (g.translator.enter (some etherBroadcast) f.arpTargetIP f.arpSenderIP
          f.etherDestination).frames f f.withDestination }) := by
  by_cases hno : f.length < 22 ∨ ¬f.arpHeader.WellFormed
  · simp only [outsideARP, Ethernet.getNextOffset, etherHeaderLen, Nat.zero_add]
    rw [if_pos hno, if_pos (hp.not_arpAccepted hno)]
    rfl
  have hlen : 42 ≤ f.length := (hcovered harp).resolve_right hno
  have hacc : arpAccepted (ARP.getHeader p 14) = true := by
    rw [hp.arpHeader (by omega), arpAccepted_iff]
    tauto
  rw [if_neg hno]
  simp only [outsideARP, Ethernet.getNextOffset, etherHeaderLen, Nat.zero_add, hacc,
    hp.arpTargetIP hlen, hp.arpSenderIP hlen, hp.etherDestination harp.1, not_true_eq_false,
    if_false, Translator.enter, translator, UserMap.owner, forget]
  cases g.staticIPMap.find f.arpSenderIP with
  | some _ => rfl
  | none =>
  cases g.staticIPMap.find f.arpTargetIP with
  | some static =>
      cases g.userMap.find f.arpTargetIP with
      | some info =>
          have hrewritten : (Ethernet.setDestination (ARP.setDestinationMAC p 14 info.userMac) 0
              info.userMac).Holds (f.withDestination info.userMac) := by
            rw [Frame.withDestination, if_pos harp]
            refine (hp.setDestinationMAC (by omega) info.userMac).setDestination ?_ info.userMac
            rw [Frame.length_patch]
            omega
          by_cases hmac : static = f.etherDestination ∨ etherBroadcast = f.etherDestination
          · have hdrop : ¬(static ≠ f.etherDestination ∧ etherBroadcast ≠ f.etherDestination) := by
              tauto
            simp [deliver, if_neg hdrop, hmac, Fate.frames, hrewritten.writePacket]
          · have hdrop : static ≠ f.etherDestination ∧ etherBroadcast ≠ f.etherDestination := by
              tauto
            simp [deliver, dropped, hdrop, Fate.frames]
      | none => simp [deliver, Fate.frames, hp.writePacket]
  | none =>
      cases huser : g.userMap.find f.arpTargetIP with
      | some info => simp [deliver, Fate.frames, hp.writePacket]
      | none => simp [deliver, Fate.frames, hp.writePacket, removeUser_eq_self huser]

theorem outsideDHCP_iff (hp : p.Holds f) (hip : f.IsIPv4) (hlen : 28 + f.ipHeaderLength ≤ f.length) :
    outsideDHCP p 14 f.ipSource f.ipDestination u = true ↔ f.IsStray := by
  rw [outsideDHCP_eq (hp.readsIPv4 hlen)]
  simp only [Bool.and_eq_true, Bool.or_eq_true, decide_eq_true_eq]
  constructor
  · rintro ⟨⟨⟨hudp, hsrc⟩, hdst⟩, hports⟩
    refine ⟨?_, hsrc.symm, hdst.symm⟩
    exact hports.imp (fun h => ⟨hip, hudp, h⟩) fun h => ⟨hip, hudp, h⟩
  · rintro ⟨⟨-, hudp, hports⟩ | ⟨-, hudp, hports⟩, hsrc, hdst⟩
    · exact ⟨⟨⟨hudp, hsrc.symm⟩, hdst.symm⟩, .inl hports⟩
    · exact ⟨⟨⟨hudp, hsrc.symm⟩, hdst.symm⟩, .inr hports⟩

/-- The last test and the write, for a packet that holds what is to be written. -/
theorem deliver_stray {out : Frame} (hq : q.Holds out)
    (hstray : outsideDHCP q 14 srcIP destIP u = true ↔ f.IsStray) :
    deliver (g, if outsideDHCP q 14 srcIP destIP u then none else some q) =
      (g, { toInside := if f.IsStray then [] else [out] }) := by
  by_cases h : f.IsStray
  · rw [if_pos h, if_pos (hstray.mpr h)]
    rfl
  · rw [if_neg h, if_neg fun hdhcp => h (hstray.mp hdhcp), deliver, hq.writePacket]

theorem deliver_outsideIP (hp : p.Holds f) (hip : f.IsIPv4) :
    deliver (g.outsideIP p f.length u) =
      if f.length < 28 + f.ipHeaderLength ∨ f.IsUDP 67 68 then g.dropped
      else (g.forget f.ipDestination f.ipSource, {
        toInside := if f.IsStray then [] else
          (g.translator.enter none f.ipDestination f.ipSource f.etherDestination).frames f
            f.withDestination }) := by
  by_cases hshort : f.length < 28 + f.ipHeaderLength
  · rw [outsideIP_of_tooShort ((tooShort_iff hp).mpr hshort), if_pos (.inl hshort)]
    rfl
  have hlen := Nat.le_of_not_lt hshort
  have hread := hp.readsIPv4 hlen
  have hlong : ¬(f.length : ℤ) < ((14 + (14 + f.ipHeaderLength) : ℕ) : ℤ) := by omega
  have hserver : (f.ipProtocol = ipprotoUdp ∧ f.udpSource = 67 ∧ f.udpDestination = 68) =
      f.IsUDP 67 68 := propext ⟨fun h => ⟨hip, h⟩, fun h => h.2⟩
  simp only [outsideIP, Ethernet.getNextOffset, etherHeaderLen, Nat.zero_add, if_neg hlong,
    hread.nextOffset, hread.protocol, hread.source, hread.destination, hread.etherDestination,
    hread.udpSource, hread.udpDestination, hserver, hshort, false_or]
  split
  · rfl
  simp only [Translator.enter, translator, UserMap.owner, forget]
  cases g.staticIPMap.find f.ipSource with
  | some _ => simp [deliver, dropped, Fate.frames]
  | none =>
  have hstray := outsideDHCP_iff (u := u) hp hip hlen
  cases g.staticIPMap.find f.ipDestination with
  | some static =>
      cases g.userMap.find f.ipDestination with
      | some info =>
          by_cases hmac : static = f.etherDestination
          · have hge := f.ipHeaderLength_ge
            have hrenamed := hp.setDestination (show 6 ≤ f.length by omega) info.userMac
            have hout : f.withDestination info.userMac = f.patch 0 info.userMac.toList :=
              if_neg (Frame.not_isARP_of_isIPv4 hip)
            have hstray' : outsideDHCP (Ethernet.setDestination p 0 info.userMac) 14 f.ipSource
                f.ipDestination u = true ↔ f.IsStray := by
              have hpatched := outsideDHCP_iff (u := u) hrenamed (hip.patch_zero info.userMac) (by
                rw [Frame.ipHeaderLength_patch_zero, Frame.length_patch]
                exact hlen)
              rwa [Frame.isStray_patch_zero hip hlen, Frame.ipSource_patch_zero (by omega),
                Frame.ipDestination_patch_zero (by omega)] at hpatched
            simpa [hmac, Fate.frames, hout] using deliver_stray hrenamed hstray'
          · simp [deliver, dropped, hmac, Fate.frames]
      | none => simp [deliver, dropped, Fate.frames]
  | none =>
      cases huser : g.userMap.find f.ipDestination with
      | some info => simpa [Fate.frames] using deliver_stray hp hstray
      | none => simpa [Fate.frames, removeUser_eq_self huser] using deliver_stray hp hstray

/-- What becomes of a frame from outside. -/
theorem outside_outcome_eq (hcovered : f.Covered) :
    (g.outside p f u).outcome = g.outsideOutcome f := by
  unfold outsideOutcome
  split
  · next hlong =>
      rw [outside_oversized hlong]
      rfl
  next hlong =>
  have hfits := Nat.le_of_not_lt hlong
  have hp := p.received_holds hfits
  rw [outside_outcome hfits]
  by_cases harp : f.IsARP
  · have hsource : f.sourceIP = f.arpSenderIP := if_pos harp
    have hdest : f.destinationIP = f.arpTargetIP := if_pos harp
    have hstray : ¬f.IsStray := by
      rintro ⟨h | h, -⟩
      · exact Frame.not_isARP_of_isIPv4 h.1 harp
      · exact Frame.not_isARP_of_isIPv4 h.1 harp
    rw [outsideVerdict_of_isARP hp harp, deliver_outsideARP hp harp hcovered]
    simp only [Frame.readOutside, Frame.inOrder_of_isARP harp, Frame.everybody, harp, true_or,
      if_true, hsource, hdest, if_neg hstray, ite_not]
    split <;> rfl
  by_cases hip : f.IsIPv4
  · have hsource : f.sourceIP = f.ipSource := if_neg harp
    have hdest : f.destinationIP = f.ipDestination := if_neg harp
    rw [outsideVerdict_of_isIPv4 hp hip, deliver_outsideIP hp hip]
    simp only [Frame.readOutside, Frame.inOrder_of_isIPv4 hip, Frame.everybody, hip, or_true,
      if_true, if_neg harp, hsource, hdest, ite_not]
    split <;> rfl
  · have hother : Ethernet.getProtocol (p.received f) 0 ≠ ethertypeArp ∧
        Ethernet.getProtocol (p.received f) 0 ≠ ethertypeIp := by
      by_cases hlen : 14 ≤ f.length
      · rw [hp.getProtocol hlen]
        exact ⟨fun h => harp ⟨hlen, h⟩, fun h => hip ⟨hlen, h⟩⟩
      · rw [hp.getProtocol_of_short (by omega)]
        decide
    simp only [Frame.readOutside, Frame.InOrder, harp, hip, false_and, or_self, if_false]
    rw [outsideVerdict, if_neg hother.1, if_neg hother.2, deliver, hp.writePacket]

end Gateway

end GatewaySocket
