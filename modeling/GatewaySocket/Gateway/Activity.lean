import GatewaySocket.Gateway.Length
import GatewaySocket.Gateway.Maps

/-!
# The access time of an entry

`serve` looks the sender of every forwarded frame up and notes the time in its
entry, unless the time noted there is recent enough. `known` is the entry it
finds, and everything a frame from inside does to the user map and to the queue
of `update_time` is the `touch` of that entry.
-/

namespace GatewaySocket

open ByteMemory Transition

/-! ## Times -/

theorem le_add_of_le {a b t : UInt64} (h : a ≤ b) (hb : b.toNat + t.toNat < UInt64.size) :
    a ≤ b + t := by
  simp only [UInt64.size] at hb
  rw [UInt64.le_iff_toNat_le] at h ⊢
  rw [UInt64.toNat_add]
  omega

theorem add_le_add_of_le {a b t : UInt64} (h : a ≤ b) (hb : b.toNat + t.toNat < UInt64.size) :
    a + t ≤ b + t := by
  simp only [UInt64.size] at hb
  rw [UInt64.le_iff_toNat_le] at h ⊢
  rw [UInt64.toNat_add, UInt64.toNat_add]
  omega

/-- What is out of date lies in the past. -/
theorem le_of_stale {a b t : UInt64} (ha : a.toNat + t.toNat < UInt64.size) (h : a + t < b) : a ≤ b :=
  UInt64.le_of_lt (UInt64.lt_of_le_of_lt (le_add_of_le (UInt64.le_refl a) ha) h)

namespace Gateway

variable {g : Gateway} {p q : Packet} {f : Frame} {u : Indeterminate} {t : UInt64} {ip : InAddr}
  {info : UserInfo} {e : Effect}

/-- The entry of the sender of a frame that is forwarded, with its key. -/
def known (g : Gateway) (p : Packet) (f : Frame) (u : Indeterminate) :
    Option (InAddr × UserInfo) :=
  if f.length < etherHeaderLen ∨ myPacketLen < f.length then none
  else
    match g.insideVerdict (p.received f) f.length u with
    | .pass _ user => user
    | _ => none

/-- A frame from inside touches the entry of its sender. -/
theorem inside_touch (h : g.inside t p f u = some e) :
    e.gateway = (g.touch t (g.known p f u)).1 ∧ e.updates = (g.touch t (g.known p f u)).2 := by
  rcases inside_cases h with ⟨hlen, hg, -, -, hupdates⟩ | ⟨hheader, hfits, buf, rfl, -, hv⟩
  · rw [known, if_pos hlen]
    exact ⟨hg, hupdates⟩
  · have hlen : ¬(f.length < etherHeaderLen ∨ myPacketLen < f.length) :=
      not_or.mpr ⟨Nat.not_lt.mpr hheader, Nat.not_lt.mpr hfits⟩
    rw [known, if_neg hlen, Packet.received]
    rcases hv with ⟨hv, rfl⟩ | ⟨r, hv, rfl⟩ | ⟨packet, user, hv, rfl⟩ <;> rw [hv]
    · exact ⟨rfl, rfl⟩
    · exact ⟨rfl, rfl⟩
    · exact ⟨rfl, rfl⟩

theorem Passes.owner {destIP srcIP : InAddr} {sourceMac : EtherAddr} {rewrite : EtherAddr → Packet}
    (h : Passes g p destIP srcIP sourceMac rewrite q (some (ip, info))) :
    ip = srcIP ∧ info.userMac = sourceMac := by
  cases h with
  | owned info mac hdest huser hstatic hmac => exact ⟨rfl, hmac⟩

/-- The known sender owns the source address under the hardware address that the
frame comes from. -/
theorem known_eq_some (h : g.known p f u = some (ip, info)) :
    g.userMap.find ip = some info ∧ info.userMac = f.etherSource ∧ (f.IsIPv4 ∨ f.IsARP) ∧
      (f.IsIPv4 ∨ f.IsARP ∧ 42 ≤ f.length → f.sourceIP = ip) := by
  unfold known at h
  split at h
  · contradiction
  next hlen =>
  rw [not_or, Nat.not_lt, Nat.not_lt] at hlen
  have hp : (p.received f).Holds f := p.received_holds hlen.2
  split at h
  · next packet user hv =>
      subst h
      refine ⟨find_of_insideVerdict hv ip info rfl, ?_⟩
      by_cases harp : f.etherType = ethertypeArp
      · have hisARP : f.IsARP := ⟨hlen.1, harp⟩
        have hv' := hv
        rw [insideVerdict, hp.getProtocol hlen.1, if_pos harp, insideARP_eq] at hv'
        split at hv'
        · obtain ⟨-, hmac⟩ := (passes_of_outbound hv').owner
          refine ⟨hmac.trans (hp.etherSource hlen.1 _), .inr hisARP, ?_⟩
          rintro (hip | ⟨-, hcomplete⟩)
          · exact absurd hisARP (Frame.not_isARP_of_isIPv4 hip)
          · rw [((passes_of_arp hp hisARP hcomplete hv).2.owner).1]
            exact if_pos hisARP
        · contradiction
      · by_cases hip : f.etherType = ethertypeIp
        · have hisIP : f.IsIPv4 := ⟨hlen.1, hip⟩
          obtain ⟨rfl, hmac⟩ := (passes_of_ipv4 hp hisIP hv).2.owner
          exact ⟨hmac, .inl hisIP, fun _ => if_neg (Frame.not_isARP_of_isIPv4 hisIP)⟩
        · rw [insideVerdict, hp.getProtocol hlen.1, if_neg harp, if_neg hip] at hv
          cases (Verdict.pass.inj hv).2
  · contradiction

/-- Frames from outside touch no entry. -/
theorem updates_outside (g : Gateway) (p : Packet) (f : Frame) (u : Indeterminate) :
    (g.outside p f u).updates = [] := by
  simp only [outside]
  split
  · rfl
  · split <;> rfl

/-- The entry that is touched is recent afterwards. -/
theorem recent_touch (hfind : g.userMap.find ip = some info)
    (hwrap : t.toNat + info.timeout.toNat < UInt64.size) :
    ∃ info', (g.touch t (some (ip, info))).1.userMap.find ip = some info' ∧
      info'.userMac = info.userMac ∧ t ≤ info'.lastAccess + info'.timeout := by
  simp only [touch]
  split
  · refine ⟨{ info with lastAccess := t }, by rw [UnorderedMap.find_set, if_pos rfl], rfl, ?_⟩
    exact le_add_of_le (UInt64.le_refl t) hwrap
  · next hrecent => exact ⟨info, hfind, rfl, UInt64.not_lt.mp hrecent⟩

end Gateway

namespace Loop

variable {l l' : Loop} {a : Action} {g' : Gateway} {ip : InAddr} {info : UserInfo} {e : Emission}

/-- The requests to `update_time` that an action makes. -/
def issues (l : Loop) : Action → List UpdateTime
  | .inside (some f) u => (l.gateway.touch l.currentTime (l.gateway.known l.inPacket f u)).2
  | _ => []

/-- The action forwards a frame of this entry, whose access time is out of date. -/
def Touches (l : Loop) (a : Action) (ip : InAddr) (info : UserInfo) : Prop :=
  ∃ f u, a = .inside (some f) u ∧ l.gateway.known l.inPacket f u = some (ip, info) ∧
    info.lastAccess + info.timeout < l.currentTime

theorem updates_of_exec (h : l.exec a = some (l', e)) : e.updates = l.issues a := by
  cases execs_of_exec h with
  | inside hplace heffect => exact (Gateway.inside_touch heffect).2
  | outside hplace => exact Gateway.updates_outside _ _ _ _
  | quiet ha hgateway => cases ha <;> rfl
  | call c | handle hplace hready => rfl

theorem currentTime_of_quiet (ha : Quiet a) (h : l.exec a = some (l', e)) :
    l'.currentTime = l.currentTime ∨ a = .gettimeofday l'.currentTime := by
  cases ha <;> simp only [exec] at h <;> split at h <;>
    first
    | contradiction
    | (obtain ⟨rfl, -⟩ : _ = l' ∧ _ = e := by simpa using h
       first
       | exact .inl rfl
       | exact .inr rfl)

/-- Only `gettimeofday` changes the time that `serve` goes by. -/
theorem currentTime_of_exec (h : l.exec a = some (l', e)) :
    l'.currentTime = l.currentTime ∨ a = .gettimeofday l'.currentTime := by
  cases execs_of_exec h with
  | quiet ha hgateway => exact currentTime_of_quiet ha h
  | call c | inside hplace heffect | outside hplace | handle hplace hready => exact .inl rfl

theorem touch_of_touches {f : Frame} {u : Indeterminate}
    (ht : l.Touches (.inside (some f) u) ip info) :
    l.gateway.touch l.currentTime (l.gateway.known l.inPacket f u) =
      ({ l.gateway with
          userMap := l.gateway.userMap.set ip { info with lastAccess := l.currentTime } },
        [⟨info.userMac, info.ip, l.currentTime⟩]) := by
  obtain ⟨f', u', heq, hknown, hstale⟩ := ht
  obtain ⟨hf, rfl⟩ := Action.inside.inj heq
  obtain rfl := Option.some.inj hf
  rw [hknown]
  exact if_pos hstale

theorem issues_of_touches (ht : l.Touches a ip info) :
    l.issues a = [⟨info.userMac, info.ip, l.currentTime⟩] := by
  obtain ⟨f, u, rfl, -⟩ := id ht
  exact congrArg Prod.snd (touch_of_touches ht)

/-- The access time of an entry that is touched is that of the frame. -/
theorem find_of_touches (ht : l.Touches a ip info) (h : l.exec a = some (l', e)) :
    l'.gateway.userMap.find ip = some { info with lastAccess := l.currentTime } := by
  obtain ⟨f, u, rfl, -⟩ := id ht
  obtain ⟨rounds, effect, -, heffect, rfl, -⟩ := exec_inside h
  rw [(Gateway.inside_touch heffect).1, touch_of_touches ht, UnorderedMap.find_set, if_pos rfl]

/-- An update is issued for an entry that is touched. -/
theorem mem_issues {r : UpdateTime} (h : r ∈ l.issues a) :
    ∃ ip old, l.Touches a ip old ∧ r = ⟨old.userMac, old.ip, l.currentTime⟩ := by
  unfold issues at h
  split at h
  · next f u =>
      cases hknown : l.gateway.known l.inPacket f u with
      | none =>
          rw [hknown] at h
          contradiction
      | some entry =>
          obtain ⟨ip, old⟩ := entry
          rw [hknown] at h
          simp only [Gateway.touch] at h
          split at h
          · next hstale =>
              exact ⟨ip, old, ⟨f, u, rfl, hknown, hstale⟩, List.mem_singleton.mp h⟩
          · contradiction
  · contradiction

/-- An entry was there before, or `add_user` brought it in, or it has been touched. -/
theorem Moves.find_cases (h : Moves l a g') (hfind : g'.userMap.find ip = some info) :
    l.gateway.userMap.find ip = some info ∨
      a = .handle .addUser ∧ info ∈ l.gateway.userAddRequest.queue ∧ info.ip = ip ∨
      ∃ old, l.Touches a ip old ∧ info = { old with lastAccess := l.currentTime } := by
  cases h with
  | call c =>
      rw [userMap_call] at hfind
      exact .inl hfind
  | @inside frame u effect h =>
      rw [(Gateway.inside_touch h).1] at hfind
      cases hknown : l.gateway.known l.inPacket frame u with
      | none =>
          rw [hknown] at hfind
          exact .inl hfind
      | some entry =>
          obtain ⟨key, old⟩ := entry
          rw [hknown] at hfind
          simp only [Gateway.touch] at hfind
          split at hfind
          · next hstale =>
              rw [UnorderedMap.find_set] at hfind
              split at hfind
              · next hip =>
                  subst hip
                  exact .inr (.inr ⟨old, ⟨frame, u, rfl, hknown, hstale⟩,
                    (Option.some.inj hfind).symm⟩)
              · exact .inl hfind
          · exact .inl hfind
  | outside frame u =>
      rcases Gateway.find_outside l.gateway l.outPacket frame u ip with hsame | ⟨-, hnone⟩
      · exact .inl (hsame.symm.trans hfind)
      · rw [hnone] at hfind
        contradiction
  | @handle handler ready hplace hready =>
      cases handler with
      | addUser =>
          by_cases hnamed : ∃ info ∈ l.gateway.userAddRequest.queue, info.ip = ip
          · obtain ⟨other, hmem, hip, hlast⟩ := UnorderedMap.find_foldl_of_named
              UserMap.find_add l.gateway.userMap hnamed
            rw [Gateway.handle, Gateway.userMap_addUserHandler, hlast] at hfind
            obtain rfl := Option.some.inj hfind
            exact .inr (.inl ⟨rfl, hmem, hip⟩)
          · have hunnamed : ¬l.gateway.Names ip .addUser := hnamed
            rw [(Gateway.find_handle_of_unnamed hunnamed).2] at hfind
            exact .inl hfind
      | delUser =>
          rw [Gateway.handle, Gateway.userMap_delUserHandler, Gateway.find_foldl_del] at hfind
          split at hfind
          · contradiction
          · exact .inl hfind
      | addStaticIp | delStaticIp | sendPacket => exact .inl hfind
  | quiet ha => exact .inl hfind

end Loop

end GatewaySocket
