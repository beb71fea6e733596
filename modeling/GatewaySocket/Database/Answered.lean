import GatewaySocket.Database.Response
import GatewaySocket.Packet.Quad
import Mathlib.Data.List.MinMax

/-!
# Requests and their answers

What `create_dhcp` sends for a request, what it tells the gateway and what is then
in the tables name one address. Whether it answers is decided by what the tables
have to give, once more with the time of the eviction query in unsigned arithmetic.
-/

namespace GatewaySocket

open ByteMemory

/-! ## The frame of an answer -/

/-- The frame brings the client the reply to its request, with this address. -/
structure Frame.IsReply (f : Frame) (request : DhcpRequest) (ip : InAddr) : Prop where
  isUDP : f.IsUDP 67 68
  etherDestination : f.etherDestination = request.mac
  ipDestination : f.ipDestination = ip
  reply : ∃ reply, DHCP.Reply.decode (f.drop f.udpPayload) = some reply ∧
    reply.xid = request.transID ∧ reply.yiaddr = ip ∧
    reply.messageType = some (if request.isDiscover then 2 else 5)

section

variable {cfg : Config} {request : DhcpRequest} {ip : InAddr} {u : Indeterminate}

/-- The client reads in the frame what the server answers. -/
theorem isReply_frame (hdns : cfg.dnsList.length ≤ 63) :
    (answerDatagram cfg request ip u).frame.IsReply request ip := by
  have hdata : 28 + (answerDatagram cfg request ip u).data.length ≤ 65535 := by
    rw [length_answerDatagram]
    omega
  have hoption : ∀ code, (replyOf cfg request ip dhcpTimeout).option code =
      TypeLengthValue.find code (responseTo cfg request ip dhcpTimeout).options := fun _ => rfl
  refine ⟨UDP.Datagram.isUDP_frame hdata, UDP.Datagram.etherDestination_frame hdata,
    UDP.Datagram.ipDestination_frame hdata, replyOf cfg request ip dhcpTimeout, ?_, rfl, rfl, ?_⟩
  · rw [UDP.Datagram.drop_frame]
    exact decode_payload hdns
  · rw [DHCP.Reply.messageType, hoption]
    rfl

/-- The answer goes out as one frame, which is its reply. -/
theorem answer_sent (request : DhcpRequest) (ip : InAddr) (u : Indeterminate)
    (hdns : cfg.dnsList.length ≤ 63) :
    ∃ f, Device.writePacket (answer cfg request ip u).packet.inMemory
        (answer cfg request ip u).packet.getLength = [f] ∧ f.IsReply request ip := by
  refine ⟨(answerDatagram cfg request ip u).frame, ?_, isReply_frame hdns⟩
  rw [answer_packet_eq hdns]
  exact (Packet.front_holds rfl).writePacket

end

namespace Tables

variable {cfg : Config} {t : Tables} {request : DhcpRequest} {now : UInt64} {choice : Choice}
  {u : Indeterminate} {fault : Option ℕ} {o : Outcome} {mac ip : String}

/-! ## Whom the tables can serve -/

/-- A dynamic address that no user holds. -/
def HasUnused (t : Tables) : Prop := ∃ ip, t.Dynamic ip ∧ t.ipOf.Free ip

/-- A user of a dynamic address was last seen before this time. -/
def Expired (t : Tables) (before : ℤ) : Prop :=
  ∃ r ∈ t.user.rows, ∃ ip accessed, r.ip = some ip ∧ t.Dynamic ip ∧
    r.accessed = some accessed ∧ accessed < before

/-- The MAC has an address in `static_ip`, or it has none and can be given one. -/
def CanServe (t : Tables) (mac : String) (before : ℤ) : Prop :=
  (∃ ip, t.ipOf mac = some ip ∧ t.staticIp.row ip ≠ none) ∨
    t.ipOf mac = none ∧ (t.HasUnused ∨ t.Expired before)

theorem Dynamic.row_ne_none (h : t.Dynamic ip) : t.staticIp.row ip ≠ none := by
  obtain ⟨s, hs, hip, -⟩ := h
  rw [KeyedTable.row_eq_some_iff.mpr ⟨hs, hip⟩]
  nofun

theorem hasUnused_iff : t.HasUnused ↔ t.selectUnusedDynamicIP ≠ [] := by
  constructor
  · rintro ⟨ip, hip⟩
    exact List.ne_nil_of_mem (mem_selectUnusedDynamicIP.mpr hip)
  · intro h
    obtain ⟨ip, hip⟩ := List.exists_mem_of_ne_nil _ h
    exact ⟨ip, mem_selectUnusedDynamicIP.mp hip⟩

theorem expired_iff {before : UInt64} :
    t.Expired before.toNat ↔ t.selectUsingDynamicIP before ≠ [] := by
  constructor
  · rintro ⟨r, hr, ip, accessed, hip, hdyn, hacc, hlt⟩
    exact List.ne_nil_of_mem (mem_selectUsingDynamicIP.mpr ⟨hdyn, hlt, r, hr, hip, hacc⟩)
  · intro h
    obtain ⟨⟨ip, accessed⟩, hmem⟩ := List.exists_mem_of_ne_nil _ h
    obtain ⟨hdyn, hlt, r, hr, hip, hacc⟩ := mem_selectUsingDynamicIP.mp hmem
    exact ⟨r, hr, ip, accessed, hip, hdyn, hacc, hlt⟩

/-- Of rows that there are some come first. -/
theorem stalest_eq_nil_iff {rows : List (String × ℤ)} : stalest rows = [] ↔ rows = [] := by
  constructor
  · intro h
    by_contra hne
    obtain ⟨x, hx⟩ := Option.ne_none_iff_exists'.mp
      (mt (List.argmin_eq_none (f := Prod.snd)).mp hne)
    have hmem : x ∈ stalest rows := by
      refine List.mem_filter.mpr ⟨List.argmin_mem hx, List.all_eq_true.mpr fun y hy => ?_⟩
      exact decide_eq_true (List.le_of_mem_argmin (f := Prod.snd) hy hx)
    rw [h] at hmem
    contradiction
  · rintro rfl
    rfl

theorem calls_eq_nil_iff (h : t.process cfg (.dhcp request now choice u fault) = some o) :
    o.calls = [] ↔ o.answer = none := by
  obtain ⟨ip, -, -, hcalls⟩ := process_dhcp h
  rw [hcalls]
  cases o.answer with
  | none => exact iff_of_true rfl rfl
  | some ans =>
      refine iff_of_false ?_ nofun
      cases hdiscover : ans.isDiscover <;> simp [Answer.calls, hdiscover]

/-- A MAC with a row is answered just if the tables can serve it, with the time as
`create_dhcp` computes it. -/
theorem answered_iff (hne : ∀ text ∈ t.texts, text ≠ "")
    (h : t.process cfg (.dhcp request now choice u fault) = some o)
    (hrow : t.user.row (printMAC request.mac) ≠ none) :
    o.calls ≠ [] ↔ t.CanServe (printMAC request.mac) (cutoff now).toNat := by
  obtain ⟨found, hassigns, hanswer, -⟩ := process_dhcp h
  rw [ne_eq, calls_eq_nil_iff h]
  have hstatic := hassigns.staticIp
  generalize o.tables = t' at hassigns hanswer hstatic
  cases hassigns with
  | unknown hnone => exact absurd hnone hrow
  | kept ip hip hneip =>
      rw [hanswer, hstatic, Option.bind_some, Option.map_eq_none_iff]
      constructor
      · exact fun hrow => .inl ⟨ip, hip, hrow⟩
      · rintro (⟨ip', hip', hrow'⟩ | ⟨hnone, -⟩)
        · rw [hip] at hip'
          exact Option.some.inj hip' ▸ hrow'
        · rw [hip] at hnone
          contradiction
  | unused ip hlacks hfirst =>
      have hmem := mem_of_first hfirst
      rw [hanswer, hstatic, Option.bind_some, Option.map_eq_none_iff]
      exact iff_of_true (mem_selectUnusedDynamicIP.mp hmem).1.row_ne_none
        (.inr ⟨ipOf_of_lacks hne hlacks, .inl ⟨ip, mem_selectUnusedDynamicIP.mp hmem⟩⟩)
  | evicted ip accessed hlacks hnone hfirst =>
      have hmem := (List.mem_filter.mp (mem_of_first hfirst)).1
      rw [hanswer, hstatic, Option.bind_some, Option.map_eq_none_iff]
      exact iff_of_true (mem_selectUsingDynamicIP.mp hmem).1.row_ne_none
        (.inr ⟨ipOf_of_lacks hne hlacks, .inr (expired_iff.mpr (List.ne_nil_of_mem hmem))⟩)
  | exhausted hlacks hnone hfirst =>
      have hip := ipOf_of_lacks hne hlacks
      refine iff_of_false (not_not.mpr hanswer) ?_
      rintro (⟨ip, hip', -⟩ | ⟨-, hunused | hexpired⟩)
      · rw [hip] at hip'
        contradiction
      · exact hasUnused_iff.mp hunused hnone
      · exact expired_iff.mp hexpired (stalest_eq_nil_iff.mp (first_eq_none_iff.mp hfirst))

/-! ## The agreement -/

/-- The calls answer the request with the address that its MAC then holds. -/
def Answers (t : Tables) (request : DhcpRequest) (calls : List Call) : Prop :=
  ∃ info packet f text,
    calls = (if request.isDiscover then [] else [.addUserInfo info]) ++
      [.sendPacketRequest packet] ∧
    t.ipOf (printMAC request.mac) = some text ∧ t.staticIp.row text ≠ none ∧
    inetAddr text = info.ip ∧ (∀ ip, text = dottedQuad ip → ip = info.ip) ∧
    info.userMac = request.mac ∧
    Device.writePacket packet.inMemory packet.getLength = [f] ∧ f.IsReply request info.ip

/-- Request and answer agree. -/
structure Agrees (t : Tables) (request : DhcpRequest) (now : UInt64) (o : Outcome) : Prop where
  calls : o.calls = [] ∨ o.tables.Answers request o.calls
  unknown : t.user.row (printMAC request.mac) = none →
    o.calls = [] ∧ o.tables.user = t.user
  answered : t.user.row (printMAC request.mac) ≠ none →
    (o.calls ≠ [] ↔ t.CanServe (printMAC request.mac) ((now.toNat : ℤ) - leaseTime))

theorem calls_of_process (hdns : cfg.dnsList.length ≤ 63)
    (h : t.process cfg (.dhcp request now choice u fault) = some o) :
    o.calls = [] ∨ o.tables.Answers request o.calls := by
  cases hans : o.answer with
  | none => exact .inl ((calls_eq_nil_iff h).mpr hans)
  | some ans =>
      obtain ⟨r, _, _, u, _, text, hr, -, htext, hstatic, rfl⟩ := answer_eq h hans
      obtain ⟨rfl, -⟩ : request = r ∧ True := by
        injection hr with hr
        exact ⟨hr, trivial⟩
      obtain ⟨ip, -, -, hcalls⟩ := process_dhcp h
      obtain ⟨f, hsent, hreply⟩ := answer_sent request (inetAddr text) u hdns
      refine .inr ⟨(answer cfg request (inetAddr text) u).userInfo,
        (answer cfg request (inetAddr text) u).packet, f, text, ?_, htext, hstatic, rfl, ?_, rfl,
        hsent, hreply⟩
      · rw [hcalls, hans]
        rfl
      · rintro ip rfl
        exact (inetAddr_dottedQuad ip).symm

/-- A MAC without a row gets no answer, and the users stay as they are. -/
theorem unchanged_of_unknown (h : t.process cfg (.dhcp request now choice u fault) = some o)
    (hrow : t.user.row (printMAC request.mac) = none) : o.calls = [] ∧ o.tables.user = t.user := by
  obtain ⟨ip, hassigns, hanswer, -⟩ := process_dhcp h
  cases ip with
  | some text => exact absurd hrow hassigns.row_ne_none
  | none =>
      refine ⟨(calls_eq_nil_iff h).mpr hanswer, ?_⟩
      generalize o.tables = t' at hassigns
      cases hassigns with
      | unknown hnone => rfl
      | exhausted hlacks hnone hfirst => rfl

/-- Whoever was last seen before the time that is meant was so before the computed one. -/
theorem expired_cutoff (h : t.Expired ((now.toNat : ℤ) - leaseTime)) :
    t.Expired (cutoff now).toNat := by
  obtain ⟨r, hr, ip, accessed, hip, hdyn, hacc, hlt⟩ := h
  refine ⟨r, hr, ip, accessed, hip, hdyn, hacc, lt_of_lt_of_le hlt ?_⟩
  by_cases hpast : leaseTime ≤ now.toNat
  · rw [cutoff_toNat hpast]
    omega
  · omega

/-- **Request and answer agree.** Whatever a processed request sends and says to the
gateway names the address that the tables then give to its MAC. That it is answered
just if the tables can serve its MAC holds if and only if an eviction query that
finds a user would also find one with the time that is meant. -/
theorem agrees_iff (hne : ∀ text ∈ t.texts, text ≠ "") (hdns : cfg.dnsList.length ≤ 63)
    (h : t.process cfg (.dhcp request now choice u fault) = some o) :
    t.Agrees request now o ↔
      (t.user.row (printMAC request.mac) ≠ none → t.ipOf (printMAC request.mac) = none →
        ¬t.HasUnused → t.Expired (cutoff now).toNat → t.Expired ((now.toNat : ℤ) - leaseTime)) := by
  constructor
  · intro hagrees hrow hip hunused hexpired
    have hcalls := (answered_iff hne h hrow).mpr (.inr ⟨hip, .inr hexpired⟩)
    rcases (hagrees.answered hrow).mp hcalls with ⟨ip, hip', -⟩ | ⟨-, hunused' | hpast⟩
    · rw [hip] at hip'
      contradiction
    · exact absurd hunused' hunused
    · exact hpast
  · intro hcond
    refine ⟨calls_of_process hdns h, unchanged_of_unknown h, fun hrow => ?_⟩
    rw [answered_iff hne h hrow]
    constructor
    · rintro (hholds | ⟨hip, hunused | hexpired⟩)
      · exact .inl hholds
      · exact .inr ⟨hip, .inl hunused⟩
      · by_cases hunused : t.HasUnused
        · exact .inr ⟨hip, .inl hunused⟩
        · exact .inr ⟨hip, .inr (hcond hrow hip hunused hexpired)⟩
    · rintro (hholds | ⟨hip, hunused | hexpired⟩)
      · exact .inl hholds
      · exact .inr ⟨hip, .inl hunused⟩
      · exact .inr ⟨hip, .inr (expired_cutoff hexpired)⟩

/-- Two hours later the second user of the sample gets its answer, as it should. -/
theorem agrees_sample :
    ∃ o, sampleTables.process sampleConfig (sampleRequest 8 true 7200006) = some o ∧
      o.calls ≠ [] ∧ sampleTables.Agrees ⟨sampleMAC 8, #v[0, 0, 0, 1], 1500, true⟩ 7200006 o := by
  have hsome : (sampleTables.process sampleConfig (sampleRequest 8 true 7200006)).map
      (fun o => o.calls.length) = some 1 := by decide +kernel
  obtain ⟨o, ho, hone⟩ := Option.map_eq_some_iff.mp hsome
  refine ⟨o, ho, ?_, ?_⟩
  · intro hnil
    rw [hnil] at hone
    exact absurd hone (by decide)
  · refine (agrees_iff (by decide) (by decide) ho).mpr fun _ _ _ _ => ?_
    exact ⟨⟨"02:00:00:00:00:07", some "10.0.0.5", some 5⟩, by decide, "10.0.0.5", 5, rfl,
      ⟨_, List.mem_singleton.mpr rfl, rfl, rfl⟩, rfl, by decide⟩

/-- With the clock at 10 the second user is answered just as well, though nobody was
away for two hours. -/
theorem eviction_answered :
    ∃ o, sampleTables.process sampleConfig (sampleRequest 8 true 10) = some o ∧ o.calls ≠ [] ∧
      ¬sampleTables.Agrees ⟨sampleMAC 8, #v[0, 0, 0, 1], 1500, true⟩ 10 o := by
  have hsome : (sampleTables.process sampleConfig (sampleRequest 8 true 10)).map
      (fun o => o.calls.length) = some 1 := by decide +kernel
  obtain ⟨o, ho, hone⟩ := Option.map_eq_some_iff.mp hsome
  have hcalls : o.calls ≠ [] := by
    intro hnil
    rw [hnil] at hone
    exact absurd hone (by decide)
  refine ⟨o, ho, hcalls, fun hagrees => ?_⟩
  have hip : sampleTables.ipOf (printMAC (sampleMAC 8)) = none := by decide
  rcases (hagrees.answered (by decide)).mp hcalls with ⟨ip, hip', -⟩ | ⟨-, hunused | hexpired⟩
  · rw [hip] at hip'
    cases hip'
  · exact hasUnused_iff.mp hunused (by decide)
  · obtain ⟨r, hr, -, accessed, -, -, hacc, hlt⟩ := hexpired
    have hlate : ∀ r ∈ sampleTables.user.rows, ∀ a ∈ r.accessed, a = 5 := by decide
    rw [hlate r hr accessed hacc] at hlt
    exact absurd hlt (by decide)

end Tables

end GatewaySocket
