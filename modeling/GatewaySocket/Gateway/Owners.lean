import GatewaySocket.Gateway.Inside
import GatewaySocket.Gateway.Pointers
import GatewaySocket.Transition.Run

/-!
# User entries are owned exactly once

`PointerGateway.Represents` relates the gateway with pointers to the one that holds
the entries, and says along with it that the slots of `userAddRequest` and the entries
of `userMap` own the blocks. Every action keeps it, so no action uses a block that
was freed, and the two gateways send the same. The pointers are kept for no longer
than a round, in which a block is freed last.
-/

namespace GatewaySocket

open ByteMemory Transition

namespace UserPointerMap

variable {heap : UserHeap} {m : UserPointerMap} {slots : List Pointer} {values : List UserInfo}
  {entries : UserMap} {p : Pointer} {b : UserInfo}

/-- A round of `add_user` moves the block from its slot to the entry of its address. -/
theorem add_eq (h : Heap.Represents UserInfo.ip heap (p :: slots) m (b :: values) entries) :
    ∃ heap' m', add (heap, m) p = .ok (heap', m') ∧
      Heap.Represents UserInfo.ip heap' slots m' values (UserMap.add entries b) := by
  have hread := Heap.read_eq h.find_head
  rcases h.entry_cases b.ip with ⟨hm, hentry⟩ | ⟨old, c, hm, hold, -, hentry⟩
  · refine ⟨heap, m.insert b.ip p, ?_, ?_⟩
    · simp only [add, hread, hm, bind, Except.bind, pure, Except.pure]
    · have hadd : UserMap.add entries b = entries.insert b.ip b := by
        simp [UserMap.add, hentry]
      rw [hadd]
      exact h.insert hm
  · have hfree := h.free hm
    refine ⟨heap.erase old, (m.erase b.ip).insert b.ip p, ?_, ?_⟩
    · simp only [add, hread, hm, Heap.read_eq hold, Heap.free_eq hold,
        Heap.read_eq hfree.find_head, bind, Except.bind, pure, Except.pure]
    · have hadd : UserMap.add entries b = (entries.erase b.ip).insert b.ip b := by
        simp [UserMap.add, hentry]
      rw [hadd]
      refine hfree.insert ?_
      rw [UnorderedMap.find_erase, if_pos rfl]

/-- `add_user` empties the slots. -/
theorem foldlM_add (h : Heap.Represents UserInfo.ip heap slots m values entries) :
    ∃ heap' m', slots.foldlM add (heap, m) = .ok (heap', m') ∧
      Heap.Represents UserInfo.ip heap' [] m' [] (values.foldl UserMap.add entries) := by
  induction slots generalizing heap m values entries with
  | nil =>
      obtain rfl : values = [] := by simpa using h.find_slots
      exact ⟨heap, m, rfl, h⟩
  | cons p slots ih =>
      cases values with
      | nil => simpa using h.find_slots
      | cons b values =>
          obtain ⟨heap₁, m₁, hadd, h₁⟩ := add_eq h
          obtain ⟨heap', m', hfold, h'⟩ := ih h₁
          refine ⟨heap', m', ?_, h'⟩
          rw [List.foldlM_cons, hadd]
          exact hfold

/-- A round of `del_user` frees the block of the entry that it erases. -/
theorem del_eq (h : Heap.Represents UserInfo.ip heap slots m values entries) (ip : InAddr) :
    ∃ heap' m', del (heap, m) ip = .ok (heap', m') ∧
      Heap.Represents UserInfo.ip heap' slots m' values (UserMap.del entries ip) := by
  rcases h.entry_cases ip with ⟨hm, hentry⟩ | ⟨info, c, hm, hinfo, -, hentry⟩
  · refine ⟨heap, m, ?_, ?_⟩
    · simp only [del, hm, pure, Except.pure]
    · have hdel : UserMap.del entries ip = entries := by simp [UserMap.del, hentry]
      rw [hdel]
      exact h
  · refine ⟨heap.erase info, m.erase ip, ?_, ?_⟩
    · simp only [del, hm, Heap.read_eq hinfo, Heap.free_eq hinfo, bind, Except.bind, pure,
        Except.pure]
    · have hdel : UserMap.del entries ip = entries.erase ip := by simp [UserMap.del, hentry]
      rw [hdel]
      exact h.free hm

theorem foldlM_del (h : Heap.Represents UserInfo.ip heap slots m values entries)
    (ips : List InAddr) :
    ∃ heap' m', ips.foldlM del (heap, m) = .ok (heap', m') ∧
      Heap.Represents UserInfo.ip heap' slots m' values (ips.foldl UserMap.del entries) := by
  induction ips generalizing heap m entries with
  | nil => exact ⟨heap, m, rfl, h⟩
  | cons ip ips ih =>
      obtain ⟨heap₁, m₁, hdel, h₁⟩ := del_eq h ip
      obtain ⟨heap', m', hfold, h'⟩ := ih h₁
      refine ⟨heap', m', ?_, h'⟩
      rw [List.foldlM_cons, hdel]
      exact hfold

end UserPointerMap

namespace PointerGateway

/-- The gateway `v` holds the entries that the blocks of `g` are. -/
structure Represents (g : PointerGateway) (v : Gateway) : Prop where
  users : Heap.Represents UserInfo.ip g.heap g.userAddRequest.queue g.userMap
    v.userAddRequest.queue v.userMap
  staticIPAddRequest : v.staticIPAddRequest = g.staticIPAddRequest
  staticIPDelRequest : v.staticIPDelRequest = g.staticIPDelRequest
  userDelRequest : v.userDelRequest = g.userDelRequest
  sendPacketRequestQueue : v.sendPacketRequestQueue = g.sendPacketRequestQueue
  staticIPMap : v.staticIPMap = g.staticIPMap

variable {g : PointerGateway} {v : Gateway}

theorem represents_init : init.Represents .init where
  users := .empty UserInfo.ip
  staticIPAddRequest := rfl
  staticIPDelRequest := rfl
  userDelRequest := rfl
  sendPacketRequestQueue := rfl
  staticIPMap := rfl

namespace Represents

/-! ## Calls and handlers -/

theorem call (h : g.Represents v) {copy : Pointer} {c : Call} (hfits : g.Fits (.call c copy)) :
    (g.call copy c).Represents (v.call c) := by
  cases c with
  | addStaticIP ip mac => exact { h with
      staticIPAddRequest := congrArg (RequestQueue.push · (ip, mac)) h.staticIPAddRequest }
  | delStaticIP ip => exact { h with
      staticIPDelRequest := congrArg (RequestQueue.push · ip) h.staticIPDelRequest }
  | addUserInfo info => exact { h with users := h.users.malloc hfits info }
  | delUserInfo ip => exact { h with
      userDelRequest := congrArg (RequestQueue.push · ip) h.userDelRequest }
  | sendPacketRequest packet => exact { h with
      sendPacketRequestQueue := congrArg (RequestQueue.push · packet) h.sendPacketRequestQueue }

theorem handle (h : g.Represents v) (handler : Handler) :
    ∃ g', g.handle handler = .ok (g', (v.handle handler).2) ∧
      g'.Represents (v.handle handler).1 := by
  cases handler with
  | addStaticIp =>
      refine ⟨_, rfl, { h with staticIPAddRequest := ?_, staticIPMap := ?_ }⟩
      · exact congrArg (fun q => q.drain.2) h.staticIPAddRequest
      · change v.staticIPAddRequest.drain.1.foldl StaticIPMap.add v.staticIPMap = _
        rw [h.staticIPAddRequest, h.staticIPMap]
        rfl
  | delStaticIp =>
      refine ⟨_, rfl, { h with staticIPDelRequest := ?_, staticIPMap := ?_ }⟩
      · exact congrArg (fun q => q.drain.2) h.staticIPDelRequest
      · change v.staticIPDelRequest.drain.1.foldl UnorderedMap.erase v.staticIPMap = _
        rw [h.staticIPDelRequest, h.staticIPMap]
        rfl
  | addUser =>
      obtain ⟨heap, userMap, hfold, husers⟩ := UserPointerMap.foldlM_add h.users
      refine ⟨{ g with heap, userAddRequest := g.userAddRequest.drain.2, userMap }, ?_,
        { h with users := ?_ }⟩
      · simp only [PointerGateway.handle, RequestQueue.drain_fst, hfold, bind, Except.bind, pure,
          Except.pure]
        rfl
      · simp only [Gateway.handle, Gateway.addUserHandler, RequestQueue.drain_fst,
          RequestQueue.queue_drain_snd]
        exact husers
  | delUser =>
      obtain ⟨heap, userMap, hfold, husers⟩ :=
        UserPointerMap.foldlM_del h.users g.userDelRequest.queue
      refine ⟨{ g with heap, userDelRequest := g.userDelRequest.drain.2, userMap }, ?_,
        { h with users := ?_, userDelRequest := ?_ }⟩
      · simp only [PointerGateway.handle, RequestQueue.drain_fst, hfold, bind, Except.bind, pure,
          Except.pure]
        rfl
      · simp only [Gateway.handle, Gateway.delUserHandler, RequestQueue.drain_fst,
          h.userDelRequest]
        exact husers
      · exact congrArg (fun q => q.drain.2) h.userDelRequest
  | sendPacket =>
      refine ⟨{ g with sendPacketRequestQueue := g.sendPacketRequestQueue.drain.2 }, ?_,
        { h with sendPacketRequestQueue := ?_ }⟩
      · simp only [Gateway.handle, Gateway.sendPacketHandler, h.sendPacketRequestQueue]
        rfl
      · exact congrArg (fun q => q.drain.2) h.sendPacketRequestQueue

/-! ## Frames from inside -/

/-- What a verdict is on the other side: a user entry is the block of an entry. -/
inductive Denotes (g : PointerGateway) : PointerVerdict → Verdict → Prop
  | drop : Denotes g .drop .drop
  | createDHCP (request : DhcpRequest) : Denotes g (.createDHCP request) (.createDHCP request)
  | pass (packet : Packet) : Denotes g (.pass packet none) (.pass packet none)
  | passUser (packet : Packet) (key : InAddr) (user : Pointer) (info : UserInfo)
      (hkey : g.userMap.find key = some user) (huser : g.heap.find user = some info) :
      Denotes g (.pass packet (some user)) (.pass packet (some (key, info)))
  | undefined : Denotes g .undefined .undefined

theorem outbound (h : g.Represents v) (packet : Packet) (destIP srcIP : InAddr)
    (sourceMac : EtherAddr) (rewrite : EtherAddr → Packet) :
    ∃ verdict, g.outbound packet destIP srcIP sourceMac rewrite = .ok verdict ∧
      Denotes g verdict (v.outbound packet destIP srcIP sourceMac rewrite) := by
  unfold PointerGateway.outbound Gateway.outbound
  rw [h.staticIPMap]
  cases hdest : g.staticIPMap.find destIP with
  | some mac => exact ⟨_, rfl, .drop⟩
  | none =>
      rcases h.users.entry_cases srcIP with ⟨hm, hentry⟩ | ⟨user, info, hm, huser, -, hentry⟩
      · cases hstatic : g.staticIPMap.find srcIP with
        | some mac =>
            simp only [hm, hentry]
            exact ⟨_, rfl, .drop⟩
        | none =>
            simp only [hm, hentry]
            exact ⟨_, rfl, .pass packet⟩
      · simp only [hm, hentry, Heap.read_eq huser, bind, Except.bind]
        by_cases hmac : info.userMac = sourceMac
        · cases hstatic : g.staticIPMap.find srcIP with
          | some mac =>
              simp only [hmac, ne_eq, not_true_eq_false, if_false, Option.isSome_none,
                Bool.false_eq_true]
              exact ⟨_, rfl, .passUser (rewrite mac) srcIP user info hm huser⟩
          | none =>
              simp only [hmac, ne_eq, not_true_eq_false, if_false, Option.isSome_none,
                Bool.false_eq_true]
              exact ⟨_, rfl, .undefined⟩
        · simp only [ne_eq, hmac, not_false_eq_true, if_true, Option.isSome_none,
            Bool.false_eq_true, if_false]
          exact ⟨_, rfl, .drop⟩

theorem denotes_insideDHCP (g : PointerGateway) (packet : Packet) (udp : ℕ) (u : Indeterminate) :
    Denotes g (PointerGateway.insideDHCP packet udp u) (Gateway.insideDHCP packet udp u) := by
  rw [PointerGateway.insideDHCP]
  rcases Gateway.insideDHCP_cases packet udp u with hdrop | ⟨-, -, -, hrequest⟩
  · rw [hdrop]
    exact .drop
  · rw [hrequest]
    exact .createDHCP _

theorem insideVerdict (h : g.Represents v) (packet : Packet) (readLen : ℤ) (u : Indeterminate) :
    ∃ verdict, g.insideVerdict packet readLen u = .ok verdict ∧
      Denotes g verdict (v.insideVerdict packet readLen u) := by
  unfold PointerGateway.insideVerdict Gateway.insideVerdict
  by_cases harp : Ethernet.getProtocol packet 0 = ethertypeArp
  · rw [if_pos harp, if_pos harp]
    unfold PointerGateway.insideARP Gateway.insideARP
    by_cases hacc : ¬arpAccepted (ARP.getHeader packet (Ethernet.getNextOffset 0)) = true
    · rw [if_pos hacc, if_pos hacc]
      exact ⟨_, rfl, .drop⟩
    · rw [if_neg hacc, if_neg hacc]
      exact h.outbound _ _ _ _ _
  · rw [if_neg harp, if_neg harp]
    by_cases hip : Ethernet.getProtocol packet 0 = ethertypeIp
    · rw [if_pos hip, if_pos hip]
      unfold PointerGateway.insideIP Gateway.insideIP
      simp only
      split
      · exact ⟨_, rfl, .drop⟩
      · split
        · exact ⟨_, rfl, denotes_insideDHCP g _ _ u⟩
        · exact h.outbound _ _ _ _ _
    · rw [if_neg hip, if_neg hip]
      exact ⟨_, rfl, .pass packet⟩

/-- The request is about the entry under its address. -/
def Updated (g : PointerGateway) (request : UpdateTime) : Prop :=
  ∃ user info, g.userMap.find request.ip = some user ∧ g.heap.find user = some info ∧
    info.ip = request.ip

/-- The entry that is touched keeps its address, and it is reported under its key. -/
theorem touch (h : g.Represents v) (currentTime : UInt64) {key : InAddr} {user : Pointer}
    {info : UserInfo} (hkey : g.userMap.find key = some user)
    (huser : g.heap.find user = some info) :
    ∃ g', g.touch currentTime (some user) = .ok (g', (v.touch currentTime (some (key, info))).2) ∧
      g'.Represents (v.touch currentTime (some (key, info))).1 ∧
      ∀ request ∈ (v.touch currentTime (some (key, info))).2, Updated g' request := by
  have hip : info.ip = key := h.users.owned.keyed key user info hkey huser
  unfold PointerGateway.touch Gateway.touch
  simp only [Heap.read_eq huser, bind, Except.bind]
  split
  · have hfind : UnorderedMap.find (UnorderedMap.set g.heap user { info with lastAccess := currentTime })
        user = some { info with lastAccess := currentTime } := by
      rw [UnorderedMap.find_set, if_pos rfl]
    simp only [Heap.write_eq huser, Heap.read_eq hfind]
    refine ⟨_, rfl, { h with users := h.users.write hkey huser rfl }, ?_⟩
    exact List.forall_mem_singleton.mpr ⟨user, _, hip ▸ hkey, hfind, rfl⟩
  · exact ⟨g, rfl, h, nofun⟩

/-- The effects of a round on the two sides. -/
structure Effects (e : PointerEffect) (effect : Effect) : Prop where
  gateway : e.gateway.Represents effect.gateway
  packet : e.packet = effect.packet
  emission : e.toEmission = effect.toEmission
  updated : ∀ request ∈ e.updates, Updated e.gateway request

theorem inside (h : g.Represents v) (currentTime : UInt64) (inPacket : Packet) (frame : Frame)
    (u : Indeterminate) :
    ∃ e, g.inside currentTime inPacket frame u = .ok e ∧
      Option.Rel Effects e (v.inside currentTime inPacket frame u) := by
  unfold PointerGateway.inside Gateway.inside
  simp only
  split
  · exact ⟨_, rfl, .some ⟨h, rfl, rfl, nofun⟩⟩
  split
  · exact ⟨_, rfl, .some ⟨h, rfl, rfl, nofun⟩⟩
  generalize hbuf : Packet.setLength
    { inPacket with inMemory := Device.readPacket inPacket.inMemory myPacketLen frame }
    frame.length = buf
  obtain ⟨verdict, hverdict, hdenotes⟩ := h.insideVerdict buf frame.length u
  simp only [hverdict, bind, Except.bind]
  generalize v.insideVerdict buf frame.length u = verdict' at hdenotes
  cases hdenotes with
  | drop => exact ⟨_, rfl, .some ⟨h, rfl, rfl, nofun⟩⟩
  | createDHCP request => exact ⟨_, rfl, .some ⟨h, rfl, rfl, nofun⟩⟩
  | pass packet => exact ⟨_, rfl, .some ⟨h, rfl, rfl, nofun⟩⟩
  | passUser packet key user info hkey huser =>
      obtain ⟨g', htouch, h', hupdated⟩ := h.touch currentTime hkey huser
      simp only [htouch]
      exact ⟨_, rfl, .some ⟨h', rfl, rfl, hupdated⟩⟩
  | undefined => exact ⟨_, rfl, .none⟩

/-! ## Frames from outside -/

theorem removeUser (h : g.Represents v) {ip : InAddr} {user : Pointer} {info : UserInfo}
    (hkey : g.userMap.find ip = some user) (huser : g.heap.find user = some info) :
    ∃ g', g.removeUser ip user = .ok g' ∧ g'.Represents (v.removeUser ip) := by
  refine ⟨{ g with heap := g.heap.erase user, userMap := g.userMap.erase ip }, ?_,
    { h with users := h.users.free hkey }⟩
  rw [PointerGateway.removeUser, Heap.free_eq huser]
  rfl

theorem outsideARP (h : g.Represents v) (packet : Packet) (u : Indeterminate) :
    ∃ g', g.outsideARP packet u = .ok (g', (v.outsideARP packet u).2) ∧
      g'.Represents (v.outsideARP packet u).1 := by
  unfold PointerGateway.outsideARP Gateway.outsideARP
  simp only [h.staticIPMap]
  split
  · exact ⟨g, rfl, h⟩
  split
  · exact ⟨g, rfl, h⟩
  rcases h.users.entry_cases (ARP.getDestinationIP packet (Ethernet.getNextOffset 0) (u.inAddr 0))
    with ⟨hm, hentry⟩ | ⟨user, info, hm, huser, -, hentry⟩
  · simp only [hm, hentry]
    cases g.staticIPMap.find (ARP.getDestinationIP packet (Ethernet.getNextOffset 0) (u.inAddr 0)) with
    | some mac => exact ⟨g, rfl, h⟩
    | none => exact ⟨g, rfl, h⟩
  · simp only [hm, hentry]
    cases g.staticIPMap.find (ARP.getDestinationIP packet (Ethernet.getNextOffset 0) (u.inAddr 0)) with
    | some mac =>
        simp only [Heap.read_eq huser, bind, Except.bind]
        split
        · exact ⟨g, rfl, h⟩
        · exact ⟨g, rfl, h⟩
    | none =>
        obtain ⟨g', hremove, h'⟩ := h.removeUser hm huser
        simp only [hremove, bind, Except.bind]
        exact ⟨g', rfl, h'⟩

theorem outsideIP (h : g.Represents v) (packet : Packet) (readLen : ℤ) (u : Indeterminate) :
    ∃ g', g.outsideIP packet readLen u = .ok (g', (v.outsideIP packet readLen u).2) ∧
      g'.Represents (v.outsideIP packet readLen u).1 := by
  unfold PointerGateway.outsideIP Gateway.outsideIP
  simp only [h.staticIPMap]
  split
  · exact ⟨g, rfl, h⟩
  split
  · exact ⟨g, rfl, h⟩
  split
  · exact ⟨g, rfl, h⟩
  rcases h.users.entry_cases (IP.getDestination packet (Ethernet.getNextOffset 0) (u.inAddr 0))
    with ⟨hm, hentry⟩ | ⟨user, info, hm, huser, -, hentry⟩
  · simp only [hm, hentry]
    cases g.staticIPMap.find (IP.getDestination packet (Ethernet.getNextOffset 0) (u.inAddr 0)) with
    | some mac => exact ⟨g, rfl, h⟩
    | none => exact ⟨g, rfl, h⟩
  · simp only [hm, hentry]
    cases g.staticIPMap.find (IP.getDestination packet (Ethernet.getNextOffset 0) (u.inAddr 0)) with
    | some mac =>
        simp only [Heap.read_eq huser, bind, Except.bind]
        split
        · exact ⟨g, rfl, h⟩
        · exact ⟨g, rfl, h⟩
    | none =>
        obtain ⟨g', hremove, h'⟩ := h.removeUser hm huser
        simp only [hremove, bind, Except.bind]
        exact ⟨g', rfl, h'⟩

theorem outsideVerdict (h : g.Represents v) (packet : Packet) (readLen : ℤ) (u : Indeterminate) :
    ∃ g', g.outsideVerdict packet readLen u = .ok (g', (v.outsideVerdict packet readLen u).2) ∧
      g'.Represents (v.outsideVerdict packet readLen u).1 := by
  unfold PointerGateway.outsideVerdict Gateway.outsideVerdict
  split
  · exact h.outsideARP packet u
  split
  · exact h.outsideIP packet readLen u
  · exact ⟨g, rfl, h⟩

theorem outside (h : g.Represents v) (outPacket : Packet) (frame : Frame) (u : Indeterminate) :
    ∃ e, g.outside outPacket frame u = .ok e ∧ Effects e (v.outside outPacket frame u) := by
  unfold PointerGateway.outside Gateway.outside
  simp only
  split
  · exact ⟨_, rfl, h, rfl, rfl, nofun⟩
  generalize hbuf : Packet.setLength
    { outPacket with inMemory := Device.readPacket outPacket.inMemory myPacketLen frame }
    frame.length = buf
  obtain ⟨g', hverdict, h'⟩ := h.outsideVerdict buf frame.length u
  simp only [hverdict, bind, Except.bind]
  generalize v.outsideVerdict buf frame.length u = verdict at h'
  obtain ⟨v', packet⟩ := verdict
  cases packet with
  | none => exact ⟨_, rfl, h', rfl, rfl, nofun⟩
  | some packet => exact ⟨_, rfl, h', rfl, rfl, nofun⟩

end Represents

/-! ## Runs -/

/-- What an action leads to on the two sides. -/
structure Outcomes (x : PointerGateway × Emission) (y : Gateway × Emission) : Prop where
  gateway : x.1.Represents y.1
  emission : x.2 = y.2
  updated : ∀ request ∈ x.2.updates, Represents.Updated x.1 request

/-- **The gateway with pointers refines the gateway with entries.** No action that fits
faults, and the two send the same. -/
theorem exec_refines (h : g.Represents v) {a : Act} (hfits : g.Fits a) :
    ∃ r, g.exec a = .ok r ∧ Option.Rel Outcomes r (v.exec a) := by
  cases a with
  | call c copy => exact ⟨_, rfl, .some ⟨h.call hfits, rfl, nofun⟩⟩
  | handle handler =>
      obtain ⟨g', hhandle, h'⟩ := h.handle handler
      refine ⟨some (g', { toInside := (v.handle handler).2 }), ?_, .some ⟨h', rfl, nofun⟩⟩
      rw [exec, hhandle]
      rfl
  | inside currentTime inPacket frame u =>
      obtain ⟨e, he, hrel⟩ := h.inside currentTime inPacket frame u
      refine ⟨e.map fun e => (e.gateway, e.toEmission), ?_, ?_⟩
      · rw [exec, he]
        rfl
      · rw [Gateway.exec]
        generalize v.inside currentTime inPacket frame u = effect at hrel
        cases hrel with
        | none => exact .none
        | some heffects =>
            exact .some ⟨heffects.gateway, heffects.emission, heffects.updated⟩
  | outside outPacket frame u =>
      obtain ⟨e, he, heffects⟩ := h.outside outPacket frame u
      refine ⟨some (e.gateway, e.toEmission), ?_,
        .some ⟨heffects.gateway, heffects.emission, heffects.updated⟩⟩
      rw [exec, he]
      rfl

theorem step_refines (h : g.Represents v) {a : Act} {g' : PointerGateway}
    (hstep : g.step a = some g') :
    ∃ v', (v.exec a).map Prod.fst = some v' ∧ g'.Represents v' := by
  unfold step at hstep
  split at hstep
  · next hfits =>
      obtain ⟨r, hr, hrel⟩ := exec_refines h hfits
      rw [hr] at hstep
      generalize v.exec a = effect at hrel
      cases hrel with
      | none => contradiction
      | some houtcomes =>
          obtain rfl := Option.some.inj hstep
          exact ⟨_, rfl, houtcomes.gateway⟩
  · contradiction

/-- Every run of the gateway with pointers is one of the gateway with entries. -/
theorem run_refines (h : g.Represents v) {as : List Act} {g' : PointerGateway}
    (hrun : run step g as = some g') :
    ∃ v', run (fun v a => (v.exec a).map Prod.fst) v as = some v' ∧ g'.Represents v' := by
  induction as generalizing g v with
  | nil =>
      obtain rfl : g = g' := Option.some.inj hrun
      exact ⟨v, rfl, h⟩
  | cons a as ih =>
      obtain ⟨g₁, hstep, hrest⟩ := run_cons_eq_some.mp hrun
      obtain ⟨v₁, hstep', h₁⟩ := step_refines h hstep
      obtain ⟨v', hrun', h'⟩ := ih h₁ hrest
      exact ⟨v', run_cons_eq_some.mpr ⟨v₁, hstep', hrun'⟩, h'⟩

/-- What holds of the user entries in a state, whatever action comes next. -/
structure Sound (g : PointerGateway) (a : Act) : Prop where
  live : ∀ (place : Heap.Place InAddr) p,
    place.holds g.userAddRequest.queue g.userMap = some p → g.heap.Has p
  held : ∀ p, g.heap.Has p →
    ∃! place : Heap.Place InAddr, place.holds g.userAddRequest.queue g.userMap = some p
  keyed : ∀ ip user info, g.userMap.find ip = some user → g.heap.find user = some info →
    info.ip = ip
  no_fault : g.Fits a → ∀ fault, g.exec a ≠ .error fault
  updated : ∀ g' e, g.Fits a → g.exec a = .ok (some (g', e)) →
    ∀ request ∈ e.updates, ∃ user info, g'.userMap.find request.ip = some user ∧
      g'.heap.find user = some info ∧ info.ip = request.ip

theorem Represents.sound (h : g.Represents v) (a : Act) : g.Sound a where
  live := fun _ _ hplace => h.users.owned.has_of_holds hplace
  held := fun _ hp => h.users.owned.existsUnique_place hp
  keyed := h.users.owned.keyed
  no_fault := by
    intro hfits fault hfault
    obtain ⟨r, hr, -⟩ := exec_refines h hfits
    rw [hr] at hfault
    contradiction
  updated := by
    intro g' e hfits hexec
    obtain ⟨r, hr, hrel⟩ := exec_refines h hfits
    rw [hr] at hexec
    obtain rfl := Except.ok.inj hexec
    generalize v.exec a = effect at hrel
    cases hrel with
    | some houtcomes => exact houtcomes.updated

/-- **User entries are owned exactly once.** In every run, whatever comes in whatever
order, every block is held in one place, no action uses a block that was freed, and
the address of an entry is its key. -/
theorem owned_run (as : List Act) : AllSteps step Sound init as := by
  suffices hgen : ∀ g v, Represents g v → AllSteps step Sound g as from
    hgen init .init represents_init
  induction as with
  | nil => exact fun _ _ _ => trivial
  | cons a as ih =>
      intro g v h
      refine ⟨h.sound a, fun g' hstep => ?_⟩
      obtain ⟨v', -, h'⟩ := step_refines h hstep
      exact ih g' v' h'

/-! An entry is replaced, and the block of the old one is given out again. -/

def sampleUser (last : UInt8) : UserInfo := ⟨sampleIP, sampleMAC last, 0, 10000⟩

example : (run step init [.call (.addUserInfo (sampleUser 7)) 1, .handle .addUser,
      .call (.addUserInfo (sampleUser 8)) 2, .handle .addUser,
      .call (.addUserInfo (sampleUser 9)) 1]).map
        (fun g => (g.heap.find 1, g.userAddRequest.queue, g.userMap.find sampleIP)) =
    some (some (sampleUser 9), [1], some 2) := by
  decide +kernel

end PointerGateway

end GatewaySocket
