import GatewaySocket.Database.Assigned
import GatewaySocket.Gateway.Intake
import GatewaySocket.System.Step

/-!
# Where user entries come from

An entry of the user map was loaded at startup, or its client asked for it in a
frame of its own and the database granted it. The proof follows the request from
the frame through the queue and the batch of the database thread, and what was
granted back through the calls and the queue of `add_user`; the invariant speaks
about the steps taken so far.
-/

namespace GatewaySocket

open ByteMemory Transition Tables

namespace System

variable {cfg : Config} {s s' s₀ : System} {ev : Event} {es : List Event} {t₀ : Tables}
  {inHeap outHeap : Memory} {h : List (System × Event)} {r : DhcpRequest} {ip : InAddr}
  {mac : EtherAddr}

/-- In this step the gateway made the request of a frame of the client. -/
def Asked (x : System × Event) (r : DhcpRequest) : Prop :=
  ∃ f u loop e, x.2 = .gateway (.inside (some f) u) ∧
    x.1.loop.exec (.inside (some f) u) = some (loop, e) ∧ r ∈ e.dhcp ∧
    f.IsBootRequest r.messageType r.mac

/-- In this step the database processed the request, for a client with a row, and
set the row to an address that `static_ip` has. -/
def Granted (cfg : Config) (x : System × Event) (r : DhcpRequest) (ip : InAddr) : Prop :=
  ∃ now choice u fault temp o, x.2 = .serve now choice u fault ∧
    x.1.thread.temp = .createDhcp r :: temp ∧
    x.1.tables.process cfg (.dhcp r now choice u fault) = some o ∧
    x.1.tables.user.row (printMAC r.mac) ≠ none ∧
    ∃ text, o.tables.ipOf (printMAC r.mac) = some text ∧ inetAddr text = ip ∧
      o.tables.staticIp.row text ≠ none

/-- The entry was loaded, or asked for in a REQUEST and then granted. -/
def Earned (cfg : Config) (t₀ : Tables) (h : List (System × Event)) (ip : InAddr)
    (mac : EtherAddr) : Prop :=
  t₀.Gives ip mac ∨
    ∃ r x y, r.isDiscover = false ∧ r.mac = mac ∧ [x, y].Sublist h ∧ Asked x r ∧ Granted cfg y r ip

theorem Earned.snoc (he : Earned cfg t₀ h ip mac) (x : System × Event) :
    Earned cfg t₀ (h ++ [x]) ip mac := by
  rcases he with hload | ⟨r, y, z, hdisc, hmac, hsub, hasked, hgranted⟩
  · exact .inl hload
  · exact .inr ⟨r, y, z, hdisc, hmac, hsub.trans (List.sublist_append_left h [x]), hasked, hgranted⟩

/-! ## The invariant -/

/-- What is under way between the threads was asked for, and what is granted or
installed was earned. -/
structure Provenance (cfg : Config) (t₀ : Tables) (h : List (System × Event)) (s : System) :
    Prop where
  queued : ∀ r ∈ s.createDHCPRequestQueue.queue, ∃ x ∈ h, Asked x r
  taken : ∀ r, .createDhcp r ∈ s.thread.temp → ∃ x ∈ h, Asked x r
  called : ∀ info, .addUserInfo info ∈ s.thread.calls → Earned cfg t₀ h info.ip info.userMac
  awaited : ∀ info ∈ s.loop.gateway.userAddRequest.queue,
    Earned cfg t₀ h info.ip info.userMac
  owned : ∀ ip mac, UserMap.owner s.loop.gateway.userMap ip = some mac → Earned cfg t₀ h ip mac

theorem provenance_started (hs : Started cfg t₀ s) : Provenance cfg t₀ [] s where
  queued := by
    rw [hs.createDHCPRequestQueue]
    exact fun _ => nofun
  taken := by
    rw [hs.thread]
    exact fun _ => nofun
  called := by
    rw [hs.thread]
    exact fun _ => nofun
  awaited := fun info hinfo => .inl (Tables.gives_of_getAllUser hs.users hinfo)
  owned := by
    rw [hs.userMap]
    exact fun _ _ => nofun

/-- What was asked for or earned before stays so. -/
theorem Provenance.snoc (hp : Provenance cfg t₀ h s) (x : System × Event) :
    Provenance cfg t₀ (h ++ [x]) s where
  queued := fun r hr => (hp.queued r hr).imp fun _ hy => ⟨List.mem_append_left _ hy.1, hy.2⟩
  taken := fun r hr => (hp.taken r hr).imp fun _ hy => ⟨List.mem_append_left _ hy.1, hy.2⟩
  called := fun info hinfo => (hp.called info hinfo).snoc x
  awaited := fun info hinfo => (hp.awaited info hinfo).snoc x
  owned := fun ip mac hip => (hp.owned ip mac hip).snoc x

/-- What the loop's share of a step does to the invariant. -/
theorem provenance_moves {a : Action} {g' : Gateway} (hp : Provenance cfg t₀ h s)
    (hmoves : Loop.Moves s.loop a g')
    (hcall : ∀ info, a = .call (.addUserInfo info) → Earned cfg t₀ h info.ip info.userMac) :
    (∀ info ∈ g'.userAddRequest.queue, Earned cfg t₀ h info.ip info.userMac) ∧
      ∀ ip mac, UserMap.owner g'.userMap ip = some mac → Earned cfg t₀ h ip mac := by
  constructor
  · intro info hinfo
    rcases hmoves.mem_userAddRequest hinfo with hold | hnew
    · exact hp.awaited info hold
    · exact hcall info hnew
  · intro ip mac howner
    rcases hmoves.owner_cases howner with hold | ⟨-, info, hinfo, rfl, rfl⟩
    · exact hp.owned ip mac hold
    · exact hp.awaited info hinfo

theorem provenance_step (hp : Provenance cfg t₀ h s) (hstep : s.step cfg ev = some s') :
    Provenance cfg t₀ (h ++ [(s, ev)]) s' := by
  have hsnoc := hp.snoc (s, ev)
  cases steps_of_step hstep with
  | @gateway a loop e hopen hexec =>
      have hmoves : Loop.Moves s.loop a loop.gateway :=
        Loop.step_moves (by rw [Loop.step, hexec]; rfl)
      obtain ⟨hawaited, howned⟩ := provenance_moves hsnoc hmoves (by
        rintro info rfl
        exact absurd hopen id)
      refine ⟨?_, hsnoc.taken, hsnoc.called, hawaited, howned⟩
      intro r hr
      rw [receive, RequestQueue.queue_foldl_push] at hr
      rcases List.mem_append.mp hr with hold | hnew
      · exact hsnoc.queued r hold
      · obtain ⟨f, u, rfl, hboot⟩ := Loop.dhcp_of_exec hexec hnew
        exact ⟨_, List.mem_append_right h (List.mem_singleton.mpr rfl),
          f, u, loop, e, rfl, hexec, hnew, hboot⟩
  | poll hidle => exact ⟨hsnoc.queued, hsnoc.taken, hsnoc.called, hsnoc.awaited, hsnoc.owned⟩
  | @dispatch handler hidle =>
      cases handler with
      | createDhcp =>
          refine ⟨?_, ?_, hsnoc.called, hsnoc.awaited, hsnoc.owned⟩
          · intro r hr
            rw [take, RequestQueue.queue_drain_snd] at hr
            contradiction
          · intro r hr
            obtain ⟨r', hr', heq⟩ := List.mem_map.mp hr
            obtain rfl := Job.createDhcp.inj heq
            exact hsnoc.queued r' (List.mem_of_mem_take hr')
      | updateTime =>
          refine ⟨hsnoc.queued, ?_, hsnoc.called, hsnoc.awaited, hsnoc.owned⟩
          intro r hr
          obtain ⟨r', -, heq⟩ := List.mem_map.mp hr
          contradiction
  | @serve now choice u fault job temp o hcalls htemp ho =>
      refine ⟨hsnoc.queued, fun r hr => hsnoc.taken r ?_, ?_, hsnoc.awaited, hsnoc.owned⟩
      · rw [htemp]
        exact List.mem_cons_of_mem job hr
      · intro info hinfo
        obtain ⟨r, now, choice, u, fault, text, hreq, hdisc, hmac, hrow, htext, hstatic, haddr⟩ :=
          Tables.grant_of_addUserInfo ho hinfo
        cases job with
        | updateTime request => contradiction
        | createDhcp r =>
            obtain ⟨rfl, rfl, rfl, rfl, rfl⟩ := Request.dhcp.inj hreq
            obtain ⟨x, hx, hasked⟩ := hp.taken r (by rw [htemp]; exact List.mem_cons_self)
            exact .inr ⟨r, x, _, hdisc, hmac,
              (List.singleton_sublist.mpr hx).append (List.Sublist.refl [_]), hasked,
              now, choice, u, fault, temp, o, rfl, htemp, ho, hrow, text, htext, haddr, hstatic⟩
  | @deliver c calls hcalls =>
      obtain ⟨hawaited, howned⟩ := provenance_moves hsnoc (.call c) (by
        rintro info hc
        obtain rfl := Action.call.inj hc
        exact hsnoc.called info (by rw [hcalls]; exact List.mem_cons_self))
      refine ⟨hsnoc.queued, hsnoc.taken, fun info hinfo => hsnoc.called info ?_, hawaited, howned⟩
      rw [hcalls]
      exact List.mem_cons_of_mem c hinfo
  | others tables => exact ⟨hsnoc.queued, hsnoc.taken, hsnoc.called, hsnoc.awaited, hsnoc.owned⟩

/-- Only the handler `add_user` gives an address to a client. -/
theorem owner_step (hstep : s.step cfg ev = some s') (hev : ev ≠ .gateway (.handle .addUser))
    (howner : UserMap.owner s'.loop.gateway.userMap ip = some mac) :
    UserMap.owner s.loop.gateway.userMap ip = some mac := by
  rcases step_loop hstep with ⟨-, hsame⟩ | ⟨a, ha, hloop⟩
  · rwa [hsame] at howner
  · rcases (Loop.step_moves hloop).owner_cases howner with hold | ⟨rfl, -⟩
    · exact hold
    · cases ev with
      | gateway a =>
          obtain rfl := Option.some.inj ha
          exact absurd rfl hev
      | deliver => simp [action] at ha
      | poll | dispatch h | serve now choice u fault | others tables => contradiction

/-- **Every user entry was earned.** In every state that the daemon reaches, each
entry was loaded, or asked for by its own client and then granted. No step but
the handler of granted requests adds an entry or changes whom one names, and no
DISCOVER leads to a call of `addUserInfo`. -/
theorem every_entry_earned (hstart : start cfg t₀ inHeap outHeap = some s₀)
    (hrun : run (step cfg) s₀ es = some s) :
    (∀ ip mac, UserMap.owner s.loop.gateway.userMap ip = some mac →
      Earned cfg t₀ (history (step cfg) s₀ es) ip mac) ∧
    (∀ ev s', s.step cfg ev = some s' → ev ≠ .gateway (.handle .addUser) →
      ∀ ip mac, UserMap.owner s'.loop.gateway.userMap ip = some mac →
        UserMap.owner s.loop.gateway.userMap ip = some mac) ∧
    ∀ r now choice u fault o, s.tables.process cfg (.dhcp r now choice u fault) = some o →
      ∀ info, .addUserInfo info ∈ o.calls → r.isDiscover = false := by
  have hp : Provenance cfg t₀ (history (step cfg) s₀ es) s :=
    history_induction (fun h m ev m' hp hstep => provenance_step hp hstep)
      (provenance_started (started hstart)) hrun
  refine ⟨hp.owned, fun ev s' hstep hev ip mac => owner_step hstep hev, ?_⟩
  intro r now choice u fault o ho info hinfo
  obtain ⟨r', now', choice', u', fault', text, hreq, hdisc, -⟩ :=
    Tables.grant_of_addUserInfo ho hinfo
  obtain ⟨rfl, -⟩ := Request.dhcp.inj hreq
  exact hdisc

/-! Passes of the gateway and turns of the database thread, to make runs of. The
clients are those of `sampleTables`. -/

/-- A pass of the gateway that forwards the frames and then runs the handlers. -/
def pass (now : UInt64) (frames : List Frame) (handlers : List Handler) : List Event :=
  List.map .gateway ([.gettimeofday now] ++ frames.map (fun f => .inside (some f) default) ++
    [.inside none default, .outside none default, .poll] ++ handlers.map .handle ++ [.endPass])

/-- A turn of the database thread that processes one request, with its calls. -/
def turn (handler : DbHandler) (now : UInt64) (calls : ℕ) : List Event :=
  [.poll, .dispatch handler, .serve now ⟨0, 0⟩ default none] ++ List.replicate calls .deliver

/-- The second client alone, without address. -/
def sampleNewcomer : KeyedTable UserRow UserRow.mac :=
  ⟨[⟨"02:00:00:00:00:08", none, none⟩], by decide⟩

/-- A client asks for an address two hours after the first one was seen. -/
def sampleGrantRun (last : UInt8) : List Event :=
  pass 7200006 [Gateway.bootRequest (sampleMAC last) 3] [.addStaticIp, .addUser] ++
    turn .createDhcp 7200006 2 ++ pass 7200007 [] [.addUser, .sendPacket]

/-- The second client has earned its entry. -/
theorem every_entry_earned_grant :
    ∃ s₀ s, start sampleConfig sampleTables (fun _ => 0) (fun _ => 0) = some s₀ ∧
      run (step sampleConfig) s₀ (sampleGrantRun 8) = some s ∧
      Earned sampleConfig sampleTables (history (step sampleConfig) s₀ (sampleGrantRun 8)) sampleIP
        (sampleMAC 8) := by
  have hcheck : ∃ s₀ ∈ start sampleConfig sampleTables (fun _ => 0) (fun _ => 0),
      ∃ s ∈ run (step sampleConfig) s₀ (sampleGrantRun 8),
        UserMap.owner s.loop.gateway.userMap sampleIP = some (sampleMAC 8) := by
    decide +kernel
  obtain ⟨s₀, hstart, s, hrun, howner⟩ := hcheck
  exact ⟨s₀, s, hstart, hrun, (every_entry_earned hstart hrun).1 sampleIP (sampleMAC 8) howner⟩

end System

end GatewaySocket
