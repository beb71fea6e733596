import GatewaySocket.Database.Lease
import GatewaySocket.Gateway.Order
import GatewaySocket.System.Earned

/-!
# The two copies of the assignment

Who owns an address is known twice, in the user table and in the user map of the
gateway, and the gateway learns only of accepted REQUESTs and failed updates of
the access time. `System.awaited` is the user map with everything that is under
way to it. A step leaves it in agreement with the user table unless it evicts a
client that the gateway has as a user; the gateway is not told.
-/

namespace GatewaySocket

open ByteMemory Transition Tables

namespace System

variable {cfg : Config} {s s' s₀ : System} {ev : Event} {es : List Event} {t₀ : Tables}
  {inHeap outHeap : Memory} {ip : InAddr} {mac : EtherAddr}

/-- The user map as it will be once the calls at hand are made and added. -/
def awaited (s : System) : UserMap :=
  (s.thread.calls.filterMap Call.added).foldl UserMap.add s.loop.gateway.awaited

theorem awaited_of_calls_eq_nil (h : s.thread.calls = []) :
    s.awaited = s.loop.gateway.awaited := by
  rw [awaited, h]
  rfl

/-- Every entry under way or installed has a row that gives the address to its
client. -/
structure Agreed (s : System) : Prop where
  nonempty : ∀ text ∈ s.tables.texts, text ≠ ""
  given : ∀ ip mac, UserMap.owner s.awaited ip = some mac → s.tables.Gives ip mac

/-- Only the daemon writes the user table, and no address text is empty. -/
def Sole (s : System) : Event → Prop
  | .others t => t.user.rows = s.tables.user.rows ∧ ∀ row ∈ t.staticIp.rows, row.ip ≠ ""
  | _ => True

/-- A request evicts nobody whom the gateway has, or is about to have, as the user
of the address. -/
def Spared (s : System) : Event → Prop
  | .serve now choice u fault =>
    ∀ job ∈ s.thread.temp.head?, ∀ text ∈ s.tables.evicts (job.request now choice u fault),
      ∀ info ∈ s.awaited.find (inetAddr text), ∀ row ∈ s.tables.user.rows,
        row.ip = some text → readMAC row.mac ≠ some info.userMac
  | _ => True

instance (s : System) : DecidablePred s.Sole
  | .others t => inferInstanceAs (Decidable (t.user.rows = s.tables.user.rows ∧ _))
  | .gateway _ | .poll | .dispatch _ | .serve _ _ _ _ | .deliver => .isTrue trivial

instance (s : System) : DecidablePred s.Spared
  | .serve _ _ _ _ => inferInstanceAs (Decidable (∀ job ∈ s.thread.temp.head?, ∀ text ∈ _, _))
  | .gateway _ | .poll | .dispatch _ | .deliver | .others _ => .isTrue trivial

/-! ## Steps -/

/-- Calls and queues aside nothing has changed, so the agreement has not. -/
theorem Agreed.of_owner (h : s.Agreed) (htables : s'.tables = s.tables)
    (howner : ∀ ip mac, UserMap.owner s'.awaited ip = some mac →
      UserMap.owner s.awaited ip = some mac) : s'.Agreed where
  nonempty := by
    rw [htables]
    exact h.nonempty
  given := by
    intro ip mac hip
    rw [htables]
    exact h.given ip mac (howner ip mac hip)

/-- A delivered call was counted before. -/
theorem awaited_deliver {c : Call} {calls : List Call} (hcalls : s.thread.calls = c :: calls) :
    awaited { s with
      loop := { s.loop with gateway := s.loop.gateway.call c }
      thread := { s.thread with calls } } = s.awaited := by
  rw [awaited, awaited, hcalls]
  cases c with
  | addUserInfo info =>
      change (calls.filterMap Call.added).foldl UserMap.add
        (s.loop.gateway.addUserInfo info).awaited = _
      rw [Gateway.awaited_addUserInfo]
      rfl
  | _ => rfl

/-- What a row gives it still gives after a request that does not evict it. -/
theorem gives_of_spared {t : Tables} {a : Request} {o : Outcome}
    (hne : ∀ text ∈ t.texts, text ≠ "") (ho : t.process cfg a = some o) (hgives : t.Gives ip mac)
    (hspared : ∀ text ∈ t.evicts a, inetAddr text = ip → ∀ row ∈ t.user.rows,
      row.ip = some text → readMAC row.mac ≠ some mac) : o.tables.Gives ip mac := by
  obtain ⟨m, text, hm, hip, haddr⟩ := hgives
  refine ⟨m, text, hm, Tables.ipOf_step hne hip ?_ (step_of_process ho), haddr⟩
  intro hevicts
  obtain ⟨row, hrow, rfl, hrowip⟩ := Tables.ipOf_eq_some_iff.mp hip
  exact hspared text hevicts haddr row hrow hrowip hm

theorem agreed_serve {now : UInt64} {choice : Choice} {u : Indeterminate} {fault : Option ℕ}
    {job : Job} {temp : List Job} {o : Outcome} (hs : s.Agreed)
    (hspared : s.Spared (.serve now choice u fault)) (hcalls : s.thread.calls = [])
    (htemp : s.thread.temp = job :: temp)
    (ho : s.tables.process cfg (job.request now choice u fault) = some o) :
    Agreed { s with tables := o.tables, thread := { s.thread with temp, calls := o.calls } } := by
  have hjob : job ∈ s.thread.temp.head? := by rw [htemp]; rfl
  refine ⟨fun text htext => hs.nonempty text (mem_texts_step (step_of_process ho) htext), ?_⟩
  intro ip mac howner
  -- the entry comes from a call of this request, or it was awaited before
  have hcases : (∃ info ∈ o.calls.filterMap Call.added, info.ip = ip ∧ info.userMac = mac) ∨
      UserMap.owner s.awaited ip = some mac := by
    rw [awaited_of_calls_eq_nil hcalls]
    exact Gateway.owner_foldl_add_cases howner
  rcases hcases with ⟨info, hinfo, rfl, rfl⟩ | hold
  · obtain ⟨r, now', choice', u', fault', text, -, -, hmac, -, htext, -, haddr⟩ :=
      Tables.grant_of_addUserInfo ho (Call.mem_filterMap_added.mp hinfo)
    exact ⟨_, text, by rw [readMAC_printMAC, hmac], htext, haddr⟩
  · refine gives_of_spared hs.nonempty ho (hs.given ip mac hold) ?_
    rintro text hevicts rfl row hrow hip
    obtain ⟨info, hinfo, rfl⟩ := Option.map_eq_some_iff.mp hold
    exact hspared job hjob text hevicts info hinfo row hrow hip

theorem agreed_step (hs : s.Agreed) (hsole : s.Sole ev) (hspared : s.Spared ev)
    (hstep : s.step cfg ev = some s') : s'.Agreed := by
  cases steps_of_step hstep with
  | @gateway a loop e hopen hexec =>
      have hmoves : Loop.Moves s.loop a loop.gateway :=
        Loop.step_moves (by rw [Loop.step, hexec]; rfl)
      have hadd : ∀ info, a ≠ .call (.addUserInfo info) := by
        rintro info rfl
        exact hopen
      refine hs.of_owner rfl fun ip mac howner => ?_
      refine Gateway.owner_foldl_add_of_owner _ (fun hloop => ?_) howner
      have hcases : UserMap.owner loop.gateway.awaited ip = UserMap.owner s.loop.gateway.awaited ip ∨
          UserMap.owner loop.gateway.awaited ip = none := hmoves.owner_awaited hadd
      rw [receive] at hloop
      rcases hcases with hsame | hnone
      · rwa [hsame] at hloop
      · rw [hnone] at hloop
        contradiction
  | poll hidle => exact hs.of_owner rfl fun _ _ => id
  | @dispatch handler hidle => cases handler <;> exact hs.of_owner rfl fun _ _ => id
  | serve hcalls htemp ho => exact agreed_serve hs hspared hcalls htemp ho
  | deliver hcalls =>
      refine hs.of_owner rfl fun ip mac howner => ?_
      rwa [awaited_deliver hcalls] at howner
  | others t =>
      obtain ⟨huser, hstatic⟩ := hsole
      have hip : t.ipOf = s.tables.ipOf := by
        funext m
        rw [Tables.ipOf, Tables.ipOf, KeyedTable.row, KeyedTable.row, huser]
      refine ⟨?_, ?_⟩
      · intro text htext
        rcases mem_texts.mp htext with ⟨row, hrow, rfl⟩ | ⟨m, hm⟩
        · exact hstatic row hrow
        · rw [hip] at hm
          exact hs.nonempty text (mem_texts.mpr (.inr ⟨m, hm⟩))
      · intro ip mac howner
        obtain ⟨m, text, hm, htext, haddr⟩ := hs.given ip mac howner
        exact ⟨m, text, hm, by rw [hip]; exact htext, haddr⟩

/-- The daemon starts in agreement. -/
theorem agreed_started (hs : Started cfg t₀ s) (hne : ∀ text ∈ t₀.texts, text ≠ "") :
    s.Agreed where
  nonempty := by
    rw [hs.tables]
    exact hne
  given := by
    intro ip mac howner
    rw [awaited_of_calls_eq_nil (by rw [hs.thread]), Gateway.awaited, hs.userMap] at howner
    rcases Gateway.owner_foldl_add_cases howner with ⟨info, hinfo, rfl, rfl⟩ | hnone
    · rw [hs.tables]
      exact Tables.gives_of_getAllUser hs.users hinfo
    · contradiction

/-- No two rows are for one client: the MAC is a key, however it is spelled. -/
def MacKeyed (t : Tables) : Prop :=
  ∀ m ∈ t.macs, ∀ m' ∈ t.macs, (readMAC m).isSome → readMAC m = readMAC m' → m = m'

instance (t : Tables) : Decidable (MacKeyed t) := inferInstanceAs (Decidable (∀ m ∈ t.macs, _))

/-- Nothing is queued between the two threads, and no handler is running. -/
def Quiescent (s : System) : Prop :=
  s.loop.place.ready = [] ∧ s.loop.gateway.poll = [] ∧ s.poll = [] ∧ s.thread.Idle ∧
    s.thread.ready = []

instance (s : System) : Decidable s.Quiescent := inferInstanceAs (Decidable (_ ∧ _))

/-- At rest the user map is what was awaited. -/
theorem Quiescent.awaited_eq (h : s.Quiescent) : s.awaited = s.loop.gateway.userMap := by
  obtain ⟨-, hpoll, -, hidle, -⟩ := h
  have hready : s.loop.gateway.ready .addUser = false := by
    have hmem := List.filter_eq_nil_iff.mp hpoll .addUser (by decide)
    simpa using hmem
  have hcounter : s.loop.gateway.userAddRequest.counter = 0 := by
    simpa [Gateway.ready] using hready
  rw [awaited_of_calls_eq_nil hidle.2]
  exact Gateway.awaited_of_queue_eq_nil ((RequestQueue.counter_eq_zero_iff _).mp hcounter)

/-- **The gateway and the database agree.** If no request evicts a client that the
gateway has as the user of the address, then whenever nothing is under way every
entry of the user map is what the row of its client says, and no client has two. -/
theorem agreement_run (hstart : start cfg t₀ inHeap outHeap = some s₀)
    (hne : ∀ text ∈ t₀.texts, text ≠ "") (hkey : MacKeyed t₀)
    (hsole : AllSteps (step cfg) Sole s₀ es) (hspared : AllSteps (step cfg) Spared s₀ es)
    (hrun : run (step cfg) s₀ es = some s) (hquiet : s.Quiescent) :
    (∀ ip mac, UserMap.owner s.loop.gateway.userMap ip = some mac →
      ∃ row ∈ s.tables.user.rows, readMAC row.mac = some mac ∧
        (∃ text, row.ip = some text ∧ inetAddr text = ip) ∧
        ∀ row' ∈ s.tables.user.rows, readMAC row'.mac = some mac → row' = row) ∧
    ∀ ip ip' mac, UserMap.owner s.loop.gateway.userMap ip = some mac →
      UserMap.owner s.loop.gateway.userMap ip' = some mac → ip = ip' := by
  have hs₀ := started hstart
  obtain ⟨hagreed, hmacs⟩ := run_induction_of_allSteps
    (P := fun m => m.Agreed ∧ m.tables.macs = t₀.macs)
    (fun m ev m' hm hcond hstep => ⟨agreed_step hm.1 hcond.1 hcond.2 hstep,
      (macs_step (fun t ht => by subst ht; exact hcond.1.1) hstep).trans hm.2⟩)
    ⟨agreed_started hs₀ hne, by rw [hs₀.tables]⟩ (hsole.and hspared) hrun
  have hrows : ∀ row ∈ s.tables.user.rows, ∀ row' ∈ s.tables.user.rows,
      (readMAC row.mac).isSome → readMAC row.mac = readMAC row'.mac → row = row' := by
    intro row hrow row' hrow' hsome heq
    have hmem := List.mem_map_of_mem (f := UserRow.mac) hrow
    have hmem' := List.mem_map_of_mem (f := UserRow.mac) hrow'
    rw [← Tables.macs, hmacs] at hmem hmem'
    exact s.tables.user.eq_of_key_eq hrow hrow' (hkey _ hmem _ hmem' hsome heq)
  have hentry : ∀ ip mac, UserMap.owner s.loop.gateway.userMap ip = some mac →
      ∃ row ∈ s.tables.user.rows, readMAC row.mac = some mac ∧
        ∃ text, row.ip = some text ∧ inetAddr text = ip := by
    intro ip mac howner
    rw [← hquiet.awaited_eq] at howner
    obtain ⟨m, text, hm, hip, haddr⟩ := hagreed.given ip mac howner
    obtain ⟨row, hrow, rfl, hrowip⟩ := Tables.ipOf_eq_some_iff.mp hip
    exact ⟨row, hrow, hm, text, hrowip, haddr⟩
  constructor
  · intro ip mac howner
    obtain ⟨row, hrow, hmac, htext⟩ := hentry ip mac howner
    exact ⟨row, hrow, hmac, htext, fun row' hrow' hmac' =>
      hrows row' hrow' row hrow (by rw [hmac']; rfl) (by rw [hmac, hmac'])⟩
  · intro ip ip' mac howner howner'
    obtain ⟨row, hrow, hmac, text, htext, rfl⟩ := hentry ip mac howner
    obtain ⟨row', hrow', hmac', text', htext', rfl⟩ := hentry ip' mac howner'
    obtain rfl := hrows row hrow row' hrow' (by rw [hmac]; rfl) (by rw [hmac, hmac'])
    rw [htext] at htext'
    obtain rfl := Option.some.inj htext'
    rfl

/-- The first client renews its address. -/
theorem agreement_run_renewal :
    ∃ s₀ s, start sampleConfig sampleTables (fun _ => 0) (fun _ => 0) = some s₀ ∧
      run (step sampleConfig) s₀ (sampleGrantRun 7) = some s ∧
      UserMap.owner s.loop.gateway.userMap sampleIP = some (sampleMAC 7) ∧
      ∃ row ∈ s.tables.user.rows, readMAC row.mac = some (sampleMAC 7) ∧
        ∃ text, row.ip = some text ∧ inetAddr text = sampleIP := by
  have hcheck : ∃ s₀ ∈ start sampleConfig sampleTables (fun _ => 0) (fun _ => 0),
      (∀ x ∈ history (step sampleConfig) s₀ (sampleGrantRun 7), x.1.Sole x.2 ∧ x.1.Spared x.2) ∧
        ∃ s ∈ run (step sampleConfig) s₀ (sampleGrantRun 7),
          s.Quiescent ∧ UserMap.owner s.loop.gateway.userMap sampleIP = some (sampleMAC 7) := by
    decide +kernel
  obtain ⟨s₀, hstart, hcond, s, hrun, hquiet, howner⟩ := hcheck
  obtain ⟨row, hrow, hmac, htext, -⟩ := (agreement_run hstart (by decide) (by decide +kernel)
    (allSteps_of_history fun x hx => (hcond x hx).1)
    (allSteps_of_history fun x hx => (hcond x hx).2) hrun hquiet).1 sampleIP (sampleMAC 7) howner
  exact ⟨s₀, s, hstart, hrun, howner, row, hrow, hmac, htext⟩

/-- The second client asks what it would get, and does not take it. -/
def sampleOfferRun : List Event :=
  pass 7200006 [Gateway.bootRequest (sampleMAC 8) 1] [.addStaticIp, .addUser] ++
    turn .createDhcp 7200006 1 ++ pass 7200007 [] [.sendPacket]

/-- With everything at rest the first client keeps the entry of an address that
the database has given to the second. -/
theorem evicted_keeps_entry :
    sampleTables.ipOf.Exclusive ∧ (∀ text ∈ sampleTables.texts, text ≠ "") ∧
      MacKeyed sampleTables ∧
      ∃ s₀ s, start sampleConfig sampleTables (fun _ => 0) (fun _ => 0) = some s₀ ∧
        AllSteps (step sampleConfig) Sole s₀ sampleOfferRun ∧
        run (step sampleConfig) s₀ sampleOfferRun = some s ∧ s.Quiescent ∧
        UserMap.owner s.loop.gateway.userMap sampleIP = some (sampleMAC 7) ∧
        s.tables.ipOf (printMAC (sampleMAC 7)) = none ∧
        s.tables.ipOf (printMAC (sampleMAC 8)) = some "10.0.0.5" := by
  refine ⟨by decide, by decide, by decide +kernel, ?_⟩
  have hcheck : ∃ s₀ ∈ start sampleConfig sampleTables (fun _ => 0) (fun _ => 0),
      (∀ x ∈ history (step sampleConfig) s₀ sampleOfferRun, x.1.Sole x.2) ∧
        ∃ s ∈ run (step sampleConfig) s₀ sampleOfferRun,
          s.Quiescent ∧ UserMap.owner s.loop.gateway.userMap sampleIP = some (sampleMAC 7) ∧
            s.tables.ipOf (printMAC (sampleMAC 7)) = none ∧
            s.tables.ipOf (printMAC (sampleMAC 8)) = some "10.0.0.5" := by
    decide +kernel
  obtain ⟨s₀, hstart, hsole, s, hrun, hfacts⟩ := hcheck
  exact ⟨s₀, s, hstart, allSteps_of_history hsole, hrun, hfacts⟩

end System

end GatewaySocket
