import GatewaySocket.Database.Accessed
import GatewaySocket.Gateway.Activity
import GatewaySocket.System.Deletion

/-!
# Access times in the gateway and in the database

The gateway notes the access of a client in its entry and the database in its
row; a client that sends is out of date by no more than a timeout in either. What
the row will say once the queued updates are carried out is `pending`, and no
entry is ahead of it. That holds because the clock does not go back: an entry
whose access time was loaded and lies in the future is ahead of an update that
another entry of the same client causes.
-/

namespace GatewaySocket

open ByteMemory Transition Tables

/-- The users that `getAllUser` finds at startup. -/
def Tables.loaded (cfg : Config) (t : Tables) : List UserInfo :=
  (t.getAllUser cfg.timeout.toUInt64).getD []

/-- Every hardware address in the user table is spelled as `printMAC` spells it. -/
def Tables.Canonical (t : Tables) : Prop :=
  ∀ m ∈ t.macs, ∀ mac ∈ readMAC m, m = printMAC mac

instance (t : Tables) : Decidable t.Canonical :=
  -- the addresses are read from the table, not enumerated
  have (m : String) : Decidable (∀ mac ∈ readMAC m, m = printMAC mac) := Option.decidableForallMem _
  inferInstanceAs (Decidable (∀ m ∈ t.macs, ∀ mac ∈ readMAC m, m = printMAC mac))

/-- The time of the last of the updates for a client, or `time` if there is none. -/
def lastUpdate (mac : EtherAddr) (rs : List UpdateTime) (time : UInt64) : UInt64 :=
  rs.foldl (fun time r => if r.mac = mac then r.utc else time) time

theorem lastUpdate_of_ne {mac : EtherAddr} {rs : List UpdateTime} (h : ∀ r ∈ rs, r.mac ≠ mac)
    (time : UInt64) : lastUpdate mac rs time = time := by
  induction rs generalizing time with
  | nil => rfl
  | cons r rs ih =>
      rw [lastUpdate, List.foldl_cons, if_neg (h r List.mem_cons_self)]
      exact ih (fun r' hr' => h r' (List.mem_cons_of_mem r hr')) time

theorem lastUpdate_append (mac : EtherAddr) (rs rs' : List UpdateTime) (time : UInt64) :
    lastUpdate mac (rs ++ rs') time = lastUpdate mac rs' (lastUpdate mac rs time) :=
  List.foldl_append

namespace System

/-- The updates under way, in their order. -/
def updates (s : System) : List UpdateTime :=
  s.thread.temp.filterMap Job.update ++ s.updateTimeQueue.queue

/-- The access time in the row of a client once the updates under way are carried out. -/
def pending (s : System) (mac : EtherAddr) : UInt64 :=
  lastUpdate mac s.updates (s.tables.accessedOf mac)

/-- The entry is in the user map or on its way there. -/
def Knows (s : System) (info : UserInfo) : Prop :=
  s.loop.gateway.userMap.find info.ip = some info ∨
    info ∈ s.loop.gateway.userAddRequest.queue ∨ info ∈ s.thread.calls.filterMap Call.added

instance (s : System) (info : UserInfo) : Decidable (s.Knows info) :=
  inferInstanceAs (Decidable (_ ∨ _ ∨ _))

/-- The clock does not go back, and only the daemon writes the user table. -/
def Timed (s : System) : Event → Prop
  | .gateway (.gettimeofday now) => s.loop.currentTime ≤ now
  | .others t => t.user.rows = s.tables.user.rows
  | _ => True

/-- An entry of the frame's sender was loaded with an access time in the future. -/
def Ahead (cfg : Config) (t₀ : Tables) (s : System) (f : Frame) : Prop :=
  ∃ info ∈ t₀.loaded cfg, s.Knows info ∧ info.userMac = f.etherSource ∧
    s.loop.currentTime < info.lastAccess

/-- The frame is for an entry of its sender that is out of date, or may be for one
since it is an ARP frame without its addresses. -/
def Behind (s : System) (f : Frame) : Prop :=
  f.IsARP ∧ f.length < 42 ∨
    (f.IsIPv4 ∨ f.IsARP) ∧ ∃ info ∈ s.loop.gateway.userMap.find f.sourceIP,
      info.userMac = f.etherSource ∧ info.lastAccess + info.timeout < s.loop.currentTime

/-- The clock is more than a timeout away from its end, and no frame is for one
entry of its sender while another one is ahead of the clock. -/
def Unrivalled (cfg : Config) (t₀ : Tables) (s : System) : Event → Prop
  | .gateway (.gettimeofday now) => now.toNat + cfg.timeout.toNat < UInt64.size
  | .gateway (.inside (some f) _) => ¬(s.Ahead cfg t₀ f ∧ s.Behind f)
  | _ => True

/-- No update of the client raises an SQL exception. -/
def Unfailing (mac : EtherAddr) (s : System) : Event → Prop
  | .serve _ _ _ fault => ∀ job ∈ s.thread.temp.head?, ∀ r ∈ job.update, r.mac = mac →
      fault ≠ some 0
  | _ => True

instance (s : System) : DecidablePred s.Timed
  | .gateway (.gettimeofday now) => inferInstanceAs (Decidable (s.loop.currentTime ≤ now))
  | .others t => inferInstanceAs (Decidable (t.user.rows = s.tables.user.rows))
  | .gateway (.handle _) | .gateway (.call _) | .gateway (.inside _ _) | .gateway (.outside _ _)
  | .gateway .poll | .gateway .endPass | .poll | .dispatch _ | .serve _ _ _ _ | .deliver =>
      .isTrue trivial

instance (cfg : Config) (t₀ : Tables) (s : System) (f : Frame) : Decidable (s.Ahead cfg t₀ f) :=
  inferInstanceAs (Decidable (∃ info ∈ t₀.loaded cfg, s.Knows info ∧
    info.userMac = f.etherSource ∧ s.loop.currentTime < info.lastAccess))

instance (s : System) (f : Frame) : Decidable (s.Behind f) :=
  inferInstanceAs (Decidable (f.IsARP ∧ f.length < 42 ∨
    (f.IsIPv4 ∨ f.IsARP) ∧ ∃ info ∈ s.loop.gateway.userMap.find f.sourceIP,
      info.userMac = f.etherSource ∧ info.lastAccess + info.timeout < s.loop.currentTime))

instance (cfg : Config) (t₀ : Tables) (s : System) : DecidablePred (s.Unrivalled cfg t₀)
  | .gateway (.gettimeofday now) =>
      inferInstanceAs (Decidable (now.toNat + cfg.timeout.toNat < UInt64.size))
  | .gateway (.inside (some f) _) => inferInstanceAs (Decidable ¬(s.Ahead cfg t₀ f ∧ s.Behind f))
  | .gateway (.handle _) | .gateway (.call _) | .gateway (.inside none _)
  | .gateway (.outside _ _) | .gateway .poll | .gateway .endPass | .poll | .dispatch _
  | .serve _ _ _ _ | .deliver | .others _ => .isTrue trivial

instance (mac : EtherAddr) (s : System) : DecidablePred (s.Unfailing mac)
  | .serve _ _ _ _ => inferInstanceAs (Decidable (∀ job ∈ s.thread.temp.head?, _))
  | .gateway _ | .poll | .dispatch _ | .deliver | .others _ => .isTrue trivial

end System

/-- What has been noted of the clients. -/
structure Activity where
  /-- the clients of the forwarded frames, with the times -/
  forwarded : List (EtherAddr × UInt64)
  /-- the updates issued for entries that have not been added again since -/
  issued : List UpdateTime

namespace System

/-- The updates that an event issues. -/
def issues (s : System) : Event → List UpdateTime
  | .gateway a => s.loop.issues a
  | _ => []

def noteActivity (s : System) (ev : Event) (x : Activity) : Activity :=
  match ev with
  | .gateway (.inside (some f) u) => {
      forwarded := x.forwarded ++ ((s.loop.gateway.known s.loop.inPacket f u).map fun entry =>
        (entry.2.userMac, s.loop.currentTime)).toList
      issued := x.issued ++ s.issues ev }
  | .gateway (.handle .addUser) => { x with
      issued := x.issued.filter fun r =>
        ∀ info ∈ s.loop.gateway.userAddRequest.queue, info.ip ≠ r.ip }
  | _ => x

abbrev recording (cfg : Config) : System × Activity → Event → Option (System × Activity) :=
  withGhost (step cfg) noteActivity

variable {cfg : Config} {s s' s₀ : System} {x y : System × Activity} {ev : Event}
  {es : List Event} {t₀ : Tables} {inHeap outHeap : Memory} {info : UserInfo} {ip : InAddr}
  {mac : EtherAddr} {activity : Activity}

/-! ## What a step does -/

theorem currentTime_step (h : s.step cfg ev = some s') :
    s'.loop.currentTime = s.loop.currentTime ∨
      ev = .gateway (.gettimeofday s'.loop.currentTime) := by
  cases steps_of_step h with
  | gateway hopen hexec => exact (Loop.currentTime_of_exec hexec).imp_right fun ha => by rw [ha]; rfl
  | poll hidle => exact .inl rfl
  | @dispatch handler hidle => cases handler <;> exact .inl rfl
  | serve hcalls htemp ho => exact .inl rfl
  | deliver hcalls => exact .inl rfl
  | others tables => exact .inl rfl

theorem find_cases (h : s.step cfg ev = some s')
    (hfind : s'.loop.gateway.userMap.find ip = some info) :
    s.loop.gateway.userMap.find ip = some info ∨
      ev = .gateway (.handle .addUser) ∧ info ∈ s.loop.gateway.userAddRequest.queue ∧
        info.ip = ip ∨
      ∃ a old, ev = .gateway a ∧ s.loop.Touches a ip old ∧
        info = { old with lastAccess := s.loop.currentTime } := by
  cases steps_of_step h with
  | @gateway a loop e hopen hexec =>
      have hmoves : Loop.Moves s.loop a loop.gateway :=
        Loop.step_moves (by rw [Loop.step, hexec]; rfl)
      rcases hmoves.find_cases hfind with hold | ⟨rfl, hadded⟩ | ⟨old, htouched⟩
      · exact .inl hold
      · exact .inr (.inl ⟨rfl, hadded⟩)
      · exact .inr (.inr ⟨a, old, rfl, htouched⟩)
  | poll hidle => exact .inl hfind
  | @dispatch handler hidle => cases handler <;> exact .inl hfind
  | serve hcalls htemp ho => exact .inl hfind
  | deliver hcalls =>
      rw [Loop.userMap_call] at hfind
      exact .inl hfind
  | others tables => exact .inl hfind

/-- What is on its way to the user map was so before, or a request is granted. -/
theorem awaited_cases (h : s.step cfg ev = some s')
    (hk : info ∈ s'.loop.gateway.userAddRequest.queue ∨
      info ∈ s'.thread.calls.filterMap Call.added) :
    (info ∈ s.loop.gateway.userAddRequest.queue ∨ info ∈ s.thread.calls.filterMap Call.added) ∨
      ∃ a o, s.tables.process cfg a = some o ∧ .addUserInfo info ∈ o.calls := by
  cases steps_of_step h with
  | @gateway a loop e hopen hexec =>
      have hmoves : Loop.Moves s.loop a loop.gateway :=
        Loop.step_moves (by rw [Loop.step, hexec]; rfl)
      refine .inl (hk.imp_left fun hqueue => ?_)
      rcases hmoves.mem_userAddRequest hqueue with hold | rfl
      · exact hold
      · exact absurd hopen id
  | poll hidle => exact .inl hk
  | @dispatch handler hidle => cases handler <;> exact .inl hk
  | @serve now choice u fault job temp o hcalls htemp ho =>
      rcases hk with hqueue | hcall
      · exact .inl (.inl hqueue)
      · exact .inr ⟨_, o, ho, Call.mem_filterMap_added.mp hcall⟩
  | @deliver c calls hcalls =>
      left
      rw [hcalls]
      rcases hk with hqueue | hcall
      · have hmoves : Loop.Moves s.loop (.call c) (s.loop.gateway.call c) := .call c
        rcases hmoves.mem_userAddRequest hqueue with hold | hnew
        · exact .inl hold
        · obtain rfl := Action.call.inj hnew
          exact .inr List.mem_cons_self
      · exact .inr (Call.mem_filterMap_added.mpr
          (List.mem_cons_of_mem c (Call.mem_filterMap_added.mp hcall)))
  | others tables => exact .inl hk

theorem mem_issues {r : UpdateTime} (h : r ∈ s.issues ev) :
    ∃ a ip old, ev = .gateway a ∧ s.loop.Touches a ip old ∧
      r = ⟨old.userMac, old.ip, s.loop.currentTime⟩ := by
  cases ev with
  | gateway a =>
      obtain ⟨ip, old, htouches, rfl⟩ := Loop.mem_issues h
      exact ⟨a, ip, old, rfl, htouches, rfl⟩
  | _ => contradiction

theorem find_of_touches {a : Action} (h : s.step cfg (.gateway a) = some s')
    (ht : s.loop.Touches a ip info) :
    s'.loop.gateway.userMap.find ip = some { info with lastAccess := s.loop.currentTime } := by
  cases steps_of_step h with
  | gateway hopen hexec => exact Loop.find_of_touches ht hexec

/-- An entry was known before, or it has been touched, or a request is granted. -/
theorem knows_cases (h : s.step cfg ev = some s') (hk : s'.Knows info) :
    s.Knows info ∨
      (∃ a old, ev = .gateway a ∧ s.loop.Touches a old.ip old ∧
        info = { old with lastAccess := s.loop.currentTime }) ∨
      ∃ a o, s.tables.process cfg a = some o ∧ .addUserInfo info ∈ o.calls := by
  rcases hk with hfind | hawaited
  · rcases find_cases h hfind with hold | ⟨-, hmem, -⟩ | ⟨a, old, rfl, htouched, rfl⟩
    · exact .inl (.inl hold)
    · exact .inl (.inr (.inl hmem))
    · exact .inr (.inl ⟨a, old, rfl, htouched, rfl⟩)
  · rcases awaited_cases h hawaited with hold | hgranted
    · exact .inl (.inr hold)
    · exact .inr (.inr hgranted)

/-! ## The record to come -/

theorem updates_receive (s : System) (loop : Loop) (e : Emission) :
    (s.receive loop e).updates = s.updates ++ e.updates := by
  rw [updates, updates, receive, RequestQueue.queue_foldl_push, List.append_assoc]

/-- A handler that starts moves the updates from the queue to the batch. -/
theorem updates_take (htemp : s.thread.temp = []) (handler : DbHandler) :
    (s.take handler).updates = s.updates := by
  cases handler with
  | createDhcp => simp [updates, take, htemp, Job.update]
  | updateTime =>
      simp only [updates, take, RequestQueue.drain_fst, RequestQueue.queue_drain_snd, htemp,
        List.filterMap_map, List.filterMap_nil, List.nil_append, List.append_nil]
      exact List.filterMap_some

/-- A request that is processed is not pending any more, and nothing else changes. -/
theorem pending_serve {now : UInt64} {choice : Choice} {u : Indeterminate} {fault : Option ℕ}
    {job : Job} {temp : List Job} {o : Outcome} (hrow : s.tables.user.row (printMAC mac) ≠ none)
    (hunfailing : s.Unfailing mac (.serve now choice u fault))
    (htemp : s.thread.temp = job :: temp)
    (ho : s.tables.process cfg (job.request now choice u fault) = some o) :
    pending { s with tables := o.tables, thread := { s.thread with temp, calls := o.calls } } mac =
      s.pending mac := by
  cases job with
  | createDhcp r => rw [pending, pending, updates, updates, htemp, accessedOf_dhcp ho]; rfl
  | updateTime r =>
      have hfault : r.mac = mac → fault ≠ some 0 := hunfailing _ (by rw [htemp]; rfl) r rfl
      rw [pending, pending, updates, updates, htemp, accessedOf_update ho hrow hfault]
      rfl

/-- Only the updates that the gateway's thread issues change what is pending. -/
theorem pending_step (hrow : s.tables.user.row (printMAC mac) ≠ none) (htimed : s.Timed ev)
    (hunfailing : s.Unfailing mac ev) (h : s.step cfg ev = some s') :
    s'.pending mac = lastUpdate mac (s.issues ev) (s.pending mac) := by
  cases steps_of_step h with
  | gateway hopen hexec =>
      rw [pending, updates_receive, lastUpdate_append, Loop.updates_of_exec hexec]
      rfl
  | poll hidle => rfl
  | @dispatch handler hidle =>
      rw [pending, updates_take hidle.1]
      cases handler <;> rfl
  | serve hcalls htemp ho => exact pending_serve hrow hunfailing htemp ho
  | deliver hcalls => rfl
  | others t =>
      have hsame : t.accessedOf mac = s.tables.accessedOf mac := by
        rw [accessedOf, accessedOf, KeyedTable.row, KeyedTable.row, htimed]
      exact congrArg (lastUpdate mac s.updates) hsame

theorem issued_cases {r : UpdateTime}
    (hr : r ∈ (s.noteActivity ev activity).issued) :
    r ∈ activity.issued ∧ (ev = .gateway (.handle .addUser) →
        ∀ info ∈ s.loop.gateway.userAddRequest.queue, info.ip ≠ r.ip) ∨
      r ∈ s.issues ev := by
  unfold noteActivity at hr
  split at hr
  · rcases List.mem_append.mp hr with hold | hnew
    · exact .inl ⟨hold, nofun⟩
    · exact .inr hnew
  · obtain ⟨hold, hnamed⟩ := List.mem_filter.mp hr
    exact .inl ⟨hold, fun _ => of_decide_eq_true hnamed⟩
  · next _ hadd => exact .inl ⟨hr, fun hev => absurd hev hadd⟩

theorem forwarded_cases {time : UInt64}
    (hm : (mac, time) ∈ (s.noteActivity ev activity).forwarded) :
    (mac, time) ∈ activity.forwarded ∨
      ∃ f u ip info, ev = .gateway (.inside (some f) u) ∧
        s.loop.gateway.known s.loop.inPacket f u = some (ip, info) ∧ info.userMac = mac ∧
        time = s.loop.currentTime := by
  unfold noteActivity at hm
  split at hm
  · next f u =>
      rcases List.mem_append.mp hm with hold | hnew
      · exact .inl hold
      · obtain ⟨⟨ip, info⟩, hknown, heq⟩ := Option.map_eq_some_iff.mp (Option.mem_toList.mp hnew)
        obtain ⟨hmac, htime⟩ := Prod.mk.inj heq
        exact .inr ⟨f, u, ip, info, rfl, hknown, hmac, htime.symm⟩
  · exact .inl hm
  · exact .inl hm

/-! ## The access times of the entries -/

/-- An entry as it may be at a time: its access time lies in the past, or it was
loaded. -/
structure Valid (cfg : Config) (t₀ : Tables) (time : UInt64) (info : UserInfo) : Prop where
  timeout : info.timeout = cfg.timeout.toUInt64
  rowed : printMAC info.userMac ∈ t₀.macs
  bounded : info.lastAccess.toNat + cfg.timeout.toNat < UInt64.size
  past : info.lastAccess ≤ time ∨ info ∈ t₀.loaded cfg

theorem Valid.fits {time : UInt64} (hv : Valid cfg t₀ time info) :
    info.lastAccess.toNat + info.timeout.toNat < UInt64.size := by
  rw [hv.timeout, UInt32.toNat_toUInt64]
  exact hv.bounded

/-- What the gateway knows of the access times, beside what has been noted. -/
structure Dated (cfg : Config) (t₀ : Tables) (x : System × Activity) : Prop where
  macs : x.1.tables.macs = t₀.macs
  clock : x.1.loop.currentTime.toNat + cfg.timeout.toNat < UInt64.size
  keyed : ∀ ip info, x.1.loop.gateway.userMap.find ip = some info → info.ip = ip
  valid : ∀ info, x.1.Knows info → Valid cfg t₀ x.1.loop.currentTime info
  issued : ∀ r ∈ x.2.issued, ∀ info, x.1.loop.gateway.userMap.find r.ip = some info →
    r.utc ≤ info.lastAccess
  forwarded : ∀ mac time, (mac, time) ∈ x.2.forwarded → printMAC mac ∈ t₀.macs

/-- The entry of a known sender is one that the gateway has. -/
theorem Dated.knows {f : Frame} {u : Indeterminate} (hd : Dated cfg t₀ x)
    (hknown : x.1.loop.gateway.known x.1.loop.inPacket f u = some (ip, info)) :
    x.1.loop.gateway.userMap.find ip = some info ∧ info.ip = ip ∧ x.1.Knows info := by
  have hfind := (Gateway.known_eq_some hknown).1
  have hip := hd.keyed ip info hfind
  exact ⟨hfind, hip, .inl (by rw [hip, hfind])⟩

theorem le_time_step (htimed : s.Timed ev) (h : s.step cfg ev = some s') :
    s.loop.currentTime ≤ s'.loop.currentTime := by
  rcases currentTime_step h with hsame | rfl
  · exact UInt64.le_of_eq hsame.symm
  · exact htimed

theorem valid_step (hd : Dated cfg t₀ x) (htimed : x.1.Timed ev) (h : x.1.step cfg ev = some s')
    (hk : s'.Knows info) : Valid cfg t₀ s'.loop.currentTime info := by
  have htime := le_time_step htimed h
  rcases knows_cases h hk with hold | ⟨a, old, rfl, ⟨f, u, rfl, hknown, hstale⟩, rfl⟩ |
    ⟨a, o, ho, hcall⟩
  · have hvalid := hd.valid info hold
    exact ⟨hvalid.timeout, hvalid.rowed, hvalid.bounded,
      hvalid.past.imp_left fun hle => UInt64.le_trans hle htime⟩
  · have hvalid := hd.valid old (hd.knows hknown).2.2
    exact ⟨hvalid.timeout, hvalid.rowed, hd.clock, .inl htime⟩
  · obtain ⟨haccess, htimeout, hrow⟩ := entry_of_addUserInfo ho hcall
    refine ⟨htimeout, ?_, ?_, ?_⟩
    · rw [← hd.macs]
      exact mem_macs_iff.mpr hrow
    · have hzero : info.lastAccess.toNat ≤ x.1.loop.currentTime.toNat := by
        rw [haccess]
        exact Nat.zero_le _
      exact Nat.lt_of_le_of_lt (Nat.add_le_add_right hzero _) hd.clock
    · rw [haccess]
      exact .inl (UInt64.le_iff_toNat_le.mpr (Nat.zero_le _))

theorem dated_step (hd : Dated cfg t₀ x) (htimed : x.1.Timed ev)
    (hunrivalled : x.1.Unrivalled cfg t₀ ev) (h : recording cfg x ev = some y) : Dated cfg t₀ y := by
  obtain ⟨s, activity⟩ := x
  obtain ⟨s', activity'⟩ := y
  obtain ⟨hstep, rfl⟩ : s.step cfg ev = some s' ∧ s.noteActivity ev activity = activity' :=
    withGhost_eq_some_iff.mp h
  refine ⟨?_, ?_, ?_, fun info hk => valid_step hd htimed hstep hk, ?_, ?_⟩
  · exact (macs_step (fun t ht => by subst ht; exact htimed) hstep).trans hd.macs
  · rcases currentTime_step hstep with hsame | hev
    · exact hsame ▸ hd.clock
    · rw [hev] at hunrivalled
      exact hunrivalled
  · intro ip info hfind
    rcases find_cases hstep hfind with hold | ⟨-, -, hip⟩ | ⟨a, old, rfl, ⟨f, u, rfl, hknown, -⟩, rfl⟩
    · exact hd.keyed ip info hold
    · exact hip
    · exact (hd.knows hknown).2.1
  · intro r hr info hfind
    rcases issued_cases hr with ⟨hold, hunnamed⟩ | hnew
    · rcases find_cases hstep hfind with hsame | ⟨hev, hmem, hip⟩ |
        ⟨a, old, rfl, ⟨f, u, rfl, hknown, hstale⟩, rfl⟩
      · exact hd.issued r hold info hsame
      · exact absurd hip (hunnamed hev info hmem)
      · obtain ⟨hfind', -, hknows⟩ := hd.knows hknown
        exact UInt64.le_trans (hd.issued r hold old hfind')
          (le_of_stale (hd.valid old hknows).fits hstale)
    · obtain ⟨a, ip, old, rfl, htouches, rfl⟩ := mem_issues hnew
      obtain ⟨f, u, -, hknown, -⟩ := id htouches
      rw [(hd.knows hknown).2.1, find_of_touches hstep htouches] at hfind
      obtain rfl := Option.some.inj hfind
      exact UInt64.le_refl _
  · intro mac time hm
    rcases forwarded_cases hm with hold | ⟨f, u, ip, info, -, hknown, rfl, -⟩
    · exact hd.forwarded mac time hold
    · exact (hd.valid info (hd.knows hknown).2.2).rowed

/-- An update for a client leaves no entry of it ahead of the clock. -/
theorem past_of_touches {a : Action} {old : UserInfo} (hd : Dated cfg t₀ x)
    (hunrivalled : x.1.Unrivalled cfg t₀ (.gateway a)) (ht : x.1.loop.Touches a ip old)
    (hk : x.1.Knows info) (hmac : info.userMac = old.userMac) :
    info.lastAccess ≤ x.1.loop.currentTime := by
  by_contra hfuture
  rw [UInt64.not_le] at hfuture
  obtain ⟨f, u, rfl, hknown, hstale⟩ := ht
  obtain ⟨hfind, howner, hproto, hsource⟩ := Gateway.known_eq_some hknown
  have hloaded : info ∈ t₀.loaded cfg :=
    (hd.valid info hk).past.resolve_left (UInt64.not_le.mpr hfuture)
  refine hunrivalled ⟨⟨info, hloaded, hk, hmac.trans howner, hfuture⟩, ?_⟩
  by_cases hcomplete : f.IsARP ∧ f.length < 42
  · exact Or.inl hcomplete
  · have hip : f.sourceIP = ip := hsource (hproto.imp_right fun harp =>
      ⟨harp, Nat.not_lt.mp fun hlt => hcomplete ⟨harp, hlt⟩⟩)
    exact Or.inr ⟨hproto, old, hip ▸ hfind, howner, hstale⟩

/-- What the database knows of a client: what is pending for it is behind no entry
of it, and no more than a timeout behind any frame of it. -/
structure Recorded (cfg : Config) (mac : EtherAddr) (x : System × Activity) : Prop where
  fresh : ∀ info, x.1.Knows info → info.userMac = mac → info.lastAccess ≤ x.1.pending mac
  bounded : (x.1.pending mac).toNat + cfg.timeout.toNat < UInt64.size
  seen : ∀ time, (mac, time) ∈ x.2.forwarded →
    time ≤ x.1.loop.currentTime ∧ time ≤ x.1.pending mac + cfg.timeout.toUInt64

/-- An update for the client: the time of the frame is pending now. -/
theorem recorded_of_touches {a : Action} {old : UserInfo} (hd : Dated cfg t₀ (s, activity))
    (hr : Recorded cfg mac (s, activity)) (hunrivalled : s.Unrivalled cfg t₀ (.gateway a))
    (ht : s.loop.Touches a ip old) (hmac : old.userMac = mac)
    (hpending : s'.pending mac = lastUpdate mac (s.issues (.gateway a)) (s.pending mac))
    (hstep : s.step cfg (.gateway a) = some s') :
    Recorded cfg mac (s', s.noteActivity (.gateway a) activity) := by
  have hnow : s'.pending mac = s.loop.currentTime := by
    rw [hpending, issues, Loop.issues_of_touches ht]
    exact if_pos hmac
  have htime : s'.loop.currentTime = s.loop.currentTime := by
    obtain ⟨f, u, rfl, -⟩ := ht
    exact (currentTime_step hstep).resolve_right nofun
  refine ⟨?_, ?_, ?_⟩
  · intro info hk hinfo
    rw [hnow]
    rcases knows_cases hstep hk with hold | ⟨a', old', -, -, rfl⟩ | ⟨a', o, ho, hcall⟩
    · exact past_of_touches hd hunrivalled ht hold (hinfo.trans hmac.symm)
    · exact UInt64.le_refl _
    · rw [(entry_of_addUserInfo ho hcall).1]
      exact UInt64.le_iff_toNat_le.mpr (Nat.zero_le _)
  · rw [hnow]
    exact hd.clock
  · intro time hm
    have hle : time ≤ s.loop.currentTime := by
      rcases forwarded_cases hm with hold | ⟨f, u, ip, info, -, -, -, rfl⟩
      · exact (hr.seen time hold).1
      · exact UInt64.le_refl _
    rw [hnow, htime]
    exact ⟨hle, le_add_of_le hle (by rw [UInt32.toNat_toUInt64]; exact hd.clock)⟩

theorem recorded_step (hd : Dated cfg t₀ x) (hmac : printMAC mac ∈ t₀.macs)
    (hr : Recorded cfg mac x) (htimed : x.1.Timed ev) (hunrivalled : x.1.Unrivalled cfg t₀ ev)
    (hunfailing : x.1.Unfailing mac ev) (h : recording cfg x ev = some y) : Recorded cfg mac y := by
  obtain ⟨s, activity⟩ := x
  obtain ⟨s', activity'⟩ := y
  obtain ⟨hstep, rfl⟩ : s.step cfg ev = some s' ∧ s.noteActivity ev activity = activity' :=
    withGhost_eq_some_iff.mp h
  have hrow : s.tables.user.row (printMAC mac) ≠ none := by
    rw [← mem_macs_iff]
    exact hd.macs ▸ hmac
  have hpending := pending_step hrow htimed hunfailing hstep
  by_cases htouched : ∃ a ip old, ev = .gateway a ∧ s.loop.Touches a ip old ∧ old.userMac = mac
  · obtain ⟨a, ip, old, rfl, ht, hold⟩ := htouched
    exact recorded_of_touches hd hr hunrivalled ht hold hpending hstep
  · have hsame : s'.pending mac = s.pending mac := by
      rw [hpending]
      refine lastUpdate_of_ne (fun r hr hrmac => ?_) _
      obtain ⟨a, ip, old, rfl, ht, rfl⟩ := mem_issues hr
      exact htouched ⟨a, ip, old, rfl, ht, hrmac⟩
    refine ⟨?_, by rw [hsame]; exact hr.bounded, ?_⟩
    · intro info hk hinfo
      rw [hsame]
      rcases knows_cases hstep hk with hold | ⟨a, old, rfl, ht, rfl⟩ | ⟨a, o, ho, hcall⟩
      · exact hr.fresh info hold hinfo
      · exact absurd ⟨a, old.ip, old, rfl, ht, hinfo⟩ htouched
      · rw [(entry_of_addUserInfo ho hcall).1]
        exact UInt64.le_iff_toNat_le.mpr (Nat.zero_le _)
    · intro time hm
      rw [hsame]
      have htime := le_time_step htimed hstep
      rcases forwarded_cases hm with hold | ⟨f, u, ip, info, rfl, hknown, hinfo, rfl⟩
      · exact ⟨UInt64.le_trans (hr.seen time hold).1 htime, (hr.seen time hold).2⟩
      · -- the frame found its entry recent
        have hknows := (hd.knows hknown).2.2
        have hrecent : s.loop.currentTime ≤ info.lastAccess + info.timeout := by
          by_contra hstale
          exact htouched ⟨_, ip, info, rfl, ⟨f, u, rfl, hknown, UInt64.not_le.mp hstale⟩, hinfo⟩
        rw [(hd.valid info hknows).timeout] at hrecent
        exact ⟨htime, UInt64.le_trans hrecent (add_le_add_of_le (hr.fresh info hknows hinfo)
          (by rw [UInt32.toNat_toUInt64]; exact hr.bounded))⟩

/-! ## Startup -/

/-- The access times of the user table are NULL or lie between 0 and 2^63 - 1. -/
def InRange (t : Tables) : Prop :=
  ∀ row ∈ t.user.rows, ∀ accessed ∈ row.accessed, 0 ≤ accessed ∧ accessed ≤ 9223372036854775807

instance (t : Tables) : Decidable (InRange t) :=
  inferInstanceAs (Decidable (∀ row ∈ t.user.rows, ∀ accessed ∈ row.accessed, _))

theorem toNat_accessed_le (h : InRange t₀) {row : UserRow} (hrow : row ∈ t₀.user.rows) :
    (UInt64.ofInt (row.accessed.getD 0)).toNat ≤ 9223372036854775807 := by
  cases haccessed : row.accessed with
  | none => decide
  | some accessed =>
      obtain ⟨hnonneg, hlt⟩ := h row hrow accessed haccessed
      rw [Option.getD_some, toNat_ofInt hnonneg (by simp only [UInt64.size]; omega)]
      omega

theorem toNat_accessedOf_le (h : InRange t₀) (mac : EtherAddr) :
    (t₀.accessedOf mac).toNat ≤ 9223372036854775807 := by
  rw [accessedOf]
  cases hrow : t₀.user.row (printMAC mac) with
  | none => decide
  | some row => exact toNat_accessed_le h (KeyedTable.row_eq_some_iff.mp hrow).1

/-- At startup the gateway knows what it has loaded from the user table. -/
theorem loaded_of_knows (hs : Started cfg t₀ s) (hk : s.Knows info) :
    info ∈ t₀.loaded cfg ∧ ∃ row ∈ t₀.user.rows, readMAC row.mac = some info.userMac ∧
      info.lastAccess = UInt64.ofInt (row.accessed.getD 0) ∧
      info.timeout = cfg.timeout.toUInt64 := by
  have hqueue : info ∈ s.loop.gateway.userAddRequest.queue := by
    rcases hk with hfind | hqueue | hcall
    · rw [hs.userMap] at hfind
      contradiction
    · exact hqueue
    · rw [hs.thread] at hcall
      contradiction
  have hloaded : t₀.loaded cfg = s.loop.gateway.userAddRequest.queue := by rw [loaded, hs.users]; rfl
  obtain ⟨row, hrow, hinfo⟩ := mem_of_mapM_eq_some hs.users hqueue
  obtain ⟨mac, hmac, rfl⟩ := Option.map_eq_some_iff.mp hinfo
  exact ⟨by rw [hloaded]; exact hqueue, row, (List.mem_filter.mp hrow).1, hmac, rfl, rfl⟩

theorem currentTime_start (hstart : start cfg t₀ inHeap outHeap = some s) :
    s.loop.currentTime = 0 := by
  obtain ⟨allIP, -, hstart⟩ := Option.bind_eq_some_iff.mp hstart
  obtain ⟨allUser, -, hstart⟩ := Option.bind_eq_some_iff.mp hstart
  obtain rfl := Option.some.inj hstart
  rfl

theorem dated_start (hstart : start cfg t₀ inHeap outHeap = some s) (hrange : InRange t₀)
    (hcanonical : t₀.Canonical) : Dated cfg t₀ (s, ⟨[], []⟩) := by
  have hs := started hstart
  have htimeout := cfg.timeout.toNat_lt
  refine ⟨by rw [hs.tables], ?_, ?_, ?_, fun _ => nofun, fun _ _ => nofun⟩
  · rw [currentTime_start hstart, UInt64.toNat_zero, UInt64.size]
    omega
  · rw [hs.userMap]
    exact fun _ _ => nofun
  · intro info hk
    obtain ⟨hloaded, row, hrow, hmac, haccess, htimeout'⟩ := loaded_of_knows hs hk
    have hmem : row.mac ∈ t₀.macs := List.mem_map_of_mem hrow
    refine ⟨htimeout', ?_, ?_, .inr hloaded⟩
    · rw [← hcanonical row.mac hmem info.userMac hmac]
      exact hmem
    · have hlt := toNat_accessed_le hrange hrow
      rw [haccess, UInt64.size]
      omega

theorem recorded_start (hstart : start cfg t₀ inHeap outHeap = some s) (hrange : InRange t₀)
    (hcanonical : t₀.Canonical) : Recorded cfg mac (s, ⟨[], []⟩) := by
  have hs := started hstart
  have hpending : s.pending mac = t₀.accessedOf mac := by
    rw [pending, updates, hs.thread, hs.updateTimeQueue, hs.tables]
    rfl
  refine ⟨?_, ?_, fun _ => nofun⟩
  · intro info hk hinfo
    obtain ⟨-, row, hrow, hmac, haccess, -⟩ := loaded_of_knows hs hk
    have hspelled := hcanonical row.mac (List.mem_map_of_mem hrow) info.userMac hmac
    have hfound : t₀.user.row (printMAC mac) = some row := by
      rw [← hinfo, ← hspelled]
      exact KeyedTable.row_key hrow
    rw [hpending, accessedOf, hfound, haccess]
    exact UInt64.le_refl _
  · have hlt := toNat_accessedOf_le hrange mac
    have htimeout := cfg.timeout.toNat_lt
    rw [hpending, UInt64.size]
    omega

/-! ## Runs -/

/-- What a frame of a known sender does to its entry, and which updates it issues. -/
theorem Dated.inside {f : Frame} {u : Indeterminate} {loop : Loop} {e : Emission}
    (hd : Dated cfg t₀ (s, activity)) (hexec : s.loop.exec (.inside (some f) u) = some (loop, e))
    (hknown : s.loop.gateway.known s.loop.inPacket f u = some (ip, info)) :
    (∃ info', loop.gateway.userMap.find ip = some info' ∧ info'.userMac = info.userMac ∧
        s.loop.currentTime ≤ info'.lastAccess + info'.timeout) ∧
      ∀ r ∈ e.updates, r = ⟨info.userMac, ip, s.loop.currentTime⟩ ∧
        ∀ r' ∈ activity.issued, r'.ip = ip → r'.utc + cfg.timeout.toUInt64 < r.utc := by
  obtain ⟨hfind, hip, hknows⟩ := hd.knows hknown
  have hvalid := hd.valid info hknows
  constructor
  · obtain ⟨rounds, effect, -, heffect, rfl, -⟩ := Loop.exec_inside hexec
    rw [(Gateway.inside_touch heffect).1, hknown]
    refine Gateway.recent_touch hfind ?_
    rw [hvalid.timeout, UInt32.toNat_toUInt64]
    exact hd.clock
  · intro r hr
    rw [Loop.updates_of_exec hexec] at hr
    obtain ⟨ip', old, ⟨f', u', heq, hknown', hstale⟩, rfl⟩ := Loop.mem_issues hr
    obtain ⟨hf, rfl⟩ := Action.inside.inj heq
    obtain rfl := Option.some.inj hf
    obtain ⟨rfl, rfl⟩ := Prod.mk.inj (Option.some.inj (hknown.symm.trans hknown'))
    refine ⟨by rw [hip], fun r' hr' hrip => ?_⟩
    have hle : r'.utc ≤ info.lastAccess := hd.issued r' hr' info (by rw [hrip]; exact hfind)
    rw [← hvalid.timeout]
    exact UInt64.lt_of_le_of_lt (add_le_add_of_le hle hvalid.fits) hstale

/-- **The activity record is never staler than the timeout.** In a run whose steps
are `Unrivalled`: a frame of a known sender leaves its entry no more than a timeout
behind the frame; the updates that it issues carry the client and the address of
the entry, and are more than a timeout later than those issued before, back to
the last addition of the address; and where no update of a client is under way and
none failed, its row is no more than a timeout behind any frame of it. -/
theorem activity_recorded (hstart : start cfg t₀ inHeap outHeap = some s₀) (hrange : InRange t₀)
    (hcanonical : t₀.Canonical) (htimed : AllSteps (step cfg) Timed s₀ es)
    (hunrivalled : AllSteps (step cfg) (Unrivalled cfg t₀) s₀ es)
    (hrun : run (step cfg) s₀ es = some s) :
    ∃ activity, run (recording cfg) (s₀, ⟨[], []⟩) es = some (s, activity) ∧
      (∀ f u loop e ip info, s.loop.exec (.inside (some f) u) = some (loop, e) →
        s.loop.gateway.known s.loop.inPacket f u = some (ip, info) →
          (∃ info', loop.gateway.userMap.find ip = some info' ∧ info'.userMac = info.userMac ∧
              s.loop.currentTime ≤ info'.lastAccess + info'.timeout) ∧
            ∀ r ∈ e.updates, r = ⟨info.userMac, ip, s.loop.currentTime⟩ ∧
              ∀ r' ∈ activity.issued, r'.ip = ip → r'.utc + cfg.timeout.toUInt64 < r.utc) ∧
      ∀ mac, AllSteps (step cfg) (Unfailing mac) s₀ es → s.updates = [] →
        ∀ time, (mac, time) ∈ activity.forwarded →
          ∃ row, s.tables.user.row (printMAC mac) = some row ∧
            time ≤ UInt64.ofInt (row.accessed.getD 0) + cfg.timeout.toUInt64 := by
  obtain ⟨activity, hghost⟩ : ∃ activity, run (recording cfg) (s₀, ⟨[], []⟩) es =
      some (s, activity) := exists_run_withGhost _ hrun
  have hd₀ := dated_start hstart hrange hcanonical
  have hconditions := htimed.and hunrivalled
  have hd : Dated cfg t₀ (s, activity) :=
    run_induction_of_allSteps
      (fun x ev y hd hcond hstep => dated_step hd hcond.1 hcond.2 hstep) hd₀
      (allSteps_withGhost _ hconditions) hghost
  refine ⟨activity, hghost, fun f u loop e ip info hexec hknown => hd.inside hexec hknown, ?_⟩
  intro mac hunfailing hdrained time hm
  have hmac := hd.forwarded mac time hm
  have hboth : Dated cfg t₀ (s, activity) ∧ Recorded cfg mac (s, activity) :=
    run_induction_of_allSteps (P := fun x => Dated cfg t₀ x ∧ Recorded cfg mac x)
      (fun x ev y hx hcond hstep => ⟨dated_step hx.1 hcond.1.1 hcond.1.2 hstep,
        recorded_step hx.1 hmac hx.2 hcond.1.1 hcond.1.2 hcond.2 hstep⟩)
      ⟨hd₀, recorded_start hstart hrange hcanonical⟩
      (allSteps_withGhost _ (hconditions.and hunfailing)) hghost
  have hrow : s.tables.user.row (printMAC mac) ≠ none := by
    rw [← mem_macs_iff, hd.macs]
    exact hmac
  obtain ⟨row, hrow⟩ := Option.ne_none_iff_exists'.mp hrow
  refine ⟨row, hrow, ?_⟩
  have hseen := (hboth.2.seen time hm).2
  rw [pending, hdrained, accessedOf, hrow] at hseen
  exact hseen

/-! The first client of `sampleTables` sends a frame, and the update is carried out. -/

def sampleActivityRun : List Event :=
  pass 7200006 [] [.addStaticIp, .addUser] ++
    pass 7200007 [Gateway.sampleRequest (sampleMAC 7)] [] ++ turn .updateTime 7200008 0

theorem activity_recorded_frame :
    ∃ s₀ s activity row, start sampleConfig sampleTables (fun _ => 0) (fun _ => 0) = some s₀ ∧
      run (recording sampleConfig) (s₀, ⟨[], []⟩) sampleActivityRun = some (s, activity) ∧
      activity.forwarded = [(sampleMAC 7, 7200007)] ∧
      s.tables.user.row (printMAC (sampleMAC 7)) = some row ∧
      7200007 ≤ UInt64.ofInt (row.accessed.getD 0) + sampleConfig.timeout.toUInt64 := by
  have hcheck : ∃ s₀ ∈ start sampleConfig sampleTables (fun _ => 0) (fun _ => 0),
      (∀ x ∈ history (step sampleConfig) s₀ sampleActivityRun,
        x.1.Timed x.2 ∧ x.1.Unrivalled sampleConfig sampleTables x.2 ∧
          x.1.Unfailing (sampleMAC 7) x.2) ∧
        ∃ x ∈ run (recording sampleConfig) (s₀, ⟨[], []⟩) sampleActivityRun,
          x.2.forwarded = [(sampleMAC 7, 7200007)] ∧ x.1.updates = [] := by
    decide +kernel
  obtain ⟨s₀, hstart, hcond, ⟨s, activity⟩, hghost, hforwarded, hdrained⟩ := hcheck
  obtain ⟨activity', hghost', -, hrecord⟩ := activity_recorded hstart (by decide) (by decide +kernel)
    (allSteps_of_history fun x hx => (hcond x hx).1)
    (allSteps_of_history fun x hx => (hcond x hx).2.1) (run_of_withGhost hghost)
  obtain rfl : activity = activity' :=
    (Prod.mk.inj (Option.some.inj (hghost.symm.trans hghost'))).2
  obtain ⟨row, hrow, hle⟩ := hrecord (sampleMAC 7)
    (allSteps_of_history fun x hx => (hcond x hx).2.2) hdrained 7200007
    (by rw [hforwarded]; exact List.mem_singleton.mpr rfl)
  exact ⟨s₀, s, activity, row, hstart, hghost, hforwarded, hrow, hle⟩

/-! The clock has been set back: by it, the two addresses were last used in the
future. The eviction wraps around and takes both, one after the other, from their
users; the first of them comes back and gets the other address. -/

def sampleSetBack : Tables where
  staticIp := ⟨[⟨"10.0.0.5", "02:00:00:00:00:05", false⟩, ⟨"10.0.0.6", "02:00:00:00:00:06", false⟩],
    by decide⟩
  user := ⟨[⟨"02:00:00:00:00:07", some "10.0.0.5", some 1000000⟩,
    ⟨"02:00:00:00:00:08", none, none⟩,
    ⟨"02:00:00:00:00:09", some "10.0.0.6", some 2000000⟩], by decide⟩

/-- The client sends from its new address, and a timeout later from the old one. -/
def sampleRivalRun : List Event :=
  pass 20000 [Gateway.bootRequest (sampleMAC 8) 1] [.addStaticIp, .addUser] ++
    turn .createDhcp 20000 1 ++ pass 20001 [Gateway.bootRequest (sampleMAC 7) 3] [.sendPacket] ++
    turn .createDhcp 20001 2 ++ pass 20002 [] [.addUser, .sendPacket] ++
    pass 20003 [Frame.patch (Gateway.sampleRequest (sampleMAC 7)) 28 [10, 0, 0, 6]] [] ++
    turn .updateTime 20003 0 ++
    List.map .gateway [.gettimeofday 30004,
      .inside (some (Gateway.sampleRequest (sampleMAC 7))) default]

theorem record_staler_than_timeout :
    InRange sampleSetBack ∧ sampleSetBack.Canonical ∧
      ∃ s₀ s activity row, start sampleConfig sampleSetBack (fun _ => 0) (fun _ => 0) = some s₀ ∧
        AllSteps (step sampleConfig) Timed s₀ sampleRivalRun ∧
        AllSteps (step sampleConfig) (Unfailing (sampleMAC 7)) s₀ sampleRivalRun ∧
        run (recording sampleConfig) (s₀, ⟨[], []⟩) sampleRivalRun = some (s, activity) ∧
        s.updates = [] ∧ (sampleMAC 7, 30004) ∈ activity.forwarded ∧
        s.tables.user.row (printMAC (sampleMAC 7)) = some row ∧ row.accessed = some 20003 ∧
        ¬30004 ≤ UInt64.ofInt (row.accessed.getD 0) + sampleConfig.timeout.toUInt64 := by
  refine ⟨by decide, by decide +kernel, ?_⟩
  have hcheck : ∃ s₀ ∈ start sampleConfig sampleSetBack (fun _ => 0) (fun _ => 0),
      (∀ x ∈ history (step sampleConfig) s₀ sampleRivalRun,
        x.1.Timed x.2 ∧ x.1.Unfailing (sampleMAC 7) x.2) ∧
        ∃ x ∈ run (recording sampleConfig) (s₀, ⟨[], []⟩) sampleRivalRun,
          x.1.updates = [] ∧ (sampleMAC 7, 30004) ∈ x.2.forwarded ∧
            ∃ row ∈ x.1.tables.user.row (printMAC (sampleMAC 7)), row.accessed = some 20003 := by
    decide +kernel
  obtain ⟨s₀, hstart, hcond, ⟨s, activity⟩, hghost, hdrained, hforwarded, row, hrow, haccessed⟩ :=
    hcheck
  refine ⟨s₀, s, activity, row, hstart, allSteps_of_history fun x hx => (hcond x hx).1,
    allSteps_of_history fun x hx => (hcond x hx).2, hghost, hdrained, hforwarded, hrow,
    haccessed, ?_⟩
  rw [haccessed]
  decide

end System

end GatewaySocket
