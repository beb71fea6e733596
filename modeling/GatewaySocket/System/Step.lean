import GatewaySocket.Database.Process
import GatewaySocket.Gateway.Maps

/-!
# The daemon

`main` loads the two maps from the tables and starts two threads, the loop of
the gateway and the loop of the database. They reach each other through queues:
frames put requests into the two queues of `Database`, and what a request leads
to goes back as calls into the gateway. `System.step` interleaves the two. The
statements of one request are not interleaved with what other clients of the
database write; between two requests they may leave any tables.

The calls about users are the database thread's alone. Static addresses may be
added and deleted at any time, for which the gateway has calls that the program
itself makes at startup only, or not at all.
-/

namespace GatewaySocket

open ByteMemory Transition

/-! ## The database thread -/

/-- The handlers registered with the event base of the database. -/
inductive DbHandler
  | createDhcp
  | updateTime
  deriving DecidableEq

/-- A request that a handler has taken off its queue. -/
inductive Job
  | createDhcp (request : DhcpRequest)
  | updateTime (request : UpdateTime)
  deriving DecidableEq

def Job.request (now : UInt64) (choice : Choice) (u : Indeterminate) (fault : Option ℕ) :
    Job → Request
  | createDhcp request => .dhcp request now choice u fault
  | updateTime request => .update request fault

/-- Where the database thread stands: the handlers that are ready and still to
run, the rest of the batch `temp` of the running one, and the calls that the
request at hand still has to make. -/
structure DbThread where
  ready : List DbHandler
  temp : List Job
  calls : List Call

/-- The thread waits for events, or for its turn to run the next handler. -/
def DbThread.Idle (d : DbThread) : Prop := d.temp = [] ∧ d.calls = []

instance (d : DbThread) : Decidable d.Idle :=
  decidable_of_iff (d.temp.isEmpty ∧ d.calls.isEmpty) (by simp [DbThread.Idle])

structure System where
  loop : Loop
  createDHCPRequestQueue : RequestQueue DhcpRequest
  updateTimeQueue : RequestQueue UpdateTime
  tables : Tables
  thread : DbThread

/-! ## Startup -/

namespace Tables

/-- `Database::getAllStaticIP`; `none` where a hardware address cannot be read. -/
def getAllStaticIP (t : Tables) : Option (List (InAddr × EtherAddr)) :=
  t.selectAllIP.mapM fun row => (readMAC row.mac).map fun mac => (inetAddr row.ip, mac)

/-- `Database::getAllUser`. A NULL access time reads as zero. -/
def getAllUser (t : Tables) (timeout : UInt64) : Option (List UserInfo) :=
  t.selectAllUser.mapM fun row => (readMAC row.mac).map fun mac => {
    ip := inetAddr (row.ip.getD "")
    userMac := mac
    lastAccess := UInt64.ofInt (row.accessed.getD 0)
    timeout }

end Tables

namespace System

/-- `main`, up to the start of the threads. -/
def start (cfg : Config) (t : Tables) (inHeap outHeap : Memory) : Option System := do
  let allIP ← t.getAllStaticIP
  let allUser ← t.getAllUser cfg.timeout.toUInt64
  let gateway := allIP.foldl (fun g data => g.addStaticIP data.1 data.2) Gateway.init
  let gateway := allUser.foldl Gateway.addUserInfo gateway
  return {
    loop := Loop.init gateway inHeap outHeap
    createDHCPRequestQueue := .empty
    updateTimeQueue := .empty
    tables := t
    thread := ⟨[], [], []⟩ }

/-! ## Steps -/

/-- The gateway's thread has taken an action: `Database::createDHCP` and
`Database::updateTime` queue what it sends to the database. -/
def receive (s : System) (loop : Loop) (e : Emission) : System :=
  { s with
    loop
    createDHCPRequestQueue := e.dhcp.foldl RequestQueue.push s.createDHCPRequestQueue
    updateTimeQueue := e.updates.foldl RequestQueue.push s.updateTimeQueue }

/-- The handlers that a poll of the database thread finds ready. -/
def poll (s : System) : List DbHandler :=
  (if s.createDHCPRequestQueue.counter ≠ 0 then [.createDhcp] else []) ++
    if s.updateTimeQueue.counter ≠ 0 then [.updateTime] else []

/-- The first half of a handler: its queue moves into `temp`. -/
def take (s : System) : DbHandler → System
  | .createDhcp =>
    let (temp, rest) := s.createDHCPRequestQueue.drain
    { s with
      createDHCPRequestQueue := rest
      thread := { s.thread with
        ready := s.thread.ready.erase .createDhcp, temp := temp.map .createDhcp } }
  | .updateTime =>
    let (temp, rest) := s.updateTimeQueue.drain
    { s with
      updateTimeQueue := rest
      thread := { s.thread with
        ready := s.thread.ready.erase .updateTime, temp := temp.map .updateTime } }

end System

inductive Event
  | gateway (a : Action)
  /-- libevent looks for the descriptors of the database that are readable -/
  | poll
  | dispatch (h : DbHandler)
  /-- the next request of the batch is processed in the tables -/
  | serve (now : UInt64) (choice : Choice) (u : Indeterminate) (fault : Option ℕ)
  /-- the next call of the request reaches the gateway -/
  | deliver
  /-- other clients write to the database -/
  | others (tables : Tables)

/-- A call about static addresses. -/
def Call.IsStatic : Call → Prop
  | .addStaticIP _ _ | .delStaticIP _ => True
  | _ => False

instance : DecidablePred Call.IsStatic
  | .addStaticIP _ _ | .delStaticIP _ => .isTrue trivial
  | .addUserInfo _ | .delUserInfo _ | .sendPacketRequest _ => .isFalse id

/-- No call but one about static addresses. -/
def Action.Open : Action → Prop
  | .call c => c.IsStatic
  | _ => True

instance : DecidablePred Action.Open
  | .call c => inferInstanceAs (Decidable c.IsStatic)
  | .gettimeofday _ | .inside _ _ | .outside _ _ | .poll | .handle _ | .endPass => .isTrue trivial

namespace System

def step (cfg : Config) (s : System) : Event → Option System
  | .gateway a =>
    if a.Open then (s.loop.exec a).map fun (loop, e) => s.receive loop e else none
  | .poll =>
    if s.thread.Idle ∧ s.thread.ready = [] then
      some { s with thread := { s.thread with ready := s.poll } }
    else none
  | .dispatch h => if s.thread.Idle ∧ h ∈ s.thread.ready then some (s.take h) else none
  | .serve now choice u fault =>
    match s.thread.calls, s.thread.temp with
    | [], job :: temp =>
      (s.tables.process cfg (job.request now choice u fault)).map fun o =>
        { s with tables := o.tables, thread := { s.thread with temp, calls := o.calls } }
    | _, _ => none
  | .deliver =>
    match s.thread.calls with
    | c :: calls =>
      some { s with
        loop := { s.loop with gateway := s.loop.gateway.call c }
        thread := { s.thread with calls } }
    | [] => none
  | .others tables => some { s with tables }

/-- What each event does. -/
inductive Steps (cfg : Config) (s : System) : Event → System → Prop
  | gateway {a : Action} {loop : Loop} {e : Emission} (hopen : a.Open)
      (h : s.loop.exec a = some (loop, e)) : Steps cfg s (.gateway a) (s.receive loop e)
  | poll (hidle : s.thread.Idle) :
      Steps cfg s .poll { s with thread := { s.thread with ready := s.poll } }
  | dispatch {handler : DbHandler} (hidle : s.thread.Idle) :
      Steps cfg s (.dispatch handler) (s.take handler)
  | serve {now : UInt64} {choice : Choice} {u : Indeterminate} {fault : Option ℕ} {job : Job}
      {temp : List Job} {o : Outcome} (hcalls : s.thread.calls = [])
      (htemp : s.thread.temp = job :: temp)
      (h : s.tables.process cfg (job.request now choice u fault) = some o) :
      Steps cfg s (.serve now choice u fault)
        { s with tables := o.tables, thread := { s.thread with temp, calls := o.calls } }
  | deliver {c : Call} {calls : List Call} (hcalls : s.thread.calls = c :: calls) :
      Steps cfg s .deliver { s with
        loop := { s.loop with gateway := s.loop.gateway.call c }
        thread := { s.thread with calls } }
  | others (tables : Tables) : Steps cfg s (.others tables) { s with tables }

variable {cfg : Config} {s s' : System} {ev : Event}

theorem steps_of_step (h : s.step cfg ev = some s') : Steps cfg s ev s' := by
  cases ev with
  | gateway a =>
      simp only [step] at h
      split at h
      · next hopen =>
          obtain ⟨⟨loop, e⟩, hexec, rfl⟩ := Option.map_eq_some_iff.mp h
          exact .gateway hopen hexec
      · contradiction
  | poll =>
      simp only [step] at h
      split at h
      · next hcond =>
          obtain rfl := Option.some.inj h
          exact .poll hcond.1
      · contradiction
  | dispatch handler =>
      simp only [step] at h
      split at h
      · next hcond =>
          obtain rfl := Option.some.inj h
          exact .dispatch hcond.1
      · contradiction
  | serve now choice u fault =>
      simp only [step] at h
      split at h
      · next hcalls htemp =>
          obtain ⟨o, ho, rfl⟩ := Option.map_eq_some_iff.mp h
          exact .serve hcalls htemp ho
      · contradiction
  | deliver =>
      simp only [step] at h
      split at h
      · next hcalls =>
          obtain rfl := Option.some.inj h
          exact .deliver hcalls
      · contradiction
  | others tables =>
      obtain rfl := Option.some.inj h
      exact .others tables

/-- The daemon neither adds rows to the user table nor removes them. -/
theorem macs_step (hrows : ∀ t, ev = .others t → t.user.rows = s.tables.user.rows)
    (hstep : s.step cfg ev = some s') : s'.tables.macs = s.tables.macs := by
  cases steps_of_step hstep with
  | gateway hopen hexec => rfl
  | poll hidle => rfl
  | @dispatch handler hidle => cases handler <;> rfl
  | serve hcalls htemp ho => exact Tables.macs_step (Tables.step_of_process ho)
  | deliver hcalls => rfl
  | others t => exact congrArg (List.map UserRow.mac) (hrows t rfl)

/-! ## The loop in the system -/

/-- The action of the gateway's loop that the event is. -/
def action (s : System) : Event → Option Action
  | .gateway a => some a
  | .deliver => s.thread.calls.head?.map .call
  | _ => none

/-- **The loop runs as it does alone**, with the database thread as the thread
that calls. -/
theorem step_loop (h : s.step cfg ev = some s') :
    s.action ev = none ∧ s'.loop = s.loop ∨
      ∃ a, s.action ev = some a ∧ s.loop.step a = some s'.loop := by
  cases steps_of_step h with
  | gateway hopen hexec => exact .inr ⟨_, rfl, by rw [Loop.step, hexec]; rfl⟩
  | poll hidle => exact .inl ⟨rfl, rfl⟩
  | @dispatch handler hidle => exact .inl ⟨rfl, by cases handler <;> rfl⟩
  | serve hcalls htemp ho => exact .inl ⟨rfl, rfl⟩
  | deliver hcalls => exact .inr ⟨_, by rw [action, hcalls]; rfl, rfl⟩
  | others tables => exact .inl ⟨rfl, rfl⟩

end System

/-! ## The loaded users -/

theorem mem_of_mapM_eq_some {α β : Type*} {f : α → Option β} {as : List α} {bs : List β}
    (h : as.mapM f = some bs) {b : β} (hb : b ∈ bs) : ∃ a ∈ as, f a = some b := by
  induction as generalizing bs with
  | nil =>
      obtain rfl : [] = bs := by simpa using h
      contradiction
  | cons a as ih =>
      rw [List.mapM_cons] at h
      obtain ⟨c, hc, h⟩ := Option.bind_eq_some_iff.mp h
      obtain ⟨cs, hcs, h⟩ := Option.bind_eq_some_iff.mp h
      obtain rfl := Option.some.inj h
      rcases List.mem_cons.mp hb with rfl | hb
      · exact ⟨a, List.mem_cons_self, hc⟩
      · obtain ⟨a', ha', hf⟩ := ih hcs hb
        exact ⟨a', List.mem_cons_of_mem a ha', hf⟩

/-- The user table gives the address to the client. -/
def Tables.Gives (t : Tables) (ip : InAddr) (mac : EtherAddr) : Prop :=
  ∃ m text, readMAC m = some mac ∧ t.ipOf m = some text ∧ inetAddr text = ip

/-- A loaded user has a row with its address. -/
theorem Tables.gives_of_getAllUser {t : Tables} {timeout : UInt64} {infos : List UserInfo}
    {info : UserInfo} (h : t.getAllUser timeout = some infos) (hinfo : info ∈ infos) :
    t.Gives info.ip info.userMac := by
  obtain ⟨row, hrow, hf⟩ := mem_of_mapM_eq_some h hinfo
  obtain ⟨mac, hmac, rfl⟩ := Option.map_eq_some_iff.mp hf
  obtain ⟨hmem, hsome⟩ := List.mem_filter.mp hrow
  obtain ⟨text, htext⟩ := Option.isSome_iff_exists.mp hsome
  exact ⟨row.mac, text, hmac, Tables.ipOf_eq_some_iff.mpr ⟨row, hmem, rfl, htext⟩,
    by rw [htext]; rfl⟩

namespace System

variable {cfg : Config} {s : System} {t : Tables} {inHeap outHeap : Memory}

/-- The state in which the threads start: the loaded users are queued and the
rest of what concerns users is empty. -/
structure Started (cfg : Config) (t : Tables) (s : System) : Prop where
  tables : s.tables = t
  users : t.getAllUser cfg.timeout.toUInt64 = some s.loop.gateway.userAddRequest.queue
  userDelRequest : s.loop.gateway.userDelRequest.queue = []
  userMap : s.loop.gateway.userMap = .empty
  place : s.loop.place = .top
  createDHCPRequestQueue : s.createDHCPRequestQueue.queue = []
  updateTimeQueue : s.updateTimeQueue.queue = []
  thread : s.thread = ⟨[], [], []⟩

theorem started (h : start cfg t inHeap outHeap = some s) : Started cfg t s := by
  obtain ⟨allIP, -, h⟩ := Option.bind_eq_some_iff.mp h
  obtain ⟨allUser, hall, h⟩ := Option.bind_eq_some_iff.mp h
  obtain rfl := Option.some.inj h
  -- adding static addresses touches nothing that concerns users
  have hstatic : ∀ (l : List (InAddr × EtherAddr)) (g : Gateway),
      let g' := l.foldl (fun g data => g.addStaticIP data.1 data.2) g
      g'.userAddRequest = g.userAddRequest ∧ g'.userDelRequest = g.userDelRequest ∧
        g'.userMap = g.userMap := by
    intro l
    induction l with
    | nil => exact fun g => ⟨rfl, rfl, rfl⟩
    | cons data l ih => exact fun g => ih (g.addStaticIP data.1 data.2)
  have huser : ∀ (l : List UserInfo) (g : Gateway),
      let g' := l.foldl Gateway.addUserInfo g
      g'.userAddRequest.queue = g.userAddRequest.queue ++ l ∧
        g'.userDelRequest = g.userDelRequest ∧ g'.userMap = g.userMap := by
    intro l
    induction l with
    | nil => exact fun g => ⟨(List.append_nil _).symm, rfl, rfl⟩
    | cons info l ih =>
        intro g
        obtain ⟨hqueue, hdel, hmap⟩ := ih (g.addUserInfo info)
        exact ⟨by simpa [Gateway.addUserInfo] using hqueue, hdel, hmap⟩
  obtain ⟨hadd, hdel, hmap⟩ := hstatic allIP Gateway.init
  obtain ⟨hadd', hdel', hmap'⟩ := huser allUser
    (allIP.foldl (fun g data => g.addStaticIP data.1 data.2) Gateway.init)
  rw [hadd] at hadd'
  exact {
    tables := rfl
    users := by
      rw [hall]
      exact congrArg some hadd'.symm
    userDelRequest := by
      rw [Loop.init, hdel', hdel]
      rfl
    userMap := hmap'.trans hmap
    place := rfl
    createDHCPRequestQueue := rfl
    updateTimeQueue := rfl
    thread := rfl }

end System

end GatewaySocket
