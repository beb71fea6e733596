import GatewaySocket.System.Latency
import GatewaySocket.System.Solicited

/-!
# Every solicitation is processed

The database thread takes a batch off its queue only if it has found the handler
ready, and it polls again only when all that were ready have run. So what waits is
in the batch at hand or in the next one of its kind, and by the second poll it has
been processed, however many requests come in the meantime. What it leads to has
then been passed on to the gateway, whose thread gets to it in its own time.
-/

namespace GatewaySocket

open ByteMemory Transition Tables

/-- libevent looks what is ready in the database. -/
def Event.IsPoll : Event → Prop
  | .poll => True
  | _ => False

instance : DecidablePred Event.IsPoll
  | .poll => .isTrue trivial
  | .gateway _ | .dispatch _ | .serve _ _ _ _ | .deliver | .others _ => .isFalse id

namespace System

variable {cfg : Config} {s s' s₀ s₁ s₂ : System} {ev : Event} {es es' es₁ es₂ : List Event}
  {t₀ : Tables} {inHeap outHeap : Memory} {handler : DbHandler} {due past : List Job}
  {α : Type}

/-- The requests of one kind that the step processes. -/
def served (cfg : Config) (handler : DbHandler) (x : System × Event) : List Job :=
  ((processed cfg x).map Prod.fst).filter fun job => job.handler = handler

/-- The requests of one kind that have been taken off their queue. -/
def batch (handler : DbHandler) (s : System) : List Job :=
  s.thread.temp.filter fun job => job.handler = handler

theorem batch_of_idle (hidle : s.thread.Idle) : s.batch handler = [] := by
  rw [batch, hidle.1, List.filter_nil]

/-- The batch of a handler is of its own kind. -/
theorem batch_take (other : DbHandler) (hidle : s.thread.Idle) :
    (s.take other).batch handler = if handler = other then s.waiting handler else [] := by
  have htemp : s.thread.temp = [] := hidle.1
  cases other <;> cases handler <;>
    simp [batch, take, waiting, htemp, filter_createDhcp, filter_updateTime]

/-- Only `serve` takes a request out of the batch, and only a handler puts some in. -/
theorem batch_step (hstep : s.step cfg ev = some s') (hev : ∀ other, ev ≠ .dispatch other) :
    s.batch handler = served cfg handler (s, ev) ++ s'.batch handler := by
  cases steps_of_step hstep with
  | @serve now choice u fault job temp o hcalls htemp ho =>
      simp only [batch, served, processed, htemp, ho, List.filter_cons, List.map_cons, List.map_nil,
        List.filter_nil]
      split <;> rfl
  | @dispatch other hidle => exact absurd rfl (hev other)
  | _ => rfl

/-- Without being processed, what waits goes on waiting. -/
theorem waiting_prefix_of_served (hstep : s.step cfg ev = some s')
    (hnone : served cfg handler (s, ev) = []) : s.waiting handler <+: s'.waiting handler := by
  have hflow : s.waiting handler ++ _ = served cfg handler (s, ev) ++ s'.waiting handler :=
    conserves_requests handler s ev s' hstep
  rw [hnone, List.nil_append] at hflow
  exact hflow ▸ List.prefix_append _ _

theorem idle_of_poll (h : s.step cfg .poll = some s') :
    s.thread.Idle ∧ s.thread.ready = [] ∧ s' = { s with thread := { s.thread with ready := s.poll } } := by
  simp only [step] at h
  split at h
  · next hcond => exact ⟨hcond.1, hcond.2, (Option.some.inj h).symm⟩
  · contradiction

/-- What was due at a poll waits for its handler to run, or has been taken off the
queue; then it has been processed as far as it is not in the batch at hand. -/
inductive Due (handler : DbHandler) (due past : List Job) (s : System) : Prop
  | ready (hready : handler ∈ s.thread.ready) (hbatch : s.batch handler = [])
      (hqueue : due <+: s.waiting handler) (hpast : past = [])
  | taken (h : due <+: past ++ s.batch handler)

/-- Nothing due is forgotten. -/
theorem Due.step (hd : Due handler due past s) (hstep : s.step cfg ev = some s') :
    Due handler due (past ++ served cfg handler (s, ev)) s' := by
  by_cases hev : ∃ other, ev = .dispatch other
  · obtain ⟨other, rfl⟩ := hev
    obtain ⟨hidle, rfl⟩ : s.thread.Idle ∧ s' = s.take other := by
      cases steps_of_step hstep with
      | dispatch hidle => exact ⟨hidle, rfl⟩
    change Due handler due (past ++ []) _
    rw [List.append_nil]
    cases hd with
    | ready hready hbatch hqueue hpast =>
        by_cases hother : handler = other
        · refine .taken ?_
          rwa [hpast, List.nil_append, batch_take other hidle, if_pos hother]
        · refine .ready ?_ (by rw [batch_take other hidle, if_neg hother])
            (hqueue.trans (waiting_prefix_of_served hstep rfl)) hpast
          cases other <;> exact (List.mem_erase_of_ne hother).mpr hready
    | taken h =>
        rw [batch_of_idle hidle, List.append_nil] at h
        exact .taken (h.trans (List.prefix_append _ _))
  · have hbatch' : s.batch handler = served cfg handler (s, ev) ++ s'.batch handler :=
      batch_step hstep fun other h => hev ⟨other, h⟩
    cases hd with
    | ready hready hbatch hqueue hpast =>
        rw [hbatch] at hbatch'
        obtain ⟨hserved, hempty⟩ := List.append_eq_nil_iff.mp hbatch'.symm
        refine .ready ?_ hempty (hqueue.trans (waiting_prefix_of_served hstep hserved))
          (by rw [hpast, hserved]; rfl)
        cases steps_of_step hstep with
        | poll hidle =>
            rw [(idle_of_poll hstep).2.1] at hready
            contradiction
        | @dispatch other hidle => exact absurd ⟨other, rfl⟩ hev
        | _ => exact hready
    | taken h =>
        refine .taken ?_
        rwa [List.append_assoc, ← hbatch']

/-- What waits at a poll is due. -/
theorem due_of_poll (hstep : s.step cfg .poll = some s') :
    Due handler (s.waiting handler) [] s' := by
  obtain ⟨hidle, -, rfl⟩ := idle_of_poll hstep
  by_cases hnone : s.waiting handler = []
  · rw [hnone]
    exact .taken List.nil_prefix
  · refine .ready ?_ (batch_of_idle hidle) List.prefix_rfl rfl
    have htemp : s.thread.temp = [] := hidle.1
    cases handler <;>
      simpa [waiting, htemp, poll, RequestQueue.counter_eq_zero_iff] using hnone

/-- At the next poll it has been processed. -/
theorem Due.of_poll (hd : Due handler due past s) (hstep : s.step cfg .poll = some s') :
    due <+: past := by
  obtain ⟨hidle, hempty, -⟩ := idle_of_poll hstep
  cases hd with
  | ready hready hbatch hqueue hpast =>
      rw [hempty] at hready
      contradiction
  | taken h => rwa [batch_of_idle hidle, List.append_nil] at h

theorem due_run (hd : Due handler due [] s) (hrun : run (step cfg) s es = some s') :
    Due handler due ((history (step cfg) s es).flatMap (served cfg handler)) s' := by
  refine history_induction (P := fun h m => Due handler due (h.flatMap (served cfg handler)) m)
    (fun h m ev m' hm hstep => ?_) hd hrun
  rw [List.flatMap_append, List.flatMap_singleton]
  exact hm.step hstep

theorem exists_poll (hpolls : 0 < es.countP fun ev => ev.IsPoll) :
    ∃ es₁ es₂, es = es₁ ++ .poll :: es₂ ∧
      es₂.countP (fun ev => ev.IsPoll) + 1 = es.countP fun ev => ev.IsPoll := by
  obtain ⟨ev, hmem, hev⟩ := List.countP_pos_iff.mp hpolls
  have hpoll : ∀ {ev : Event}, ev.IsPoll → ev = .poll := by
    intro ev h
    cases ev <;> first | rfl | exact h.elim
  obtain rfl := hpoll (of_decide_eq_true hev)
  obtain ⟨es₁, es₂, rfl, hfirst⟩ := List.eq_append_cons_of_mem hmem
  refine ⟨es₁, es₂, rfl, ?_⟩
  have hnone : es₁.countP (fun ev => ev.IsPoll) = 0 := by
    refine List.countP_eq_zero.mpr fun ev hev h => hfirst ?_
    rwa [← hpoll (of_decide_eq_true h)]
  rw [List.countP_append, hnone, List.countP_cons_of_pos (by decide), Nat.zero_add]

/-- **Two polls.** By the second poll what waited has been processed, and the thread
has passed on all that it led to. -/
theorem processed_of_polls (hrun : run (step cfg) s es = some s')
    (hpolls : 2 ≤ es.countP fun ev => ev.IsPoll) :
    ∃ es₁ es₂ m, es = es₁ ++ es₂ ∧ run (step cfg) s es₁ = some m ∧
      run (step cfg) m es₂ = some s' ∧ m.thread.Idle ∧
      ∀ handler, s.waiting handler <+: (history (step cfg) s es₁).flatMap (served cfg handler) := by
  obtain ⟨as, es, rfl, hcount⟩ := exists_poll (Nat.lt_of_lt_of_le Nat.zero_lt_two hpolls)
  obtain ⟨bs, cs, rfl, -⟩ := exists_poll (by omega : 0 < es.countP fun ev => ev.IsPoll)
  obtain ⟨m₁, has, hrun⟩ := run_append_eq_some.mp hrun
  obtain ⟨m₂, hpoll₁, hrun⟩ := run_cons_eq_some.mp hrun
  obtain ⟨m, hbs, hrun⟩ := run_append_eq_some.mp hrun
  obtain ⟨m₃, hpoll₂, hcs⟩ := run_cons_eq_some.mp hrun
  have hfirst : run (step cfg) s (as ++ .poll :: bs) = some m :=
    run_append_eq_some.mpr ⟨m₁, has, run_cons_eq_some.mpr ⟨m₂, hpoll₁, hbs⟩⟩
  refine ⟨as ++ .poll :: bs, .poll :: cs, m, by rw [List.append_assoc, List.cons_append], hfirst, hrun,
    (idle_of_poll hpoll₂).1, fun handler => ?_⟩
  have hflow : s.waiting handler ++ _ = (history (step cfg) s as).flatMap (served cfg handler) ++
      m₁.waiting handler := (conserves_requests handler).run has
  have hdue : m₁.waiting handler <+: (history (step cfg) m₂ bs).flatMap (served cfg handler) :=
    (due_run (due_of_poll hpoll₁) hbs).of_poll hpoll₂
  rw [history_append _ has, history_cons hpoll₁, List.flatMap_append, List.flatMap_cons]
  change _ <+: _ ++ ([] ++ _)
  rw [List.nil_append]
  exact (hflow ▸ List.prefix_append _ _ : s.waiting handler <+: _).trans
    ((List.prefix_append_right_inj _).mpr hdue)

/-- What the processed requests lead to goes through the channel, once the thread
has passed it on and the gateway's thread has had its 77 actions. -/
theorem passed_on (ch : Channel α) (hstatic : ∀ c : Call, c.IsStatic → ch.request c = none)
    (hinit : ch.queue Gateway.init = []) (hstart : start cfg t₀ inHeap outHeap = some s₀)
    (hrun : run (step cfg) s₀ es = some s) (hidle : s.thread.Idle)
    (hrun' : run (step cfg) s es' = some s') (hmany : 77 ≤ es'.countP fun ev => ev.Own) :
    ((startupCalls cfg t₀).filterMap ch.request ++
      ((history (step cfg) s₀ es).flatMap (processed cfg)).flatMap
        fun y => y.2.calls.filterMap ch.request) <+:
      (history (step cfg) s₀ (es ++ es')).flatMap (handled ch) := by
  rw [way_in_order ch hstatic hinit hstart hrun, hidle.2, List.filterMap_nil, List.append_nil,
    history_append _ hrun, List.flatMap_append]
  exact (List.prefix_append_right_inj _).mpr
    (handled_of_own ch (length_ready_run hstart hrun) hrun' hmany)

/-- **Every solicitation is answered in time.** Let the database thread poll twice and
the gateway's thread then take 77 actions of its own, however many frames and
requests come in the meantime. Then every solicitation that had been read has been
processed, in order and before those that were read later, and so has every update
of an access time. The replies that came of it have been written, in order; the
users whose REQUEST was accepted have been added after those loaded at startup; and
the users to be deleted have been deleted. -/
theorem completed_run (hstart : start cfg t₀ inHeap outHeap = some s₀)
    (hrun : run (step cfg) s₀ es = some s) (hrun₁ : run (step cfg) s es₁ = some s₁)
    (hpolls : 2 ≤ es₁.countP fun ev => ev.IsPoll) (hrun₂ : run (step cfg) s₁ es₂ = some s₂)
    (hmany : 77 ≤ es₂.countP fun ev => ev.Own) :
    ∃ ys, ys <+: (history (step cfg) s₀ (es ++ es₁)).flatMap (processed cfg) ∧
      (((history (step cfg) s₀ es).flatMap asked).map fun f => .createDhcp f.dhcpRequest) <+:
        ((ys.map Prod.fst).filter fun job => job.handler = .createDhcp) ∧
      (((history (step cfg) s₀ es).flatMap handedOver).filter
        fun job => job.handler = .updateTime) <+:
          ((ys.map Prod.fst).filter fun job => job.handler = .updateTime) ∧
      replies ys <+: (history (step cfg) s₀ (es ++ (es₁ ++ es₂))).flatMap answersWritten ∧
      ((t₀.getAllUser cfg.timeout.toUInt64).getD [] ++
        ys.flatMap fun y => y.2.calls.filterMap Call.added) <+:
          (history (step cfg) s₀ (es ++ (es₁ ++ es₂))).flatMap (handled .userAdd) ∧
      (ys.flatMap fun y => y.2.calls.filterMap Call.deleted) <+:
        (history (step cfg) s₀ (es ++ (es₁ ++ es₂))).flatMap (handled .userDel) := by
  obtain ⟨bs, cs, m, rfl, hbs, hcs, hidle, hprocessed⟩ := processed_of_polls hrun₁ hpolls
  have hm : run (step cfg) s₀ (es ++ bs) = some m := run_append_eq_some.mpr ⟨s, hrun, hbs⟩
  have hlater : run (step cfg) m (cs ++ es₂) = some s₂ := run_append_eq_some.mpr ⟨s₁, hcs, hrun₂⟩
  have hown : 77 ≤ (cs ++ es₂).countP fun ev => ev.Own := by
    rw [List.countP_append]
    omega
  have hall : es ++ (bs ++ cs ++ es₂) = es ++ bs ++ (cs ++ es₂) := by
    simp only [List.append_assoc]
  rw [hall]
  -- what was handed over is what was processed and what waited, and by the second poll it is through
  have hjobs : ∀ handler, (((history (step cfg) s₀ es).flatMap handedOver).filter
      fun job => job.handler = handler) <+:
        ((((history (step cfg) s₀ (es ++ bs)).flatMap (processed cfg)).map Prod.fst).filter
          fun job => job.handler = handler) := by
    intro handler
    have hnone : s₀.waiting handler = [] := by
      have hs := started hstart
      cases handler <;>
        simp [waiting, hs.thread, hs.createDHCPRequestQueue, hs.updateTimeQueue]
    have hflow : s₀.waiting handler ++ _ =
        (history (step cfg) s₀ es).flatMap (served cfg handler) ++ s.waiting handler :=
      (conserves_requests handler).run hrun
    rw [hnone, List.nil_append] at hflow
    rw [List.filter_flatMap, hflow, List.map_flatMap, List.filter_flatMap, history_append bs hrun,
      List.flatMap_append]
    exact (List.prefix_append_right_inj _).mpr (hprocessed handler)
  refine ⟨(history (step cfg) s₀ (es ++ bs)).flatMap (processed cfg), ?_, ?_, hjobs .updateTime,
    ?_, ?_, ?_⟩
  · rw [← List.append_assoc, history_append cs hm, List.flatMap_append]
    exact List.prefix_append _ _
  · rw [← handedOver_history hrun]
    exact hjobs .createDhcp
  · have hpassed := passed_on .sendPacket (by rintro ⟨⟩ hc <;> first | rfl | exact hc.elim) rfl
      hstart hm hidle hlater hown
    have hnone : (startupCalls cfg t₀).filterMap Channel.sendPacket.request = [] := by
      simp [startupCalls, Channel.sendPacket, Call.packet]
    rw [hnone, List.nil_append] at hpassed
    rw [answersWritten_history (run_append_eq_some.mpr ⟨m, hm, hlater⟩), ← replies_eq]
    obtain ⟨rest, hrest⟩ := hpassed
    rw [← hrest, List.flatMap_append]
    exact List.prefix_append _ _
  · have hpassed := passed_on .userAdd (by rintro ⟨⟩ hc <;> first | rfl | exact hc.elim) rfl
      hstart hm hidle hlater hown
    have hloaded : (startupCalls cfg t₀).filterMap Channel.userAdd.request =
        (t₀.getAllUser cfg.timeout.toUInt64).getD [] := by
      simp [startupCalls, Channel.userAdd, Call.added, Function.comp_def]
    rwa [hloaded] at hpassed
  · have hpassed := passed_on .userDel (by rintro ⟨⟩ hc <;> first | rfl | exact hc.elim) rfl
      hstart hm hidle hlater hown
    have hnone : (startupCalls cfg t₀).filterMap Channel.userDel.request = [] := by
      simp [startupCalls, Channel.userDel, Call.deleted]
    rwa [hnone, List.nil_append] at hpassed

/-- The message of the second client is read, the database thread takes its turn and
polls again, and the gateway goes on with nothing else to do. -/
def sampleQuestion : List Event :=
  pass 7200006 [Gateway.bootRequest (sampleMAC 8) 3] [.addStaticIp, .addUser]

def sampleTurn : List Event := turn .createDhcp 7200006 2 ++ [.poll]

def sampleRest : List Event :=
  pass 7200007 [] [.addUser, .sendPacket] ++ (List.replicate 14 sampleIdlePass).flatten

theorem completed_run_grant :
    ∃ s₀, start sampleConfig sampleTables (fun _ => 0) (fun _ => 0) = some s₀ ∧
      ∃ f ys, (history (step sampleConfig) s₀ sampleQuestion).flatMap asked = [f] ∧
        .createDhcp f.dhcpRequest ∈ ys.map Prod.fst ∧
        replies ys <+: (history (step sampleConfig) s₀
          (sampleQuestion ++ (sampleTurn ++ sampleRest))).flatMap answersWritten := by
  have hcheck : ∃ s₀ ∈ start sampleConfig sampleTables (fun _ => 0) (fun _ => 0),
      ((history (step sampleConfig) s₀ sampleQuestion).flatMap asked).length = 1 ∧
        ∃ s ∈ run (step sampleConfig) s₀ sampleQuestion,
          ∃ s₁ ∈ run (step sampleConfig) s sampleTurn,
            (run (step sampleConfig) s₁ sampleRest).isSome := by
    decide +kernel
  obtain ⟨s₀, hstart, hasked, s, hrun, s₁, hrun₁, hrun₂⟩ := hcheck
  obtain ⟨f, hf⟩ := List.length_eq_one_iff.mp hasked
  obtain ⟨s₂, hs₂⟩ := Option.isSome_iff_exists.mp hrun₂
  obtain ⟨ys, -, hmine, -, hwritten, -⟩ :=
    completed_run hstart hrun hrun₁ (by decide) hs₂ (by decide)
  rw [hf] at hmine
  exact ⟨s₀, hstart, f, ys, hf, (List.mem_filter.mp (hmine.subset List.mem_cons_self)).1, hwritten⟩

end System

end GatewaySocket
