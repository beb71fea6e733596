import GatewaySocket.System.Activity

/-!
# Updates that fail

`update_time` keeps the number of rows that an UPDATE changes in a variable that
starts at zero, and an exception leaves it there. So a failed statement, and one that
finds the access time it is to write, look like one that matched no row, and the user
is deleted. The module follows every UPDATE from the queue to the call it leads to.
-/

namespace GatewaySocket

open ByteMemory Transition Tables

/-- How the UPDATE of a request comes out: whether it matches a row, and if so
whether the row had this access time already. -/
inductive UpdateOutcome
  | changed
  | unchanged
  | noRow
  | threw
  deriving DecidableEq

/-- The outcome in a session on the tables. -/
def Tables.updateOutcome (t : Tables) (request : UpdateTime) (fault : Option ℕ) : UpdateOutcome :=
  match (Sql.statement (updateAccessTime request.utc (printMAC request.mac)) ⟨t, fault⟩).1 with
  | .error _ => .threw
  | .ok _ =>
    match t.user.row (printMAC request.mac) with
    | none => .noRow
    | some r => if r.accessed = some (request.utc.toNat : ℤ) then .unchanged else .changed

namespace System

/-- The UPDATE that an event carries out, with its outcome. -/
def updated : System × Event → Option (UpdateTime × UpdateOutcome)
  | (s, .serve _ _ _ fault) =>
    match s.thread.temp with
    | .updateTime request :: _ => some (request, s.tables.updateOutcome request fault)
    | _ => none
  | _ => none

/-- The address that an event calls `delUserInfo` with. -/
def deleted : System × Event → Option InAddr
  | (s, .deliver) => s.thread.calls.head?.bind Call.deleted
  | _ => none

/-- The addresses that `delUserInfo` was called with, and those of the calls that
the database thread is about to make. -/
def deletions (h : List (System × Event)) (s : System) : List InAddr :=
  h.filterMap deleted ++ s.thread.calls.filterMap Call.deleted

variable {cfg : Config} {s s' s₀ : System} {ev : Event} {es : List Event} {t₀ : Tables}
  {inHeap outHeap : Memory} {h : List (System × Event)}

/-- The count of an UPDATE that does not throw is zero unless it changes a row. -/
theorem fst_eq_zero_iff_of_statement {t : Tables} {request : UpdateTime} {fault : Option ℕ} {ret : ℕ}
    {s : Session Tables}
    (h : Sql.statement (updateAccessTime request.utc (printMAC request.mac)) ⟨t, fault⟩ = (.ok ret, s)) :
    ret = 0 ↔ t.updateOutcome request fault ≠ .changed := by
  obtain ⟨rfl, -⟩ := Sql.statement_ok h
  rw [updateAccessTime_fst_eq_zero, updateOutcome, h]
  cases hrow : t.user.row (printMAC request.mac) with
  | none => simp
  | some r =>
      by_cases hsame : r.accessed = some (request.utc.toNat : ℤ) <;> simp [hsame]

/-- An UPDATE leads to a deletion unless it changes a row. -/
theorem calls_of_update {t : Tables} {request : UpdateTime} {fault : Option ℕ} {o : Outcome}
    (ho : t.process cfg (.update request fault) = some o) :
    o.calls = if t.updateOutcome request fault = .changed then []
      else [.delUserInfo request.ip] := by
  simp only [process] at ho
  split at ho
  · next calls s hs =>
      obtain rfl := Option.some.inj ho
      obtain ⟨ret, s₁, hcatch, hreturn⟩ := Sql.bind_ok hs
      have hcalls : calls = if ret = 0 then [.delUserInfo request.ip] else [] := by
        split at hreturn
        · next hzero => exact (Sql.pure_ok hreturn).1.symm.trans (if_pos hzero).symm
        · next hne => exact (Sql.pure_ok hreturn).1.symm.trans (if_neg hne).symm
      rw [hcalls]
      rcases Sql.catching_ok hcatch with hupdate | ⟨e, s₂, herror, hzero⟩
      · have hiff := fst_eq_zero_iff_of_statement hupdate
        by_cases hchanged : t.updateOutcome request fault = .changed
        · rw [if_pos hchanged, if_neg fun hzero => hiff.mp hzero hchanged]
        · rw [if_neg hchanged, if_pos (hiff.mpr hchanged)]
      · obtain ⟨rfl, -⟩ := Sql.pure_ok hzero
        rw [updateOutcome, herror]
        rfl
  · contradiction

/-- Every update is accounted for: those that were sent are those that were carried
out and those under way, in their order, and the deletions are those of the
UPDATEs that changed nothing, for whatever reason. -/
structure Accounted (h : List (System × Event)) (s : System) : Prop where
  sent : h.flatMap (fun x => x.1.issues x.2) = (h.filterMap updated).map Prod.fst ++ s.updates
  deleted : deletions h s =
    ((h.filterMap updated).filter fun x => x.2 ≠ .changed).map fun x => x.1.ip

theorem accounted_started (hs : Started cfg t₀ s) : Accounted [] s where
  sent := by
    rw [updates, hs.thread, hs.updateTimeQueue]
    rfl
  deleted := by
    rw [deletions, hs.thread]
    rfl

/-- A step that carries out no UPDATE and makes no deletion. -/
theorem Accounted.quiet (ha : Accounted h s) (hupdated : updated (s, ev) = none)
    (hdeleted : System.deleted (s, ev) = none) (hupdates : s'.updates = s.updates ++ s.issues ev)
    (hcalls : s'.thread.calls.filterMap Call.deleted = s.thread.calls.filterMap Call.deleted) :
    Accounted (h ++ [(s, ev)]) s' where
  sent := by
    rw [List.flatMap_append, ha.sent, List.filterMap_append, List.filterMap_cons_none hupdated,
      List.filterMap_nil, List.append_nil, hupdates, List.append_assoc]
    simp
  deleted := by
    rw [deletions, List.filterMap_append, List.filterMap_cons_none hdeleted, List.filterMap_nil,
      List.append_nil, hcalls, List.filterMap_append, List.filterMap_cons_none hupdated,
      List.filterMap_nil, List.append_nil]
    exact ha.deleted

theorem Accounted.serve {now : UInt64} {choice : Choice} {u : Indeterminate} {fault : Option ℕ}
    {request : UpdateTime} {temp : List Job} {o : Outcome} (ha : Accounted h s)
    (hcalls : s.thread.calls = []) (htemp : s.thread.temp = .updateTime request :: temp)
    (ho : s.tables.process cfg (.update request fault) = some o) :
    Accounted (h ++ [(s, .serve now choice u fault)])
      { s with tables := o.tables, thread := { s.thread with temp, calls := o.calls } } := by
  have hupdated : updated (s, .serve now choice u fault) =
      some (request, s.tables.updateOutcome request fault) := by
    rw [updated, htemp]
  have hpending : (h.filterMap System.deleted) =
      ((h.filterMap updated).filter fun x => x.2 ≠ .changed).map fun x => x.1.ip := by
    have hdeleted := ha.deleted
    rwa [deletions, hcalls, List.filterMap_nil, List.append_nil] at hdeleted
  constructor
  · have hrest : s.updates = request :: updates
        { s with tables := o.tables, thread := { s.thread with temp, calls := o.calls } } := by
      rw [updates, updates, htemp]
      rfl
    rw [List.flatMap_append, ha.sent, hrest, List.filterMap_append,
      List.filterMap_cons_some hupdated]
    simp [issues]
  · have hnone : System.deleted (s, .serve now choice u fault) = none := rfl
    rw [deletions, List.filterMap_append, List.filterMap_cons_none hnone, hpending,
      List.filterMap_append, List.filterMap_cons_some hupdated, List.filter_append,
      List.map_append, calls_of_update ho]
    by_cases hchanged : s.tables.updateOutcome request fault = .changed
    · simp [hchanged]
    · simp [hchanged, Call.deleted]

theorem accounted_step (ha : Accounted h s) (hstep : s.step cfg ev = some s') :
    Accounted (h ++ [(s, ev)]) s' := by
  cases steps_of_step hstep with
  | gateway hopen hexec =>
      refine ha.quiet rfl rfl ?_ rfl
      rw [updates_receive, Loop.updates_of_exec hexec]
      rfl
  | poll hidle => exact ha.quiet rfl rfl (List.append_nil _).symm rfl
  | @dispatch handler hidle =>
      refine ha.quiet rfl rfl ?_ ?_
      · rw [updates_take hidle.1]
        exact (List.append_nil _).symm
      · cases handler <;> rfl
  | @serve now choice u fault job temp o hcalls htemp ho =>
      cases job with
      | createDhcp r =>
          refine ha.quiet (by rw [updated, htemp]) rfl ?_ ?_
          · rw [updates, updates, htemp]
            exact (List.append_nil _).symm
          · rw [hcalls]
            exact not_deleted_of_dhcp ho
      | updateTime request => exact ha.serve hcalls htemp ho
  | @deliver c calls hcalls =>
      refine ⟨?_, ?_⟩
      · rw [List.flatMap_append, ha.sent, List.filterMap_append]
        simp [issues, updated, updates]
      · have hupdated : updated (s, .deliver) = none := rfl
        rw [List.filterMap_append, List.filterMap_cons_none hupdated, List.filterMap_nil,
          List.append_nil, ← ha.deleted, deletions, deletions, List.filterMap_append, hcalls]
        cases hdeleted : c.deleted with
        | none => simp [System.deleted, hcalls, hdeleted]
        | some ip => simp [System.deleted, hcalls, hdeleted]
  | others tables => exact ha.quiet rfl rfl (List.append_nil _).symm rfl

/-- **Exceptions delete, and so do updates that change nothing.** The updates are
carried out in the order in which they were sent, and `delUserInfo` is called once for
each UPDATE that matched no row, in that order and for no other, if and only if no
UPDATE threw and none found the row with the access time that it was to write. -/
theorem deletions_iff_all_change
    (hstart : start cfg t₀ inHeap outHeap = some s₀) (hrun : run (step cfg) s₀ es = some s) :
    let h := history (step cfg) s₀ es
    ((h.filterMap updated).map Prod.fst <+: h.flatMap fun x => x.1.issues x.2) ∧
      deletions h s = (((h.filterMap updated).filter fun x => x.2 = .noRow).map fun x => x.1.ip) ↔
      ∀ x ∈ h.filterMap updated, x.2 ≠ .threw ∧ x.2 ≠ .unchanged := by
  intro h
  have ha : Accounted h s :=
    history_induction (fun _ _ _ _ ha hstep => accounted_step ha hstep)
      (accounted_started (started hstart)) hrun
  have horder : (h.filterMap updated).map Prod.fst <+: h.flatMap fun x => x.1.issues x.2 :=
    ⟨s.updates, ha.sent.symm⟩
  rw [ha.deleted]
  constructor
  · rintro ⟨-, hsame⟩ x hx
    have hsub : ((h.filterMap updated).filter fun x => x.2 = .noRow).Sublist
        ((h.filterMap updated).filter fun x => x.2 ≠ .changed) := by
      apply List.monotone_filter_right
      intro y hy
      simp [of_decide_eq_true hy]
    have hlen := congrArg List.length hsame
    rw [List.length_map, List.length_map] at hlen
    have heq := hsub.eq_of_length hlen.symm
    -- an UPDATE that deletes is one that matched no row
    have hdeletes : x.2 ≠ .changed → x.2 = .noRow := by
      intro hne
      have hmem : x ∈ (h.filterMap updated).filter fun x => x.2 = .noRow := by
        rw [heq]
        exact List.mem_filter.mpr ⟨hx, decide_eq_true hne⟩
      exact of_decide_eq_true (List.mem_filter.mp hmem).2
    cases hout : x.2 with
    | changed | noRow => decide
    | unchanged | threw =>
        rw [hout] at hdeletes
        exact absurd (hdeletes (by decide)) (by decide)
  · intro hnone
    refine ⟨horder, congrArg _ (List.filter_congr fun x hx => ?_)⟩
    obtain ⟨hthrew, hunchanged⟩ := hnone x hx
    cases hout : x.2 with
    | changed | noRow => rfl
    | unchanged => exact absurd hout hunchanged
    | threw => exact absurd hout hthrew

/-! The first client of `sampleTables` sends a frame, and the UPDATE that notes the
access comes out as `fault` says. -/

def sampleUpdateRun (fault : Option ℕ) (calls : ℕ) : List Event :=
  pass 7200006 [] [.addStaticIp, .addUser] ++
    pass 7200007 [Gateway.sampleRequest (sampleMAC 7)] [] ++
    [.poll, .dispatch .updateTime, .serve 7200008 ⟨0, 0⟩ default fault] ++
    List.replicate calls .deliver

/-- The row of the client is removed before it sends the next frame. -/
def sampleGoneRun : List Event :=
  sampleUpdateRun none 0 ++ pass 7300000 [Gateway.sampleRequest (sampleMAC 7)] [] ++
    [.others sampleRemoved, .poll, .dispatch .updateTime, .serve 7300001 ⟨0, 0⟩ default none, .deliver]

/-- The client renews its lease, so that its entry is a new one, and sends the next
frame in the same millisecond. -/
def sampleTwiceRun : List Event :=
  pass 7200006 [] [.addStaticIp, .addUser] ++
    pass 7200007 [Gateway.sampleRequest (sampleMAC 7), Gateway.bootRequest (sampleMAC 7) 3] [] ++
    [.poll, .dispatch .createDhcp, .serve 7200007 ⟨0, 0⟩ default none, .deliver, .deliver,
      .dispatch .updateTime, .serve 7200007 ⟨0, 0⟩ default none] ++
    pass 7200007 [] [.addUser, .sendPacket] ++
    pass 7200007 [Gateway.sampleRequest (sampleMAC 7)] [] ++
    [.poll, .dispatch .updateTime, .serve 7200007 ⟨0, 0⟩ default none, .deliver]

/-- The first UPDATE changes the row of the client, the second finds none, and the
one deletion is that of the second. -/
theorem deletions_iff_all_change_gone :
    ∃ s₀ s, start sampleConfig sampleTables (fun _ => 0) (fun _ => 0) = some s₀ ∧
      run (step sampleConfig) s₀ sampleGoneRun = some s ∧
      ((history (step sampleConfig) s₀ sampleGoneRun).filterMap updated) =
        [(⟨sampleMAC 7, sampleIP, 7200007⟩, .changed), (⟨sampleMAC 7, sampleIP, 7300000⟩, .noRow)] ∧
      deletions (history (step sampleConfig) s₀ sampleGoneRun) s = [sampleIP] := by
  have hcheck : ∃ s₀ ∈ start sampleConfig sampleTables (fun _ => 0) (fun _ => 0),
      ((history (step sampleConfig) s₀ sampleGoneRun).filterMap updated) =
          [(⟨sampleMAC 7, sampleIP, 7200007⟩, .changed),
            (⟨sampleMAC 7, sampleIP, 7300000⟩, .noRow)] ∧
        (run (step sampleConfig) s₀ sampleGoneRun).isSome := by
    decide +kernel
  obtain ⟨s₀, hstart, hupdated, hrun⟩ := hcheck
  obtain ⟨s, hs⟩ := Option.isSome_iff_exists.mp hrun
  have hdeleted := ((deletions_iff_all_change hstart hs).mpr (by rw [hupdated]; decide)).2
  refine ⟨s₀, s, hstart, hs, hupdated, ?_⟩
  rwa [hupdated] at hdeleted

/-- The first client has its row and its entry, and the next pass takes the entry away. -/
def SampleLost (now : UInt64) (s : System) : Prop :=
  s.tables.user.row (printMAC (sampleMAC 7)) ≠ none ∧
    UserMap.owner s.loop.gateway.userMap sampleIP = some (sampleMAC 7) ∧
    ∃ s' ∈ run (step sampleConfig) s (pass now [] [.delUser]),
      UserMap.owner s'.loop.gateway.userMap sampleIP = none

instance (now : UInt64) (s : System) : Decidable (SampleLost now s) :=
  inferInstanceAs (Decidable (_ ∧ _))

/-- No UPDATE finds the row gone, and the client is deleted: where an UPDATE throws, and
where the second of two writes the access time that is there already. -/
theorem deletions_astray :
    ∃ s₀ ∈ start sampleConfig sampleTables (fun _ => 0) (fun _ => 0),
      (∃ s ∈ run (step sampleConfig) s₀ (sampleUpdateRun (some 0) 1),
        ((history (step sampleConfig) s₀ (sampleUpdateRun (some 0) 1)).filterMap updated) =
          [(⟨sampleMAC 7, sampleIP, 7200007⟩, .threw)] ∧
        deletions (history (step sampleConfig) s₀ (sampleUpdateRun (some 0) 1)) s = [sampleIP] ∧
        SampleLost 7200009 s) ∧
      ∃ s ∈ run (step sampleConfig) s₀ sampleTwiceRun,
        ((history (step sampleConfig) s₀ sampleTwiceRun).filterMap updated) =
          [(⟨sampleMAC 7, sampleIP, 7200007⟩, .changed),
            (⟨sampleMAC 7, sampleIP, 7200007⟩, .unchanged)] ∧
        deletions (history (step sampleConfig) s₀ sampleTwiceRun) s = [sampleIP] ∧
        SampleLost 7200008 s := by
  decide +kernel

end System

end GatewaySocket
