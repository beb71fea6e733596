import GatewaySocket.Database.Assigned

/-!
# Leases

An answer promises its address for `DHCP_TIMEOUT` seconds, and the tables keep
the promise as long as no request takes the address by eviction. Nothing in the
grant prevents that: who is evicted depends on the time of the last access, which
only forwarded frames write.
-/

namespace GatewaySocket

open ByteMemory Transition

namespace Tables

variable {cfg : Config} {t t' t₀ t₁ : Tables} {a : Request} {as : List Request}
  {o : Outcome} {ip : String} {mac : String}

/-- The address that a request takes from its holder: if its client has a row without
an address and no dynamic address is unused, the one that comes first among those
whose holders have been silent for the timeout, the longest silent one first. -/
def evicts (t : Tables) : Request → Option String
  | .dhcp request now choice _ _ =>
    if t.Lacks (printMAC request.mac) ∧ t.selectUnusedDynamicIP = [] then
      (first choice.usingIP (stalest (t.selectUsingDynamicIP (cutoff now)))).map Prod.fst
    else none
  | .update _ _ => none

theorem evicts_eq_some_iff {request : DhcpRequest} {now : UInt64} {choice : Choice}
    {u : Indeterminate} {fault : Option ℕ} :
    t.evicts (.dhcp request now choice u fault) = some ip ↔
      t.Lacks (printMAC request.mac) ∧ t.selectUnusedDynamicIP = [] ∧
        ∃ accessed, first choice.usingIP (stalest (t.selectUsingDynamicIP (cutoff now))) =
          some (ip, accessed) := by
  rw [evicts]
  split
  · next h => simp [h.1, h.2]
  · next h =>
      constructor
      · exact fun hnone => absurd hnone.symm (Option.some_ne_none ip)
      · exact fun ⟨hlacks, hunused, _⟩ => absurd ⟨hlacks, hunused⟩ h

/-- Only an eviction takes an address from its holder. -/
theorem ipOf_step (hne : ∀ text ∈ t.texts, text ≠ "") (hip : t.ipOf mac = some ip)
    (hevicts : t.evicts a ≠ some ip) (h : t.step cfg a = some t') : t'.ipOf mac = some ip := by
  obtain ⟨o, ho, rfl⟩ := Option.map_eq_some_iff.mp h
  cases a with
  | update request fault => rw [(process_update ho).2.2.1, hip]
  | dhcp request now choice u fault =>
  have hother : t.Lacks (printMAC request.mac) → ¬mac = printMAC request.mac := by
    rintro hlacks rfl
    rw [ipOf_of_lacks hne hlacks] at hip
    contradiction
  obtain ⟨_, hassigns, -, -⟩ := process_dhcp ho
  rcases hassigns.ipOf_eq with ⟨-, hsame⟩ | ⟨text, -, ⟨-, -, hsame⟩ | ⟨hlacks, -, -, hgive⟩ |
    ⟨hlacks, -, hunused, ⟨accessed, hfirst⟩, hmove⟩⟩
  · rw [hsame, hip]
  · rw [hsame, hip]
  · rw [hgive, Assignment.give_apply, if_neg (hother hlacks), hip]
  · have htext : ip ≠ text := by
      rintro rfl
      exact hevicts (evicts_eq_some_iff.mpr ⟨hlacks, hunused, accessed, hfirst⟩)
    rw [hmove, Assignment.give_apply, if_neg (hother hlacks)]
    exact Assignment.revoke_eq_some_iff.mpr ⟨hip, htext⟩

/-- The holder keeps its address, and nobody else is answered with it, while no
request evicts it. -/
theorem lease_run {m : EtherAddr} (hsound : t.Sound) (hip : t.ipOf (printMAC m) = some ip)
    (hspared : AllSteps (step cfg) (fun t a => t.evicts a ≠ t.ipOf (printMAC m)) t as) :
    AllSteps (step cfg) (fun t a => ∀ o ans, t.process cfg a = some o → o.answer = some ans →
        a.mac ≠ m → ans.userInfo.ip ≠ inetAddr ip) t as ∧
      ∀ t', run (step cfg) t as = some t' → t'.ipOf (printMAC m) = some ip := by
  induction as generalizing t with
  | nil =>
      refine ⟨trivial, fun t' hrun => ?_⟩
      obtain rfl : t = t' := Option.some.inj hrun
      exact hip
  | cons a as ih =>
      have hnext : ∀ {t'}, t.step cfg a = some t' → t'.ipOf (printMAC m) = some ip :=
        fun h => ipOf_step hsound.nonempty hip (hip ▸ hspared.1) h
      refine ⟨⟨?_, fun t' h => (ih (sound_step hsound h) (hnext h) (hspared.2 t' h)).1⟩, ?_⟩
      · intro o ans ho hans hmac haddr
        have hstep := step_of_process ho
        obtain ⟨r, now, choice, u, fault, text, rfl, -, htext, -, rfl⟩ := answer_eq ho hans
        have hsound' := sound_step hsound hstep
        obtain rfl : text = ip := hsound'.distinct text (mem_texts.mpr (.inr ⟨_, htext⟩)) ip
          (mem_texts.mpr (.inr ⟨_, hnext hstep⟩)) haddr
        exact hmac (printMAC_injective (hsound'.exclusive _ _ text htext (hnext hstep)))
      · intro t' hrun
        obtain ⟨t₁, hstep, hrest⟩ := run_cons_eq_some.mp hrun
        exact (ih (sound_step hsound hstep) (hnext hstep) (hspared.2 t₁ hstep)).2 t' hrest

/-- The requests of a run until the lease of a grant ends. -/
def withinLease (grant : Request) (as : List Request) : List Request :=
  as.takeWhile fun a => a.now < grant.now + leaseTime

/-- **A granted lease is honoured.** A REQUEST was acknowledged with an address.
For the time of the lease, and as long as no request that finds no unused dynamic
address gets the one of the MAC first from the eviction query, the row of the MAC
keeps it and no other MAC is answered with it. -/
theorem lease_honoured {grant : Request} {info : UserInfo} {as₀ : List Request}
    (hsound : t₀.Sound) (hrun₀ : run (step cfg) t₀ as₀ = some t)
    (hgrant : t.process cfg grant = some o) (hack : .addUserInfo info ∈ o.calls)
    (hspared : AllSteps (step cfg) (fun t a => t.evicts a ≠ t.ipOf (printMAC info.userMac))
      o.tables (withinLease grant as)) :
    AllSteps (step cfg) (fun t a => ∀ o ans, t.process cfg a = some o → o.answer = some ans →
        a.mac ≠ info.userMac → ans.userInfo.ip ≠ info.ip) o.tables (withinLease grant as) ∧
      ∀ t', run (step cfg) o.tables (withinLease grant as) = some t' →
        ∃ text, t'.ipOf (printMAC info.userMac) = some text ∧ inetAddr text = info.ip := by
  obtain ⟨ans, hans, -, rfl⟩ := answer_of_addUserInfo hgrant hack
  obtain ⟨r, now, choice, u, fault, text, rfl, -, htext, -, rfl⟩ := answer_eq hgrant hans
  have hstep := step_of_process hgrant
  obtain ⟨hanswers, hkeeps⟩ :=
    lease_run (sound_step (sound_run hsound hrun₀) hstep) htext hspared
  exact ⟨hanswers, fun t' hrun => ⟨text, hkeeps t' hrun, rfl⟩⟩

/-! The two users of `sampleTables`: the first is granted its address and then
sends, or does not send, before the second asks for one. -/

def sampleGrant : Request := sampleRequest 7 false 8000000

def sampleInfo : UserInfo := ⟨sampleIP, sampleMAC 7, 0, 10000⟩

theorem sound_sampleTables : sampleTables.Sound := ⟨by decide, by decide +kernel, by decide⟩

/-- The first user sends, and the second asks for an address within the lease and
after it. -/
def sampleLeaseRun : List Request :=
  [.update ⟨sampleMAC 7, sampleIP, 8000000⟩ none, sampleRequest 8 true 8000001,
    sampleRequest 8 true 15200001]

/-- With an access on record the second user goes without, as long as the lease runs. -/
theorem lease_honoured_sample :
    ∃ o t', sampleTables.process sampleConfig sampleGrant = some o ∧
      (withinLease sampleGrant sampleLeaseRun).length = 2 ∧
      run (step sampleConfig) o.tables (withinLease sampleGrant sampleLeaseRun) = some t' ∧
      ∃ text, t'.ipOf (printMAC sampleInfo.userMac) = some text ∧
        inetAddr text = sampleInfo.ip := by
  have hcheck : ∃ o ∈ sampleTables.process sampleConfig sampleGrant,
      o.calls.filterMap Call.added = [sampleInfo] ∧
        (run (step sampleConfig) o.tables (withinLease sampleGrant sampleLeaseRun)).isSome ∧
        ∀ x ∈ history (step sampleConfig) o.tables (withinLease sampleGrant sampleLeaseRun),
          x.1.evicts x.2 ≠ x.1.ipOf (printMAC sampleInfo.userMac) := by
    decide +kernel
  obtain ⟨o, ho, hcalls, hrun, hspared⟩ := hcheck
  obtain ⟨t', ht'⟩ := Option.isSome_iff_exists.mp hrun
  have hack : .addUserInfo sampleInfo ∈ o.calls := by
    rw [← Call.mem_filterMap_added, hcalls]
    exact List.mem_singleton.mpr rfl
  exact ⟨o, t', ho, by decide, ht', (lease_honoured sound_sampleTables (run_nil _ _) ho hack
    (allSteps_of_history hspared)).2 t' ht'⟩

/-- Without an access on record the first user is evicted within its lease, and the
second is answered with the address. -/
theorem lease_broken :
    ∃ o o' ans, sampleTables.process sampleConfig sampleGrant = some o ∧
      .addUserInfo sampleInfo ∈ o.calls ∧
      o.tables.process sampleConfig (sampleRequest 8 true 8000001) = some o' ∧
      o'.answer = some ans ∧ ans.userInfo.ip = sampleInfo.ip ∧
      o'.tables.ipOf (printMAC sampleInfo.userMac) = none := by
  have hcheck : ∃ o ∈ sampleTables.process sampleConfig sampleGrant,
      o.calls.filterMap Call.added = [sampleInfo] ∧
        ∃ o' ∈ o.tables.process sampleConfig (sampleRequest 8 true 8000001),
          o'.answer.map (fun ans => ans.userInfo.ip) = some sampleInfo.ip ∧
            o'.tables.ipOf (printMAC sampleInfo.userMac) = none := by
    decide +kernel
  obtain ⟨o, ho, hcalls, o', ho', haddr, hgone⟩ := hcheck
  obtain ⟨ans, hans, hip⟩ := Option.map_eq_some_iff.mp haddr
  have hack : .addUserInfo sampleInfo ∈ o.calls := by
    rw [← Call.mem_filterMap_added, hcalls]
    exact List.mem_singleton.mpr rfl
  exact ⟨o, o', ans, ho, hack, ho', hans, hip, hgone⟩

end Tables

end GatewaySocket
