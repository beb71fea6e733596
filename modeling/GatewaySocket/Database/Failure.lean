import GatewaySocket.Database.Assigned

/-!
# Requests that fail

`create_dhcp` has no transaction: each of its statements is committed as it is
carried out, and an exception ends the daemon. Up to the assignment only an eviction
changes the tables, so a failure leaves them as they were, or with the eviction
carried out and no one at the address, or, at the last query, with all that the
request was to do.
-/

namespace GatewaySocket

open ByteMemory Transition Tables

/-- The address is taken from its user for the MAC. -/
def Tables.Evicts (t : Tables) (mac : String) (now : UInt64) (choice : Choice) (ip : String) :
    Prop :=
  t.Lacks mac ∧ t.selectUnusedDynamicIP = [] ∧
    ∃ accessed, first choice.usingIP (stalest (t.selectUsingDynamicIP (cutoff now))) =
      some (ip, accessed)

/-- What a request leaves that fails at a statement. -/
structure Leaves (t : Tables) (mac : String) (now : UInt64) (choice : Choice)
    (statement : Statement) (t' : Tables) : Prop where
  staticIp : t'.staticIp = t.staticIp
  unchanged : (statement = .insertDynamic → ∀ ip, ¬t.Evicts mac now choice ip) →
    (statement = .selectMACwithIP → ¬t.Lacks mac) → t' = t
  evicted : statement = .insertDynamic → ∀ ip, t.Evicts mac now choice ip →
    t' = t.deleteDynamic ip ∧ t'.ipOf.Free ip
  assigned : statement = .selectMACwithIP → ∃ ip, Assigns t mac now choice (some ip) t'

variable {t t' : Tables} {mac : String} {now : UInt64} {choice : Choice} {statement : Statement}

/-- The first of several statements comes before any change. -/
theorem Leaves.of_mem_cons {query : Statement} {rest : List (Statement × Tables)} {u : Tables}
    (hinsert : query ≠ .insertDynamic) (hselect : query ≠ .selectMACwithIP)
    (hrest : (statement, u) ∈ rest → Leaves t mac now choice statement u)
    (hmem : (statement, u) ∈ (query, t) :: rest) : Leaves t mac now choice statement u := by
  rcases List.mem_cons.mp hmem with hfirst | hmem
  · obtain ⟨rfl, rfl⟩ := Prod.mk.inj hfirst
    exact {
      staticIp := rfl
      unchanged := fun _ _ => rfl
      evicted := fun h => absurd h hinsert
      assigned := fun h => absurd h hselect }
  · exact hrest hmem

theorem leaves_assignment {ip : String} (hassigns : Assigns t mac now choice (some ip)
      (t'.insertDynamic ip mac))
    (hstatic : t'.staticIp = t.staticIp) (hnone : (∀ ip, ¬t.Evicts mac now choice ip) → t' = t)
    (hevicts : ∀ ip, t.Evicts mac now choice ip → t' = t.deleteDynamic ip)
    (hkept : ¬t.Lacks mac → t'.insertDynamic ip mac = t) {u : Tables}
    (hmem : (statement, u) ∈ assignment t' ip mac) : Leaves t mac now choice statement u := by
  rw [assignment, List.mem_cons, List.mem_singleton] at hmem
  rcases hmem with hmem | hmem <;> obtain ⟨rfl, rfl⟩ := Prod.mk.inj hmem
  · exact {
      staticIp := hstatic
      unchanged := fun hspared _ => hnone (hspared rfl)
      evicted := by
        intro _ text htext
        refine ⟨hevicts text htext, ?_⟩
        rw [hevicts text htext, Tables.ipOf_deleteDynamic]
        exact Assignment.free_revoke _ _
      assigned := nofun }
  · exact {
      staticIp := hstatic
      unchanged := fun _ hlacks => hkept (hlacks rfl)
      evicted := nofun
      assigned := fun _ => ⟨ip, hassigns⟩ }

/-- What each statement finds is what its failure leaves. -/
theorem leaves_of_mem_statements {u : Tables}
    (hmem : (statement, u) ∈ statements t mac now choice) :
    Leaves t mac now choice statement u := by
  obtain ⟨ip, t', hassigns⟩ := exists_assigns t mac now choice
  cases hassigns with
  | unknown hrow =>
      simp only [statements, hrow] at hmem
      exact .of_mem_cons (by decide) (by decide) (absurd · List.not_mem_nil) hmem
  | kept text hip hne =>
      rw [statements_kept hip hne] at hmem
      refine .of_mem_cons (by decide) (by decide) (fun hmem => ?_) hmem
      refine leaves_assignment (.kept text hip hne) rfl (fun _ => rfl) ?_
        (fun _ => Tables.insertDynamic_eq_self hip) hmem
      rintro other ⟨⟨r, hrow, hempty⟩, -⟩
      rw [Tables.ipOf, hrow, Option.bind_some] at hip
      rw [hip] at hempty
      contradiction
  | unused text hlacks hunused =>
      rw [statements_lacks hlacks, hunused] at hmem
      refine .of_mem_cons (by decide) (by decide) (fun hmem => ?_) hmem
      refine .of_mem_cons (by decide) (by decide) (fun hmem => ?_) hmem
      refine leaves_assignment (.unused text hlacks hunused) rfl (fun _ => rfl) ?_
        (absurd hlacks) hmem
      rintro other ⟨-, hnone, -⟩
      rw [first_eq_none_iff.mpr hnone] at hunused
      contradiction
  | evicted text accessed hlacks hnone husing =>
      rw [statements_lacks hlacks, first_eq_none_iff.mpr hnone, husing] at hmem
      refine .of_mem_cons (by decide) (by decide) (fun hmem => ?_) hmem
      refine .of_mem_cons (by decide) (by decide) (fun hmem => ?_) hmem
      refine .of_mem_cons (by decide) (by decide) (fun hmem => ?_) hmem
      refine .of_mem_cons (by decide) (by decide) (fun hmem => ?_) hmem
      refine leaves_assignment (.evicted text accessed hlacks hnone husing) rfl ?_ ?_
        (absurd hlacks) hmem
      · intro hspared
        exact absurd ⟨hlacks, hnone, accessed, husing⟩ (hspared text)
      · rintro other ⟨-, -, accessed', hother⟩
        rw [husing] at hother
        rw [(Prod.mk.inj (Option.some.inj hother)).1]
  | exhausted hlacks hnone husing =>
      rw [statements_lacks hlacks, first_eq_none_iff.mpr hnone, husing] at hmem
      refine .of_mem_cons (by decide) (by decide) (fun hmem => ?_) hmem
      refine .of_mem_cons (by decide) (by decide) (fun hmem => ?_) hmem
      exact .of_mem_cons (by decide) (by decide) (absurd · List.not_mem_nil) hmem

/-- **What a failed request leaves.** An exception comes at one of the statements, and
leaves the tables in which that statement was to be carried out: the tables from
before the request, unless an eviction or the whole assignment was already done. -/
theorem failed_request {cfg : Config} {request : DhcpRequest} {u : Indeterminate}
    {s s' : Session Tables} {e : SQLException}
    (h : createDhcp cfg request now choice u s = (.error e, s')) :
    ∃ n statement, s.fault = some n ∧
      (statements s.tables (printMAC request.mac) now choice)[n]? = some (statement, s'.tables) ∧
      Leaves s.tables (printMAC request.mac) now choice statement s'.tables := by
  obtain ⟨t, fault⟩ := s
  obtain ⟨ip, t', -, hruns⟩ := createDhcp_runs cfg request now choice u t
  cases fault with
  | none =>
      rw [hruns.completes] at h
      cases (Prod.mk.inj h).1
  | some n =>
      obtain ⟨-, u, hu, rfl⟩ := hruns.error_iff.mp h
      rw [List.getElem?_map, Option.map_eq_some_iff] at hu
      obtain ⟨⟨statement, u⟩, hstatement, rfl⟩ := hu
      exact ⟨n, statement, rfl, hstatement,
        leaves_of_mem_statements (List.mem_of_getElem? hstatement)⟩

/-! The second client of `sampleTables` asks for an address, and the update that gives
it the one taken from the first client throws. -/

def sampleDhcpRequest : DhcpRequest := ⟨sampleMAC 8, Vector.replicate 4 1, 1500, true⟩

theorem createDhcp_sample :
    createDhcp sampleConfig sampleDhcpRequest 7200006 ⟨0, 0⟩ default
        ⟨sampleTables, some 4⟩ =
      (.error .raised, ⟨sampleTables.deleteDynamic "10.0.0.5", none⟩) := by
  obtain ⟨ip, t', -, hruns⟩ :=
    createDhcp_runs sampleConfig sampleDhcpRequest 7200006 ⟨0, 0⟩ default sampleTables
  exact hruns.throws 4 _ rfl

theorem failed_request_sample :
    ∃ n statement, some 4 = some n ∧
      (statements sampleTables (printMAC (sampleMAC 8)) 7200006 ⟨0, 0⟩)[n]? =
        some (statement, sampleTables.deleteDynamic "10.0.0.5") ∧
      Leaves sampleTables (printMAC (sampleMAC 8)) 7200006 ⟨0, 0⟩ statement
        (sampleTables.deleteDynamic "10.0.0.5") :=
  failed_request createDhcp_sample

/-- The address is taken and not given. -/
theorem eviction_without_assignment :
    ∃ s', createDhcp sampleConfig sampleDhcpRequest 7200006 ⟨0, 0⟩ default
        ⟨sampleTables, some 4⟩ = (.error .raised, s') ∧
      sampleTables.ipOf "02:00:00:00:00:07" = some "10.0.0.5" ∧
      s'.tables.ipOf "02:00:00:00:00:07" = none ∧ s'.tables.ipOf "02:00:00:00:00:08" = none ∧
      s'.tables.user ≠ sampleTables.user := by
  refine ⟨_, createDhcp_sample, by decide, by decide, by decide, fun huser => ?_⟩
  have hrows : (sampleTables.deleteDynamic "10.0.0.5").user.rows ≠ sampleTables.user.rows := by
    decide
  exact hrows (congrArg KeyedTable.rows huser)

end GatewaySocket
