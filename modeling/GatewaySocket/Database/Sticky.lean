import GatewaySocket.Database.Lease

/-!
# Answers stay the same

A client that was answered with an address has it in its row, and a row with an
address is answered with that address. So the next answer is the same, and it
leaves the tables as they are, as long as no other client has to be given an
address that is in use.
-/

namespace GatewaySocket

open ByteMemory Transition

/-- A DHCP request is processed without exception where none is to come. -/
theorem createDhcp_total (cfg : Config) (request : DhcpRequest) (now : UInt64) (choice : Choice)
    (u : Indeterminate) : Sql.Total (createDhcp cfg request now choice u) := by
  intro t
  obtain ⟨ip, t', -, hruns⟩ := createDhcp_runs cfg request now choice u t
  exact ⟨_, t', hruns.completes⟩

namespace Tables

variable {cfg : Config} {t t₀ : Tables} {a : Request} {as : List Request} {o : Outcome}
  {ans : Answer} {request : DhcpRequest} {now : UInt64} {choice : Choice} {u : Indeterminate}
  {mac : EtherAddr} {text : String}

theorem exists_process_dhcp (cfg : Config) (t : Tables) (request : DhcpRequest) (now : UInt64)
    (choice : Choice) (u : Indeterminate) :
    ∃ o, t.process cfg (.dhcp request now choice u none) = some o := by
  obtain ⟨result, t', h⟩ := createDhcp_total cfg request now choice u t
  simp [process, h]

/-- A client that has an address is answered with it, and nothing changes. -/
theorem process_of_ipOf (cfg : Config) (now : UInt64) (choice : Choice) (u : Indeterminate)
    (hne : text ≠ "") (hip : t.ipOf (printMAC request.mac) = some text)
    (hstatic : t.staticIp.row text ≠ none) :
    ∃ o, t.process cfg (.dhcp request now choice u none) = some o ∧
      o.answer = some (answer cfg request (inetAddr text) u) ∧ o.tables = t := by
  obtain ⟨o, ho⟩ := exists_process_dhcp cfg t request now choice u
  obtain ⟨ip, hassigns, hanswer, -⟩ := process_dhcp ho
  have hlacks : ¬t.Lacks (printMAC request.mac) := by
    rintro ⟨r, hr, hempty⟩
    rw [ipOf, hr, Option.bind_some] at hip
    simp [hip, hne] at hempty
  have hkept : ip = some text ∧ o.tables = t := by
    generalize o.tables = t' at hassigns ⊢
    cases hassigns with
    | unknown hrow => simp [ipOf, hrow] at hip
    | kept ip hip' _ =>
        obtain rfl : ip = text := by simpa [hip] using hip'.symm
        exact ⟨rfl, insertDynamic_eq_self hip⟩
    | unused ip h hfirst => exact absurd h hlacks
    | evicted ip accessed h hnone hfirst => exact absurd h hlacks
    | exhausted h hnone hfirst => exact absurd h hlacks
  obtain ⟨row, hrow⟩ := Option.ne_none_iff_exists'.mp hstatic
  refine ⟨o, ho, ?_, hkept.2⟩
  rw [hanswer, hkept.1, hkept.2, Option.bind_some, hrow, Option.map_some]

/-- No exception comes, and no request but those of `mac` has to take an address
away from a client. -/
def Calm (mac : EtherAddr) (t : Tables) : Request → Prop
  | .dhcp request _ _ _ fault => fault = none ∧
      (request.mac ≠ mac → t.Lacks (printMAC request.mac) → t.selectUnusedDynamicIP ≠ [])
  | .update _ fault => fault = none

instance (mac : EtherAddr) (t : Tables) : DecidablePred (Calm mac t)
  | .dhcp _ _ _ _ _ => inferInstanceAs (Decidable (_ ∧ _))
  | .update _ _ => inferInstanceAs (Decidable (_ = _))

/-- A calm request takes nothing from `mac`. -/
theorem Calm.evicts_ne (hcalm : Calm mac t a) (hne : ∀ text ∈ t.texts, text ≠ "")
    (hip : t.ipOf (printMAC mac) = some text) : t.evicts a ≠ some text := by
  cases a with
  | update request fault => simp [evicts]
  | dhcp request now choice u fault =>
      have hnot : ¬(t.Lacks (printMAC request.mac) ∧ t.selectUnusedDynamicIP = []) := by
        rintro ⟨hlacks, hempty⟩
        by_cases hmac : request.mac = mac
        · rw [hmac] at hlacks
          simp [ipOf_of_lacks hne hlacks] at hip
        · exact hcalm.2 hmac hlacks hempty
      simp [evicts, hnot]

/-- While requests are calm, the client keeps its address and every request of its
own is answered with it. -/
theorem sticky_run (hne : ∀ text ∈ t.texts, text ≠ "") (hip : t.ipOf (printMAC mac) = some text)
    (hstatic : t.staticIp.row text ≠ none) (hcalm : AllSteps (step cfg) (Calm mac) t as) :
    AllSteps (step cfg) (fun t a => ∀ request now choice u fault,
      a = .dhcp request now choice u fault → request.mac = mac →
        ∃ o, t.process cfg a = some o ∧
          o.answer = some (answer cfg request (inetAddr text) u) ∧ o.tables.user = t.user) t as := by
  induction as generalizing t with
  | nil => trivial
  | cons a as ih =>
      refine ⟨?_, fun t' h => ?_⟩
      · rintro request now choice u fault rfl rfl
        obtain rfl : fault = none := hcalm.1.1
        have htext : text ≠ "" := hne text (mem_texts.mpr (.inr ⟨_, hip⟩))
        obtain ⟨o, ho, hanswer, htables⟩ :=
          process_of_ipOf cfg now choice u htext hip hstatic
        exact ⟨o, ho, hanswer, congrArg Tables.user htables⟩
      · have hkeep := ipOf_step hne hip (hcalm.1.evicts_ne hne hip) h
        refine ih (fun text htext => hne text (mem_texts_step h htext)) hkeep ?_ (hcalm.2 t' h)
        rw [staticIp_step h]
        exact hstatic

/-- **Answers are sticky.** After a request of a client was answered with an
address, every later request of that client is answered with the same address
and leaves the user table as it is, whatever calm requests come in between. -/
theorem answers_sticky (hne : ∀ text ∈ t.texts, text ≠ "")
    (hanswered : t.process cfg a = some o) (hans : o.answer = some ans)
    (hcalm : AllSteps (step cfg) (Calm a.mac) o.tables as) :
    AllSteps (step cfg) (fun t b => ∀ request now choice u fault,
      b = .dhcp request now choice u fault → request.mac = a.mac →
        ∃ o', t.process cfg b = some o' ∧
          o'.answer = some (answer cfg request ans.userInfo.ip u) ∧ o'.tables.user = t.user)
      o.tables as := by
  obtain ⟨r, now, choice, u, fault, text, rfl, -, htext, hstatic, rfl⟩ := answer_eq hanswered hans
  exact sticky_run (fun x hx => hne x (mem_texts_step (step_of_process hanswered) hx)) htext hstatic
    hcalm

/-! The clients of `sampleTables` with a second address in the pool. -/

def sampleRoomy : Tables where
  staticIp := ⟨[⟨"10.0.0.5", "02:00:00:00:00:09", false⟩, ⟨"10.0.0.6", "02:00:00:00:00:0A", false⟩],
    by decide⟩
  user := sampleTables.user

/-- The first client renews its address, the second is offered the other one, and
the first is offered the address that it has. -/
theorem answers_sticky_renewal :
    ∃ o ans, sampleRoomy.process sampleConfig (sampleRequest 7 false 8000000) = some o ∧
      o.answer = some ans ∧ ans.userInfo.ip = sampleIP ∧
      ∃ t', o.tables.step sampleConfig (sampleRequest 8 true 8000001) = some t' ∧
        ∃ o', t'.process sampleConfig (sampleRequest 7 true 8000002) = some o' ∧
          o'.answer.map (fun ans => ans.userInfo.ip) = some sampleIP ∧ o'.tables.user = t'.user := by
  have hcheck : ∃ o ∈ sampleRoomy.process sampleConfig (sampleRequest 7 false 8000000),
      (∃ ans ∈ o.answer, ans.userInfo.ip = sampleIP) ∧
        (o.tables.step sampleConfig (sampleRequest 8 true 8000001)).isSome ∧
        ∀ x ∈ history (step sampleConfig) o.tables
          [sampleRequest 8 true 8000001, sampleRequest 7 true 8000002],
          Calm (sampleMAC 7) x.1 x.2 := by
    decide +kernel
  obtain ⟨o, ho, ⟨ans, hans, hip⟩, hstep, hcalm⟩ := hcheck
  obtain ⟨t', ht'⟩ := Option.isSome_iff_exists.mp hstep
  have hall := answers_sticky (by decide) ho hans (allSteps_of_history hcalm)
  obtain ⟨o', ho', hanswer', huser⟩ := (hall.2 t' ht').1 _ _ _ _ _ rfl rfl
  refine ⟨o, ans, ho, hans, hip, t', ht', o', ho', ?_, huser⟩
  rw [hanswer', Option.map_some]
  exact congrArg some hip

end Tables

end GatewaySocket
