import GatewaySocket.Database.Requests
import GatewaySocket.Transition.Run

/-!
# Sequences of requests

The database thread takes its requests one by one. `Tables.process` is one of
them with everything that comes from outside: the clock, the rows SQL puts
first, the exceptions. Whatever the request, the tables stay sound: no two users
share an address, and no address text is empty or spells the address of another.
-/

namespace GatewaySocket

open ByteMemory Transition

inductive Request
  | dhcp (request : DhcpRequest) (now : UInt64) (choice : Choice) (u : Indeterminate)
      (fault : Option ℕ)
  | update (request : UpdateTime) (fault : Option ℕ)

/-- The time of a request, in milliseconds. -/
def Request.now : Request → ℕ
  | dhcp _ now _ _ _ => now.toNat
  | update request _ => request.utc.toNat

def Request.mac : Request → EtherAddr
  | dhcp request _ _ _ _ => request.mac
  | update request _ => request.mac

/-- What a processed request leaves behind. -/
structure Outcome where
  tables : Tables
  answer : Option Answer
  calls : List Call

namespace Tables

/-- Process one request; `none` if the daemon exits over an exception. -/
def process (cfg : Config) (t : Tables) : Request → Option Outcome
  | .dhcp request now choice u fault =>
    match createDhcp cfg request now choice u ⟨t, fault⟩ with
    | (.ok answer, s) => some ⟨s.tables, answer, (answer.map Answer.calls).getD []⟩
    | (.error _, _) => none
  | .update request fault =>
    match updateTime request ⟨t, fault⟩ with
    | (.ok calls, s) => some ⟨s.tables, none, calls⟩
    | (.error _, _) => none

def step (cfg : Config) (t : Tables) (a : Request) : Option Tables :=
  (t.process cfg a).map Outcome.tables

variable {cfg : Config} {t t' : Tables} {request : DhcpRequest} {now : UInt64} {choice : Choice}
  {u : Indeterminate} {fault : Option ℕ} {o : Outcome} {mac : String} {ip : Option String}

theorem step_of_process {a : Request} (h : t.process cfg a = some o) :
    t.step cfg a = some o.tables := by
  rw [step, h]
  rfl

theorem process_dhcp (h : t.process cfg (.dhcp request now choice u fault) = some o) :
    ∃ ip, Assigns t (printMAC request.mac) now choice ip o.tables ∧
      o.answer = (ip.bind fun ip =>
        (o.tables.staticIp.row ip).map fun _ => answer cfg request (inetAddr ip) u) ∧
      o.calls = (o.answer.map Answer.calls).getD [] := by
  simp only [process] at h
  split at h
  · next result s hs =>
      obtain rfl := Option.some.inj h
      obtain ⟨ip, hassigns, hresult⟩ := createDhcp_ok hs
      exact ⟨ip, hassigns, hresult, rfl⟩
  · contradiction

theorem process_update {request : UpdateTime} (h : t.process cfg (.update request fault) = some o) :
    o.answer = none ∧ o.tables.staticIp = t.staticIp ∧ o.tables.ipOf = t.ipOf ∧
      (o.calls = [.delUserInfo request.ip] ∨
        o.calls = [] ∧ t.user.row (printMAC request.mac) ≠ none) := by
  simp only [process] at h
  split at h
  · next calls s hs =>
      obtain rfl := Option.some.inj h
      obtain ⟨htables, hcalls⟩ := updateTime_ok hs
      refine ⟨rfl, ?_, ?_, hcalls⟩
      · rcases htables with hsame | hupdated
        · rw [hsame]
        · rw [hupdated]
          rfl
      · rcases htables with hsame | hupdated
        · rw [hsame]
        · rw [hupdated, ipOf_updateAccessTime]
  · contradiction

end Tables

/-! ## What an assignment does -/

namespace Assigns

variable {t t' : Tables} {mac : String} {now : UInt64} {choice : Choice} {ip : Option String}

theorem staticIp (h : Assigns t mac now choice ip t') : t'.staticIp = t.staticIp := by
  cases h <;> rfl

theorem macs (h : Assigns t mac now choice ip t') : t'.macs = t.macs := by
  cases h <;> simp

theorem row_of_lacks (h : t.Lacks mac) : ∃ r, t.user.row mac = some r :=
  h.imp fun _ hr => hr.1

/-- Only a MAC with a row is assigned an address. -/
theorem row_ne_none {text : String} (h : Assigns t mac now choice (some text) t') :
    t.user.row mac ≠ none := by
  intro hnone
  cases h with
  | kept _ hip hne =>
      rw [Tables.ipOf, hnone] at hip
      contradiction
  | unused _ hlacks hfirst =>
      obtain ⟨r, hr⟩ := row_of_lacks hlacks
      rw [hnone] at hr
      contradiction
  | evicted _ accessed hlacks hnothing hfirst =>
      obtain ⟨r, hr⟩ := row_of_lacks hlacks
      rw [hnone] at hr
      contradiction

/-- In terms of the assignment of addresses: nothing happens, or the MAC is given
an address that was its own, or free, or taken from its holder just before. -/
theorem ipOf_eq (h : Assigns t mac now choice ip t') :
    ip = none ∧ t'.ipOf = t.ipOf ∨
      ∃ text, ip = some text ∧
        (t.ipOf mac = some text ∧ text ≠ "" ∧ t'.ipOf = t.ipOf ∨
          t.Lacks mac ∧ t.Dynamic text ∧ t.ipOf.Free text ∧ t'.ipOf = t.ipOf.give mac text ∨
          t.Lacks mac ∧ t.Dynamic text ∧ t.selectUnusedDynamicIP = [] ∧
            (∃ accessed, first choice.usingIP (stalest (t.selectUsingDynamicIP (cutoff now))) =
              some (text, accessed)) ∧
            t'.ipOf = (t.ipOf.revoke text).give mac text) := by
  cases h with
  | unknown hrow => exact .inl ⟨rfl, rfl⟩
  | kept text hip hne =>
      refine .inr ⟨text, rfl, .inl ⟨hip, hne, ?_⟩⟩
      obtain ⟨r, hr, hmac, -⟩ := Tables.ipOf_eq_some_iff.mp hip
      rw [Tables.ipOf_insertDynamic (KeyedTable.row_eq_some_iff.mpr ⟨hr, hmac⟩),
        Assignment.give_eq_self hip]
  | unused text hlacks hfirst =>
      obtain ⟨r, hr⟩ := row_of_lacks hlacks
      obtain ⟨hdyn, hfree⟩ := Tables.mem_selectUnusedDynamicIP.mp (mem_of_first hfirst)
      exact .inr ⟨text, rfl, .inr (.inl ⟨hlacks, hdyn, hfree, Tables.ipOf_insertDynamic hr text⟩)⟩
  | evicted text accessed hlacks hnone hfirst =>
      obtain ⟨r, hr⟩ := row_of_lacks hlacks
      have hmem := (List.mem_filter.mp (mem_of_first hfirst)).1
      have hdyn := (Tables.mem_selectUsingDynamicIP.mp hmem).1
      have hrow : (t.deleteDynamic text).user.row mac =
          some (if r.ip = some text then { r with ip := none } else r) := by
        rw [Tables.deleteDynamic, KeyedTable.row_update, hr]
        simp
      refine .inr ⟨text, rfl, .inr (.inr ⟨hlacks, hdyn, hnone, ⟨accessed, hfirst⟩, ?_⟩)⟩
      rw [Tables.ipOf_insertDynamic hrow, Tables.ipOf_deleteDynamic]
  | exhausted hlacks hnone hfirst => exact .inl ⟨rfl, rfl⟩

theorem exclusive (h : Assigns t mac now choice ip t') (ht : t.ipOf.Exclusive) :
    t'.ipOf.Exclusive := by
  rcases h.ipOf_eq with ⟨-, hsame⟩ | ⟨text, -, ⟨-, -, hsame⟩ | ⟨-, -, hfree, hgive⟩ |
    ⟨-, -, -, -, hmove⟩⟩
  · rwa [hsame]
  · rwa [hsame]
  · rw [hgive]
    exact ht.give hfree
  · rw [hmove]
    exact ht.transfer mac text

/-- Afterwards the MAC holds what it was assigned. -/
theorem ipOf_self {text : String} (h : Assigns t mac now choice (some text) t') :
    t'.ipOf mac = some text := by
  rcases h.ipOf_eq with ⟨hnone, -⟩ | ⟨text', htext, hcases⟩
  · contradiction
  · obtain rfl := Option.some.inj htext
    rcases hcases with ⟨hip, -, hsame⟩ | ⟨-, -, -, hgive⟩ | ⟨-, -, -, -, hmove⟩
    · rw [hsame, hip]
    · rw [hgive, Assignment.give_apply, if_pos rfl]
    · rw [hmove, Assignment.give_apply, if_pos rfl]

end Assigns

namespace Tables

/-! ## Answers and calls -/

section Answers

variable {cfg : Config} {t : Tables} {a : Request} {o : Outcome} {info : UserInfo}

/-- An answer carries the address that the tables then give to a MAC with a row,
and `static_ip` has that address. -/
theorem answer_eq {ans : Answer} (h : t.process cfg a = some o) (hans : o.answer = some ans) :
    ∃ r now choice u fault text, a = .dhcp r now choice u fault ∧
      t.user.row (printMAC r.mac) ≠ none ∧ o.tables.ipOf (printMAC r.mac) = some text ∧
      o.tables.staticIp.row text ≠ none ∧ ans = answer cfg r (inetAddr text) u := by
  cases a with
  | update request fault =>
      rw [(process_update h).1] at hans
      contradiction
  | dhcp r now choice u fault =>
      obtain ⟨ip, hassigns, hanswer, -⟩ := process_dhcp h
      rw [hanswer] at hans
      obtain ⟨text, rfl, hans⟩ := Option.bind_eq_some_iff.mp hans
      obtain ⟨row, hrow, rfl⟩ := Option.map_eq_some_iff.mp hans
      exact ⟨r, now, choice, u, fault, text, rfl, hassigns.row_ne_none, hassigns.ipOf_self,
        by rw [hrow]; nofun, rfl⟩

/-- A call that is no deletion belongs to an answer. -/
theorem answer_of_mem_calls {c : Call} (h : t.process cfg a = some o) (hcall : c ∈ o.calls)
    (hc : ∀ ip, c ≠ .delUserInfo ip) : ∃ ans, o.answer = some ans ∧ c ∈ ans.calls := by
  cases a with
  | update request fault =>
      rcases (process_update h).2.2.2 with hdel | ⟨hnil, -⟩
      · rw [hdel, List.mem_singleton] at hcall
        exact absurd hcall (hc _)
      · rw [hnil] at hcall
        contradiction
  | dhcp request now choice u fault =>
      obtain ⟨ip, -, -, hcalls⟩ := process_dhcp h
      rw [hcalls] at hcall
      cases hans : o.answer with
      | none =>
          rw [hans] at hcall
          contradiction
      | some ans =>
          rw [hans] at hcall
          exact ⟨ans, rfl, hcall⟩

/-- A call of `addUserInfo` belongs to an answer to a REQUEST. -/
theorem answer_of_addUserInfo (h : t.process cfg a = some o) (hcall : .addUserInfo info ∈ o.calls) :
    ∃ ans, o.answer = some ans ∧ ans.isDiscover = false ∧ ans.userInfo = info := by
  obtain ⟨ans, hans, hmem⟩ := answer_of_mem_calls h hcall (by simp)
  refine ⟨ans, hans, ?_⟩
  cases hdiscover : ans.isDiscover with
  | true => simp [Answer.calls, hdiscover] at hmem
  | false => exact ⟨rfl, by simpa [Answer.calls, hdiscover, eq_comm] using hmem⟩

/-- A packet is passed on only with the answer it was built for. -/
theorem answer_of_sendPacketRequest {packet : Packet} (h : t.process cfg a = some o)
    (hcall : .sendPacketRequest packet ∈ o.calls) :
    ∃ ans, o.answer = some ans ∧ ans.packet = packet := by
  obtain ⟨ans, hans, hmem⟩ := answer_of_mem_calls h hcall (by simp)
  refine ⟨ans, hans, ?_⟩
  cases hdiscover : ans.isDiscover <;> simpa [Answer.calls, hdiscover, eq_comm] using hmem

/-- What a call of `addUserInfo` says about its request and the tables. -/
theorem grant_of_addUserInfo (h : t.process cfg a = some o) (hcall : .addUserInfo info ∈ o.calls) :
    ∃ r now choice u fault text, a = .dhcp r now choice u fault ∧ r.isDiscover = false ∧
      r.mac = info.userMac ∧ t.user.row (printMAC r.mac) ≠ none ∧
      o.tables.ipOf (printMAC r.mac) = some text ∧ o.tables.staticIp.row text ≠ none ∧
      inetAddr text = info.ip := by
  obtain ⟨ans, hans, hdisc, rfl⟩ := answer_of_addUserInfo h hcall
  obtain ⟨r, now, choice, u, fault, text, rfl, hrow, htext, hstatic, rfl⟩ := answer_eq h hans
  exact ⟨r, now, choice, u, fault, text, rfl, hdisc, rfl, hrow, htext, hstatic, rfl⟩

end Answers

/-! ## Soundness -/

/-- The address texts in the two tables. -/
def texts (t : Tables) : List String :=
  t.staticIp.rows.map StaticIpRow.ip ++ t.user.rows.filterMap UserRow.ip

theorem mem_texts {t : Tables} {text : String} :
    text ∈ t.texts ↔ (∃ s ∈ t.staticIp.rows, s.ip = text) ∨ ∃ mac, t.ipOf mac = some text := by
  simp only [texts, List.mem_append, List.mem_map, List.mem_filterMap, ipOf_eq_some_iff]
  constructor
  · rintro (hstatic | ⟨r, hr, hip⟩)
    · exact .inl hstatic
    · exact .inr ⟨r.mac, r, hr, rfl, hip⟩
  · rintro (hstatic | ⟨_, r, hr, -, hip⟩)
    · exact .inl hstatic
    · exact .inr ⟨r, hr, hip⟩

theorem Dynamic.mem_texts {t : Tables} {text : String} (h : t.Dynamic text) : text ∈ t.texts :=
  Tables.mem_texts.mpr (.inl (h.imp fun _ hs => ⟨hs.1, hs.2.1⟩))

/-- The rows decide whether two users share an address. -/
theorem exclusive_iff {t : Tables} :
    t.ipOf.Exclusive ↔
      ∀ r ∈ t.user.rows, ∀ r' ∈ t.user.rows, r.ip.isSome → r.ip = r'.ip → r.mac = r'.mac := by
  constructor
  · intro h r hr r' hr' hsome hip
    obtain ⟨text, htext⟩ := Option.isSome_iff_exists.mp hsome
    exact h r.mac r'.mac text (ipOf_eq_some_iff.mpr ⟨r, hr, rfl, htext⟩)
      (ipOf_eq_some_iff.mpr ⟨r', hr', rfl, hip ▸ htext⟩)
  · intro h mac mac' text hmac hmac'
    obtain ⟨r, hr, rfl, hip⟩ := ipOf_eq_some_iff.mp hmac
    obtain ⟨r', hr', rfl, hip'⟩ := ipOf_eq_some_iff.mp hmac'
    exact h r hr r' hr' (by rw [hip]; rfl) (by rw [hip, hip'])

instance (t : Tables) : Decidable t.ipOf.Exclusive := decidable_of_iff _ exclusive_iff.symm

/-- No text is empty, no two texts spell one address, and no two users share one. -/
structure Sound (t : Tables) : Prop where
  nonempty : ∀ text ∈ t.texts, text ≠ ""
  distinct : ∀ text ∈ t.texts, ∀ text' ∈ t.texts, inetAddr text = inetAddr text' → text = text'
  exclusive : t.ipOf.Exclusive

theorem mem_texts_of_assigns {t t' : Tables} {mac : String} {now : UInt64} {choice : Choice}
    {ip : Option String} (h : Assigns t mac now choice ip t') {text : String}
    (hm : text ∈ t'.texts) : text ∈ t.texts := by
  rcases mem_texts.mp hm with hstatic | ⟨m, hm⟩
  · rw [h.staticIp] at hstatic
    exact mem_texts.mpr (.inl hstatic)
  · rcases h.ipOf_eq with ⟨-, hsame⟩ | ⟨x, -, ⟨-, -, hsame⟩ | ⟨-, hdyn, -, hgive⟩ |
      ⟨-, hdyn, -, -, hmove⟩⟩
    · exact mem_texts.mpr (.inr ⟨m, hsame ▸ hm⟩)
    · exact mem_texts.mpr (.inr ⟨m, hsame ▸ hm⟩)
    · rw [hgive, Assignment.give_apply] at hm
      split at hm
      · obtain rfl := Option.some.inj hm
        exact hdyn.mem_texts
      · exact mem_texts.mpr (.inr ⟨m, hm⟩)
    · rw [hmove, Assignment.give_apply] at hm
      split at hm
      · obtain rfl := Option.some.inj hm
        exact hdyn.mem_texts
      · exact mem_texts.mpr (.inr ⟨m, (Assignment.revoke_eq_some_iff.mp hm).1⟩)

variable {cfg : Config} {t t' : Tables} {a : Request} {as : List Request}

/-- A request neither adds a row to the user table nor removes one. -/
theorem macs_step (h : t.step cfg a = some t') : t'.macs = t.macs := by
  obtain ⟨o, ho, rfl⟩ := Option.map_eq_some_iff.mp h
  cases a with
  | dhcp request now choice u fault =>
      obtain ⟨ip, hassigns, -, -⟩ := process_dhcp ho
      exact hassigns.macs
  | update request fault =>
      simp only [process] at ho
      split at ho
      · next calls s hs =>
          obtain rfl := Option.some.inj ho
          rcases (updateTime_ok hs).1 with hsame | hupdated
          · exact congrArg macs hsame
          · exact (congrArg macs hupdated).trans (macs_updateAccessTime _ _ t)
      · contradiction

/-- A request leaves `static_ip` alone. -/
theorem staticIp_step (h : t.step cfg a = some t') : t'.staticIp = t.staticIp := by
  obtain ⟨o, ho, rfl⟩ := Option.map_eq_some_iff.mp h
  cases a with
  | dhcp request now choice u fault =>
      obtain ⟨ip, hassigns, -, -⟩ := process_dhcp ho
      exact hassigns.staticIp
  | update request fault => exact (process_update ho).2.1

/-- A request brings in no new address text. -/
theorem mem_texts_step (h : t.step cfg a = some t') {text : String} (hm : text ∈ t'.texts) :
    text ∈ t.texts := by
  obtain ⟨o, ho, rfl⟩ := Option.map_eq_some_iff.mp h
  cases a with
  | dhcp request now choice u fault =>
      obtain ⟨ip, hassigns, -, -⟩ := process_dhcp ho
      exact mem_texts_of_assigns hassigns hm
  | update request fault =>
      obtain ⟨-, hstatic, hip, -⟩ := process_update ho
      rw [mem_texts, hstatic, hip, ← mem_texts] at hm
      exact hm

/-- A request gives no address to two users. -/
theorem exclusive_step (ht : t.ipOf.Exclusive) (h : t.step cfg a = some t') :
    t'.ipOf.Exclusive := by
  obtain ⟨o, ho, rfl⟩ := Option.map_eq_some_iff.mp h
  cases a with
  | dhcp request now choice u fault =>
      obtain ⟨ip, hassigns, -, -⟩ := process_dhcp ho
      exact hassigns.exclusive ht
  | update request fault =>
      rw [(process_update ho).2.2.1]
      exact ht

theorem sound_step (ht : t.Sound) (h : t.step cfg a = some t') : t'.Sound where
  nonempty := fun x hx => ht.nonempty x (mem_texts_step h hx)
  distinct := fun x hx y hy => ht.distinct x (mem_texts_step h hx) y (mem_texts_step h hy)
  exclusive := exclusive_step ht.exclusive h

theorem sound_run (ht : t.Sound) (h : run (step cfg) t as = some t') : t'.Sound :=
  run_induction (fun _ _ _ hs hstep => sound_step hs hstep) ht h

end Tables

end GatewaySocket
