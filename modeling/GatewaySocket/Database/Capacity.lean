import GatewaySocket.Database.Sticky

/-!
# Room for everybody

Clients compete for the dynamic addresses as long as their row has none or has a
dynamic one. If there are no more of them than dynamic addresses, a client without
an address always finds an unused one. Then nobody is ever evicted, whatever the
requests, and an assignment once made is never undone.
-/

namespace GatewaySocket

open ByteMemory Transition

namespace Tables

/-- The addresses of the pool. -/
def dynamicIPs (t : Tables) : List String :=
  (t.staticIp.rows.filter fun s => s.isStatic = false).map StaticIpRow.ip

/-- The row takes an address of the pool, or will. -/
def Contends (t : Tables) (r : UserRow) : Prop := r.ip.getD "" = "" ∨ r.ip.getD "" ∈ t.dynamicIPs

instance (t : Tables) : DecidablePred t.Contends :=
  fun _ => inferInstanceAs (Decidable (_ ∨ _))

/-- The pool has an address for each row that takes one. -/
def Roomy (t : Tables) : Prop := t.user.rows.countP t.Contends ≤ t.dynamicIPs.length

instance (t : Tables) : Decidable t.Roomy := inferInstanceAs (Decidable (_ ≤ _))

variable {cfg : Config} {t t' : Tables} {a : Request} {as : List Request} {mac ip : String}

theorem mem_dynamicIPs : ip ∈ t.dynamicIPs ↔ t.Dynamic ip := by
  simp only [dynamicIPs, List.mem_map, List.mem_filter, decide_eq_true_eq, Dynamic]
  constructor
  · rintro ⟨s, ⟨hs, hdyn⟩, rfl⟩
    exact ⟨s, hs, rfl, hdyn⟩
  · rintro ⟨s, hs, rfl, hdyn⟩
    exact ⟨s, ⟨hs, hdyn⟩, rfl⟩

theorem nodup_dynamicIPs (t : Tables) : t.dynamicIPs.Nodup :=
  t.staticIp.keyed.sublist (List.filter_sublist.map _)

/-- With room for everybody a client without address finds one that is unused. -/
theorem Roomy.unused (hroomy : t.Roomy) (hne : ∀ text ∈ t.texts, text ≠ "") (hlacks : t.Lacks mac) :
    t.selectUnusedDynamicIP ≠ [] := by
  obtain ⟨r, hrow, hempty⟩ := hlacks
  obtain ⟨hr, rfl⟩ := KeyedTable.row_eq_some_iff.mp hrow
  have hholders : ∀ m, ∀ text ∈ t.dynamicIPs, t.ipOf m = some text →
      m ∈ (t.user.rows.filter t.Contends).map UserRow.mac := by
    intro m text htext hm
    obtain ⟨row, hrow, rfl, hip⟩ := ipOf_eq_some_iff.mp hm
    refine List.mem_map_of_mem (List.mem_filter.mpr ⟨hrow, ?_⟩)
    rw [decide_eq_true_eq, Contends, hip]
    exact .inr htext
  have hcontends : r.mac ∈ (t.user.rows.filter t.Contends).map UserRow.mac :=
    List.mem_map_of_mem (List.mem_filter.mpr ⟨hr, decide_eq_true (.inl hempty)⟩)
  have hlength : ((t.user.rows.filter t.Contends).map UserRow.mac).length ≤
      t.dynamicIPs.length := by
    rw [List.length_map, ← List.countP_eq_length_filter]
    exact hroomy
  obtain ⟨text, htext, hfree⟩ := Assignment.exists_free t.nodup_dynamicIPs hholders hlength
    hcontends (ipOf_of_lacks hne ⟨r, hrow, hempty⟩)
  exact List.ne_nil_of_mem (mem_selectUnusedDynamicIP.mpr ⟨mem_dynamicIPs.mp htext, hfree⟩)

/-- With room for everybody nobody is evicted. -/
theorem Roomy.evicts (hroomy : t.Roomy) (hne : ∀ text ∈ t.texts, text ≠ "") (a : Request) :
    t.evicts a = none := by
  cases a with
  | update request fault => rfl
  | dhcp request now choice u fault =>
      exact if_neg fun h => hroomy.unused hne h.1 h.2

/-- With room for everybody an assignment is never undone. -/
theorem Roomy.ipOf_step (hroomy : t.Roomy) (hne : ∀ text ∈ t.texts, text ≠ "")
    (hip : t.ipOf mac = some ip) (h : t.step cfg a = some t') : t'.ipOf mac = some ip := by
  refine Tables.ipOf_step hne hip ?_ h
  rw [hroomy.evicts hne]
  exact (Option.some_ne_none ip).symm

/-- An update that leaves each row in the competition, or out of it, leaves room. -/
theorem Roomy.of_update (hroomy : t.Roomy) {p : UserRow → Bool} {f : UserRow → UserRow}
    (hf : ∀ r, (f r).mac = r.mac) (hstatic : t'.staticIp = t.staticIp)
    (huser : t'.user = t.user.update p f hf)
    (hsame : ∀ r ∈ t.user.rows, p r = true → (t.Contends (f r) ↔ t.Contends r)) : t'.Roomy := by
  have hpool : t'.dynamicIPs = t.dynamicIPs := by rw [dynamicIPs, hstatic, dynamicIPs]
  have hcontends : t'.Contends = t.Contends := by
    funext r
    rw [Contends, hpool, Contends]
  have hcount : t'.user.rows.countP t'.Contends = t.user.rows.countP t.Contends := by
    rw [huser, KeyedTable.update, List.countP_map]
    refine List.countP_congr fun r hr => ?_
    simp only [Function.comp_apply, decide_eq_true_eq, hcontends]
    split
    · next hp => exact hsame r hr hp
    · exact Iff.rfl
  rw [Roomy, hcount, hpool]
  exact hroomy

theorem Roomy.insertDynamic (hroomy : t.Roomy) (hlacks : t.Lacks mac) (hdyn : t.Dynamic ip) :
    (t.insertDynamic ip mac).Roomy := by
  obtain ⟨row, hrow, hempty⟩ := hlacks
  refine hroomy.of_update (f := fun r => { r with ip := some ip }) (fun _ => rfl) rfl rfl
    fun r hr hmac => ?_
  have hkey := KeyedTable.row_key hr
  rw [of_decide_eq_true hmac, hrow] at hkey
  obtain rfl := Option.some.inj hkey
  exact iff_of_true (.inr (mem_dynamicIPs.mpr hdyn)) (.inl hempty)

theorem roomy_step (hroomy : t.Roomy) (hne : ∀ text ∈ t.texts, text ≠ "")
    (h : t.step cfg a = some t') : t'.Roomy := by
  obtain ⟨o, ho, rfl⟩ := Option.map_eq_some_iff.mp h
  cases a with
  | dhcp request now choice u fault =>
      obtain ⟨ip, hassigns, -, -⟩ := process_dhcp ho
      generalize o.tables = t' at hassigns ⊢
      cases hassigns with
      | unknown hrow => exact hroomy
      | kept text hip hne => rwa [insertDynamic_eq_self hip]
      | unused text hlacks hfirst =>
          exact hroomy.insertDynamic hlacks (mem_selectUnusedDynamicIP.mp (mem_of_first hfirst)).1
      | evicted text accessed hlacks hnone hfirst => exact absurd hnone (hroomy.unused hne hlacks)
      | exhausted hlacks hnone hfirst => exact hroomy
  | update request fault =>
      simp only [process] at ho
      split at ho
      · next calls s hs =>
          obtain rfl := Option.some.inj ho
          rcases (updateTime_ok hs).1 with hsame | hupdated
          · rw [hsame]
            exact hroomy
          · rw [hupdated]
            exact hroomy.of_update (f := fun r => { r with accessed := some request.utc.toNat })
              (fun _ => rfl) rfl rfl fun r hr hp => Iff.rfl
      · contradiction

/-- With room for everybody the clients that are answered are those with a row,
unless the row names an address that `static_ip` does not have. -/
theorem Roomy.answered_iff (hroomy : t.Roomy) (hne : ∀ text ∈ t.texts, text ≠ "")
    {request : DhcpRequest} {now : UInt64} {choice : Choice} {u : Indeterminate} :
    (∃ o ans, t.process cfg (.dhcp request now choice u none) = some o ∧ o.answer = some ans) ↔
      t.user.row (printMAC request.mac) ≠ none ∧
        ∀ ip, t.ipOf (printMAC request.mac) = some ip → t.staticIp.row ip ≠ none := by
  constructor
  · rintro ⟨o, ans, ho, hans⟩
    obtain ⟨r, now', choice', u', fault', text, hreq, hrow, htext, hstatic, -⟩ := answer_eq ho hans
    obtain ⟨rfl, -⟩ := Request.dhcp.inj hreq
    refine ⟨hrow, fun ip hip => ?_⟩
    have hkept := hroomy.ipOf_step hne hip (step_of_process ho)
    rw [htext] at hkept
    obtain rfl := Option.some.inj hkept
    rwa [staticIp_step (step_of_process ho)] at hstatic
  · rintro ⟨hrow, hstatic⟩
    cases hip : t.ipOf (printMAC request.mac) with
    | some text =>
        have htext : text ≠ "" := hne text (mem_texts.mpr (.inr ⟨_, hip⟩))
        obtain ⟨o, ho, hans, -⟩ := process_of_ipOf cfg now choice u htext hip (hstatic text hip)
        exact ⟨o, _, ho, hans⟩
    | none =>
        obtain ⟨r, hr⟩ := Option.ne_none_iff_exists'.mp hrow
        have hlacks : t.Lacks (printMAC request.mac) := by
          rw [ipOf, hr, Option.bind_some] at hip
          exact ⟨r, hr, by rw [hip]; rfl⟩
        obtain ⟨o, ho⟩ := exists_process_dhcp cfg t request now choice u
        obtain ⟨ip, hassigns, hanswer, -⟩ := process_dhcp ho
        have hunused := hroomy.unused hne hlacks
        have hfound : ∃ text, ip = some text ∧ t.Dynamic text := by
          generalize o.tables = t' at hassigns
          cases hassigns with
          | unknown hnone => exact absurd hnone hrow
          | kept text hkept => rw [hip] at hkept; contradiction
          | unused text _ hfirst =>
              exact ⟨text, rfl, (mem_selectUnusedDynamicIP.mp (mem_of_first hfirst)).1⟩
          | evicted text accessed _ hnone => exact absurd hnone hunused
          | exhausted _ hnone => exact absurd hnone hunused
        obtain ⟨text, rfl, row, hmem, rfl, -⟩ := hfound
        rw [Option.bind_some, hassigns.staticIp, KeyedTable.row_key hmem] at hanswer
        exact ⟨o, _, ho, hanswer⟩

/-- **With room for everybody nobody goes without.** In every run of requests, in
any order and at any times, no request evicts anyone, every client with a row is
answered unless the row names an address that `static_ip` does not have, and who
has an address keeps it. -/
theorem roomy_run (hroomy : t.Roomy) (hne : ∀ text ∈ t.texts, text ≠ "") :
    AllSteps (step cfg) (fun t a => t.evicts a = none ∧ ∀ request now choice u,
      a = .dhcp request now choice u none →
        ((∃ o ans, t.process cfg a = some o ∧ o.answer = some ans) ↔
          t.user.row (printMAC request.mac) ≠ none ∧
            ∀ ip, t.ipOf (printMAC request.mac) = some ip → t.staticIp.row ip ≠ none)) t as ∧
      ∀ t', run (step cfg) t as = some t' →
        ∀ mac ip, t.ipOf mac = some ip → t'.ipOf mac = some ip := by
  induction as generalizing t with
  | nil =>
      refine ⟨trivial, fun t' hrun mac ip hip => ?_⟩
      obtain rfl : t = t' := Option.some.inj hrun
      exact hip
  | cons a as ih =>
      have hnext : ∀ {t'}, t.step cfg a = some t' → t'.Roomy ∧ ∀ text ∈ t'.texts, text ≠ "" :=
        fun h => ⟨roomy_step hroomy hne h, fun text htext => hne text (mem_texts_step h htext)⟩
      refine ⟨⟨⟨hroomy.evicts hne a, ?_⟩, fun t' h => (ih (hnext h).1 (hnext h).2).1⟩, ?_⟩
      · rintro request now choice u rfl
        exact hroomy.answered_iff hne
      · intro t' hrun mac ip hip
        obtain ⟨t₁, hstep, hrest⟩ := run_cons_eq_some.mp hrun
        have hkept := hroomy.ipOf_step hne hip hstep
        exact (ih (hnext hstep).1 (hnext hstep).2).2 t' hrest mac ip hkept

/-- With a second address the second client is offered it, and the first one keeps
its own. -/
theorem roomy_run_offer :
    ∃ t', run (step sampleConfig) sampleRoomy [sampleRequest 8 true 8000000] = some t' ∧
      t'.ipOf (printMAC (sampleMAC 7)) = some "10.0.0.5" ∧
      ∃ o ans, sampleRoomy.process sampleConfig (sampleRequest 8 true 8000000) = some o ∧
        o.answer = some ans := by
  obtain ⟨hall, hkeeps⟩ := @roomy_run sampleConfig sampleRoomy
    [sampleRequest 8 true 8000000] (by decide +kernel) (by decide)
  have hrun : (run (step sampleConfig) sampleRoomy [sampleRequest 8 true 8000000]).isSome := by
    decide +kernel
  obtain ⟨t', ht'⟩ := Option.isSome_iff_exists.mp hrun
  exact ⟨t', ht', hkeeps t' ht' _ _ (by decide +kernel),
    (hall.1.2 _ _ _ _ rfl).mpr ⟨by decide +kernel, by decide +kernel⟩⟩

end Tables

end GatewaySocket
