import GatewaySocket.Database.Process

/-!
# Who loses an address

Assigning addresses touches static ones never and dynamic ones rarely: a user
loses its address only to a request that finds none unused, and then it is the
user whose last access is longest ago. How long ago is decided in unsigned
arithmetic, which wraps around when the clock reads less than the timeout.
-/

namespace GatewaySocket

open ByteMemory Transition

/-- `DHCP_TIMEOUT` in milliseconds. -/
abbrev leaseTime : ℕ := 7200000

/-- A clock past the timeout does not wrap around. -/
theorem cutoff_toNat {now : UInt64} (h : leaseTime ≤ now.toNat) :
    (cutoff now).toNat = now.toNat - leaseTime :=
  UInt64.toNat_sub_of_le now (1000 * dhcpTimeout).toUInt64 (UInt64.le_iff_toNat_le.mpr h)

namespace Tables

/-- What a request may do to the assignment of addresses. -/
structure Orderly (t t' : Tables) (a : Request) : Prop where
  exclusive : t'.ipOf.Exclusive
  static_kept : ∀ mac ip, t.ipOf mac = some ip → ¬t.Dynamic ip → t'.ipOf mac = some ip
  given_dynamic : ∀ mac ip, t'.ipOf mac = some ip → t.ipOf mac ≠ some ip → t.Dynamic ip
  one_loser : ∀ mac ip mac' ip', t.ipOf mac = some ip → t'.ipOf mac ≠ some ip →
    t.ipOf mac' = some ip' → t'.ipOf mac' ≠ some ip' → mac' = mac
  loser : ∀ mac ip, t.ipOf mac = some ip → t'.ipOf mac ≠ some ip →
    mac ≠ printMAC a.mac ∧ t.selectUnusedDynamicIP = [] ∧
      ∃ r accessed, t.user.row mac = some r ∧ r.accessed = some accessed ∧
        accessed < (a.now : ℤ) - leaseTime ∧
        ∀ r' ∈ t.user.rows, ∀ ip' accessed', r'.ip = some ip' → t.Dynamic ip' →
          r'.accessed = some accessed' → accessed ≤ accessed'

/-- A request that gets to the eviction query comes at a time past the timeout. -/
def Timely (t : Tables) : Request → Prop
  | .dhcp request now _ _ _ =>
    t.Lacks (printMAC request.mac) → t.selectUnusedDynamicIP = [] → leaseTime ≤ now.toNat
  | .update _ _ => True

instance (t : Tables) : DecidablePred t.Timely
  | .dhcp _ _ _ _ _ => inferInstanceAs (Decidable (_ → _ → _))
  | .update _ _ => inferInstanceAs (Decidable True)

variable {cfg : Config} {t t' t₀ : Tables} {a : Request} {as : List Request} {mac : String}

/-- Whoever lacks an address does not hold one. -/
theorem ipOf_of_lacks (hne : ∀ text ∈ t.texts, text ≠ "") (h : t.Lacks mac) :
    t.ipOf mac = none := by
  obtain ⟨r, hr, hempty⟩ := h
  cases hip : t.ipOf mac with
  | none => rfl
  | some ip =>
      have hrow : r.ip = some ip := by
        rw [ipOf, hr] at hip
        exact hip
      rw [hrow] at hempty
      exact absurd hempty (hne ip (mem_texts.mpr (.inr ⟨mac, hip⟩)))

/-- Nobody loses anything where the assignment stays or a free address is given out. -/
theorem orderly_of_eq (hexcl : t.ipOf.Exclusive) (hip : t'.ipOf = t.ipOf) : Orderly t t' a where
  exclusive := by rw [hip]; exact hexcl
  static_kept := by
    intro m ip hm _
    rw [hip, hm]
  given_dynamic := by
    intro m ip hm hne
    rw [hip] at hm
    exact absurd hm hne
  one_loser := by
    intro m ip m' ip' hm hne
    rw [hip] at hne
    exact absurd hm hne
  loser := by
    intro m ip hm hne
    rw [hip] at hne
    exact absurd hm hne

theorem orderly_of_give {text : String} (hexcl : t'.ipOf.Exclusive) (hnone : t.ipOf mac = none)
    (hdyn : t.Dynamic text) (hgive : t'.ipOf = t.ipOf.give mac text) : Orderly t t' a := by
  have hkept : ∀ m ip, t.ipOf m = some ip → t'.ipOf m = some ip := by
    intro m ip hm
    have hne : ¬m = mac := by
      rintro rfl
      rw [hnone] at hm
      contradiction
    rw [hgive, Assignment.give_apply, if_neg hne, hm]
  exact {
    exclusive := hexcl
    static_kept := fun m ip hm _ => hkept m ip hm
    given_dynamic := by
      intro m ip hm hne
      rw [hgive, Assignment.give_apply] at hm
      split at hm
      · obtain rfl := Option.some.inj hm
        exact hdyn
      · exact absurd hm hne
    one_loser := fun m ip _ _ hm hne _ _ => absurd (hkept m ip hm) hne
    loser := fun m ip hm hne => absurd (hkept m ip hm) hne }

/-- The row that an eviction query puts first is the stalest of all. -/
theorem stalest_row {text : String} {accessed : ℤ} {before : UInt64}
    (h : (text, accessed) ∈ stalest (t.selectUsingDynamicIP before)) :
    t.Dynamic text ∧ accessed < before.toNat ∧
      (∃ r ∈ t.user.rows, r.ip = some text ∧ r.accessed = some accessed) ∧
      ∀ r' ∈ t.user.rows, ∀ ip' accessed', r'.ip = some ip' → t.Dynamic ip' →
        r'.accessed = some accessed' → accessed ≤ accessed' := by
  obtain ⟨hmem, hleast⟩ := List.mem_filter.mp h
  obtain ⟨hdyn, hlt, hrow⟩ := mem_selectUsingDynamicIP.mp hmem
  refine ⟨hdyn, hlt, hrow, ?_⟩
  intro r' hr' ip' accessed' hip' hdyn' hacc'
  by_cases hstale : accessed' < before.toNat
  · have hmem' := mem_selectUsingDynamicIP.mpr ⟨hdyn', hstale, r', hr', hip', hacc'⟩
    simpa using List.all_eq_true.mp hleast _ hmem'
  · omega

theorem orderly_step (hexcl : t.ipOf.Exclusive) (hne : ∀ text ∈ t.texts, text ≠ "")
    (htimely : t.Timely a) (h : t.step cfg a = some t') : Orderly t t' a := by
  have hexcl' := exclusive_step hexcl h
  obtain ⟨o, ho, rfl⟩ := Option.map_eq_some_iff.mp h
  cases a with
  | update request fault => exact orderly_of_eq hexcl (process_update ho).2.2.1
  | dhcp request now choice u fault =>
  obtain ⟨ip, hassigns, -, -⟩ := process_dhcp ho
  rcases hassigns.ipOf_eq with ⟨-, hsame⟩ | ⟨text, -, ⟨-, -, hsame⟩ | ⟨hlacks, hdyn, -, hgive⟩ |
    ⟨hlacks, hdyn, hunused, ⟨accessed, hfirst⟩, hmove⟩⟩
  · exact orderly_of_eq hexcl hsame
  · exact orderly_of_eq hexcl hsame
  · exact orderly_of_give hexcl' (ipOf_of_lacks hne hlacks) hdyn hgive
  · -- the holder of `text` loses it, and nobody else loses anything
    have hnone := ipOf_of_lacks hne hlacks
    have hlost : ∀ m ip, t.ipOf m = some ip → o.tables.ipOf m ≠ some ip → ip = text := by
      intro m ip hm hlose
      by_contra hip
      have hmac : ¬m = printMAC request.mac := by
        rintro rfl
        rw [hnone] at hm
        contradiction
      rw [hmove, Assignment.give_apply, if_neg hmac] at hlose
      exact hlose (Assignment.revoke_eq_some_iff.mpr ⟨hm, hip⟩)
    obtain ⟨-, hlt, ⟨r, hr, hrip, hracc⟩, hleast⟩ := stalest_row (mem_of_first hfirst)
    exact {
      exclusive := hexcl'
      static_kept := by
        intro m ip hm hstatic
        by_contra hlose
        exact hstatic (hlost m ip hm hlose ▸ hdyn)
      given_dynamic := by
        intro m ip hm hnew
        rw [hmove, Assignment.give_apply] at hm
        split at hm
        · obtain rfl := Option.some.inj hm
          exact hdyn
        · exact absurd (Assignment.revoke_eq_some_iff.mp hm).1 hnew
      one_loser := by
        intro m ip m' ip' hm hlose hm' hlose'
        obtain rfl := hlost m ip hm hlose
        obtain rfl := hlost m' ip' hm' hlose'
        exact hexcl m' m ip' hm' hm
      loser := by
        intro m ip hm hlose
        obtain rfl := hlost m ip hm hlose
        have hmac : r.mac = m :=
          hexcl r.mac m ip (ipOf_eq_some_iff.mpr ⟨r, hr, rfl, hrip⟩) hm
        refine ⟨?_, hunused, r, accessed, ?_, hracc, ?_, hleast⟩
        · rintro rfl
          rw [Request.mac, hnone] at hm
          contradiction
        · rw [← hmac]
          exact KeyedTable.row_key hr
        · have hpast : leaseTime ≤ now.toNat := htimely hlacks hunused
          rw [cutoff_toNat hpast] at hlt
          rw [Request.now]
          omega }

/-- **Addresses are assigned in order.** In a run whose requests come past the
timeout where they evict, no two users ever share an address, and every request
is `Orderly`. -/
theorem orderly_run (hexcl : t₀.ipOf.Exclusive) (hne : ∀ text ∈ t₀.texts, text ≠ "")
    (htimely : AllSteps (step cfg) Timely t₀ as) :
    AllSteps (step cfg) (fun t a => t.ipOf.Exclusive ∧
      ∀ t', t.step cfg a = some t' → Orderly t t' a) t₀ as := by
  induction as generalizing t₀ with
  | nil => trivial
  | cons a as ih =>
      refine ⟨⟨hexcl, fun t' h => orderly_step hexcl hne htimely.1 h⟩, fun t h => ?_⟩
      exact ih (exclusive_step hexcl h) (fun text hm => hne text (mem_texts_step h hm))
        (htimely.2 t h)

/-! A pool of one address, held by a user that was last seen at 5, and a second
user without address. -/

def samplePool : KeyedTable StaticIpRow StaticIpRow.ip :=
  ⟨[⟨"10.0.0.5", "02:00:00:00:00:09", false⟩], by decide⟩

def sampleTables : Tables where
  staticIp := samplePool
  user := ⟨[⟨"02:00:00:00:00:07", some "10.0.0.5", some 5⟩, ⟨"02:00:00:00:00:08", none, none⟩],
    by decide⟩

def sampleConfig : Config := ⟨#v[10, 0, 0, 1], #v[255, 255, 255, 0], [], 10000⟩

/-- A request of the MAC that ends in `last`. -/
def sampleRequest (last : UInt8) (isDiscover : Bool) (now : UInt64) : Request :=
  .dhcp ⟨sampleMAC last, #v[0, 0, 0, 1], 1500, isDiscover⟩ now ⟨0, 0⟩ default none

/-- Two hours later the second user gets the address, as it should. -/
theorem orderly_run_sample :
    ∃ t', sampleTables.step sampleConfig (sampleRequest 8 true 7200006) = some t' ∧
      t'.ipOf "02:00:00:00:00:07" = none ∧
      Orderly sampleTables t' (sampleRequest 8 true 7200006) := by
  have hsome : (sampleTables.step sampleConfig (sampleRequest 8 true 7200006)).map
      (fun t => t.ipOf "02:00:00:00:00:07") = some none := by decide
  obtain ⟨t', ht', hlost⟩ := Option.map_eq_some_iff.mp hsome
  have htimely : AllSteps (step sampleConfig) Timely sampleTables [sampleRequest 8 true 7200006] :=
    ⟨by decide, fun _ _ => trivial⟩
  exact ⟨t', ht', hlost, (orderly_run (by decide) (by decide) htimely).1.2 t' ht'⟩

/-- With the clock at 10 the second user gets the address of the first just as well. -/
theorem eviction_wraps :
    sampleTables.ipOf.Exclusive ∧ (∀ text ∈ sampleTables.texts, text ≠ "") ∧
      ∃ t', sampleTables.step sampleConfig (sampleRequest 8 true 10) = some t' ∧
        ¬Orderly sampleTables t' (sampleRequest 8 true 10) := by
  refine ⟨by decide, by decide, ?_⟩
  have hsome : (sampleTables.step sampleConfig (sampleRequest 8 true 10)).map
      (fun t => t.ipOf "02:00:00:00:00:07") = some none := by decide
  obtain ⟨t', ht', hlost⟩ := Option.map_eq_some_iff.mp hsome
  refine ⟨t', ht', fun h => ?_⟩
  obtain ⟨-, -, r, accessed, hr, hacc, hpast, -⟩ :=
    h.loser "02:00:00:00:00:07" "10.0.0.5" (by decide) (by rw [hlost]; exact nofun)
  have hrow : sampleTables.user.row "02:00:00:00:00:07" =
      some ⟨"02:00:00:00:00:07", some "10.0.0.5", some 5⟩ := by decide
  rw [hrow] at hr
  obtain rfl := Option.some.inj hr
  obtain rfl : 5 = accessed := Option.some.inj hacc
  exact absurd hpast (by decide)

end Tables

end GatewaySocket
