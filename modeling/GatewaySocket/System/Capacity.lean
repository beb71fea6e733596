import GatewaySocket.Database.Capacity
import GatewaySocket.System.Agreement

/-!
# The gateway with room for everybody

The gateway is told of additions only, so an eviction leaves it with a user whom
the database has given up. With an address in the pool for each client there are
no evictions, and then what the gateway knows is backed by the user table at every
moment, and not only when nothing is under way.
-/

namespace GatewaySocket

open ByteMemory Transition Tables

/-- What a row gives it goes on giving as long as no address is lost. -/
theorem Tables.Gives.mono {t t' : Tables} {ip : InAddr} {mac : EtherAddr} (h : t.Gives ip mac)
    (hkept : ∀ m text, t.ipOf m = some text → t'.ipOf m = some text) : t'.Gives ip mac := by
  obtain ⟨m, text, hm, hip, haddr⟩ := h
  exact ⟨m, text, hm, hkept m text hip, haddr⟩

namespace System

variable {cfg : Config} {s s' s₀ : System} {ev : Event} {es : List Event} {t₀ : Tables}
  {inHeap outHeap : Memory}

/-- Other clients leave the users to the daemon, and room in the pool. -/
def Provides (s : System) : Event → Prop
  | .others t =>
    t.user.rows = s.tables.user.rows ∧ (∀ row ∈ t.staticIp.rows, row.ip ≠ "") ∧ t.Roomy
  | _ => True

instance (s : System) : DecidablePred s.Provides
  | .others t => inferInstanceAs (Decidable (t.user.rows = s.tables.user.rows ∧ _))
  | .gateway _ | .poll | .dispatch _ | .serve _ _ _ _ | .deliver => .isTrue trivial

/-- Nobody has lost an address, and the user table gives its address to everybody
whom the gateway has, or is told of, as a user. -/
structure Backed (t₀ : Tables) (s : System) : Prop where
  nonempty : ∀ text ∈ s.tables.texts, text ≠ ""
  roomy : s.tables.Roomy
  kept : ∀ mac text, t₀.ipOf mac = some text → s.tables.ipOf mac = some text
  called : ∀ info, .addUserInfo info ∈ s.thread.calls → s.tables.Gives info.ip info.userMac
  queued : ∀ info ∈ s.loop.gateway.userAddRequest.queue, s.tables.Gives info.ip info.userMac
  owned : ∀ ip mac, UserMap.owner s.loop.gateway.userMap ip = some mac → s.tables.Gives ip mac

theorem backed_started (hs : Started cfg t₀ s) (hne : ∀ text ∈ t₀.texts, text ≠ "")
    (hroomy : t₀.Roomy) : Backed t₀ s where
  nonempty := by
    rw [hs.tables]
    exact hne
  roomy := by
    rw [hs.tables]
    exact hroomy
  kept := by
    rw [hs.tables]
    exact fun _ _ => id
  called := by
    rw [hs.thread]
    exact fun _ => nofun
  queued := by
    rw [hs.tables]
    exact fun info hinfo => Tables.gives_of_getAllUser hs.users hinfo
  owned := by
    rw [hs.userMap]
    exact fun _ _ => nofun

/-- What the loop's share of a step does to the users of the gateway. -/
theorem Backed.moves {a : Action} {g' : Gateway} (hb : Backed t₀ s) (hmoves : Loop.Moves s.loop a g')
    (hcall : ∀ info, a = .call (.addUserInfo info) → s.tables.Gives info.ip info.userMac) :
    (∀ info ∈ g'.userAddRequest.queue, s.tables.Gives info.ip info.userMac) ∧
      ∀ ip mac, UserMap.owner g'.userMap ip = some mac → s.tables.Gives ip mac := by
  constructor
  · intro info hinfo
    rcases hmoves.mem_userAddRequest hinfo with hold | hnew
    · exact hb.queued info hold
    · exact hcall info hnew
  · intro ip mac howner
    rcases hmoves.owner_cases howner with hold | ⟨-, info, hinfo, rfl, rfl⟩
    · exact hb.owned ip mac hold
    · exact hb.queued info hinfo

theorem backed_step (hb : Backed t₀ s) (hprovides : s.Provides ev)
    (hstep : s.step cfg ev = some s') : Backed t₀ s' := by
  cases steps_of_step hstep with
  | @gateway a loop e hopen hexec =>
      obtain ⟨hqueued, howned⟩ := hb.moves (Loop.step_moves (by rw [Loop.step, hexec]; rfl)) (by
        rintro info rfl
        exact hopen.elim)
      exact ⟨hb.nonempty, hb.roomy, hb.kept, hb.called, hqueued, howned⟩
  | poll hidle => exact ⟨hb.nonempty, hb.roomy, hb.kept, hb.called, hb.queued, hb.owned⟩
  | @dispatch handler hidle =>
      cases handler <;> exact ⟨hb.nonempty, hb.roomy, hb.kept, hb.called, hb.queued, hb.owned⟩
  | @serve now choice u fault job temp o hcalls htemp ho =>
      have hkept : ∀ m text, s.tables.ipOf m = some text → o.tables.ipOf m = some text := by
        intro m text hip
        exact hb.roomy.ipOf_step hb.nonempty hip (step_of_process ho)
      refine {
        nonempty := fun text htext => hb.nonempty text (mem_texts_step (step_of_process ho) htext)
        roomy := roomy_step hb.roomy hb.nonempty (step_of_process ho)
        kept := fun mac text hip => hkept mac text (hb.kept mac text hip)
        called := fun info hinfo => ?_
        queued := fun info hinfo => (hb.queued info hinfo).mono hkept
        owned := fun ip mac howner => (hb.owned ip mac howner).mono hkept }
      obtain ⟨r, -, -, -, -, text, -, -, hmac, -, htext, -, haddr⟩ :=
        Tables.grant_of_addUserInfo ho hinfo
      exact ⟨_, text, by rw [readMAC_printMAC, hmac], htext, haddr⟩
  | @deliver c calls hcalls =>
      obtain ⟨hqueued, howned⟩ := hb.moves (.call c) (by
        rintro info hc
        obtain rfl := Action.call.inj hc
        exact hb.called info (by rw [hcalls]; exact List.mem_cons_self))
      refine ⟨hb.nonempty, hb.roomy, hb.kept, fun info hinfo => hb.called info ?_, hqueued, howned⟩
      rw [hcalls]
      exact List.mem_cons_of_mem c hinfo
  | others t =>
      obtain ⟨huser, hstatic, hroomy⟩ := hprovides
      have hip : t.ipOf = s.tables.ipOf := by
        funext m
        rw [Tables.ipOf, Tables.ipOf, KeyedTable.row, KeyedTable.row, huser]
      have hkept : ∀ m text, s.tables.ipOf m = some text → t.ipOf m = some text := by
        rw [hip]
        exact fun _ _ => id
      refine {
        nonempty := fun text htext => ?_
        roomy := hroomy
        kept := fun mac text h => hkept mac text (hb.kept mac text h)
        called := fun info hinfo => (hb.called info hinfo).mono hkept
        queued := fun info hinfo => (hb.queued info hinfo).mono hkept
        owned := fun ip mac howner => (hb.owned ip mac howner).mono hkept }
      rcases mem_texts.mp htext with ⟨row, hrow, rfl⟩ | ⟨m, hm⟩
      · exact hstatic row hrow
      · rw [hip] at hm
        exact hb.nonempty text (mem_texts.mpr (.inr ⟨m, hm⟩))

/-- **With room for everybody the gateway is never behind.** If no address text is empty
and there is room in the pool, at startup and after whatever other clients write, then
in every state of every run whoever has had an address has it still, and every entry
of the user map is what the row of its client says at that moment. -/
theorem backed_run (hstart : start cfg t₀ inHeap outHeap = some s₀)
    (hne : ∀ text ∈ t₀.texts, text ≠ "") (hroomy : t₀.Roomy)
    (hprovides : AllSteps (step cfg) Provides s₀ es) (hrun : run (step cfg) s₀ es = some s) :
    (∀ mac text, t₀.ipOf mac = some text → s.tables.ipOf mac = some text) ∧
      ∀ ip mac, UserMap.owner s.loop.gateway.userMap ip = some mac → s.tables.Gives ip mac := by
  have hb : Backed t₀ s := run_induction_of_allSteps (P := fun m => Backed t₀ m)
    (fun _ _ _ hb hcond hstep => backed_step hb hcond hstep)
    (backed_started (started hstart) hne hroomy) hprovides hrun
  exact ⟨hb.kept, hb.owned⟩

/-- With a second address in the pool the request of the second client leaves the
first one where it is. -/
theorem backed_run_grant :
    ∃ s₀ s, start sampleConfig sampleRoomy (fun _ => 0) (fun _ => 0) = some s₀ ∧
      run (step sampleConfig) s₀ (sampleGrantRun 8) = some s ∧
      s.tables.ipOf (printMAC (sampleMAC 7)) = some "10.0.0.5" ∧
      UserMap.owner s.loop.gateway.userMap sampleIP = some (sampleMAC 7) ∧
      s.tables.Gives sampleIP (sampleMAC 7) := by
  have hcheck : ∃ s₀ ∈ start sampleConfig sampleRoomy (fun _ => 0) (fun _ => 0),
      (∀ x ∈ history (step sampleConfig) s₀ (sampleGrantRun 8), x.1.Provides x.2) ∧
        ∃ s ∈ run (step sampleConfig) s₀ (sampleGrantRun 8),
          UserMap.owner s.loop.gateway.userMap sampleIP = some (sampleMAC 7) := by
    decide +kernel
  obtain ⟨s₀, hstart, hprovides, s, hrun, howner⟩ := hcheck
  obtain ⟨hkept, howned⟩ := backed_run hstart (by decide) (by decide +kernel)
    (allSteps_of_history hprovides) hrun
  exact ⟨s₀, s, hstart, hrun, hkept _ _ (by decide +kernel), howner, howned _ _ howner⟩

end System

end GatewaySocket
