import GatewaySocket.Gateway.Forwarding
import GatewaySocket.System.Activity
import GatewaySocket.System.Latency
import GatewaySocket.System.Pipeline

/-!
# The first pass

`main` queues what it has loaded from the tables and starts the threads. The maps
are filled by the handlers, and no handler runs before the gateway's thread has
forwarded a burst of frames in each direction. Until then the maps are empty and
the daemon is a bridge; it is one for 32 frames from each side and not for one
more. Afterwards the static map is what `static_ip` was at startup.
-/

namespace GatewaySocket

open ByteMemory Transition Tables

/-- A frame from inside is processed. -/
def Action.takesIn : Action → Bool
  | .inside (some _) _ => true
  | _ => false

/-- A frame from outside is processed. -/
def Action.takesOut : Action → Bool
  | .outside (some _) _ => true
  | _ => false

namespace Loop

variable {l l' : Loop} {a : Action}

/-- The thread is in its first pass and has not run the handler, and it has processed so
many frames from inside and from outside. -/
def FirstPass (h : Handler) (inside outside : ℕ) : Place → Prop
  | .top => inside = 0 ∧ outside = 0
  | .inBurst rounds => inside = rounds ∧ rounds < ioBurst ∧ outside = 0
  | .outBurst rounds => inside ≤ ioBurst ∧ outside = rounds ∧ rounds < ioBurst
  | .eventLoop => inside ≤ ioBurst ∧ outside ≤ ioBurst
  | .dispatch ready => inside ≤ ioBurst ∧ outside ≤ ioBurst ∧ h ∈ ready

theorem FirstPass.le {h : Handler} {inside outside : ℕ} {place : Place}
    (hfirst : FirstPass h inside outside place) : inside ≤ ioBurst ∧ outside ≤ ioBurst := by
  cases place with
  | top => exact ⟨hfirst.1 ▸ Nat.zero_le _, hfirst.2 ▸ Nat.zero_le _⟩
  | inBurst rounds =>
      obtain ⟨rfl, hlt, rfl⟩ := hfirst
      exact ⟨hlt.le, Nat.zero_le _⟩
  | outBurst rounds =>
      obtain ⟨hle, rfl, hlt⟩ := hfirst
      exact ⟨hle, hlt.le⟩
  | eventLoop => exact hfirst
  | dispatch ready => exact ⟨hfirst.1, hfirst.2.1⟩

/-- A handler that has something to do runs in the first pass. -/
theorem FirstPass.advances {g : Gateway} {h : Handler} {inside outside : ℕ} {place place' : Place}
    (hready : g.ready h = true) (hne : a ≠ .handle h) (hadvances : Advances g place a place')
    (hfirst : FirstPass h inside outside place) :
    FirstPass h (inside + a.takesIn.toNat) (outside + a.takesOut.toNat) place' := by
  cases hadvances with
  | gettimeofday now => exact ⟨hfirst.1, by decide, hfirst.2⟩
  | inside rounds f u =>
      obtain ⟨rfl, hlt, rfl⟩ := hfirst
      unfold Place.nextIn
      split
      · next hmore => exact ⟨rfl, hmore, rfl⟩
      · exact ⟨hlt, rfl, by decide⟩
  | insideEnd rounds u =>
      obtain ⟨rfl, hlt, rfl⟩ := hfirst
      exact ⟨hlt.le, rfl, by decide⟩
  | outside rounds f u =>
      obtain ⟨hle, rfl, hlt⟩ := hfirst
      unfold Place.nextOut
      split
      · next hmore => exact ⟨hle, rfl, hmore⟩
      · exact ⟨hle, hlt⟩
  | outsideEnd rounds u =>
      obtain ⟨hle, rfl, hlt⟩ := hfirst
      exact ⟨hle, hlt.le⟩
  | poll => exact ⟨hfirst.1, hfirst.2, Gateway.mem_poll_iff.mpr hready⟩
  | @handle ready other hmem =>
      refine ⟨hfirst.1, hfirst.2.1, (List.mem_erase_of_ne ?_).mpr hfirst.2.2⟩
      rintro rfl
      exact hne rfl
  | endPass => exact absurd hfirst.2.2 List.not_mem_nil

/-- Only two handlers touch the static map. -/
theorem staticIPMap_moves {g' : Gateway} (h : Moves l a g') :
    g'.staticIPMap =
      match a with
      | .handle .addStaticIp =>
        l.gateway.staticIPAddRequest.queue.foldl StaticIPMap.add l.gateway.staticIPMap
      | .handle .delStaticIp =>
        l.gateway.staticIPDelRequest.queue.foldl UnorderedMap.erase l.gateway.staticIPMap
      | _ => l.gateway.staticIPMap := by
  cases h with
  | call c => exact staticIPMap_call _ c
  | inside h => exact Gateway.staticIPMap_inside h
  | outside frame u => exact Gateway.staticIPMap_outside _ _ _ _
  | @handle handler ready hplace hready =>
      cases handler with
      | addStaticIp => exact Gateway.staticIPMap_addStaticIpHandler _
      | delStaticIp => exact Gateway.staticIPMap_delStaticIpHandler _
      | _ => rfl
  | quiet ha => cases ha <;> rfl

end Loop

def Event.takesIn : Event → Bool
  | .gateway a => a.takesIn
  | _ => false

def Event.takesOut : Event → Bool
  | .gateway a => a.takesOut
  | _ => false

namespace System

variable {cfg : Config} {s s' s₀ : System} {ev : Event} {es : List Event} {t₀ : Tables}
  {inHeap outHeap : Memory} {α : Type} {ch : Channel α} {xs : List α}

/-! ## What is queued at startup -/

/-- What was queued through the channel at startup is still there. -/
structure Starting (ch : Channel α) (xs : List α) (es : List Event) (s : System) : Prop where
  queue : xs <+: ch.queue s.loop.gateway
  place : xs ≠ [] →
    Loop.FirstPass ch.handler (es.countP Event.takesIn) (es.countP Event.takesOut) s.loop.place

theorem starting_step (hs : Starting ch xs es s) (hne : ev ≠ .gateway (.handle ch.handler))
    (hstep : s.step cfg ev = some s') : Starting ch xs (es ++ [ev]) s' := by
  have hcount : ∀ p : Event → Bool, (es ++ [ev]).countP p = es.countP p + (p ev).toNat := by
    intro p
    rw [List.countP_append, List.countP_singleton]
    cases p ev <;> rfl
  rcases step_loop hstep with ⟨hnone, hsame⟩ | ⟨a, ha, hloop⟩
  · have htakes : ev.takesIn = false ∧ ev.takesOut = false := by
      cases ev with
      | gateway a => contradiction
      | _ => exact ⟨rfl, rfl⟩
    refine ⟨hsame ▸ hs.queue, fun hxs => ?_⟩
    rw [hcount, hcount, htakes.1, htakes.2, hsame]
    exact hs.place hxs
  · obtain ⟨hother, hin, hout⟩ : a ≠ .handle ch.handler ∧ ev.takesIn = a.takesIn ∧
        ev.takesOut = a.takesOut := by
      cases ev with
      | gateway b =>
          obtain rfl := Option.some.inj ha
          exact ⟨fun h => hne (congrArg Event.gateway h), rfl, rfl⟩
      | deliver =>
          obtain ⟨c, -, rfl⟩ := Option.map_eq_some_iff.mp ha
          exact ⟨nofun, rfl, rfl⟩
      | _ => contradiction
    have hflow : ch.queue s.loop.gateway ++ ch.called a = ch.queue s'.loop.gateway := by
      simpa [ch.handled_of_ne hother] using ch.conserves _ _ _ hloop
    refine ⟨hflow ▸ hs.queue.trans (List.prefix_append _ _), fun hxs => ?_⟩
    rw [hcount, hcount, hin, hout]
    by_cases hown : a.Own
    · have hready : s.loop.gateway.ready ch.handler = true := by
        refine (ch.ready_iff _).mpr fun hempty => hxs ?_
        exact List.prefix_nil.mp (hempty ▸ hs.queue)
      exact (hs.place hxs).advances hready hother (Loop.advances_of_step hown hloop)
    · have htakes : a.takesIn = false ∧ a.takesOut = false := by
        cases a with
        | call c => exact ⟨rfl, rfl⟩
        | _ => exact absurd trivial hown
      rw [htakes.1, htakes.2, Loop.place_call hown hloop]
      exact hs.place hxs

/-- As long as the handler has not run, no more frames have been processed than the
two bursts of one pass. -/
theorem first_pass (ch : Channel α) (hplace : s₀.loop.place = .top) (hxs : xs ≠ [])
    (hqueue : xs <+: ch.queue s₀.loop.gateway) (hrun : run (step cfg) s₀ es = some s)
    (hnot : .gateway (.handle ch.handler) ∉ es) :
    es.countP Event.takesIn ≤ ioBurst ∧ es.countP Event.takesOut ≤ ioBurst := by
  have hstarting : .gateway (.handle ch.handler) ∉ es → Starting ch xs es s := by
    refine run_induction_snoc (P := fun es s =>
      .gateway (.handle ch.handler) ∉ es → Starting ch xs es s) ?_ (fun _ => ⟨hqueue, fun _ => ?_⟩) hrun
    · intro es s ev s' hs hstep hnot
      rw [List.mem_append, not_or, List.mem_singleton] at hnot
      exact starting_step (hs hnot.1) (Ne.symm hnot.2) hstep
    · rw [hplace]
      exact ⟨rfl, rfl⟩
  exact ((hstarting hnot).place hxs).le

/-! ## The static map -/

/-- The database thread makes no call about static addresses. -/
theorem not_isStatic_of_mem_calls {a : Request} {t : Tables} {o : Outcome} {c : Call}
    (ho : t.process cfg a = some o) (hc : c ∈ o.calls) : ¬c.IsStatic := by
  cases a with
  | dhcp request now choice u fault =>
      obtain ⟨ip, -, -, hcalls⟩ := process_dhcp ho
      rw [hcalls] at hc
      cases hans : o.answer with
      | none =>
          rw [hans] at hc
          contradiction
      | some ans =>
          rw [hans, Option.map_some, Option.getD_some, Answer.calls] at hc
          cases hdiscover : ans.isDiscover <;> simp only [hdiscover] at hc <;>
            simp at hc <;> rcases hc with rfl | rfl <;> exact id
  | update request fault =>
      obtain ⟨-, -, -, hdel | ⟨hnil, -⟩⟩ := process_update ho
      · rw [hdel, List.mem_singleton] at hc
        exact hc ▸ id
      · rw [hnil] at hc
        contradiction

theorem calls_step (hcalls : ∀ c ∈ s.thread.calls, ¬c.IsStatic) (hstep : s.step cfg ev = some s') :
    ∀ c ∈ s'.thread.calls, ¬c.IsStatic := by
  cases steps_of_step hstep with
  | serve hnil htemp ho => exact fun c hc => not_isStatic_of_mem_calls ho hc
  | @deliver c calls hcons => exact fun c' hc' => hcalls c' (hcons ▸ List.mem_cons_of_mem c hc')
  | @dispatch handler hidle => cases handler <;> exact hcalls
  | gateway | poll | others => exact hcalls

/-- What is queued about static addresses is handled in one go, and nothing is added. -/
theorem static_step (hcalls : ∀ c ∈ s.thread.calls, ¬c.IsStatic)
    (hown : ∀ c, ev ≠ .gateway (.call c)) (hstep : s.step cfg ev = some s')
    (hdel : s.loop.gateway.staticIPDelRequest.queue = []) :
    s'.loop.gateway.staticIPDelRequest.queue = [] ∧
      (ev = .gateway (.handle .addStaticIp) ∧ s'.loop.gateway.staticIPAddRequest.queue = [] ∧
          s'.loop.gateway.staticIPMap =
            s.loop.gateway.staticIPAddRequest.queue.foldl StaticIPMap.add s.loop.gateway.staticIPMap ∨
        ev ≠ .gateway (.handle .addStaticIp) ∧
          s'.loop.gateway.staticIPAddRequest.queue = s.loop.gateway.staticIPAddRequest.queue ∧
          s'.loop.gateway.staticIPMap = s.loop.gateway.staticIPMap) := by
  rcases step_loop hstep with ⟨hnone, hsame⟩ | ⟨a, ha, hloop⟩
  · refine ⟨hsame ▸ hdel, .inr ⟨?_, by rw [hsame], by rw [hsame]⟩⟩
    rintro rfl
    contradiction
  obtain ⟨hadded, hdeleted, hhandle⟩ : Channel.staticIPAdd.called a = [] ∧
      Channel.staticIPDel.called a = [] ∧
      (a = .handle .addStaticIp ↔ ev = .gateway (.handle .addStaticIp)) := by
    cases ev with
    | gateway b =>
        obtain rfl := Option.some.inj ha
        cases b with
        | call c => exact absurd rfl (hown c)
        | _ => exact ⟨rfl, rfl, ⟨congrArg _, Event.gateway.inj⟩⟩
    | deliver =>
        obtain ⟨c, hc, rfl⟩ := Option.map_eq_some_iff.mp ha
        have hstatic := hcalls c (List.mem_of_head? hc)
        cases c with
        | addStaticIP | delStaticIP => exact absurd trivial hstatic
        | _ => exact ⟨rfl, rfl, ⟨nofun, nofun⟩⟩
    | _ => contradiction
  have hmap := Loop.staticIPMap_moves (Loop.step_moves hloop)
  have hadd := Channel.staticIPAdd.conserves _ _ _ hloop
  have hdel' := Channel.staticIPDel.conserves _ _ _ hloop
  simp only [hadded, hdeleted, List.append_nil] at hadd hdel'
  refine ⟨(List.append_eq_nil_iff.mp (hdel'.symm.trans hdel)).2, ?_⟩
  by_cases ha' : a = .handle .addStaticIp
  · subst ha'
    exact .inl ⟨hhandle.mp rfl, List.append_cancel_left (hadd.symm.trans (List.append_nil _).symm),
      hmap⟩
  · refine .inr ⟨fun h => ha' (hhandle.mpr h), ?_, ?_⟩
    · rw [Channel.handled_of_ne _ ha'] at hadd
      exact hadd.symm
    · cases a with
      | handle handler =>
          cases handler with
          | addStaticIp => exact absurd rfl ha'
          | delStaticIp =>
              rw [hmap, hdel]
              rfl
          | _ => exact hmap
      | _ => exact hmap

/-- The static map is empty until its handler runs, and then it is as loaded. -/
structure StaticLoaded (loaded : List (InAddr × EtherAddr)) (es : List Event) (s : System) :
    Prop where
  deletions : s.loop.gateway.staticIPDelRequest.queue = []
  calls : ∀ c ∈ s.thread.calls, ¬c.IsStatic
  before : .gateway (.handle .addStaticIp) ∉ es →
    s.loop.gateway.staticIPAddRequest.queue = loaded ∧ s.loop.gateway.staticIPMap = .empty
  after : .gateway (.handle .addStaticIp) ∈ es →
    s.loop.gateway.staticIPAddRequest.queue = [] ∧
      s.loop.gateway.staticIPMap = loaded.foldl StaticIPMap.add .empty

theorem staticLoaded_step {loaded : List (InAddr × EtherAddr)} (hs : StaticLoaded loaded es s)
    (hown : ∀ c, ev ≠ .gateway (.call c)) (hstep : s.step cfg ev = some s') :
    StaticLoaded loaded (es ++ [ev]) s' := by
  obtain ⟨hdel, hcases⟩ := static_step hs.calls hown hstep hs.deletions
  refine ⟨hdel, calls_step hs.calls hstep, fun hnot => ?_, fun hmem => ?_⟩
  · rw [List.mem_append, not_or, List.mem_singleton] at hnot
    obtain ⟨hadd, hmap⟩ := hs.before hnot.1
    rcases hcases with ⟨rfl, -⟩ | ⟨-, hadd', hmap'⟩
    · exact absurd rfl hnot.2
    · exact ⟨hadd'.trans hadd, hmap'.trans hmap⟩
  · rcases hcases with ⟨-, hadd', hmap'⟩ | ⟨hne, hadd', hmap'⟩
    · refine ⟨hadd', hmap'.trans ?_⟩
      by_cases hbefore : .gateway (.handle .addStaticIp) ∈ es
      · obtain ⟨hadd, hmap⟩ := hs.after hbefore
        rw [hadd, hmap]
        rfl
      · obtain ⟨hadd, hmap⟩ := hs.before hbefore
        rw [hadd, hmap]
    · obtain ⟨hadd, hmap⟩ := hs.after ((List.mem_append.mp hmem).resolve_right
        fun h => hne (List.mem_singleton.mp h).symm)
      exact ⟨hadd'.trans hadd, hmap'.trans hmap⟩

/-- The user map is empty until its handler runs. -/
theorem userMap_empty (hstart : start cfg t₀ inHeap outHeap = some s₀)
    (hrun : run (step cfg) s₀ es = some s) (hnot : .gateway (.handle .addUser) ∉ es) (ip : InAddr) :
    s.loop.gateway.userMap.find ip = none := by
  have hall : .gateway (.handle .addUser) ∉ es → ∀ ip, s.loop.gateway.userMap.find ip = none := by
    refine run_induction_snoc (P := fun es s => .gateway (.handle .addUser) ∉ es →
      ∀ ip, s.loop.gateway.userMap.find ip = none) ?_ (fun _ ip => ?_) hrun
    · intro es s ev s' hs hstep hnot ip
      rw [List.mem_append, not_or, List.mem_singleton] at hnot
      have hnone := hs hnot.1 ip
      by_contra hsome
      obtain ⟨info, hinfo⟩ := Option.ne_none_iff_exists'.mp hsome
      rcases find_cases hstep hinfo with hold | ⟨hev, -, -⟩ | ⟨a, old, -, ⟨f, u, -, hknown, -⟩, -⟩
      · rw [hnone] at hold
        contradiction
      · exact hnot.2 hev.symm
      · rw [(Gateway.known_eq_some hknown).1] at hnone
        contradiction
    · rw [(started hstart).userMap]
      rfl
  exact hall hnot ip

/-! ## From startup on -/

theorem map_of_mapM_eq_some {β γ : Type*} {f : α → Option β} {g : β → γ} {k : α → γ}
    (hfg : ∀ a b, f a = some b → g b = k a) {as : List α} {bs : List β} (h : as.mapM f = some bs) :
    bs.map g = as.map k := by
  induction as generalizing bs with
  | nil =>
      obtain rfl : [] = bs := by simpa using h
      rfl
  | cons a as ih =>
      rw [List.mapM_cons] at h
      obtain ⟨b, hb, h⟩ := Option.bind_eq_some_iff.mp h
      obtain ⟨bs, hbs, h⟩ := Option.bind_eq_some_iff.mp h
      obtain rfl := Option.some.inj h
      rw [List.map_cons, List.map_cons, hfg a b hb, ih hbs]

theorem staticLoaded_start (hstart : start cfg t₀ inHeap outHeap = some s) :
    ∃ loaded, t₀.getAllStaticIP = some loaded ∧ StaticLoaded loaded [] s := by
  have hgateway := gateway_start hstart
  have hthread := (started hstart).thread
  obtain ⟨loaded, hloaded, -⟩ := Option.bind_eq_some_iff.mp hstart
  have hmap : ∀ (cs : List Call) (g : Gateway),
      (cs.foldl Gateway.call g).staticIPMap = g.staticIPMap := by
    intro cs
    induction cs with
    | nil => exact fun _ => rfl
    | cons c cs ih => exact fun g => (ih _).trans (Loop.staticIPMap_call g c)
  have hadd := Channel.staticIPAdd.queue_foldl_call (startupCalls cfg t₀) Gateway.init
  have hdel := Channel.staticIPDel.queue_foldl_call (startupCalls cfg t₀) Gateway.init
  refine ⟨loaded, hloaded, ?_, ?_, fun _ => ⟨?_, ?_⟩, fun h => absurd h List.not_mem_nil⟩
  · rw [hgateway]
    refine hdel.trans ?_
    simp [startupCalls, Channel.staticIPDel, Call.deletedStatic, Gateway.init, RequestQueue.empty]
  · rw [hthread]
    exact fun c hc => absurd hc List.not_mem_nil
  · rw [hgateway]
    refine hadd.trans ?_
    simp [startupCalls, Channel.staticIPAdd, Call.addedStatic, Gateway.init, RequestQueue.empty,
      hloaded, Function.comp_def]
  · rw [hgateway, hmap]
    rfl

end System

namespace Gateway

variable {g : Gateway} {t : UInt64} {p : Packet} {u : Indeterminate} {f : Frame}

/-- Without maps the daemon is a bridge, but for DHCP. -/
theorem bridge (hstatic : ∀ ip, g.staticIPMap.find ip = none)
    (huser : ∀ ip, g.userMap.find ip = none) (hcovered : f.Covered) (hlen : f.length ≤ 1514) :
    (f.InOrder 68 67 → ∃ e, g.inside t p f u = some e ∧ e.toOutside = [f]) ∧
      (f.InOrder 67 68 → ¬f.IsStray → (g.outside p f u).toInside = [f]) := by
  have howner : ∀ ip, g.translator.inner ip = none := by
    intro ip
    simp only [translator, UserMap.owner, huser, Option.map_none]
  constructor
  · intro horder
    have hsome : g.inside t p f u ≠ none := by
      intro hnone
      rw [← Option.map_eq_none_iff (f := Effect.outcome), inside_outcome_eq hcovered,
        insideOutcome_eq_none_iff] at hnone
      exact absurd (hnone.2.2.2.1.symm.trans (howner f.sourceIP)) (Option.some_ne_none _)
    obtain ⟨e, he⟩ := Option.ne_none_iff_exists'.mp hsome
    have hpassed : g.translator.leave f.destinationIP f.sourceIP f.etherSource = .passed :=
      Translator.leave_eq_passed_iff.mpr ⟨hstatic _, howner _, hstatic _⟩
    refine ⟨e, he, ?_⟩
    rw [← (Router.Output.mk.inj (router_inside hcovered he).2).2, Translator.toOutside,
      if_neg (Nat.not_lt.mpr hlen), Frame.readInside, if_pos horder]
    simp only [Translator.fate, hpassed, Fate.frames]
  · intro horder hstray
    have hpassed : g.translator.enter f.everybody f.destinationIP f.sourceIP f.etherDestination =
        .passed := Translator.enter_eq_passed_iff.mpr ⟨hstatic _, .inl (hstatic _)⟩
    rw [← (Router.Output.mk.inj (router_outside (p := p) (u := u) hcovered).2).1,
      Translator.toInside, if_neg (not_or.mpr ⟨Nat.not_lt.mpr hlen, hstray⟩), Frame.readOutside,
      if_pos horder]
    simp only [Translator.fate, hpassed, Fate.frames]

end Gateway

namespace System

variable {cfg : Config} {s s₀ : System} {es : List Event} {t₀ : Tables} {inHeap outHeap : Memory}

/-- **The first pass.** As long as the handler of the static addresses has not run, the
static map is empty, and at most 32 frames have been processed from each side if there
is anything to load; from then on the static map has an entry for the addresses of
`static_ip` at startup, each with a hardware address that the table has for it, and no
other. The same goes for the users until their handler runs. Before both, every message
of at most 1514 bytes that is in order and complete gets across as it is. -/
theorem startup_run (hstart : start cfg t₀ inHeap outHeap = some s₀)
    (hown : ∀ c, .gateway (.call c) ∉ es) (hrun : run (step cfg) s₀ es = some s) :
    (.gateway (.handle .addStaticIp) ∉ es →
      (∀ ip, s.loop.gateway.staticIPMap.find ip = none) ∧
      (t₀.staticIp.rows ≠ [] →
        es.countP Event.takesIn ≤ ioBurst ∧ es.countP Event.takesOut ≤ ioBurst)) ∧
    (.gateway (.handle .addStaticIp) ∈ es → ∀ ip,
      (∀ mac, s.loop.gateway.staticIPMap.find ip = some mac →
        ∃ row ∈ t₀.staticIp.rows, inetAddr row.ip = ip ∧ readMAC row.mac = some mac) ∧
      ((∃ row ∈ t₀.staticIp.rows, inetAddr row.ip = ip) → s.loop.gateway.staticIPMap.Has ip)) ∧
    (.gateway (.handle .addUser) ∉ es →
      (∀ ip, s.loop.gateway.userMap.find ip = none) ∧
      (t₀.loaded cfg ≠ [] →
        es.countP Event.takesIn ≤ ioBurst ∧ es.countP Event.takesOut ≤ ioBurst)) ∧
    (.gateway (.handle .addStaticIp) ∉ es → .gateway (.handle .addUser) ∉ es →
      ∀ f u, f.Covered → f.length ≤ 1514 →
        (f.InOrder 68 67 → ∃ e,
          s.loop.gateway.inside s.loop.currentTime s.loop.inPacket f u = some e ∧
            e.toOutside = [f]) ∧
        (f.InOrder 67 68 → ¬f.IsStray →
          (s.loop.gateway.outside s.loop.outPacket f u).toInside = [f])) := by
  have hs₀ := started hstart
  obtain ⟨loaded, hloaded, hstatic₀⟩ := staticLoaded_start hstart
  have hstatic : StaticLoaded loaded es s := by
    have hall : (∀ c, .gateway (.call c) ∉ es) → StaticLoaded loaded es s := by
      refine run_induction_snoc (P := fun es s =>
        (∀ c, .gateway (.call c) ∉ es) → StaticLoaded loaded es s) ?_ (fun _ => hstatic₀) hrun
      intro es s ev s' hs hstep hown
      refine staticLoaded_step (hs fun c hc => hown c (List.mem_append_left _ hc)) ?_ hstep
      rintro c rfl
      exact hown c (List.mem_append_right _ (List.mem_singleton.mpr rfl))
    exact hall hown
  have hkeys : loaded.map Prod.fst = t₀.staticIp.rows.map fun row => inetAddr row.ip := by
    refine map_of_mapM_eq_some (fun row data h => ?_) hloaded
    obtain ⟨mac, -, rfl⟩ := Option.map_eq_some_iff.mp h
    rfl
  have hempty : .gateway (.handle .addStaticIp) ∉ es →
      ∀ ip, s.loop.gateway.staticIPMap.find ip = none := by
    intro hnot ip
    rw [(hstatic.before hnot).2]
    rfl
  refine ⟨fun hnot => ⟨hempty hnot, fun hrows => ?_⟩, fun hmem ip => ?_,
    fun hnot => ⟨userMap_empty hstart hrun hnot, fun husers => ?_⟩, fun hnot hnot' f u => ?_⟩
  · have hsome : loaded ≠ [] := by
      rintro rfl
      exact hrows (List.map_eq_nil_iff.mp hkeys.symm)
    have hqueue := (hstatic₀.before List.not_mem_nil).1
    exact first_pass .staticIPAdd hs₀.place hsome (hqueue ▸ List.prefix_rfl) hrun hnot
  · rw [UnorderedMap.Has, (hstatic.after hmem).2]
    constructor
    · intro mac hmac
      by_cases hnamed : ∃ data ∈ loaded, data.1 = ip
      · obtain ⟨data, hdata, rfl, hfind⟩ :=
          UnorderedMap.find_foldl_of_named StaticIPMap.find_add .empty hnamed
        obtain ⟨row, hrow, hread⟩ := mem_of_mapM_eq_some hloaded hdata
        obtain ⟨mac', hmac', rfl⟩ := Option.map_eq_some_iff.mp hread
        obtain rfl : mac' = mac := Option.some.inj (hfind.symm.trans hmac)
        exact ⟨row, hrow, rfl, hmac'⟩
      · rw [UnorderedMap.find_foldl_of_unnamed StaticIPMap.find_add .empty
          fun data hdata hip => hnamed ⟨data, hdata, hip⟩] at hmac
        contradiction
    · rintro ⟨row, hrow, hip⟩
      have hnamed : ip ∈ loaded.map Prod.fst := by
        rw [hkeys, ← hip]
        exact List.mem_map_of_mem hrow
      obtain ⟨data, -, -, hfind⟩ := UnorderedMap.find_foldl_of_named StaticIPMap.find_add .empty
        (List.mem_map.mp hnamed)
      rw [hfind]
      rfl
  · have hqueue : t₀.loaded cfg = s₀.loop.gateway.userAddRequest.queue := by
      rw [Tables.loaded, hs₀.users]
      rfl
    exact first_pass .userAdd hs₀.place husers (hqueue ▸ List.prefix_rfl) hrun hnot
  · intro hcovered hlen
    have hbridge := fun p => Gateway.bridge (t := s.loop.currentTime) (p := p) (u := u) (hempty hnot)
      (userMap_empty hstart hrun hnot') hcovered hlen
    exact ⟨(hbridge s.loop.inPacket).1, (hbridge s.loop.outPacket).2⟩

/-- A first pass with one frame. -/
def sampleFirstPass : List Event :=
  pass 1 [Gateway.sampleRequest Gateway.sampleUserMAC] [.addStaticIp, .addUser]

/-- The frame goes across before the static map has the address of its sender. -/
theorem startup_run_pass :
    ∃ s₀ s₁ s e, start sampleConfig sampleTables (fun _ => 0) (fun _ => 0) = some s₀ ∧
      run (step sampleConfig) s₀ (sampleFirstPass.take 1) = some s₁ ∧
      s₁.loop.gateway.inside s₁.loop.currentTime s₁.loop.inPacket
        (Gateway.sampleRequest Gateway.sampleUserMAC) default = some e ∧
      e.toOutside = [Gateway.sampleRequest Gateway.sampleUserMAC] ∧
      run (step sampleConfig) s₀ sampleFirstPass = some s ∧
      s.loop.gateway.staticIPMap.Has sampleIP := by
  have hcheck : ∃ s₀ ∈ start sampleConfig sampleTables (fun _ => 0) (fun _ => 0),
      (run (step sampleConfig) s₀ (sampleFirstPass.take 1)).isSome ∧
        (run (step sampleConfig) s₀ sampleFirstPass).isSome := by
    decide +kernel
  obtain ⟨s₀, hstart, hsome₁, hsome⟩ := hcheck
  obtain ⟨s₁, hrun₁⟩ := Option.isSome_iff_exists.mp hsome₁
  obtain ⟨s, hrun⟩ := Option.isSome_iff_exists.mp hsome
  obtain ⟨-, -, -, hbridge⟩ := startup_run hstart (by simp [sampleFirstPass, pass]) hrun₁
  obtain ⟨e, he, hwritten⟩ := (hbridge (by simp [sampleFirstPass, pass])
    (by simp [sampleFirstPass, pass]) (Gateway.sampleRequest Gateway.sampleUserMAC) default
    (by decide +kernel) (by decide)).1 (by decide +kernel)
  obtain ⟨-, hloaded, -⟩ := startup_run hstart (by simp [sampleFirstPass, pass]) hrun
  exact ⟨s₀, s₁, s, e, hstart, hrun₁, he, hwritten, hrun,
    (hloaded (by simp [sampleFirstPass, pass]) sampleIP).2 (by decide +kernel)⟩

end System

end GatewaySocket
