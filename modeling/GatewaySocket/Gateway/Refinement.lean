import GatewaySocket.Gateway.Maps
import GatewaySocket.Gateway.Router
import GatewaySocket.Transition.Flow

/-!
# The loop refines the translator

`Router` is the gateway without its buffers, queues and bursts: a table of names
that is changed and that answers each frame at once. Every run of the loop is one
of the router, with the batches of the handlers spelled out, and writes the same
frames to the same devices in the same order.

What the router knows of an address matters to the frames of that address only, so
the traffic of some addresses takes no notice of what happens to the others.
-/

namespace GatewaySocket

open ByteMemory Transition

namespace Router

/-- What happens to the router. -/
inductive Input
  | inside (f : Frame)
  | outside (f : Frame)
  | change (ev : Translator.Event InAddr EtherAddr)
  /-- an answer of the database for a client inside -/
  | send (f : Frame)
  deriving DecidableEq

/-- The frames that the router writes. -/
structure Output where
  toInside : List Frame := []
  toOutside : List Frame := []
  deriving DecidableEq

/-- What the input asks of the table, or changes in it. -/
def Input.event : Input → Option (Translator.Event InAddr EtherAddr)
  | inside f => if 1514 < f.length then none else f.readInside.event
  | outside f => if 1514 < f.length then none else f.readOutside.event
  | change ev => some ev
  | send _ => none

def step (T : Translator InAddr EtherAddr) (i : Input) : Translator InAddr EtherAddr :=
  i.event.elim T T.step

/-- A frame that is too long is answered; others go to the other side, if anywhere. -/
def out (T : Translator InAddr EtherAddr) : Input → Output
  | .inside f => { toOutside := T.toOutside f, toInside := if 1514 < f.length then f.answer else [] }
  | .outside f => { toInside := T.toInside f, toOutside := if 1514 < f.length then f.answer else [] }
  | .change _ => {}
  | .send f => { toInside := [f] }

/-! ## The traffic of some addresses -/

/-- A frame between these addresses, or a change of their entries. -/
def Own (K : InAddr → Prop) (i : Input) : Prop := ∃ ev ∈ i.event, ev.Within K

/-- A frame that is not for these addresses, or a change of other entries. -/
def Apart (K : InAddr → Prop) (i : Input) : Prop := ∀ ev ∈ i.event, ev.Apart K

instance (K : InAddr → Prop) [DecidablePred K] (i : Input) : Decidable (Own K i) :=
  inferInstanceAs (Decidable (∃ ev ∈ i.event, _))

instance (K : InAddr → Prop) [DecidablePred K] (i : Input) : Decidable (Apart K i) :=
  inferInstanceAs (Decidable (∀ ev ∈ i.event, _))

variable {K : InAddr → Prop} {T T' : Translator InAddr EtherAddr}

theorem Own.within {i : Input} (h : Own K i) : ∀ ev ∈ i.event, ev.Within K := by
  obtain ⟨ev', hev', hwithin⟩ := h
  intro ev hev
  rwa [Option.mem_unique hev hev']

/-- The answer to a frame is that to what it asks of the table. -/
theorem out_congr {i : Input} (h : ∀ ev ∈ i.event, T.fate ev = T'.fate ev) : out T i = out T' i := by
  cases i with
  | inside f =>
      simp only [out, Translator.toOutside]
      by_cases hlong : 1514 < f.length
      · simp only [if_pos hlong]
      simp only [Input.event, if_neg hlong] at h ⊢
      cases hread : f.readInside with
      | refused | other => rfl
      | message ev => simp only [h ev (by rw [hread]; rfl)]
  | outside f =>
      simp only [out, Translator.toInside]
      by_cases hlong : 1514 < f.length
      · simp only [hlong, true_or, if_true]
      simp only [Input.event, if_neg hlong] at h ⊢
      cases hread : f.readOutside with
      | refused | other => rfl
      | message ev => simp only [h ev (by rw [hread]; rfl)]
  | change ev | send f => rfl

/-- What happens to other addresses leaves the traffic of these as it is. -/
theorem unwinds (K : InAddr → Prop) :
    Unwinds step out (Own K) (Apart K) (Translator.AgreeOn K) where
  output := fun _ _ _ hagree hown => out_congr fun ev hev => hagree.fate (hown.within ev hev)
  own := by
    intro T T' i hagree hown
    have hwithin := hown.within
    simp only [step]
    cases hev : i.event with
    | none => exact hagree
    | some ev => exact hagree.step (hwithin ev hev)
  other := by
    intro T T' i hagree happart
    simp only [step]
    cases hev : i.event with
    | none => exact hagree
    | some ev => exact hagree.step_left (happart ev hev)

end Router

namespace Gateway

variable {g : Gateway} {t : UInt64} {p : Packet} {f : Frame} {u : Indeterminate} {e : Effect}

/-! ## Rounds of the loops -/

theorem emission_insideOutcome {o : Gateway × Emission} (h : g.insideOutcome t f = some o) :
    o.2.toOutside = g.translator.toOutside f ∧
      o.2.toInside = if 1514 < f.length then f.answer else [] := by
  unfold insideOutcome at h
  unfold Translator.toOutside
  by_cases hlong : 1514 < f.length
  · simp only [if_pos hlong] at h ⊢
    obtain rfl := Option.some.inj h
    exact ⟨rfl, rfl⟩
  simp only [if_neg hlong] at h ⊢
  cases hread : f.readInside with
  | refused =>
      rw [hread] at h
      obtain rfl := Option.some.inj h
      exact ⟨rfl, rfl⟩
  | other =>
      rw [hread] at h
      obtain rfl := Option.some.inj h
      exact ⟨rfl, rfl⟩
  | message ev =>
      rw [hread] at h
      dsimp only at h ⊢
      cases hfate : g.translator.fate ev with
      | undefined =>
          rw [hfate] at h
          contradiction
      | dropped | passed | renamed mac =>
          rw [hfate] at h
          obtain rfl := Option.some.inj h
          exact ⟨rfl, rfl⟩

theorem emission_outsideOutcome (g : Gateway) (f : Frame) :
    (g.outsideOutcome f).2.toInside = g.translator.toInside f ∧
      (g.outsideOutcome f).2.toOutside = if 1514 < f.length then f.answer else [] := by
  unfold outsideOutcome Translator.toInside
  by_cases hlong : 1514 < f.length
  · simp only [hlong, true_or, if_true, and_true]
  simp only [hlong, false_or, if_false]
  cases hread : f.readOutside with
  | refused => exact ⟨(ite_self []).symm, rfl⟩
  | other =>
      have hstray : ¬f.IsStray := by
        rintro ⟨h, -⟩
        have hip : f.IsIPv4 := h.elim And.left And.left
        rw [Frame.readOutside] at hread
        split at hread
        · contradiction
        · rw [if_pos (.inr hip)] at hread
          contradiction
      rw [if_neg hstray]
      exact ⟨rfl, rfl⟩
  | message ev => exact ⟨rfl, rfl⟩

theorem translator_forget (destIP srcIP : InAddr) (everybody : Option EtherAddr)
    (addressed : EtherAddr) : (g.forget destIP srcIP).translator =
      g.translator.step (.enter everybody destIP srcIP addressed) := by
  simp only [forget, Translator.step]
  by_cases hunknown : g.staticIPMap.find srcIP = none ∧ g.staticIPMap.find destIP = none
  · have howner : UserMap.owner (g.removeUser destIP).userMap =
        Function.update (UserMap.owner g.userMap) destIP none := by
      funext ip
      simp only [UserMap.owner, removeUser, UnorderedMap.find_erase, Function.update_apply]
      split <;> rfl
    rw [if_pos hunknown, translator, howner]
    exact (if_pos hunknown).symm
  · rw [if_neg hunknown]
    exact (if_neg hunknown).symm

/-- A round of the inside loop is a step of the router. -/
theorem router_inside (hcovered : f.Covered) (h : g.inside t p f u = some e) :
    e.gateway.translator = Router.step g.translator (.inside f) ∧
      Router.out g.translator (.inside f) = ⟨e.toInside, e.toOutside⟩ := by
  obtain ⟨hstatic, howner⟩ := owner_inside h
  have houtcome : g.insideOutcome t f = some e.outcome := by
    rw [← inside_outcome_eq (p := p) (u := u) hcovered, h, Option.map_some]
  obtain ⟨houtside, hinside⟩ := emission_insideOutcome houtcome
  constructor
  · rw [translator, hstatic, funext howner, Router.step, Router.Input.event, Frame.readInside]
    split
    · rfl
    split
    · rfl
    split <;> rfl
  · rw [Router.out, ← houtside, ← hinside]
    rfl

/-- A round of the outside loop is a step of the router. -/
theorem router_outside (hcovered : f.Covered) :
    (g.outside p f u).gateway.translator = Router.step g.translator (.outside f) ∧
      Router.out g.translator (.outside f) =
        ⟨(g.outside p f u).toInside, (g.outside p f u).toOutside⟩ := by
  have houtcome := outside_outcome_eq (g := g) (p := p) (u := u) hcovered
  obtain ⟨hinside, houtside⟩ := emission_outsideOutcome g f
  constructor
  · have hgateway : (g.outside p f u).gateway = (g.outsideOutcome f).1 := congrArg Prod.fst houtcome
    rw [hgateway, outsideOutcome, Router.step, Router.Input.event]
    split
    · rfl
    by_cases horder : f.InOrder 67 68
    · rw [Frame.readOutside, if_pos horder]
      exact translator_forget f.destinationIP f.sourceIP f.everybody f.etherDestination
    by_cases hknown : f.IsARP ∨ f.IsIPv4
    · rw [Frame.readOutside, if_neg horder, if_pos hknown]
      rfl
    · rw [Frame.readOutside, if_neg horder, if_neg hknown]
      rfl
  · rw [Router.out, ← houtside, ← hinside, ← houtcome]
    rfl

/-! ## Handlers -/

/-- What the batch of the handler changes in the table, one by one. -/
def changes (g : Gateway) : Handler → List (Translator.Event InAddr EtherAddr)
  | .addStaticIp => g.staticIPAddRequest.queue.map fun data => .setOuter data.1 (some data.2)
  | .delStaticIp => g.staticIPDelRequest.queue.map fun ip => .setOuter ip none
  | .addUser => g.userAddRequest.queue.map fun info => .setInner info.ip (some info.userMac)
  | .delUser => g.userDelRequest.queue.map fun ip => .setInner ip none
  | .sendPacket => []

theorem translator_handle (g : Gateway) (h : Handler) :
    (g.handle h).1.translator = (g.changes h).foldl Translator.step g.translator := by
  cases h with
  | addStaticIp =>
      rw [changes, Translator.foldl_setOuter Prod.fst (fun data => some data.2)
        StaticIPMap.find_add _ rfl, translator, handle, staticIPMap_addStaticIpHandler]
      rfl
  | delStaticIp =>
      rw [changes, Translator.foldl_setOuter (fun ip => ip) (fun _ => none)
        UnorderedMap.find_erase _ rfl, translator, handle, staticIPMap_delStaticIpHandler]
      rfl
  | addUser =>
      rw [changes, Translator.foldl_setInner UserInfo.ip
        (fun info => some info.userMac) owner_add _ rfl, translator, handle,
        userMap_addUserHandler]
      rfl
  | delUser =>
      rw [changes, Translator.foldl_setInner (fun ip => ip) (fun _ => none) owner_del _
        rfl, translator, handle, userMap_delUserHandler]
      rfl
  | sendPacket => rfl

end Gateway

namespace Loop

variable {l l' : Loop} {a : Action} {as : List Action} {e : Emission}

/-- What the action does to the router. -/
def inputs (x : Loop × Action) : List Router.Input :=
  match x.2 with
  | .inside (some f) _ => [.inside f]
  | .outside (some f) _ => [.outside f]
  | .handle .sendPacket => (x.1.gateway.sendPacketRequestQueue.queue.flatMap fun packet =>
      Device.writePacket packet.inMemory packet.getLength).map .send
  | .handle handler => (x.1.gateway.changes handler).map .change
  | _ => []

/-- The frame of the action, if there is one, has been received as far as it is read. -/
def Covered : Action → Prop
  | .inside (some f) _ | .outside (some f) _ => f.Covered
  | _ => True

instance : DecidablePred Covered
  | .inside (some f) _ | .outside (some f) _ => inferInstanceAs (Decidable f.Covered)
  | .inside none _ | .outside none _ | .call _ | .gettimeofday _ | .poll | .handle _ | .endPass =>
    .isTrue trivial

/-- What the action makes the loop emit. -/
def emitted (x : Loop × Action) : Emission := ((x.1.exec x.2).map Prod.snd).getD {}

/-- What the loop does about each of the inputs. -/
def answered (x : Loop × Action) : List (Router.Input × Router.Output) :=
  match x.2 with
  | .inside (some f) _ => [(.inside f, ⟨(emitted x).toInside, (emitted x).toOutside⟩)]
  | .outside (some f) _ => [(.outside f, ⟨(emitted x).toInside, (emitted x).toOutside⟩)]
  | .handle .sendPacket => (emitted x).toInside.map fun f => (.send f, { toInside := [f] })
  | _ => (inputs x).map fun i => (i, {})

/-! ## Runs of the loop -/

/-- Changes are not answered. -/
theorem outputs_change (T : Translator InAddr EtherAddr)
    (evs : List (Translator.Event InAddr EtherAddr)) :
    outputs Router.step Router.out T (evs.map .change) = (evs.map .change).map fun i => (i, {}) := by
  induction evs generalizing T with
  | nil => rfl
  | cons ev evs ih => rw [List.map_cons, outputs_cons, ih, List.map_cons]; rfl

theorem foldl_change (T : Translator InAddr EtherAddr)
    (evs : List (Translator.Event InAddr EtherAddr)) :
    (evs.map .change).foldl Router.step T = evs.foldl Translator.step T := by
  rw [List.foldl_map]
  rfl

theorem outputs_send (T : Translator InAddr EtherAddr) (frames : List Frame) :
    (frames.map .send).foldl Router.step T = T ∧
      outputs Router.step Router.out T (frames.map .send) =
        frames.map fun f => (.send f, { toInside := [f] }) := by
  induction frames with
  | nil => exact ⟨rfl, rfl⟩
  | cons f frames ih =>
      refine ⟨ih.1, ?_⟩
      rw [List.map_cons, outputs_cons, List.map_cons]
      exact congrArg _ ih.2

/-- What an action does to the maps, and writes, the router does. -/
theorem routes (hcovered : Covered a) (h : l.step a = some l') :
    l'.gateway.translator = (inputs (l, a)).foldl Router.step l.gateway.translator ∧
      answered (l, a) = outputs Router.step Router.out l.gateway.translator (inputs (l, a)) := by
  obtain ⟨⟨_, e⟩, hexec, rfl⟩ := Option.map_eq_some_iff.mp h
  have hemitted : emitted (l, a) = e := by rw [emitted, hexec]; rfl
  cases execs_of_exec hexec with
  | call c =>
      refine ⟨?_, rfl⟩
      rw [Gateway.translator, staticIPMap_call, userMap_call]
      rfl
  | inside hplace heffect =>
      obtain ⟨htable, hout⟩ := Gateway.router_inside hcovered heffect
      refine ⟨htable, ?_⟩
      rw [answered, hemitted, inputs, outputs_cons, outputs_nil, hout]
  | @outside frame u rounds hplace =>
      obtain ⟨htable, hout⟩ := Gateway.router_outside (p := l.outPacket) (u := u) hcovered
      refine ⟨htable, ?_⟩
      rw [answered, hemitted, inputs, outputs_cons, outputs_nil, hout]
  | @handle handler ready hplace hready =>
      have htable := Gateway.translator_handle l.gateway handler
      cases handler with
      | sendPacket =>
          obtain ⟨hsame, hsent⟩ := outputs_send l.gateway.translator
            (l.gateway.sendPacketRequestQueue.queue.flatMap fun packet =>
              Device.writePacket packet.inMemory packet.getLength)
          refine ⟨hsame.symm, ?_⟩
          rw [answered, hemitted, inputs, hsent]
          simp only [Gateway.handle, Gateway.sendPacketHandler, RequestQueue.drain_fst]
      | addStaticIp | delStaticIp | addUser | delUser =>
          refine ⟨?_, (outputs_change _ _).symm⟩
          rw [inputs, foldl_change]
          exact htable
  | quiet ha hgateway =>
      rw [hgateway]
      cases ha <;> exact ⟨rfl, rfl⟩

/-- The emissions are the answers, in order. -/
theorem emitted_eq (h : l.step a = some l') :
    (emitted (l, a)).toInside = (answered (l, a)).flatMap (fun y => y.2.toInside) ∧
      (emitted (l, a)).toOutside = (answered (l, a)).flatMap fun y => y.2.toOutside := by
  obtain ⟨⟨_, e⟩, hexec, rfl⟩ := Option.map_eq_some_iff.mp h
  have hemitted : emitted (l, a) = e := by rw [emitted, hexec]; rfl
  cases execs_of_exec hexec with
  | call c => exact ⟨by rw [hemitted]; rfl, by rw [hemitted]; rfl⟩
  | inside hplace heffect => simp [answered]
  | outside hplace => simp [answered]
  | @handle handler ready hplace hready =>
      cases handler with
      | sendPacket => simp [answered, hemitted, List.flatMap_map]
      | _ => simp [answered, hemitted, List.flatMap_map, Gateway.handle]
  | quiet ha hgateway =>
      rw [hemitted]
      cases ha <;> exact ⟨rfl, rfl⟩

/-- What a run does about its inputs. -/
theorem answered_run (hcovered : ∀ a ∈ as, Covered a) (hrun : run step l as = some l') :
    l'.gateway.translator =
        ((history step l as).flatMap inputs).foldl Router.step l.gateway.translator ∧
      (history step l as).flatMap answered = outputs Router.step Router.out l.gateway.translator
        ((history step l as).flatMap inputs) :=
  run_refines (C := fun _ a => Covered a) (A := fun l => l.gateway.translator)
    (fun _ _ _ => routes) (allSteps_of_forall_mem fun a ha _ => hcovered a ha) hrun

/-- **The loop refines the translator.** Every run of the loop, on frames that have
been received as far as they are read, leaves the table that the router has after
the same frames and changes, and writes to each device what the router writes. -/
theorem refines_router (hcovered : ∀ a ∈ as, Covered a) (hrun : run step l as = some l') :
    l'.gateway.translator =
        ((history step l as).flatMap inputs).foldl Router.step l.gateway.translator ∧
      (history step l as).flatMap (fun x => (emitted x).toInside) =
        (outputs Router.step Router.out l.gateway.translator
          ((history step l as).flatMap inputs)).flatMap (fun y => y.2.toInside) ∧
      (history step l as).flatMap (fun x => (emitted x).toOutside) =
        (outputs Router.step Router.out l.gateway.translator
          ((history step l as).flatMap inputs)).flatMap fun y => y.2.toOutside := by
  obtain ⟨htable, hanswered⟩ := answered_run hcovered hrun
  refine ⟨htable, ?_, ?_⟩
  · rw [← hanswered, List.flatMap_assoc]
    exact flatMap_history_congr (fun _ _ _ hstep => (emitted_eq hstep).1) hrun
  · rw [← hanswered, List.flatMap_assoc]
    exact flatMap_history_congr (fun _ _ _ hstep => (emitted_eq hstep).2) hrun

/-- The loop of `sample`, with its time at hand. -/
def sampleStart : Loop := init Gateway.sample (fun _ => 0) fun _ => 0

/-- The user of `sample` asks for the router. -/
def sampleAsks : List Action :=
  [.gettimeofday 1, .inside (some (Gateway.sampleRequest Gateway.sampleUserMAC)) default]

/-- The router writes what the loop writes for the request. -/
theorem refines_router_request :
    ∃ l', run step sampleStart sampleAsks = some l' ∧
      (outputs Router.step Router.out sampleStart.gateway.translator
        ((history step sampleStart sampleAsks).flatMap inputs)).flatMap (fun y => y.2.toOutside) =
          [Gateway.sampleRequest Gateway.sampleStaticMAC] := by
  have hrun : (run step sampleStart sampleAsks).isSome := by decide +kernel
  obtain ⟨l', hl'⟩ := Option.isSome_iff_exists.mp hrun
  have hwritten : (history step sampleStart sampleAsks).flatMap (fun x => (emitted x).toOutside) =
      [Gateway.sampleRequest Gateway.sampleStaticMAC] := by decide +kernel
  exact ⟨l', hl', (refines_router (by decide +kernel) hl').2.2.symm.trans hwritten⟩

/-- **Traffic is separate.** In two runs on frames that have been received as far as
they are read, which start with the same entries for some addresses, in which the
frames between these and the changes of their entries are the same in the same order,
and in which nothing else that comes from outside is for them, the loop does the same
about the frames between these addresses. -/
theorem traffic_separate (K : InAddr → Prop) [DecidablePred K] {l₁ l₁' l₂ l₂' : Loop}
    {as₁ as₂ : List Action} (hcovered₁ : ∀ a ∈ as₁, Covered a) (hcovered₂ : ∀ a ∈ as₂, Covered a)
    (hrun₁ : run step l₁ as₁ = some l₁') (hrun₂ : run step l₂ as₂ = some l₂')
    (hagree : Translator.AgreeOn K l₁.gateway.translator l₂.gateway.translator)
    (hapart₁ : ∀ i ∈ (history step l₁ as₁).flatMap inputs, Router.Own K i ∨ Router.Apart K i)
    (hapart₂ : ∀ i ∈ (history step l₂ as₂).flatMap inputs, Router.Own K i ∨ Router.Apart K i)
    (hsame : ((history step l₁ as₁).flatMap inputs).filter (Router.Own K) =
      ((history step l₂ as₂).flatMap inputs).filter (Router.Own K)) :
    ((history step l₁ as₁).flatMap answered).filter (fun y => Router.Own K y.1) =
      ((history step l₂ as₂).flatMap answered).filter fun y => Router.Own K y.1 := by
  rw [(answered_run hcovered₁ hrun₁).2, (answered_run hcovered₂ hrun₂).2]
  exact (Router.unwinds K).outputs_congr hapart₁ hapart₂ hsame hagree (.refl K _)

/-- The user of `sample` and the router. -/
def SamplePair (ip : InAddr) : Prop := ip = sampleIP ∨ ip.toList = [10, 0, 0, 1]

instance : DecidablePred SamplePair := fun _ => inferInstanceAs (Decidable (_ ∨ _))

/-- An ARP request for the router from another address. -/
def strangerRequest (ip : InAddr) : Frame :=
  [255, 255, 255, 255, 255, 255] ++ (sampleMAC 8).toList ++ [8, 6, 0, 1, 8, 0, 6, 4, 0, 1] ++
    (sampleMAC 8).toList ++ ip.toList ++ [0, 0, 0, 0, 0, 0, 10, 0, 0, 1]

/-- The user of `sample` asks for the router after a handler has added a user, and after
two others have asked, one of them for an address. -/
def sampleAsksLater : List Action :=
  [.call (.addUserInfo ⟨#v[10, 0, 0, 6], sampleMAC 6, 0, 10000⟩), .gettimeofday 1, .inside none default,
    .outside none default, .poll, .handle .addUser, .endPass, .gettimeofday 2,
    .inside (some (strangerRequest #v[10, 0, 0, 7])) default,
    .inside (some (Gateway.bootRequest (sampleMAC 8) 1)) default,
    .inside (some (Gateway.sampleRequest Gateway.sampleUserMAC)) default]

/-- What goes on between the user of `sample` and the router is the same. -/
theorem traffic_separate_request :
    ((history step sampleStart sampleAsks).flatMap answered).filter
        (fun y => Router.Own SamplePair y.1) =
      ((history step sampleStart sampleAsksLater).flatMap answered).filter
        (fun y => Router.Own SamplePair y.1) ∧
    (((history step sampleStart sampleAsks).flatMap answered).filter
        (fun y => Router.Own SamplePair y.1)).map (fun y => y.2.toOutside) =
      [[Gateway.sampleRequest Gateway.sampleStaticMAC]] := by
  have hrun₁ : (run step sampleStart sampleAsks).isSome := by decide +kernel
  have hrun₂ : (run step sampleStart sampleAsksLater).isSome := by decide +kernel
  obtain ⟨l₁, hl₁⟩ := Option.isSome_iff_exists.mp hrun₁
  obtain ⟨l₂, hl₂⟩ := Option.isSome_iff_exists.mp hrun₂
  exact ⟨traffic_separate SamplePair (by decide +kernel) (by decide +kernel) hl₁ hl₂ (.refl _ _)
    (by decide +kernel) (by decide +kernel) (by decide +kernel), by decide +kernel⟩

end Loop

end GatewaySocket
