import GatewaySocket.Gateway.Maps

/-!
# The order of additions and deletions

Additions and deletions of users travel in two queues, each drained by a handler
of its own, so the order between the two kinds is up to the event loop. Among
themselves additions keep their order. Of an addition and a deletion the later
call prevails if the earlier one is no longer queued when it is made; the other
thing that can remove an entry is a frame from outside for an address without
static entry.
-/

namespace GatewaySocket

open ByteMemory Transition

namespace Call

/-- The address whose entry the call adds or deletes. -/
def userIP : Call → Option InAddr
  | addUserInfo info => some info.ip
  | delUserInfo ip => some ip
  | _ => none

/-- The call, carried out on the user map at once. -/
def applyTo (m : UserMap) : Call → UserMap
  | addUserInfo info => m.add info
  | delUserInfo ip => m.del ip
  | _ => m

def IsDelete : Call → Prop
  | delUserInfo _ => True
  | _ => False

instance : DecidablePred IsDelete
  | delUserInfo _ => inferInstanceAs (Decidable True)
  | addStaticIP _ _ | delStaticIP _ | addUserInfo _ | sendPacketRequest _ =>
    inferInstanceAs (Decidable False)

theorem owner_applyTo_of_ne {m : UserMap} {c : Call} {ip : InAddr} (h : c.userIP ≠ some ip) :
    UserMap.owner (c.applyTo m) ip = UserMap.owner m ip := by
  cases c with
  | addUserInfo info =>
      have hne : ¬ip = info.ip := fun heq => h (by rw [userIP, heq])
      rw [applyTo, Gateway.owner_add, if_neg hne]
  | delUserInfo ip' =>
      have hne : ¬ip = ip' := fun heq => h (by rw [userIP, heq])
      rw [applyTo, Gateway.owner_del, if_neg hne]
  | _ => rfl

end Call

namespace Action

/-- The calls among the actions, in their order. -/
def calls (as : List Action) : List Call :=
  as.filterMap fun
    | call c => some c
    | _ => none

end Action

/-- The calls, carried out one by one on the user map. -/
def replay (m : UserMap) (cs : List Call) : UserMap := cs.foldl Call.applyTo m

theorem owner_replay_of_unnamed {cs : List Call} {ip : InAddr} (m : UserMap)
    (h : ∀ c ∈ cs, c.userIP ≠ some ip) :
    UserMap.owner (replay m cs) ip = UserMap.owner m ip := by
  induction cs generalizing m with
  | nil => rfl
  | cons c cs ih =>
      rw [replay, List.foldl_cons]
      exact (ih _ fun d hd => h d (List.mem_cons_of_mem c hd)).trans
        (Call.owner_applyTo_of_ne (h c List.mem_cons_self))

/-- No request of the kind opposite to the call is queued for its address. -/
def Gateway.Unopposed (g : Gateway) : Call → Prop
  | .addUserInfo info => info.ip ∉ g.userDelRequest.queue
  | .delUserInfo ip => ∀ info ∈ g.userAddRequest.queue, info.ip ≠ ip
  | _ => True

namespace Loop

variable {l l' l₁ : Loop} {a : Action} {as : List Action} {g' : Gateway} {ip : InAddr}
  {owner : Option EtherAddr}

/-- An IPv4 or ARP frame from outside that is processed is for another address,
unless the address has a static entry. -/
def Keeps (ip : InAddr) (l : Loop) (a : Action) : Prop :=
  ∀ f u, a = .outside (some f) u → f.IsIPv4 ∨ f.IsARP →
    l.gateway.staticIPMap.Has ip ∨ (f.IsIPv4 ∨ f.IsARP ∧ 42 ≤ f.length) ∧ f.destinationIP ≠ ip

/-- From the last call for `ip` on nothing gets in the way of its effect: no
request of the opposite kind is queued when it is made, and no frame removes the
entry afterwards. -/
def InOrder (ip : InAddr) : Loop → List Action → Prop
  | _, [] => True
  | l, a :: as =>
    ((∀ c ∈ Action.calls as, c.userIP ≠ some ip) →
      (∀ c, a = .call c → c.userIP = some ip → l.gateway.Unopposed c) ∧ Keeps ip l a) ∧
    ∀ m, step l a = some m → InOrder ip m as

/-! ## Between calls for the address -/

/-- No deletion for the address is queued, and after the queued additions it has
this owner. -/
def Settled (ip : InAddr) (owner : Option EtherAddr) (g : Gateway) : Prop :=
  ip ∉ g.userDelRequest.queue ∧ UserMap.owner g.awaited ip = owner

/-- No addition for the address is queued, and a deletion is, or there is no entry. -/
def Removed (ip : InAddr) (g : Gateway) : Prop :=
  (∀ info ∈ g.userAddRequest.queue, info.ip ≠ ip) ∧
    (ip ∈ g.userDelRequest.queue ∨ UserMap.owner g.userMap ip = none)

/-- A frame from outside that `Keeps` allows leaves the owner of the address. -/
theorem Keeps.owner_outside {frame : Frame} {u : Indeterminate}
    (hkeeps : Keeps ip l (.outside (some frame) u)) :
    UserMap.owner (l.gateway.outside l.outPacket frame u).gateway.userMap ip =
      UserMap.owner l.gateway.userMap ip := by
  by_cases hproto : frame.IsIPv4 ∨ frame.IsARP
  · rcases hkeeps frame u rfl hproto with hstatic | ⟨hf, hne⟩
    · rcases Gateway.owner_outside l.gateway l.outPacket frame u ip with hsame | ⟨hnone, -⟩
      · exact hsame
      · exact absurd hstatic (UnorderedMap.not_has_iff.mpr hnone)
    · rw [UserMap.owner, Gateway.find_outside_of_ne hf hne, UserMap.owner]
  · rw [not_or] at hproto
    rw [Gateway.gateway_outside_of_other hproto.1 hproto.2]

theorem Moves.settled (h : Moves l a g') (hcall : ∀ c, a = .call c → c.userIP ≠ some ip)
    (hkeeps : Keeps ip l a) (hs : Settled ip owner l.gateway) : Settled ip owner g' := by
  obtain ⟨hdel, howner⟩ := hs
  have hadd : ∀ info, a = .call (.addUserInfo info) → ip ≠ info.ip :=
    fun info ha heq => hcall _ ha (by rw [Call.userIP, heq])
  have hawaited : UserMap.owner g'.awaited ip = UserMap.owner l.gateway.awaited ip :=
    h.owner_awaited_eq hadd (fun _ => hdel) fun _ _ ha => Keeps.owner_outside (ha ▸ hkeeps)
  refine ⟨?_, hawaited.trans howner⟩
  cases h with
  | call c =>
      cases c with
      | delUserInfo ip' =>
          have hne : ip ≠ ip' := fun heq => hcall _ rfl (by rw [Call.userIP, heq])
          simp [Gateway.call, Gateway.delUserInfo, hdel, hne]
      | _ => exact hdel
  | inside h =>
      rw [Gateway.inside_eq h]
      exact hdel
  | outside frame u =>
      rw [Gateway.outside_eq]
      exact hdel
  | @handle handler ready hplace hready =>
      cases handler with
      | delUser => simp [Gateway.handle, Gateway.delUserHandler]
      | _ => exact hdel
  | quiet ha => exact hdel

theorem Moves.removed (h : Moves l a g') (hcall : ∀ c, a = .call c → c.userIP ≠ some ip)
    (hs : Removed ip l.gateway) : Removed ip g' := by
  obtain ⟨hadd, hgone⟩ := hs
  cases h with
  | call c =>
      cases c with
      | addUserInfo info =>
          have hne : info.ip ≠ ip := fun heq => hcall _ rfl (by rw [Call.userIP, heq])
          refine ⟨?_, hgone⟩
          intro other hother
          rcases List.mem_append.mp hother with hold | hnew
          · exact hadd other hold
          · rw [List.mem_singleton.mp hnew]
            exact hne
      | delUserInfo ip' =>
          exact ⟨hadd, hgone.imp_left fun hmem => List.mem_append_left _ hmem⟩
      | _ => exact ⟨hadd, hgone⟩
  | inside h =>
      have hsame := (Gateway.owner_inside h).2 ip
      rw [Gateway.inside_eq h]
      exact ⟨hadd, hgone.imp_right hsame.trans⟩
  | outside frame u =>
      rw [Gateway.outside_eq]
      refine ⟨hadd, hgone.imp_right fun hnone => ?_⟩
      rcases Gateway.owner_outside l.gateway l.outPacket frame u ip with hsame | ⟨-, hnone'⟩
      · exact hsame.trans hnone
      · exact hnone'
  | @handle handler ready hplace hready =>
      cases handler with
      | addUser =>
          refine ⟨by simp [Gateway.handle, Gateway.addUserHandler], hgone.imp_right fun hnone => ?_⟩
          have hfind := UnorderedMap.find_foldl_of_unnamed UserMap.find_add l.gateway.userMap hadd
          rw [Gateway.handle, Gateway.userMap_addUserHandler, UserMap.owner, hfind]
          exact hnone
      | delUser =>
          refine ⟨hadd, .inr ?_⟩
          have howner := Gateway.owner_awaited_delUserHandler l.gateway ip
          have hnone : l.gateway.userAddRequest.queue.filter (fun info => info.ip = ip) = [] := by
            simpa using hadd
          have hawaited : UserMap.owner l.gateway.delUserHandler.awaited ip =
              UserMap.owner l.gateway.delUserHandler.userMap ip :=
            congrArg (Option.map UserInfo.userMac)
              (UnorderedMap.find_foldl_of_unnamed UserMap.find_add _ hadd)
          rw [hnone, hawaited] at howner
          rw [Gateway.handle, howner]
          rcases hgone with hmem | hnone
          · rw [if_pos hmem]
            rfl
          · rw [hnone, ite_self]
            rfl
      | _ => exact ⟨hadd, hgone⟩
  | quiet ha => exact ⟨hadd, hgone⟩

/-! ## Runs -/

theorem call_not_mem (hcalls : ∀ c ∈ Action.calls as, c.userIP ≠ some ip) :
    ∀ a ∈ as, ∀ c, a = .call c → c.userIP ≠ some ip := by
  rintro a ha c rfl
  exact hcalls c (List.mem_filterMap.mpr ⟨_, ha, rfl⟩)

theorem settled_run (hs : Settled ip owner l.gateway)
    (hcalls : ∀ c ∈ Action.calls as, c.userIP ≠ some ip) (hkeeps : AllSteps step (Keeps ip) l as)
    (hrun : run step l as = some l') : Settled ip owner l'.gateway := by
  have hno : AllSteps step (fun _ a => ∀ c, a = .call c → c.userIP ≠ some ip) l as :=
    allSteps_of_forall_mem fun a ha _ => call_not_mem hcalls a ha
  refine run_induction_of_allSteps (P := fun m => Settled ip owner m.gateway) ?_ hs
    (hno.and hkeeps) hrun
  intro m a m' hm hcond hstep
  exact (step_moves hstep).settled hcond.1 hcond.2 hm

theorem removed_run (hs : Removed ip l.gateway)
    (hcalls : ∀ c ∈ Action.calls as, c.userIP ≠ some ip) (hrun : run step l as = some l') :
    Removed ip l'.gateway := by
  refine run_induction_of_allSteps (P := fun m => Removed ip m.gateway)
    (C := fun _ a => ∀ c, a = .call c → c.userIP ≠ some ip) ?_ hs
    (allSteps_of_forall_mem fun a ha _ => call_not_mem hcalls a ha) hrun
  intro m a m' hm hcond hstep
  exact (step_moves hstep).removed hcond hm

theorem InOrder.keeps (hcalls : ∀ c ∈ Action.calls as, c.userIP ≠ some ip) :
    ∀ {l : Loop}, InOrder ip l as → AllSteps step (Keeps ip) l as := by
  induction as with
  | nil => exact fun _ => trivial
  | cons a as ih =>
      intro l h
      have hrest : ∀ c ∈ Action.calls as, c.userIP ≠ some ip := by
        intro c hc
        obtain ⟨b, hb, hcall⟩ := List.mem_filterMap.mp hc
        exact hcalls c (List.mem_filterMap.mpr ⟨b, List.mem_cons_of_mem a hb, hcall⟩)
      exact ⟨(h.1 hrest).2, fun m hm => ih hrest (h.2 m hm)⟩

/-- Once the queues are empty the user map is what the state said of it. -/
theorem Settled.owner_eq (h : Settled ip owner l.gateway)
    (hadd : l.gateway.userAddRequest.queue = []) :
    UserMap.owner l.gateway.userMap ip = owner := by
  rw [← Gateway.awaited_of_queue_eq_nil hadd]
  exact h.2

theorem Removed.owner_eq (h : Removed ip l.gateway)
    (hdel : l.gateway.userDelRequest.queue = []) :
    UserMap.owner l.gateway.userMap ip = none := by
  rcases h.2 with hmem | hnone
  · rw [hdel] at hmem
    contradiction
  · exact hnone

/-- The last call for an address decides, if it is made in order. -/
theorem owner_of_last_call {c : Call} (hip : c.userIP = some ip)
    (hstep : step l (.call c) = some l₁)
    (hopp : l.gateway.Unopposed c) (hcalls : ∀ d ∈ Action.calls as, d.userIP ≠ some ip)
    (hkeeps : AllSteps step (Keeps ip) l₁ as) (hrun : run step l₁ as = some l')
    (hadd : l'.gateway.userAddRequest.queue = []) (hdel : l'.gateway.userDelRequest.queue = [])
    (m : UserMap) :
    UserMap.owner l'.gateway.userMap ip = UserMap.owner (c.applyTo m) ip := by
  obtain rfl : { l with gateway := l.gateway.call c } = l₁ := Option.some.inj hstep
  cases c with
  | addUserInfo info =>
      obtain rfl : info.ip = ip := Option.some.inj hip
      have hsettled : Settled info.ip (some info.userMac) (l.gateway.addUserInfo info) := by
        refine ⟨hopp, ?_⟩
        rw [Gateway.awaited_addUserInfo, Gateway.owner_add, if_pos rfl]
      rw [(settled_run hsettled hcalls hkeeps hrun).owner_eq hadd, Call.applyTo, Gateway.owner_add,
        if_pos rfl]
  | delUserInfo ip' =>
      obtain rfl : ip' = ip := Option.some.inj hip
      have hremoved : Removed ip' (l.gateway.delUserInfo ip') :=
        ⟨hopp, .inl (List.mem_append_right _ (List.mem_singleton.mpr rfl))⟩
      rw [(removed_run hremoved hcalls hrun).owner_eq hdel, Call.applyTo, Gateway.owner_del,
        if_pos rfl]
  | addStaticIP | delStaticIP | sendPacketRequest => contradiction

theorem owner_of_inOrder (hadd : l'.gateway.userAddRequest.queue = [])
    (hdel : l'.gateway.userDelRequest.queue = []) :
    ∀ {as : List Action} {l : Loop}, InOrder ip l as → run step l as = some l' →
      (∃ c ∈ Action.calls as, c.userIP = some ip) →
      ∀ m, UserMap.owner l'.gateway.userMap ip =
        UserMap.owner (replay m (Action.calls as)) ip := by
  intro as
  induction as with
  | nil => simp [Action.calls]
  | cons a as ih =>
      intro l hin hrun hcall m
      obtain ⟨l₁, hstep, hrest⟩ := run_cons_eq_some.mp hrun
      by_cases hlater : ∃ c ∈ Action.calls as, c.userIP = some ip
      · -- a later call decides, so the user map before it does not matter
        have htail := ih (hin.2 l₁ hstep) hrest hlater
        cases a with
        | call c => exact htail (c.applyTo m)
        | _ => exact htail m
      · have hno : ∀ c ∈ Action.calls as, c.userIP ≠ some ip :=
          fun c hc hip => hlater ⟨c, hc, hip⟩
        cases a with
        | call c =>
            have hip : c.userIP = some ip := by
              obtain ⟨d, hd, hip⟩ := hcall
              rcases List.mem_cons.mp hd with rfl | hd
              · exact hip
              · exact absurd hip (hno d hd)
            have hlast := owner_of_last_call hip hstep ((hin.1 hno).1 c rfl hip) hno
              (InOrder.keeps hno (hin.2 l₁ hstep)) hrest hadd hdel m
            exact hlast.trans (owner_replay_of_unnamed _ hno).symm
        | _ => exact absurd hcall hlater

/-! ## Additions among themselves -/

/-- Only an addition gives an address another owner; everything else leaves the
awaited owner or takes it away. -/
theorem Moves.owner_awaited (h : Moves l a g') (hadd : ∀ info, a ≠ .call (.addUserInfo info)) :
    UserMap.owner g'.awaited ip = UserMap.owner l.gateway.awaited ip ∨
      UserMap.owner g'.awaited ip = none := by
  cases h with
  | call c =>
      cases c with
      | addUserInfo info => exact absurd rfl (hadd info)
      | _ => exact .inl rfl
  | inside h =>
      have hsame := (Gateway.owner_inside h).2 ip
      rw [Gateway.inside_eq h]
      exact .inl (Gateway.owner_foldl_add_congr _ hsame)
  | outside frame u =>
      rw [Gateway.outside_eq, Gateway.awaited, Gateway.awaited, Gateway.owner_foldl_add,
        Gateway.owner_foldl_add]
      rcases Gateway.owner_outside l.gateway l.outPacket frame u ip with hsame | ⟨-, hnone⟩
      · exact .inl (by rw [hsame])
      · rw [hnone]
        cases (l.gateway.userAddRequest.queue.filter fun info => info.ip = ip).getLast? with
        | none => exact .inr rfl
        | some info => exact .inl rfl
  | @handle handler ready hplace hready =>
      cases handler with
      | addUser => exact .inl (by rw [Gateway.handle, Gateway.awaited_addUserHandler])
      | delUser =>
          rw [Gateway.handle, Gateway.owner_awaited_delUserHandler, Gateway.awaited,
            Gateway.owner_foldl_add]
          cases (l.gateway.userAddRequest.queue.filter fun info => info.ip = ip).getLast? with
          | none =>
              by_cases hmem : ip ∈ l.gateway.userDelRequest.queue
              · exact .inr (by rw [if_pos hmem]; rfl)
              · exact .inl (by rw [if_neg hmem])
          | some info => exact .inl rfl
      | _ => exact .inl rfl
  | quiet ha => exact .inl rfl

/-- The additions among the actions, in their order. -/
def additions (as : List Action) : List Call := (Action.calls as).filter fun c => ¬c.IsDelete

/-- An entry that is awaited after a run is the one that the additions alone
would have made. -/
theorem owner_awaited_run {l : Loop} {m : UserMap}
    (hs : UserMap.owner l.gateway.awaited ip = none ∨
      UserMap.owner l.gateway.awaited ip = UserMap.owner m ip)
    (hrun : run step l as = some l') :
    UserMap.owner l'.gateway.awaited ip = none ∨
      UserMap.owner l'.gateway.awaited ip = UserMap.owner (replay m (additions as)) ip := by
  induction as generalizing l m with
  | nil =>
      obtain rfl : l = l' := Option.some.inj hrun
      exact hs
  | cons a as ih =>
      obtain ⟨l₁, hstep, hrest⟩ := run_cons_eq_some.mp hrun
      have hmoves := step_moves hstep
      by_cases hadd : ∃ info, a = .call (.addUserInfo info)
      · obtain ⟨info, rfl⟩ := hadd
        have hl₁ : { l with gateway := l.gateway.addUserInfo info } = l₁ := Option.some.inj hstep
        refine ih (m := m.add info) ?_ hrest
        rw [← hl₁, Gateway.awaited_addUserInfo, Gateway.owner_add, Gateway.owner_add]
        split
        · exact .inr rfl
        · exact hs
      · have hother : ∀ info, a ≠ .call (.addUserInfo info) := fun info h => hadd ⟨info, h⟩
        have hnext : UserMap.owner l₁.gateway.awaited ip = none ∨
            UserMap.owner l₁.gateway.awaited ip = UserMap.owner m ip := by
          rcases hmoves.owner_awaited hother with hsame | hnone
          · rw [hsame]
            exact hs
          · exact .inl hnone
        have htail := ih hnext hrest
        cases a with
        | call c =>
            cases c with
            | addUserInfo info => exact absurd rfl (hother info)
            | _ => exact htail
        | _ => exact htail

/-- **Additions and deletions in call order.** Once both queues are drained, the
entry of an address, if there is one, names the owner that the additions alone,
made one by one, would have given it; and if from the last call for the address
on nothing got in the way, the address has exactly the owner, or none, that all
the calls, made one by one, would have given it. -/
theorem calls_in_order (hadd₀ : l.gateway.userAddRequest.queue = [])
    (hdel₀ : l.gateway.userDelRequest.queue = []) (hrun : run step l as = some l')
    (hadd : l'.gateway.userAddRequest.queue = []) (hdel : l'.gateway.userDelRequest.queue = [])
    (ip : InAddr) :
    (UserMap.owner l'.gateway.userMap ip = none ∨
      UserMap.owner l'.gateway.userMap ip =
        UserMap.owner (replay l.gateway.userMap (additions as)) ip) ∧
    (InOrder ip l as → UserMap.owner l'.gateway.userMap ip =
      UserMap.owner (replay l.gateway.userMap (Action.calls as)) ip) := by
  constructor
  · have hnothing : l.gateway.awaited = l.gateway.userMap :=
      Gateway.awaited_of_queue_eq_nil hadd₀
    have hrun' := owner_awaited_run (.inr (congrArg (fun m => UserMap.owner m ip) hnothing)) hrun
    rwa [Gateway.awaited_of_queue_eq_nil hadd] at hrun'
  · intro hin
    by_cases hcall : ∃ c ∈ Action.calls as, c.userIP = some ip
    · exact owner_of_inOrder hadd hdel hin hrun hcall l.gateway.userMap
    · have hno : ∀ c ∈ Action.calls as, c.userIP ≠ some ip := fun c hc hip => hcall ⟨c, hc, hip⟩
      have hsettled : Settled ip (UserMap.owner l.gateway.userMap ip) l.gateway := by
        refine ⟨by simp [hdel₀], ?_⟩
        rw [Gateway.awaited_of_queue_eq_nil hadd₀]
      rw [(settled_run hsettled hno (InOrder.keeps hno hin) hrun).owner_eq hadd,
        owner_replay_of_unnamed _ hno]

/-! Two runs from an empty gateway: calls that are each carried out before the next
is made, and an addition that meets the deletion of its address in the same pass. -/

/-- The loop at its start, with nothing in the maps. -/
def start : Loop := init Gateway.init (fun _ => 0) (fun _ => 0)

/-- A pass without frames that runs the handlers in the given order. -/
def pass (handlers : List Handler) : List Action :=
  [.gettimeofday 1, .inside none default, .outside none default, .poll] ++
    handlers.map .handle ++ [.endPass]

def addition : Call := .addUserInfo ⟨sampleIP, Gateway.sampleUserMAC, 0, 10000⟩

theorem inOrder_of_plain (h : ∀ a ∈ as, (∀ c, a ≠ .call c) ∧ ∀ f u, a ≠ .outside (some f) u) :
    ∀ {l : Loop}, InOrder ip l as := by
  induction as with
  | nil => exact trivial
  | cons a as ih =>
      intro l
      obtain ⟨hcall, hframe⟩ := h a List.mem_cons_self
      refine ⟨fun _ => ⟨fun c hc => absurd hc (hcall c), fun f u hf => absurd hf (hframe f u)⟩, ?_⟩
      exact fun m _ => ih fun b hb => h b (List.mem_cons_of_mem a hb)

/-- Whatever comes before a call for the address is in order. -/
theorem inOrder_append_of_call {bs : List Action} {c : Call} (hc : c.userIP = some ip)
    (h : ∀ m, run step l bs = some m → InOrder ip m (.call c :: as)) :
    InOrder ip l (bs ++ .call c :: as) := by
  induction bs generalizing l with
  | nil => exact h l rfl
  | cons b bs ih =>
      constructor
      · intro hno
        refine absurd hc (hno c ?_)
        simp [Action.calls]
      · exact fun m hm => ih fun m' hm' => h m' (run_cons_eq_some.mpr ⟨m, hm, hm'⟩)

/-- The address is given to a user, taken away and given to another one. -/
def sampleBefore : List Action :=
  .call addition :: pass [.addUser] ++ .call (.delUserInfo sampleIP) :: pass [.delUser]

def secondAddition : Call := .addUserInfo ⟨sampleIP, sampleMAC 8, 0, 10000⟩

theorem calls_in_order_addition :
    ∃ l', run step start (sampleBefore ++ .call secondAddition :: pass [.addUser]) = some l' ∧
      (Action.calls (sampleBefore ++ .call secondAddition :: pass [.addUser])) =
        [addition, .delUserInfo sampleIP, secondAddition] ∧
      UserMap.owner l'.gateway.userMap sampleIP =
        UserMap.owner (replay start.gateway.userMap
          [addition, .delUserInfo sampleIP, secondAddition]) sampleIP ∧
      UserMap.owner l'.gateway.userMap sampleIP = some (sampleMAC 8) := by
  have hnext : ∀ m ∈ run step start sampleBefore,
      sampleIP ∉ m.gateway.userDelRequest.queue := by
    decide
  have hin : InOrder sampleIP start (sampleBefore ++ .call secondAddition :: pass [.addUser]) := by
    refine inOrder_append_of_call rfl fun m hm => ⟨fun _ => ⟨?_, nofun⟩, fun _ _ =>
      inOrder_of_plain ?_⟩
    · rintro c hc -
      obtain rfl : secondAddition = c := Action.call.inj hc
      exact hnext m hm
    · simp [pass]
  refine ⟨_, rfl, rfl, (calls_in_order rfl rfl rfl ?_ ?_ sampleIP).2 hin, ?_⟩ <;> decide

/-- With the handler of the deletions run first, an addition outlives the
deletion that was called after it. -/
theorem calls_crossed :
    ∃ l', run step start ([.call addition, .call (.delUserInfo sampleIP)] ++
        pass [.delUser, .addUser]) = some l' ∧
      l'.gateway.userAddRequest.queue = [] ∧ l'.gateway.userDelRequest.queue = [] ∧
      UserMap.owner l'.gateway.userMap sampleIP ≠
        UserMap.owner (replay start.gateway.userMap
          [addition, .delUserInfo sampleIP]) sampleIP :=
  ⟨_, rfl, by decide, by decide, by decide⟩

end Loop

end GatewaySocket
