import GatewaySocket.Gateway.Maps

/-!
# Users and static addresses

The outbound branches read the static address of a user without a test, so every
user entry has to have a static entry beside it whenever frames are processed.
No handler looks at the other map, and the entries that belong together travel in
different queues. Between frames, while the handlers of a pass run, it is enough
that what is missing is on its way in the same pass.
-/

namespace GatewaySocket

open ByteMemory Transition

namespace Gateway

variable {g : Gateway} {p : Packet} {f : Frame} {u : Indeterminate} {t : UInt64}

/-- The undefined read of an outbound branch needs a user without static entry. -/
theorem exists_unmapped_of_inside_eq_none (h : g.inside t p f u = none) :
    ∃ ip, g.userMap.Has ip ∧ ¬g.staticIPMap.Has ip := by
  have hbranch :
      ∀ {q : Packet} {dest src : InAddr} {mac : EtherAddr} {rewrite : EtherAddr → Packet},
      g.outbound q dest src mac rewrite = .undefined →
        ∃ ip, g.userMap.Has ip ∧ ¬g.staticIPMap.Has ip := by
    intro q dest src mac rewrite hv
    obtain ⟨-, hstatic, howner⟩ := outbound_eq_undefined_iff.mp hv
    obtain ⟨info, hinfo, -⟩ := Option.map_eq_some_iff.mp howner
    exact ⟨src, UnorderedMap.has_iff.mpr ⟨info, hinfo⟩, UnorderedMap.not_has_iff.mpr hstatic⟩
  have hverdict : ∃ q n, g.insideVerdict q n u = .undefined := by
    simp only [inside] at h
    split at h
    · contradiction
    split at h
    · contradiction
    split at h
    · next hv => exact ⟨_, _, hv⟩
    all_goals contradiction
  obtain ⟨q, n, hv⟩ := hverdict
  unfold insideVerdict at hv
  split at hv
  · rw [insideARP_eq] at hv
    split at hv
    · exact hbranch hv
    · contradiction
  · split at hv
    · exact hbranch (outbound_of_insideIP hv (by simp) (by simp)).2
    · contradiction

end Gateway

namespace Loop

variable {l l' : Loop} {a : Action} {e : Emission} {ip : InAddr}

/-- A handler still to run in this pass will give the address a static entry, or
take its user entry away. -/
def Due (l : Loop) (ip : InAddr) : Prop :=
  .addStaticIp ∈ l.place.ready ∧ (∃ data ∈ l.gateway.staticIPAddRequest.queue, data.1 = ip) ∨
    .delUser ∈ l.place.ready ∧ ip ∈ l.gateway.userDelRequest.queue

instance (l : Loop) (ip : InAddr) : Decidable (l.Due ip) := inferInstanceAs (Decidable (_ ∨ _))

/-- `add_user` installs, and `del_static_ip` leaves, only users whose static entry
is there or whose case is settled later in the pass. -/
def Supplied (l : Loop) : Action → Prop
  | .handle .addUser => ∀ info ∈ l.gateway.userAddRequest.queue,
      l.gateway.staticIPMap.Has info.ip ∨ l.Due info.ip
  | .handle .delStaticIp => ∀ ip ∈ l.gateway.staticIPDelRequest.queue,
      l.gateway.userMap.Has ip → l.Due ip
  | _ => True

instance (l : Loop) : DecidablePred l.Supplied
  | .handle .addUser => inferInstanceAs (Decidable (∀ info ∈ _, _))
  | .handle .delStaticIp => inferInstanceAs (Decidable (∀ ip ∈ _, _))
  | .handle .addStaticIp | .handle .delUser | .handle .sendPacket | .call _ | .gettimeofday _
  | .inside _ _ | .outside _ _ | .poll | .endPass => inferInstanceAs (Decidable True)

/-- Every user has a static entry, or its case is settled in this pass. -/
def Mapped (l : Loop) : Prop :=
  ∀ ip, l.gateway.userMap.Has ip → l.gateway.staticIPMap.Has ip ∨ l.Due ip

/-- Outside the dispatch of handlers nothing is due. -/
theorem Mapped.has (h : l.Mapped) (hplace : l.place.ready = []) (hip : l.gateway.userMap.Has ip) :
    l.gateway.staticIPMap.Has ip := by
  rcases h ip hip with hstatic | ⟨hready, -⟩ | ⟨hready, -⟩
  · exact hstatic
  · rw [hplace] at hready
    contradiction
  · rw [hplace] at hready
    contradiction

theorem mapped_of_ready_eq_nil (hplace : l.place.ready = []) (hm : l.Mapped)
    (hstatic : l'.gateway.staticIPMap = l.gateway.staticIPMap)
    (huser : ∀ ip, l'.gateway.userMap.Has ip → l.gateway.userMap.Has ip) : l'.Mapped := by
  intro ip hip
  left
  rw [hstatic]
  exact hm.has hplace (huser ip hip)

theorem Due.call (c : Call) (h : l.Due ip) : Due { l with gateway := l.gateway.call c } ip := by
  rcases h with ⟨hready, data, hdata, hip⟩ | ⟨hready, hmem⟩
  · refine .inl ⟨hready, data, ?_, hip⟩
    cases c with
    | addStaticIP ip mac => exact List.mem_append_left _ hdata
    | _ => exact hdata
  · refine .inr ⟨hready, ?_⟩
    cases c with
    | delUserInfo ip => exact List.mem_append_left _ hmem
    | _ => exact hmem

/-- What is due stays due while another handler runs. -/
theorem Due.handle {handler : Handler} {ready : List Handler} (hplace : l.place = .dispatch ready)
    (hadd : handler ≠ .addStaticIp) (hdel : handler ≠ .delUser) (h : l.Due ip) :
    Due { l with
      gateway := (l.gateway.handle handler).1, place := .dispatch (ready.erase handler) } ip := by
  rw [Due, hplace] at h
  rcases h with ⟨hready, hqueue⟩ | ⟨hready, hmem⟩
  · refine .inl ⟨(List.mem_erase_of_ne hadd.symm).mpr hready, ?_⟩
    cases handler with
    | addStaticIp => contradiction
    | _ => exact hqueue
  · refine .inr ⟨(List.mem_erase_of_ne hdel.symm).mpr hready, ?_⟩
    cases handler with
    | delUser => contradiction
    | _ => exact hmem

theorem has_foldl_add {m : StaticIPMap} {requests : List (InAddr × EtherAddr)}
    (h : m.Has ip ∨ ∃ data ∈ requests, data.1 = ip) :
    UnorderedMap.Has (requests.foldl StaticIPMap.add m) ip := by
  by_cases hnamed : ∃ data ∈ requests, data.1 = ip
  · obtain ⟨data, -, -, hfind⟩ := UnorderedMap.find_foldl_of_named StaticIPMap.find_add m hnamed
    rw [UnorderedMap.Has, hfind]
    rfl
  · have hsame := UnorderedMap.find_foldl_of_unnamed StaticIPMap.find_add m
      fun data hdata hip => hnamed ⟨data, hdata, hip⟩
    rw [UnorderedMap.Has, hsame]
    exact h.resolve_right hnamed

theorem mapped_handle {handler : Handler} {ready : List Handler}
    (hplace : l.place = .dispatch ready) (hm : l.Mapped) (hsup : Supplied l (.handle handler)) :
    Mapped { l with
      gateway := (l.gateway.handle handler).1, place := .dispatch (ready.erase handler) } := by
  intro ip hip
  cases handler with
  | addStaticIp =>
      rcases hm ip hip with hstatic | ⟨-, hqueue⟩ | ⟨hready, hmem⟩
      · left
        rw [Gateway.handle, Gateway.staticIPMap_addStaticIpHandler]
        exact has_foldl_add (.inl hstatic)
      · left
        rw [Gateway.handle, Gateway.staticIPMap_addStaticIpHandler]
        exact has_foldl_add (.inr hqueue)
      · rw [hplace] at hready
        exact .inr (.inr ⟨(List.mem_erase_of_ne (by decide)).mpr hready, hmem⟩)
  | delStaticIp =>
      rcases hm ip hip with hstatic | hdue
      · by_cases hmem : ip ∈ l.gateway.staticIPDelRequest.queue
        · exact .inr ((hsup ip hmem hip).handle hplace (by decide) (by decide))
        · left
          have hunnamed : ¬l.gateway.Names ip .delStaticIp := hmem
          rw [UnorderedMap.Has, (Gateway.find_handle_of_unnamed hunnamed).1]
          exact hstatic
      · exact .inr (hdue.handle hplace (by decide) (by decide))
  | addUser =>
      have hbefore : l.gateway.staticIPMap.Has ip ∨ l.Due ip := by
        by_cases hnamed : ∃ info ∈ l.gateway.userAddRequest.queue, info.ip = ip
        · obtain ⟨info, hinfo, rfl⟩ := hnamed
          exact hsup info hinfo
        · have hunnamed : ¬l.gateway.Names ip .addUser := hnamed
          refine hm ip ?_
          rw [UnorderedMap.Has, ← (Gateway.find_handle_of_unnamed hunnamed).2]
          exact hip
      exact hbefore.imp_right fun hdue => hdue.handle hplace (by decide) (by decide)
  | delUser =>
      rw [Gateway.handle, Gateway.userMap_delUserHandler, UnorderedMap.Has,
        Gateway.find_foldl_del] at hip
      split at hip
      · contradiction
      · next hmem =>
          rcases hm ip hip with hstatic | ⟨hready, hqueue⟩ | ⟨-, hmem'⟩
          · exact .inl hstatic
          · rw [hplace] at hready
            exact .inr (.inl ⟨(List.mem_erase_of_ne (by decide)).mpr hready, hqueue⟩)
          · exact absurd hmem' hmem
  | sendPacket =>
      exact (hm ip hip).imp_right fun hdue => hdue.handle hplace (by decide) (by decide)

/-- The other actions take place while nothing is due. -/
theorem ready_of_quiet (ha : Quiet a) (h : l.exec a = some (l', e)) : l.place.ready = [] := by
  cases ha <;> simp only [exec] at h <;> split at h <;>
    first
    | contradiction
    | (next hplace => rw [hplace]; rfl)

/-- A handler that is ready stays ready until it runs. -/
theorem mem_ready_of_exec {handler : Handler} (h : l.exec a = some (l', e))
    (ha : a ≠ .handle handler) (hready : handler ∈ l.place.ready) : handler ∈ l'.place.ready := by
  cases execs_of_exec h with
  | call c => exact hready
  | @handle other ready hplace hmem =>
      rw [hplace] at hready
      exact (List.mem_erase_of_ne fun heq => ha (by rw [heq])).mpr hready
  | inside hplace heffect =>
      rw [hplace] at hready
      contradiction
  | outside hplace =>
      rw [hplace] at hready
      contradiction
  | quiet hquiet hgateway =>
      rw [ready_of_quiet hquiet h] at hready
      contradiction

theorem mapped_step (hm : l.Mapped) (hsup : Supplied l a) (h : step l a = some l') :
    l'.Mapped := by
  obtain ⟨⟨_, e⟩, he, rfl⟩ := Option.map_eq_some_iff.mp h
  cases execs_of_exec he with
  | call c =>
      intro ip hip
      rw [userMap_call] at hip
      rw [staticIPMap_call]
      exact (hm ip hip).imp_right (Due.call c)
  | handle hplace hready => exact mapped_handle hplace hm hsup
  | inside hplace heffect =>
      refine mapped_of_ready_eq_nil (by rw [hplace]; rfl) hm
        (Gateway.staticIPMap_inside heffect) fun ip hip => ?_
      have howner := (Gateway.owner_inside heffect).2 ip
      rw [UserMap.owner, UserMap.owner] at howner
      rw [UnorderedMap.Has, ← Option.isSome_map, ← howner, Option.isSome_map]
      exact hip
  | @outside frame u rounds hplace =>
      refine mapped_of_ready_eq_nil (by rw [hplace]; rfl) hm
        (Gateway.staticIPMap_outside _ _ _ _) fun ip hip => ?_
      rcases Gateway.find_outside l.gateway l.outPacket frame u ip with hsame | ⟨-, hnone⟩
      · rw [UnorderedMap.Has, ← hsame]
        exact hip
      · exact absurd hip (UnorderedMap.not_has_iff.mpr hnone)
  | quiet hquiet hgateway =>
      refine mapped_of_ready_eq_nil (ready_of_quiet hquiet he) hm (by rw [hgateway]) fun ip hip => ?_
      rw [hgateway] at hip
      exact hip

/-- Where frames are processed the read of the static address is defined. -/
theorem Mapped.isSome_inside (h : l.Mapped) (hplace : l.place.ready = []) (frame : Frame)
    (u : Indeterminate) : (l.gateway.inside l.currentTime l.inPacket frame u).isSome := by
  by_contra hnone
  obtain ⟨ip, hip, hno⟩ := Gateway.exists_unmapped_of_inside_eq_none
    (Option.not_isSome_iff_eq_none.mp hnone)
  exact hno (h.has hplace hip)

end Loop

end GatewaySocket
