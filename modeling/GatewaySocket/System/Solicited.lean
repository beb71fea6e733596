import GatewaySocket.Database.Answered
import GatewaySocket.System.Bounds
import GatewaySocket.System.Pipeline
import Mathlib.Data.List.Flatten

/-!
# No unsolicited replies

The gateway hands a request to the database for exactly those frames of which the
intake reads nothing beyond their end. With the order that the queues keep, each
reply on the wire is owed to one such frame, and each frame is owed at most one.
-/

namespace GatewaySocket

open ByteMemory Transition Tables

/-- The DHCP message of a client that is answered if the database has a user for it. -/
def Frame.IsSolicitation (f : Frame) : Prop :=
  f.length ≤ myPacketLen ∧ f.IsUDP 68 67 ∧ f.IsTakenIn

instance (f : Frame) : Decidable f.IsSolicitation := inferInstanceAs (Decidable (_ ∧ _))

namespace Gateway

variable {g : Gateway} {p : Packet} {f : Frame} {u : Indeterminate} {t : UInt64} {e : Effect}

theorem insideVerdict_eq_createDHCP_iff (hp : p.Holds f) (hlen : 14 ≤ f.length) {r : DhcpRequest} :
    g.insideVerdict p f.length u = .createDHCP r ↔
      f.IsUDP 68 67 ∧ f.IsTakenIn ∧ f.dhcpRequest = r := by
  by_cases hip : f.IsIPv4
  · rw [insideVerdict_of_isIPv4 hp hip]
    by_cases hshort : f.length < 28 + f.ipHeaderLength
    · rw [if_pos hshort]
      refine iff_of_false (by simp) ?_
      rintro ⟨-, ⟨-, hcomplete, -⟩, -⟩
      rw [Frame.udpPayload] at hcomplete
      omega
    rw [if_neg hshort]
    by_cases hudp : f.IsUDP 68 67
    · rw [if_pos hudp]
      by_cases htaken : f.IsTakenIn
      · simp [hudp, htaken]
      · simp [htaken]
    · rw [if_neg hudp]
      exact iff_of_false (outbound_ne_createDHCP r) fun h => hudp h.1
  · refine iff_of_false (fun h => ?_) fun h => hip h.1.1
    have hnotIp : f.etherType ≠ ethertypeIp := fun heq => hip ⟨hlen, heq⟩
    rw [insideVerdict, hp.getProtocol hlen, if_neg hnotIp, insideARP_eq] at h
    split at h
    · split at h
      · exact outbound_ne_createDHCP r h
      · contradiction
    · contradiction

/-- **A request is made for every solicitation**, and for nothing else. -/
theorem dhcp_inside (h : g.inside t p f u = some e) :
    e.dhcp = if f.IsSolicitation then [f.dhcpRequest] else [] := by
  rcases inside_cases h with ⟨hlen, -, -, hnone, -⟩ | ⟨hheader, hfits, buf, -, hbuf, hverdict⟩
  · rw [hnone, if_neg]
    rintro ⟨hfits, hudp, -⟩
    rcases hlen with hshort | hlong
    · exact absurd hudp.1.1 (Nat.not_le.mpr hshort)
    · exact absurd hfits (Nat.not_le.mpr hlong)
  · have hiff := fun r => insideVerdict_eq_createDHCP_iff (g := g) (u := u) (r := r) hbuf hheader
    rcases hverdict with ⟨hdrop, rfl⟩ | ⟨r, hcreate, rfl⟩ | ⟨packet, user, hpass, rfl⟩
    · rw [if_neg]
      rintro ⟨-, hudp, htaken⟩
      rw [(hiff _).mpr ⟨hudp, htaken, rfl⟩] at hdrop
      contradiction
    · obtain ⟨hudp, htaken, rfl⟩ := (hiff r).mp hcreate
      rw [if_pos ⟨hfits, hudp, htaken⟩]
    · rw [if_neg]
      rintro ⟨-, hudp, htaken⟩
      rw [(hiff _).mpr ⟨hudp, htaken, rfl⟩] at hpass
      contradiction

end Gateway

namespace System

variable {cfg : Config} {s s' s₀ : System} {ev : Event} {es : List Event} {t₀ : Tables}
  {inHeap outHeap : Memory}

/-- The solicitation that is read in the step. -/
def asked (x : System × Event) : List Frame :=
  match x.2 with
  | .gateway (.inside (some f) _) => if f.IsSolicitation then [f] else []
  | _ => []

theorem isSolicitation_of_asked {h : List (System × Event)} {f : Frame}
    (hf : f ∈ h.flatMap asked) : f.IsSolicitation := by
  obtain ⟨x, -, hf⟩ := List.mem_flatMap.mp hf
  unfold asked at hf
  split at hf
  · split at hf
    · next hsolicitation => exact List.mem_singleton.mp hf ▸ hsolicitation
    · contradiction
  · contradiction

/-- What the step hands to `create_dhcp` is the request of the solicitation. -/
theorem handedOver_createDhcp (hstep : s.step cfg ev = some s') :
    (handedOver (s, ev)).filter (fun job => job.handler = .createDhcp) =
      (asked (s, ev)).map fun f => .createDhcp f.dhcpRequest := by
  cases steps_of_step hstep with
  | @gateway a loop e hopen hexec =>
      simp only [handedOver, hexec, List.filter_append, filter_createDhcp, filter_updateTime,
        if_true, reduceCtorEq, if_false, List.append_nil]
      cases Loop.execs_of_exec hexec with
      | @inside frame u rounds effect hplace heffect =>
          simp only [asked, Gateway.dhcp_inside heffect]
          split <;> rfl
      | @outside frame u rounds hplace =>
          simp only [asked, Gateway.dhcp_outside]
          rfl
      | call c | handle hplace hready => rfl
      | quiet ha hgateway => cases ha <;> rfl
  | poll | dispatch | serve | deliver | others => rfl

theorem handedOver_history (hrun : run (step cfg) s es = some s') :
    (((history (step cfg) s es).flatMap handedOver).filter fun job => job.handler = .createDhcp) =
      ((history (step cfg) s es).flatMap asked).map fun f => .createDhcp f.dhcpRequest := by
  rw [List.filter_flatMap, List.map_flatMap]
  exact flatMap_history_congr (fun _ _ _ hstep => handedOver_createDhcp hstep) hrun

/-- What comes out for a processed request is its reply, or nothing. -/
theorem replies_processed (hdns : cfg.dnsList.length ≤ 63) {x : System × Event} {y : Job × Outcome}
    (hy : y ∈ processed cfg x) :
    List.SublistForall₂ (fun out job => ∃ r ip, job = .createDhcp r ∧ out.IsReply r ip)
      ((y.2.answer.map Answer.packet).toList.flatMap fun packet =>
        Device.writePacket packet.inMemory packet.getLength)
      ([y.1].filter fun job => job.handler = .createDhcp) := by
  obtain ⟨now, choice, u, fault, ho⟩ := mem_processed hy
  cases hans : y.2.answer with
  | none => exact .nil
  | some ans =>
      obtain ⟨r, _, _, u', _, text, hrequest, -, -, -, rfl⟩ := answer_eq ho hans
      have hjob : y.1 = .createDhcp r := by
        cases hcase : y.1 with
        | createDhcp r' =>
            rw [hcase, Job.request] at hrequest
            injection hrequest with hr
            rw [hr]
        | updateTime update =>
            rw [hcase] at hrequest
            contradiction
      obtain ⟨out, hsent, hreply⟩ := answer_sent r (inetAddr text) u' hdns
      rw [hjob, Option.map_some, Option.toList_some, List.flatMap_singleton, hsent]
      exact .cons ⟨r, inetAddr text, rfl, hreply⟩ .nil

/-- Whatever comes from the port of a server is what `send_packet` writes. -/
theorem sublist_answersWritten (hstep : s.step cfg ev = some s') :
    ((emission (s, ev)).toInside.filter fun out => out.IsUDP 67 68).Sublist
      (answersWritten (s, ev)) := by
  by_cases hnone : (emission (s, ev)).toInside.filter (fun out => out.IsUDP 67 68) = []
  · rw [hnone]
    exact List.nil_sublist _
  obtain ⟨out, hout⟩ := List.exists_mem_of_ne_nil _ hnone
  obtain ⟨hmem, hudp⟩ := List.mem_filter.mp hout
  cases steps_of_step hstep with
  | @gateway a loop e hopen hexec =>
      rw [emission_gateway hexec] at hmem ⊢
      obtain ⟨rfl, -⟩ := Loop.queued_of_server_toInside hexec hmem (of_decide_eq_true hudp)
      simp only [answersWritten, hexec]
      exact List.filter_sublist
  | poll | dispatch | serve | deliver | others => contradiction

/-- The replies to what has been processed. -/
def replies (ys : List (Job × Outcome)) : List Frame :=
  ys.flatMap fun y => (y.2.answer.map Answer.packet).toList.flatMap fun packet =>
    Device.writePacket packet.inMemory packet.getLength

/-- The packets that are passed on are those of the answers. -/
theorem replies_eq {h : List (System × Event)} :
    ((h.flatMap (processed cfg)).flatMap fun y => y.2.calls.filterMap Call.packet).flatMap
        (fun packet => Device.writePacket packet.inMemory packet.getLength) =
      replies (h.flatMap (processed cfg)) := by
  rw [replies, List.flatMap_assoc]
  refine List.flatMap_congr fun y hy => ?_
  obtain ⟨x, -, now, choice, u, fault, ho⟩ := mem_processed_history hy
  rw [packet_calls ho]

theorem answersWritten_history (hrun : run (step cfg) s es = some s') :
    (history (step cfg) s es).flatMap answersWritten =
      ((history (step cfg) s es).flatMap (handled .sendPacket)).flatMap
        fun packet => Device.writePacket packet.inMemory packet.getLength := by
  rw [List.flatMap_assoc]
  exact flatMap_history_congr (fun _ _ _ hstep => answersWritten_eq hstep) hrun

/-- Of the replies some have been written, and nothing else has. -/
theorem sublist_replies (hstart : start cfg t₀ inHeap outHeap = some s₀)
    (hrun : run (step cfg) s₀ es = some s) :
    (((history (step cfg) s₀ es).flatMap fun x => (emission x).toInside).filter
      fun out => out.IsUDP 67 68).Sublist
        (replies ((history (step cfg) s₀ es).flatMap (processed cfg))) := by
  have hway := way_in_order .sendPacket (by rintro ⟨⟩ hc <;> first | rfl | exact hc.elim) rfl hstart
    hrun
  have hnone : (startupCalls cfg t₀).filterMap Channel.sendPacket.request = [] := by
    simp [startupCalls, Channel.sendPacket, Call.packet]
  rw [hnone, List.nil_append, List.append_assoc] at hway
  rw [List.filter_flatMap, ← replies_eq]
  refine List.Sublist.trans ?_ ((hway ▸ List.sublist_append_left _ _).flatMap _)
  rw [← answersWritten_history hrun]
  refine List.Sublist.flatMap_right _ fun x hx => ?_
  obtain ⟨u, hu⟩ := step_of_mem_history hrun hx
  exact sublist_answersWritten hu

/-- Of the solicitations some have been processed, and no other request has. -/
theorem sublist_asked (hstart : start cfg t₀ inHeap outHeap = some s₀)
    (hrun : run (step cfg) s₀ es = some s) :
    (((history (step cfg) s₀ es).flatMap (processed cfg)).flatMap fun y =>
      [y.1].filter fun job => job.handler = .createDhcp).Sublist
        (((history (step cfg) s₀ es).flatMap asked).map fun f => .createDhcp f.dhcpRequest) := by
  have hnone : s₀.waiting .createDhcp = [] := by
    simp [waiting, (started hstart).thread, (started hstart).createDHCPRequestQueue]
  have hflow := (conserves_requests .createDhcp).run hrun
  rw [hnone, List.nil_append] at hflow
  rw [← handedOver_history hrun, List.filter_flatMap, hflow]
  refine List.Sublist.trans ?_ (List.sublist_append_left _ _)
  rw [List.flatMap_assoc]
  refine List.Sublist.flatMap_right _ fun x _ => ?_
  rw [List.map_eq_flatMap, List.filter_flatMap]

/-- **No reply is unsolicited.** In every run from startup, what is written inside
from the port of a DHCP server to that of a client is owed, one by one and in the
same order, to the solicitations that were read: each is the reply to one of them,
sent to the client it names, and none is answered twice. -/
theorem solicited_run (hdns : cfg.dnsList.length ≤ 63)
    (hstart : start cfg t₀ inHeap outHeap = some s₀) (hrun : run (step cfg) s₀ es = some s) :
    List.SublistForall₂ (fun out f => ∃ ip, out.IsReply f.dhcpRequest ip ∧
        out.etherDestination = f.etherSource)
      (((history (step cfg) s₀ es).flatMap fun x => (emission x).toInside).filter
        fun out => out.IsUDP 67 68)
      ((history (step cfg) s₀ es).flatMap asked) := by
  have howed : List.SublistForall₂ (fun out job => ∃ r ip, job = .createDhcp r ∧ out.IsReply r ip)
      (replies ((history (step cfg) s₀ es).flatMap (processed cfg)))
      (((history (step cfg) s₀ es).flatMap (processed cfg)).flatMap fun y =>
        [y.1].filter fun job => job.handler = .createDhcp) :=
    sublistForall₂_flatMap fun y hy => by
      obtain ⟨x, -, hy⟩ := List.mem_flatMap.mp hy
      exact replies_processed hdns hy
  have hsome := sublistForall₂_of_sublist howed (sublist_replies hstart hrun)
    (sublist_asked hstart hrun)
  refine sublistForall₂_imp (List.sublistForall₂_map_right_iff.mp hsome) fun out f hf hreply => ?_
  obtain ⟨r, ip, hjob, hreply⟩ := hreply
  obtain rfl := Job.createDhcp.inj hjob
  refine ⟨ip, hreply, hreply.etherDestination.trans ?_⟩
  obtain ⟨-, -, -, -, -, hsender⟩ := isSolicitation_of_asked hf
  exact hsender

/-- The one reply to the second client is owed to its one message. -/
theorem solicited_run_grant :
    ∃ s₀ s, start sampleConfig sampleTables (fun _ => 0) (fun _ => 0) = some s₀ ∧
      run (step sampleConfig) s₀ (sampleGrantRun 8) = some s ∧
      ∃ out f, ((history (step sampleConfig) s₀ (sampleGrantRun 8)).flatMap
          fun x => (emission x).toInside).filter (fun out => out.IsUDP 67 68) = [out] ∧
        (history (step sampleConfig) s₀ (sampleGrantRun 8)).flatMap asked = [f] ∧
        ∃ ip, out.IsReply f.dhcpRequest ip ∧ out.etherDestination = f.etherSource := by
  have hcheck : ∃ s₀ ∈ start sampleConfig sampleTables (fun _ => 0) (fun _ => 0),
      ∃ s ∈ run (step sampleConfig) s₀ (sampleGrantRun 8),
        (((history (step sampleConfig) s₀ (sampleGrantRun 8)).flatMap
          fun x => (emission x).toInside).filter fun out => out.IsUDP 67 68).length = 1 ∧
        ((history (step sampleConfig) s₀ (sampleGrantRun 8)).flatMap asked).length = 1 := by
    decide +kernel
  obtain ⟨s₀, hstart, s, hrun, houts, hasked⟩ := hcheck
  obtain ⟨out, hout⟩ := List.length_eq_one_iff.mp houts
  obtain ⟨f, hf⟩ := List.length_eq_one_iff.mp hasked
  have howed := solicited_run (by decide) hstart hrun
  rw [hout, hf] at howed
  refine ⟨s₀, s, hstart, hrun, out, f, hout, hf, ?_⟩
  cases howed with
  | cons hreply _ => exact hreply
  | cons_right hnone => cases hnone

end System

end GatewaySocket
