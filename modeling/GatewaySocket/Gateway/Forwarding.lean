import GatewaySocket.Gateway.Refinement

/-!
# Which frames get across

The conditions under which a frame is written to the other side, and under which
hardware addresses, are spelled out here for all frames. Behind the hardware
addresses a frame stays as it is, and these can be told from the frame that is
written: no two IPv4 frames become one on their way.
-/

namespace GatewaySocket

open ByteMemory

variable {T : Translator InAddr EtherAddr} {f f' out : Frame} {mac : EtherAddr}

/-- The frame carries neither ARP nor IPv4. -/
def Frame.Other (f : Frame) : Prop := ¬f.IsARP ∧ ¬f.IsIPv4

instance (f : Frame) : Decidable f.Other := inferInstanceAs (Decidable (_ ∧ _))

namespace Translator

/-- How a frame gets outside: as it is, if it is no matter of the maps or goes from
one foreign address to another, or in the name of its owner. -/
inductive Leaves (T : Translator InAddr EtherAddr) (f : Frame) : Frame → Prop
  | other (hother : f.Other) (hlen : 14 ≤ f.length) : Leaves T f f
  | foreign (horder : f.InOrder 68 67) (hdest : T.outer f.destinationIP = none)
      (hsrc : T.outer f.sourceIP = none) (howner : T.inner f.sourceIP = none) : Leaves T f f
  | owned (mac : EtherAddr) (horder : f.InOrder 68 67) (hdest : T.outer f.destinationIP = none)
      (hsrc : T.outer f.sourceIP = some mac) (howner : T.inner f.sourceIP = some f.etherSource) :
      Leaves T f (f.withSource mac)

/-- How a frame gets inside. -/
inductive Enters (T : Translator InAddr EtherAddr) (f : Frame) : Frame → Prop
  | other (hother : f.Other) : Enters T f f
  | foreign (horder : f.InOrder 67 68) (hstray : ¬f.IsStray) (hsrc : T.outer f.sourceIP = none)
      (hdest : T.outer f.destinationIP = none) : Enters T f f
  | unowned (horder : f.InOrder 67 68) (harp : f.IsARP) (hsrc : T.outer f.sourceIP = none)
      (hdest : T.outer f.destinationIP ≠ none) (howner : T.inner f.destinationIP = none) :
      Enters T f f
  | owned (mac owner : EtherAddr) (horder : f.InOrder 67 68) (hstray : ¬f.IsStray)
      (hsrc : T.outer f.sourceIP = none) (hdest : T.outer f.destinationIP = some mac)
      (howner : T.inner f.destinationIP = some owner)
      (haddressed : f.etherDestination = mac ∨ f.IsARP ∧ f.etherDestination = Gateway.etherBroadcast) :
      Enters T f (f.withDestination owner)

theorem mem_frames {rename : EtherAddr → Frame} {fate : Fate EtherAddr} :
    out ∈ fate.frames f rename ↔
      fate = .passed ∧ out = f ∨ ∃ mac, fate = .renamed mac ∧ out = rename mac := by
  cases fate <;> simp [Fate.frames]

theorem length_frames_le {rename : EtherAddr → Frame} {fate : Fate EtherAddr} :
    (fate.frames f rename).length ≤ 1 := by
  cases fate <;> simp [Fate.frames]

theorem other_of_not_inOrder {src dst : UInt16} (hother : f.Other) : ¬f.InOrder src dst := by
  rintro (⟨harp, -⟩ | ⟨hip, -⟩)
  · exact hother.1 harp
  · exact hother.2 hip

theorem mem_toOutside_iff : out ∈ T.toOutside f ↔ f.length ≤ 1514 ∧ T.Leaves f out := by
  unfold toOutside
  by_cases hlong : 1514 < f.length
  · rw [if_pos hlong]
    exact iff_of_false List.not_mem_nil fun h => absurd h.1 (Nat.not_le.mpr hlong)
  rw [if_neg hlong, and_iff_right (Nat.le_of_not_lt hlong), Frame.readInside]
  by_cases horder : f.InOrder 68 67
  · simp only [if_pos horder, mem_frames, fate, leave_eq_passed_iff, leave_eq_renamed_iff]
    constructor
    · rintro (⟨⟨hdest, howner, hsrc⟩, rfl⟩ | ⟨mac, ⟨hdest, howner, hsrc⟩, rfl⟩)
      · exact .foreign horder hdest hsrc howner
      · exact .owned mac horder hdest hsrc howner
    · intro h
      cases h with
      | other hother hlen => exact absurd horder (other_of_not_inOrder hother)
      | foreign _ hdest hsrc howner => exact .inl ⟨⟨hdest, howner, hsrc⟩, rfl⟩
      | owned mac _ hdest hsrc howner => exact .inr ⟨mac, ⟨hdest, howner, hsrc⟩, rfl⟩
  by_cases hknown : f.IsARP ∨ f.IsIPv4 ∨ f.length < 14
  · simp only [if_neg horder, if_pos hknown]
    refine iff_of_false List.not_mem_nil fun h => ?_
    cases h with
    | other hother hlen =>
        rcases hknown with harp | hip | hshort
        · exact hother.1 harp
        · exact hother.2 hip
        · omega
    | foreign h | owned mac h => exact horder h
  · simp only [if_neg horder, if_neg hknown, List.mem_singleton]
    obtain ⟨harp, hip, hshort⟩ : ¬f.IsARP ∧ ¬f.IsIPv4 ∧ ¬f.length < 14 := by tauto
    constructor
    · rintro rfl
      exact .other ⟨harp, hip⟩ (Nat.le_of_not_lt hshort)
    · intro h
      cases h with
      | other => rfl
      | foreign h | owned mac h => exact absurd h horder

theorem isIPv4_of_isStray (h : f.IsStray) : f.IsIPv4 := h.1.elim And.left And.left

theorem isSome_everybody_iff : f.everybody.isSome ↔ f.IsARP := by
  unfold Frame.everybody
  split <;> simp [*]

theorem everybody_eq_iff : f.everybody = some mac ↔ f.IsARP ∧ mac = Gateway.etherBroadcast := by
  unfold Frame.everybody
  split <;> simp [*, eq_comm]

theorem mem_toInside_iff : out ∈ T.toInside f ↔ f.length ≤ 1514 ∧ T.Enters f out := by
  unfold toInside
  by_cases hlong : 1514 < f.length
  · rw [if_pos (.inl hlong)]
    exact iff_of_false List.not_mem_nil fun h => absurd h.1 (Nat.not_le.mpr hlong)
  rw [and_iff_right (Nat.le_of_not_lt hlong)]
  by_cases hstray : f.IsStray
  · have hip := isIPv4_of_isStray hstray
    rw [if_pos (.inr hstray)]
    refine iff_of_false List.not_mem_nil fun h => ?_
    cases h with
    | other hother => exact hother.2 hip
    | foreign _ h | owned _ _ _ h => exact h hstray
    | unowned _ harp => exact Frame.not_isARP_of_isIPv4 hip harp
  rw [if_neg (not_or.mpr ⟨hlong, hstray⟩), Frame.readOutside]
  by_cases horder : f.InOrder 67 68
  · simp only [if_pos horder, mem_frames, fate, enter_eq_passed_iff, enter_eq_renamed_iff,
      isSome_everybody_iff, everybody_eq_iff]
    constructor
    · rintro (⟨⟨hsrc, hdest⟩, rfl⟩ | ⟨owner, ⟨hsrc, howner, mac, hdest, haddressed⟩, rfl⟩)
      · by_cases hnone : T.outer out.destinationIP = none
        · exact .foreign horder hstray hsrc hnone
        · obtain ⟨howner, harp⟩ := hdest.resolve_left hnone
          exact .unowned horder harp hsrc hnone howner
      · exact .owned mac owner horder hstray hsrc hdest howner
          (haddressed.imp Eq.symm id)
    · intro h
      cases h with
      | other hother => exact absurd horder (other_of_not_inOrder hother)
      | foreign _ _ hsrc hdest => exact .inl ⟨⟨hsrc, .inl hdest⟩, rfl⟩
      | unowned _ harp hsrc hdest howner => exact .inl ⟨⟨hsrc, .inr ⟨howner, harp⟩⟩, rfl⟩
      | owned mac owner _ _ hsrc hdest howner haddressed =>
          exact .inr ⟨owner, ⟨hsrc, howner, mac, hdest, haddressed.imp Eq.symm id⟩, rfl⟩
  by_cases hknown : f.IsARP ∨ f.IsIPv4
  · simp only [if_neg horder, if_pos hknown]
    refine iff_of_false List.not_mem_nil fun h => ?_
    cases h with
    | other hother => exact hknown.elim hother.1 hother.2
    | foreign h | unowned h | owned _ _ h => exact horder h
  · simp only [if_neg horder, if_neg hknown, List.mem_singleton]
    constructor
    · rintro rfl
      exact .other (not_or.mp hknown)
    · intro h
      cases h with
      | other => rfl
      | foreign h | unowned h | owned _ _ h => exact absurd h horder

/-- At most one frame is written for a frame. -/
theorem length_toOutside_le (T : Translator InAddr EtherAddr) (f : Frame) :
    (T.toOutside f).length ≤ 1 := by
  unfold toOutside
  split
  · exact Nat.zero_le 1
  split
  · exact Nat.zero_le 1
  · exact Nat.le_refl 1
  · exact length_frames_le

theorem length_toInside_le (T : Translator InAddr EtherAddr) (f : Frame) :
    (T.toInside f).length ≤ 1 := by
  unfold toInside
  split
  · exact Nat.zero_le 1
  split
  · exact Nat.zero_le 1
  · exact Nat.le_refl 1
  · exact length_frames_le

end Translator

namespace Gateway

variable {g : Gateway} {t : UInt64} {p : Packet} {u : Indeterminate} {e : Effect}

theorem insideOutcome_eq_none_iff : g.insideOutcome t f = none ↔ f.length ≤ 1514 ∧
    f.InOrder 68 67 ∧ g.staticIPMap.find f.destinationIP = none ∧
    UserMap.owner g.userMap f.sourceIP = some f.etherSource ∧
    g.staticIPMap.find f.sourceIP = none := by
  unfold insideOutcome
  by_cases hlong : 1514 < f.length
  · rw [if_pos hlong]
    exact iff_of_false (Option.some_ne_none _) fun h => absurd h.1 (Nat.not_le.mpr hlong)
  rw [if_neg hlong, and_iff_right (Nat.le_of_not_lt hlong), Frame.readInside]
  by_cases horder : f.InOrder 68 67
  · have hundefined : g.translator.leave f.destinationIP f.sourceIP f.etherSource = .undefined ↔ _ :=
      Translator.leave_eq_undefined_iff
    rw [if_pos horder, and_iff_right horder]
    refine Iff.trans ?_ hundefined
    simp only [Translator.fate]
    cases g.translator.leave f.destinationIP f.sourceIP f.etherSource <;> simp [outcomeOf]
  · refine iff_of_false ?_ fun h => horder h.1
    rw [if_neg horder]
    by_cases hknown : f.IsARP ∨ f.IsIPv4 ∨ f.length < 14
    · rw [if_pos hknown]
      exact Option.some_ne_none _
    · rw [if_neg hknown]
      exact Option.some_ne_none _

/-- **Which frames get across.** A frame of at most 1514 bytes that has been received as
far as it is read gets outside just as `Leaves` says, and inside just as `Enters` says,
and nothing else does. -/
theorem across_iff (g : Gateway) (t : UInt64) (p : Packet) (u : Indeterminate)
    (hcovered : f.Covered) :
    (g.inside t p f u = none ↔ f.length ≤ 1514 ∧ f.InOrder 68 67 ∧
      g.staticIPMap.find f.destinationIP = none ∧
      UserMap.owner g.userMap f.sourceIP = some f.etherSource ∧
      g.staticIPMap.find f.sourceIP = none) ∧
    (∀ e, g.inside t p f u = some e → e.toOutside.length ≤ 1 ∧
      ∀ out, out ∈ e.toOutside ↔ f.length ≤ 1514 ∧ g.translator.Leaves f out) ∧
    (g.outside p f u).toInside.length ≤ 1 ∧
      ∀ out, out ∈ (g.outside p f u).toInside ↔ f.length ≤ 1514 ∧ g.translator.Enters f out := by
  refine ⟨?_, fun e he => ?_, ?_⟩
  · rw [← insideOutcome_eq_none_iff (t := t), ← inside_outcome_eq (p := p) (u := u) hcovered,
      Option.map_eq_none_iff]
  · have hout := (Router.Output.mk.inj (router_inside hcovered he).2).2
    rw [← hout]
    exact ⟨Translator.length_toOutside_le _ f, fun out => Translator.mem_toOutside_iff⟩
  · have hout := (Router.Output.mk.inj (router_outside (g := g) (p := p) (u := u) hcovered).2).1
    rw [← hout]
    exact ⟨Translator.length_toInside_le _ f, fun out => Translator.mem_toInside_iff⟩

/-- The request of the user of `sample` gets across, in the name of the static
address. -/
theorem across_iff_request :
    ∃ e, sample.inside 1 sampleBuffer (sampleRequest sampleUserMAC) default = some e ∧
      e.toOutside.length ≤ 1 ∧
      (sampleRequest sampleUserMAC).withSource sampleStaticMAC ∈ e.toOutside := by
  have hsome : (sample.inside 1 sampleBuffer (sampleRequest sampleUserMAC) default).isSome := by
    decide +kernel
  obtain ⟨e, he⟩ := Option.isSome_iff_exists.mp hsome
  have hacross := (@across_iff (sampleRequest sampleUserMAC) sample 1 sampleBuffer default
    (by decide +kernel)).2.1 e he
  exact ⟨e, he, hacross.1, (hacross.2 _).mpr ⟨by decide, .owned sampleStaticMAC (by decide +kernel)
    (by decide +kernel) (by decide +kernel) (by decide +kernel)⟩⟩

end Gateway

/-! ## Nothing is lost on the way -/

namespace Frame

/-- Frames that agree on a field and outside it are the same. -/
theorem eq_of_field_eq {pos n : ℕ} (hlen : f.length = f'.length)
    (hfield : f.field pos n = f'.field pos n)
    (hrest : ∀ i, i < pos ∨ pos + n ≤ i → f[i]? = f'[i]?) : f = f' := by
  refine List.ext_getElem? fun i => ?_
  by_cases hi : i < pos ∨ pos + n ≤ i
  · exact hrest i hi
  by_cases hin : i < f.length
  · have hoffset : i - pos < n := by omega
    have hbyte : (f.field pos n)[i - pos] = (f'.field pos n)[i - pos] := by rw [hfield]
    simp only [field, getElem_load, ofList] at hbyte
    rw [Nat.add_sub_cancel' (by omega)] at hbyte
    rw [List.getElem?_eq_getElem hin, List.getElem?_eq_getElem (hlen ▸ hin)]
    rw [List.getD_eq_getElem _ _ hin, List.getD_eq_getElem _ _ (hlen ▸ hin)] at hbyte
    rw [hbyte]
  · rw [List.getElem?_eq_none (by omega), List.getElem?_eq_none (by omega)]

/-- A patch only hides what it covers. -/
theorem eq_of_patch_eq {pos n : ℕ} {v v' : Octets n}
    (h : f.patch pos v.toList = f'.patch pos v'.toList) (hfield : f.field pos n = f'.field pos n) :
    f = f' := by
  refine eq_of_field_eq (by simpa using congrArg List.length h) hfield fun i hi => ?_
  have hbyte := congrArg (fun out : Frame => out[i]?) h
  simpa [getElem?_patch_of_outside, hi] using hbyte

/-- Frames that a field is hidden in can be told apart, if something else tells
whether it is hidden and what is behind. -/
theorem eq_of_hidden {pos n : ℕ} (key : Frame → InAddr) (behind : InAddr → Option (Octets n))
    (h : behind (key f) = none ∧ out = f ∨
      behind (key f) = some (f.field pos n) ∧ ∃ v : Octets n, out = f.patch pos v.toList)
    (h' : behind (key f') = none ∧ out = f' ∨
      behind (key f') = some (f'.field pos n) ∧ ∃ v : Octets n, out = f'.patch pos v.toList)
    (hkey : key f = key f') : f = f' := by
  rcases h with ⟨hnone, hout⟩ | ⟨hsome, v, hout⟩ <;>
    rcases h' with ⟨hnone', hout'⟩ | ⟨hsome', v', hout'⟩
  · exact hout.symm.trans hout'
  · rw [hkey, hsome'] at hnone
    contradiction
  · rw [hkey, hnone'] at hsome
    contradiction
  · rw [hkey, hsome'] at hsome
    exact eq_of_patch_eq (hout.symm.trans hout') (Option.some.inj hsome).symm

end Frame

namespace Translator

/-- What leaves in an IPv4 frame, and how the source address tells it. -/
theorem Leaves.of_isIPv4 (hip : f.IsIPv4) (h : T.Leaves f out) :
    out.ipSource = f.ipSource ∧
      ((T.outer f.ipSource).bind (fun _ => T.inner f.ipSource) = none ∧ out = f ∨
        (T.outer f.ipSource).bind (fun _ => T.inner f.ipSource) = some (f.field 6 6) ∧
          ∃ v : EtherAddr, out = f.patch 6 v.toList) := by
  have hnot := Frame.not_isARP_of_isIPv4 hip
  have hsource : f.sourceIP = f.ipSource := if_neg hnot
  cases h with
  | other hother => exact absurd hip hother.2
  | foreign _ _ hsrc =>
      rw [hsource] at hsrc
      exact ⟨rfl, .inl ⟨by rw [hsrc]; rfl, rfl⟩⟩
  | owned mac horder _ hsrc howner =>
      rw [hsource] at hsrc howner
      have hge := f.ipHeaderLength_ge
      have hlen : ¬(f.length < 28 + f.ipHeaderLength ∨ f.IsUDP 68 67) :=
        (Frame.inOrder_of_isIPv4 hip).mp horder
      have hout : f.withSource mac = f.patch 6 mac.toList := if_neg hnot
      rw [hout]
      refine ⟨Frame.field_patch_of_disjoint (by omega) (.inr (by simp)), .inr ⟨?_, mac, rfl⟩⟩
      rw [hsrc, Option.bind_some, howner]
      rfl

/-- What enters in an IPv4 frame, and how the destination address tells it. -/
theorem Enters.of_isIPv4 (hip : f.IsIPv4) (h : T.Enters f out) :
    out.ipDestination = f.ipDestination ∧
      (T.outer f.ipDestination = none ∧ out = f ∨
        T.outer f.ipDestination = some (f.field 0 6) ∧
          ∃ v : EtherAddr, out = f.patch 0 v.toList) := by
  have hnot := Frame.not_isARP_of_isIPv4 hip
  have hdestination : f.destinationIP = f.ipDestination := if_neg hnot
  cases h with
  | other hother => exact absurd hip hother.2
  | foreign _ _ _ hdest =>
      rw [hdestination] at hdest
      exact ⟨rfl, .inl ⟨hdest, rfl⟩⟩
  | unowned _ harp => exact absurd harp hnot
  | owned mac owner horder _ _ hdest _ haddressed =>
      rw [hdestination] at hdest
      have hge := f.ipHeaderLength_ge
      have hlen : ¬(f.length < 28 + f.ipHeaderLength ∨ f.IsUDP 67 68) :=
        (Frame.inOrder_of_isIPv4 hip).mp horder
      have hout : f.withDestination owner = f.patch 0 owner.toList := if_neg hnot
      rw [hout]
      refine ⟨Frame.ipDestination_patch_zero (by omega) owner, .inr ⟨?_, owner, rfl⟩⟩
      rw [hdest, ← haddressed.resolve_right fun h => hnot h.1]
      rfl

end Translator

namespace Gateway

variable {g : Gateway}

/-- **No two packets become one.** With the same maps, an IPv4 frame that one of the
loops writes to the other side tells which frame it was received as. -/
theorem received_unique (hip : f.IsIPv4) (hip' : f'.IsIPv4) :
    (∀ t t' p p' u u' e e', g.inside t p f u = some e → g.inside t' p' f' u' = some e' →
      out ∈ e.toOutside → out ∈ e'.toOutside → f = f') ∧
    ∀ p p' u u', out ∈ (g.outside p f u).toInside → out ∈ (g.outside p' f' u').toInside → f = f' := by
  have hcovered : f.Covered := fun harp => absurd harp (Frame.not_isARP_of_isIPv4 hip)
  have hcovered' : f'.Covered := fun harp => absurd harp (Frame.not_isARP_of_isIPv4 hip')
  constructor
  · intro t t' p p' u u' e e' he he' hout hout'
    rw [← (Router.Output.mk.inj (router_inside hcovered he).2).2] at hout
    rw [← (Router.Output.mk.inj (router_inside hcovered' he').2).2] at hout'
    obtain ⟨hkey, hhidden⟩ := (Translator.mem_toOutside_iff.mp hout).2.of_isIPv4 hip
    obtain ⟨hkey', hhidden'⟩ := (Translator.mem_toOutside_iff.mp hout').2.of_isIPv4 hip'
    exact Frame.eq_of_hidden Frame.ipSource
      (fun ip => (g.translator.outer ip).bind fun _ => g.translator.inner ip) hhidden hhidden'
      (hkey.symm.trans hkey')
  · intro p p' u u' hout hout'
    rw [← (Router.Output.mk.inj (router_outside (g := g) (p := p) (u := u) hcovered).2).1] at hout
    rw [← (Router.Output.mk.inj (router_outside (g := g) (p := p') (u := u') hcovered').2).1] at hout'
    obtain ⟨hkey, hhidden⟩ := (Translator.mem_toInside_iff.mp hout).2.of_isIPv4 hip
    obtain ⟨hkey', hhidden'⟩ := (Translator.mem_toInside_iff.mp hout').2.of_isIPv4 hip'
    exact Frame.eq_of_hidden Frame.ipDestination g.translator.outer hhidden hhidden'
      (hkey.symm.trans hkey')

/-- Two datagrams of the user of `sample` that differ in a byte get across as two. -/
theorem received_unique_options :
    ∃ e e', sample.inside 1 sampleBuffer (sampleOptions [1, 2, 3, 4, 5, 6]) default = some e ∧
      sample.inside 2 staleBuffer (sampleOptions [1, 2, 3, 4, 5, 7]) default = some e' ∧
      e.toOutside.length = 1 ∧ e'.toOutside.length = 1 ∧
      ∀ out ∈ e.toOutside, out ∉ e'.toOutside := by
  have hcheck : (∃ e ∈ sample.inside 1 sampleBuffer (sampleOptions [1, 2, 3, 4, 5, 6]) default,
      e.toOutside.length = 1) ∧
      ∃ e ∈ sample.inside 2 staleBuffer (sampleOptions [1, 2, 3, 4, 5, 7]) default,
        e.toOutside.length = 1 := by
    decide +kernel
  obtain ⟨⟨e, he, hone⟩, e', he', hone'⟩ := hcheck
  refine ⟨e, e', he, he', hone, hone', fun out hout hout' => ?_⟩
  have hsame := (received_unique (by decide +kernel) (by decide +kernel)).1 _ _ _ _ _ _ _ _ he he'
    hout hout'
  exact absurd hsame (by decide)

end Gateway

end GatewaySocket
