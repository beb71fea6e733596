import GatewaySocket.Gateway.Refinement

/-!
# The loop and its two devices

A packet socket sees every frame of its interface, those that the host itself sends
as well. `Device::readPacket` goes on reading until a frame comes that was received,
or nothing is left; what it skips lies in the buffer until the next frame is read
over it. `Line` is the loop with the queues of its two sockets. Each device hands
over the frames that were received on it, once and in their order, and the skipped
ones leave no trace in what is written.
-/

namespace GatewaySocket

open ByteMemory Transition

/-- What `recvfrom` says about a frame, as far as it is looked at, and the length
that it leaves in `len`. -/
structure SockaddrLl where
  sllHatype : UInt16
  sllIfindex : Int32
  sllPkttype : UInt8
  len : ℕ
  deriving DecidableEq

/-- `sizeof(struct sockaddr_ll)`. -/
abbrev sockaddrLlLen : ℕ := 20

/-- `PACKET_OUTGOING`. -/
abbrev packetOutgoing : UInt8 := 4

/-- What `recvfrom` takes off the queue of a socket. -/
inductive Delivery
  | frame (eth : SockaddrLl) (frame : Frame)
  | error

/-- `Device`, with the queue of its socket. -/
structure Device where
  devID : Int32
  queue : List Delivery

namespace Device

/-- The loop of `readPacket`: the buffer afterwards, the frame whose length is
returned, unless `recvfrom` fails, and the rest of the queue. -/
def recv (devID : Int32) (buffer : Memory) (length : ℕ) :
    List Delivery → Memory × Option Frame × List Delivery
  | [] => (buffer, none, [])
  | .error :: queue => (buffer, none, queue)
  | .frame eth frame :: queue =>
    let buffer := readPacket buffer length frame
    if eth.sllHatype ≠ arphrdEther then recv devID buffer length queue
    else if eth.len > sockaddrLlLen then recv devID buffer length queue
    else if eth.sllIfindex ≠ devID then recv devID buffer length queue
    else if eth.sllPkttype = packetOutgoing then recv devID buffer length queue
    else (buffer, some frame, queue)

variable {devID : Int32}

/-- The frame was received on the device. -/
def Accepts (devID : Int32) (eth : SockaddrLl) : Prop :=
  eth.sllHatype = arphrdEther ∧ eth.len ≤ sockaddrLlLen ∧ eth.sllIfindex = devID ∧
    eth.sllPkttype ≠ packetOutgoing

instance : DecidablePred (Accepts devID) :=
  fun _ => inferInstanceAs (Decidable (_ ∧ _ ∧ _ ∧ _))

def accepted (devID : Int32) : Delivery → Option Frame
  | .frame eth frame => if Accepts devID eth then some frame else none
  | .error => none

/-- The frames that the device has still to hand over. -/
def frames (d : Device) : List Frame := d.queue.filterMap (accepted d.devID)

variable {buffer : Memory} {length : ℕ} {queue : List Delivery}

theorem recv_frame (devID : Int32) (buffer : Memory) (length : ℕ) (eth : SockaddrLl) (frame : Frame)
    (queue : List Delivery) : recv devID buffer length (.frame eth frame :: queue) =
      if Accepts devID eth then (readPacket buffer length frame, some frame, queue)
      else recv devID (readPacket buffer length frame) length queue := by
  by_cases hhatype : eth.sllHatype = arphrdEther
  · by_cases hlen : eth.len ≤ sockaddrLlLen
    · by_cases hindex : eth.sllIfindex = devID
      · by_cases htype : eth.sllPkttype = packetOutgoing <;>
          simp [recv, Accepts, hhatype, hlen, hindex, htype, Nat.not_lt.mpr hlen]
      · simp [recv, Accepts, hhatype, hindex]
    · simp [recv, Accepts, hhatype, hlen, Nat.lt_of_not_le hlen]
  · simp [recv, Accepts, hhatype]

theorem frames_push (d : Device) (item : Delivery) :
    { d with queue := d.queue ++ [item] }.frames = d.frames ++ (accepted d.devID item).toList := by
  rw [frames, List.filterMap_append, List.filterMap_cons]
  cases accepted d.devID item <;> rfl

/-- One call hands over the first frame that was received, if it comes to one. -/
theorem filterMap_accepted (devID : Int32) (buffer : Memory) (length : ℕ) (queue : List Delivery) :
    queue.filterMap (accepted devID) = (recv devID buffer length queue).2.1.toList ++
      (recv devID buffer length queue).2.2.filterMap (accepted devID) := by
  induction queue generalizing buffer with
  | nil => rfl
  | cons item queue ih =>
      cases item with
      | error => rfl
      | frame eth frame =>
          rw [recv_frame, List.filterMap_cons, accepted]
          by_cases haccepts : Accepts devID eth
          · rw [if_pos haccepts, if_pos haccepts]
            rfl
          · rw [if_neg haccepts, if_neg haccepts]
            exact ih _

end Device

/-- The loop with its two devices. -/
structure Line where
  loop : Loop
  inDev : Device
  outDev : Device

namespace Line

inductive Event
  /-- the socket of `inDev` is given something to hand over -/
  | toIn (d : Delivery)
  | toOut (d : Delivery)
  /-- a round of the inside loop -/
  | readIn (u : Indeterminate)
  | readOut (u : Indeterminate)
  /-- an action of the loop that reads nothing -/
  | other (a : Action)

/-- A round of the inside loop, up to the return of `readPacket`. -/
def readIn (w : Line) : Loop × Option Frame × Device :=
  let (buffer, frame, queue) :=
    Device.recv w.inDev.devID w.loop.inPacket.inMemory myPacketLen w.inDev.queue
  ({ w.loop with inPacket := { w.loop.inPacket with inMemory := buffer } }, frame,
    { w.inDev with queue })

/-- A round of the outside loop, up to the return of `readPacket`. -/
def readOut (w : Line) : Loop × Option Frame × Device :=
  let (buffer, frame, queue) :=
    Device.recv w.outDev.devID w.loop.outPacket.inMemory myPacketLen w.outDev.queue
  ({ w.loop with outPacket := { w.loop.outPacket with inMemory := buffer } }, frame,
    { w.outDev with queue })

end Line

/-- The action is a round of a burst loop. -/
def Action.Reads : Action → Prop
  | .inside _ _ | .outside _ _ => True
  | _ => False

instance : DecidablePred Action.Reads
  | .inside _ _ | .outside _ _ => .isTrue trivial
  | .call _ | .gettimeofday _ | .poll | .handle _ | .endPass => .isFalse id

namespace Line

/-- A round of a burst loop goes on as `Loop` has it, which reads the frame into the
buffer once more. -/
def step (w : Line) : Event → Option Line
  | .toIn d => some { w with inDev := { w.inDev with queue := w.inDev.queue ++ [d] } }
  | .toOut d => some { w with outDev := { w.outDev with queue := w.outDev.queue ++ [d] } }
  | .readIn u =>
    let (loop, frame, inDev) := w.readIn
    (loop.step (.inside frame u)).map fun loop => { w with loop, inDev }
  | .readOut u =>
    let (loop, frame, outDev) := w.readOut
    (loop.step (.outside frame u)).map fun loop => { w with loop, outDev }
  | .other a => if a.Reads then none else (w.loop.step a).map fun loop => { w with loop }

/-- The loop as it takes the action that the event is. -/
def view (w : Line) : Event → Option (Loop × Action)
  | .toIn _ | .toOut _ => none
  | .readIn u => some (w.readIn.1, .inside w.readIn.2.1 u)
  | .readOut u => some (w.readOut.1, .outside w.readOut.2.1 u)
  | .other a => some (w.loop, a)

/-- What the event does to the router. -/
def inputs (x : Line × Event) : List Router.Input := ((x.1.view x.2).map Loop.inputs).getD []

def answered (x : Line × Event) : List (Router.Input × Router.Output) :=
  ((x.1.view x.2).map Loop.answered).getD []

/-- What the event makes the loop emit. -/
def emitted (x : Line × Event) : Emission := ((x.1.view x.2).map Loop.emitted).getD {}

/-- The frame that `inDev` receives in the event. -/
def arrivedIn (x : Line × Event) : List Frame :=
  match x.2 with
  | .toIn d => (Device.accepted x.1.inDev.devID d).toList
  | _ => []

def arrivedOut (x : Line × Event) : List Frame :=
  match x.2 with
  | .toOut d => (Device.accepted x.1.outDev.devID d).toList
  | _ => []

end Line

/-- The frame from inside that the router is given. -/
def Router.Input.fromInside : Router.Input → Option Frame
  | .inside f => some f
  | _ => none

def Router.Input.fromOutside : Router.Input → Option Frame
  | .outside f => some f
  | _ => none

theorem Loop.fromInside_inputs (l : Loop) (a : Action) :
    (Loop.inputs (l, a)).filterMap Router.Input.fromInside =
      match a with
      | .inside frame _ => frame.toList
      | _ => [] := by
  cases a with
  | inside frame u => cases frame <;> rfl
  | outside frame u => cases frame <;> rfl
  | handle handler => cases handler <;> simp [Loop.inputs, Router.Input.fromInside]
  | _ => rfl

theorem Loop.fromOutside_inputs (l : Loop) (a : Action) :
    (Loop.inputs (l, a)).filterMap Router.Input.fromOutside =
      match a with
      | .outside frame _ => frame.toList
      | _ => [] := by
  cases a with
  | inside frame u => cases frame <;> rfl
  | outside frame u => cases frame <;> rfl
  | handle handler => cases handler <;> simp [Loop.inputs, Router.Input.fromOutside]
  | _ => rfl

namespace Line

variable {w w' : Line} {ev : Event} {es : List Event}

/-- The event is an action of the loop, which may have something else in its buffers,
or leaves it alone. -/
theorem step_view (h : w.step ev = some w') :
    w.view ev = none ∧ w'.loop = w.loop ∨
      ∃ l a, w.view ev = some (l, a) ∧ l.step a = some w'.loop ∧ l.gateway = w.loop.gateway := by
  cases ev with
  | toIn d | toOut d =>
      obtain rfl := Option.some.inj h
      exact .inl ⟨rfl, rfl⟩
  | readIn u | readOut u =>
      obtain ⟨loop, hloop, rfl⟩ := Option.map_eq_some_iff.mp h
      exact .inr ⟨_, _, rfl, hloop, rfl⟩
  | other a =>
      rw [step] at h
      split at h
      · contradiction
      · obtain ⟨loop, hloop, rfl⟩ := Option.map_eq_some_iff.mp h
        exact .inr ⟨_, _, rfl, hloop, rfl⟩

/-- An action that reads nothing gives the router no frame. -/
theorem frames_inputs_other {a : Action} (hreads : ¬a.Reads) :
    (inputs (w, .other a)).filterMap Router.Input.fromInside = [] ∧
      (inputs (w, .other a)).filterMap Router.Input.fromOutside = [] := by
  constructor
  · refine (Loop.fromInside_inputs w.loop a).trans ?_
    cases a with
    | inside frame u => exact absurd trivial hreads
    | _ => rfl
  · refine (Loop.fromOutside_inputs w.loop a).trans ?_
    cases a with
    | outside frame u => exact absurd trivial hreads
    | _ => rfl

/-- The inside loop gets the frames that `inDev` receives, in their order. -/
theorem conserves_in : Conserves step (fun w => w.inDev.frames) arrivedIn
    fun x => (inputs x).filterMap Router.Input.fromInside := by
  intro w ev w' h
  cases ev with
  | toIn d =>
      obtain rfl := Option.some.inj h
      exact (w.inDev.frames_push d).symm
  | toOut d =>
      obtain rfl := Option.some.inj h
      exact List.append_nil _
  | readIn u =>
      obtain ⟨loop, hloop, rfl⟩ := Option.map_eq_some_iff.mp h
      change w.inDev.frames ++ [] =
        (Loop.inputs (w.readIn.1, .inside w.readIn.2.1 u)).filterMap _ ++ w.readIn.2.2.frames
      rw [List.append_nil, Loop.fromInside_inputs]
      exact Device.filterMap_accepted _ _ _ _
  | readOut u =>
      obtain ⟨loop, hloop, rfl⟩ := Option.map_eq_some_iff.mp h
      change w.inDev.frames ++ [] =
        (Loop.inputs (w.readOut.1, .outside w.readOut.2.1 u)).filterMap _ ++ w.inDev.frames
      rw [List.append_nil, Loop.fromInside_inputs]
      rfl
  | other a =>
      rw [step] at h
      split at h
      · contradiction
      · next hreads =>
          obtain ⟨loop, hloop, rfl⟩ := Option.map_eq_some_iff.mp h
          change w.inDev.frames ++ [] =
            (inputs (w, .other a)).filterMap Router.Input.fromInside ++ w.inDev.frames
          rw [(frames_inputs_other hreads).1]
          exact List.append_nil _

/-- The outside loop gets the frames that `outDev` receives, in their order. -/
theorem conserves_out : Conserves step (fun w => w.outDev.frames) arrivedOut
    fun x => (inputs x).filterMap Router.Input.fromOutside := by
  intro w ev w' h
  cases ev with
  | toIn d =>
      obtain rfl := Option.some.inj h
      exact List.append_nil _
  | toOut d =>
      obtain rfl := Option.some.inj h
      exact (w.outDev.frames_push d).symm
  | readIn u =>
      obtain ⟨loop, hloop, rfl⟩ := Option.map_eq_some_iff.mp h
      change w.outDev.frames ++ [] =
        (Loop.inputs (w.readIn.1, .inside w.readIn.2.1 u)).filterMap _ ++ w.outDev.frames
      rw [List.append_nil, Loop.fromOutside_inputs]
      rfl
  | readOut u =>
      obtain ⟨loop, hloop, rfl⟩ := Option.map_eq_some_iff.mp h
      change w.outDev.frames ++ [] =
        (Loop.inputs (w.readOut.1, .outside w.readOut.2.1 u)).filterMap _ ++ w.readOut.2.2.frames
      rw [List.append_nil, Loop.fromOutside_inputs]
      exact Device.filterMap_accepted _ _ _ _
  | other a =>
      rw [step] at h
      split at h
      · contradiction
      · next hreads =>
          obtain ⟨loop, hloop, rfl⟩ := Option.map_eq_some_iff.mp h
          change w.outDev.frames ++ [] =
            (inputs (w, .other a)).filterMap Router.Input.fromOutside ++ w.outDev.frames
          rw [(frames_inputs_other hreads).2]
          exact List.append_nil _

/-- The action of the event is on a frame that has been received as far as it is read. -/
def Covered (w : Line) (ev : Event) : Prop := ∀ y ∈ w.view ev, Loop.Covered y.2

/-- An event is covered if the frames that it gives the router are. -/
theorem covered_of_inputs
    (hin : ∀ f ∈ (inputs (w, ev)).filterMap Router.Input.fromInside, f.Covered)
    (hout : ∀ f ∈ (inputs (w, ev)).filterMap Router.Input.fromOutside, f.Covered) :
    w.Covered ev := by
  rintro ⟨l, a⟩ hview
  have hinputs : inputs (w, ev) = Loop.inputs (l, a) := by
    rw [inputs, Option.mem_def.mp hview]
    rfl
  rw [hinputs, Loop.fromInside_inputs] at hin
  rw [hinputs, Loop.fromOutside_inputs] at hout
  cases a with
  | inside frame u =>
      cases frame with
      | none => trivial
      | some f => exact hin f List.mem_cons_self
  | outside frame u =>
      cases frame with
      | none => trivial
      | some f => exact hout f List.mem_cons_self
  | _ => trivial

/-- What an event does to the maps, and writes, the router does. -/
theorem routes (hcovered : w.Covered ev) (h : w.step ev = some w') :
    w'.loop.gateway.translator =
        (inputs (w, ev)).foldl Router.step w.loop.gateway.translator ∧
      answered (w, ev) =
        outputs Router.step Router.out w.loop.gateway.translator (inputs (w, ev)) := by
  rcases step_view h with ⟨hnone, hsame⟩ | ⟨l, a, hview, hloop, hgateway⟩
  · rw [inputs, answered, hnone, hsame]
    exact ⟨rfl, rfl⟩
  · rw [inputs, answered, hview, ← hgateway]
    exact Loop.routes (hcovered _ hview) hloop

/-- The emissions are the answers, in order. -/
theorem emitted_eq (h : w.step ev = some w') :
    (emitted (w, ev)).toInside = (answered (w, ev)).flatMap (fun y => y.2.toInside) ∧
      (emitted (w, ev)).toOutside = (answered (w, ev)).flatMap fun y => y.2.toOutside := by
  rcases step_view h with ⟨hnone, hsame⟩ | ⟨l, a, hview, hloop, hgateway⟩
  · rw [emitted, answered, hnone]
    exact ⟨rfl, rfl⟩
  · rw [emitted, answered, hview]
    exact Loop.emitted_eq hloop

/-- **From wire to wire.** If every frame has been received as far as it is read, then,
whatever a socket is given beside and wherever its reads fail, the router gets the
frames that each device receives, once and in their order, but for those that still
wait, and the loop writes to each device what the router writes. -/
theorem wire_to_wire
    (hcovered : ∀ f ∈ w.inDev.frames ++ (history step w es).flatMap arrivedIn ++
      (w.outDev.frames ++ (history step w es).flatMap arrivedOut), f.Covered)
    (hrun : run step w es = some w') :
    ((history step w es).flatMap inputs).filterMap Router.Input.fromInside ++ w'.inDev.frames =
        w.inDev.frames ++ (history step w es).flatMap arrivedIn ∧
      ((history step w es).flatMap inputs).filterMap Router.Input.fromOutside ++ w'.outDev.frames =
        w.outDev.frames ++ (history step w es).flatMap arrivedOut ∧
      w'.loop.gateway.translator =
        ((history step w es).flatMap inputs).foldl Router.step w.loop.gateway.translator ∧
      (history step w es).flatMap (fun x => (emitted x).toInside) =
        (outputs Router.step Router.out w.loop.gateway.translator
          ((history step w es).flatMap inputs)).flatMap (fun y => y.2.toInside) ∧
      (history step w es).flatMap (fun x => (emitted x).toOutside) =
        (outputs Router.step Router.out w.loop.gateway.translator
          ((history step w es).flatMap inputs)).flatMap fun y => y.2.toOutside := by
  have hin := conserves_in.run hrun
  have hout := conserves_out.run hrun
  have hall : AllSteps step Covered w es := by
    refine allSteps_of_history fun x hx => covered_of_inputs (fun f hf => ?_) fun f hf => ?_
    · refine hcovered f (List.mem_append_left _ ?_)
      rw [hin]
      exact List.mem_append_left _ (List.mem_flatMap.mpr ⟨x, hx, hf⟩)
    · refine hcovered f (List.mem_append_right _ ?_)
      rw [hout]
      exact List.mem_append_left _ (List.mem_flatMap.mpr ⟨x, hx, hf⟩)
  obtain ⟨htable, hanswered⟩ :=
    run_refines (A := fun w : Line => w.loop.gateway.translator) (fun _ _ _ => routes) hall hrun
  refine ⟨?_, ?_, htable, ?_, ?_⟩
  · rw [hin, List.filterMap_flatMap]
  · rw [hout, List.filterMap_flatMap]
  · rw [← hanswered, List.flatMap_assoc]
    exact flatMap_history_congr (fun _ _ _ hstep => (emitted_eq hstep).1) hrun
  · rw [← hanswered, List.flatMap_assoc]
    exact flatMap_history_congr (fun _ _ _ hstep => (emitted_eq hstep).2) hrun

/-- The loop of `sample` with two devices that have nothing to hand over. -/
def sampleLine : Line := ⟨Loop.sampleStart, ⟨3, []⟩, ⟨4, []⟩⟩

/-- The user of `sample` asks for the router after the host has sent the same frame. -/
def sampleHeard : List Event :=
  [.toIn (.frame ⟨arphrdEther, 3, packetOutgoing, sockaddrLlLen⟩
      (Gateway.sampleRequest Gateway.sampleUserMAC)),
    .toIn (.frame ⟨arphrdEther, 3, 0, sockaddrLlLen⟩ (Gateway.sampleRequest Gateway.sampleUserMAC)),
    .other (.gettimeofday 1), .readIn default]

/-- Of the two frames of `sampleHeard` only the received one is read, and the request
goes out once. -/
theorem wire_to_wire_request :
    ∃ w', run step sampleLine sampleHeard = some w' ∧ w'.inDev.frames = [] ∧
      ((history step sampleLine sampleHeard).flatMap inputs).filterMap Router.Input.fromInside =
        [Gateway.sampleRequest Gateway.sampleUserMAC] ∧
      (history step sampleLine sampleHeard).flatMap (fun x => (emitted x).toOutside) =
        [Gateway.sampleRequest Gateway.sampleStaticMAC] := by
  have hcheck : ∃ w' ∈ run step sampleLine sampleHeard, w'.inDev.frames = [] := by decide +kernel
  obtain ⟨w', hrun, hnone⟩ := hcheck
  obtain ⟨hin, -, -, -, hwritten⟩ := wire_to_wire (w := sampleLine) (by decide +kernel) hrun
  refine ⟨w', hrun, hnone, ?_, ?_⟩
  · rw [hnone, List.append_nil] at hin
    exact hin.trans (by decide +kernel)
  · exact hwritten.trans (by decide +kernel)

end Line

end GatewaySocket
