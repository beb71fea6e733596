import GatewaySocket.Container.RequestQueue
import GatewaySocket.Transition.Run
import Mathlib.Logic.Function.Basic

/-!
# A queue behind a lock and an event descriptor

Any number of threads add requests: each takes the lock, appends its request,
adds one to the counter of the descriptor and releases the lock. One consumer
waits until the descriptor is readable, takes the lock, reads the counter, which
sets it to zero, and takes that many requests off the front. It either handles
each as it takes it, or puts them aside and handles them after it has released
the lock. Reading a counter of zero blocks, and so does adding to one at its limit.

The moves interleave in any order the lock allows. `Sound` ties the counter to the
queue in every state; with the lock free they agree, which is what `RequestQueue`
takes for granted.
-/

open Transition

/-- Where a thread that adds a request stands. -/
inductive EventQueue.Caller (α : Type*)
  | idle
  | waiting (a : α)
  | locked (a : α)
  | pushed (a : α)
  | written

/-- Where the consumer stands: `draining` has so many requests to take off the
queue, and `processing` has these to handle. -/
inductive EventQueue.Consumer (α : Type*)
  | idle
  | ready
  | locked
  | draining (left : ℕ) (temp : List α)
  | processing (temp : List α)

/-- Who holds the lock. -/
inductive EventQueue.Holder (ι : Type*)
  | caller (i : ι)
  | consumer

/-- The lists `pushed` and `handled` only record what has happened. -/
structure EventQueue (ι α : Type*) where
  queue : List α
  counter : ℕ
  holder : Option (EventQueue.Holder ι)
  callers : ι → EventQueue.Caller α
  consumer : EventQueue.Consumer α
  pushed : List α
  handled : List α

namespace EventQueue

variable {ι α : Type*}

inductive Move (ι α : Type*)
  | call (i : ι) (a : α)
  | lock (i : ι)
  | push (i : ι)
  | write (i : ι)
  | unlock (i : ι)
  /-- the consumer finds the descriptor readable -/
  | poll
  | take
  | read
  | pop
  | release
  | process
  | finish

def Move.OfConsumer : Move ι α → Prop
  | .poll | .take | .read | .pop | .release | .process | .finish => True
  | _ => False

/-- The limit of the counter. -/
abbrev counterMax : ℕ := 0xfffffffffffffffe

def init : EventQueue ι α := ⟨[], 0, none, fun _ => .idle, .idle, [], []⟩

/-! ## The invariant -/

/-- The thread is between taking the lock and releasing it. -/
def Caller.Inside : Caller α → Prop
  | .locked _ | .pushed _ | .written => True
  | .idle | .waiting _ => False

def Consumer.Inside : Consumer α → Prop
  | .locked | .draining _ _ => True
  | .idle | .ready | .processing _ => False

/-- The requests that are appended and not yet counted. -/
def Caller.owed : Caller α → ℕ
  | .pushed _ => 1
  | _ => 0

/-- The requests that are counted and no longer announced. -/
def Consumer.left : Consumer α → ℕ
  | .draining left _ => left
  | _ => 0

/-- The requests that are put aside. -/
def Consumer.temp : Consumer α → List α
  | .draining _ temp | .processing temp => temp
  | _ => []

/-- How far the counter is behind the queue. -/
def owed (s : EventQueue ι α) : ℕ :=
  match s.holder with
  | none => 0
  | some (.caller i) => (s.callers i).owed
  | some .consumer => s.consumer.left

structure Sound (deferred : Bool) (s : EventQueue ι α) : Prop where
  callerHolds : ∀ i, (s.callers i).Inside ↔ s.holder = some (.caller i)
  consumerHolds : s.consumer.Inside ↔ s.holder = some .consumer
  count : s.counter + s.owed = s.queue.length
  appended : ∀ i a, s.callers i = .pushed a → s.queue.getLast? = some a
  announced : s.consumer = .ready ∨ s.consumer = .locked → s.counter ≠ 0
  drained : ∀ left temp, s.consumer = .draining left temp → s.counter = 0
  inline : deferred = false → s.consumer.temp = []
  order : s.pushed = s.handled ++ s.consumer.temp ++ s.queue

theorem sound_init (deferred : Bool) : Sound deferred (init : EventQueue ι α) where
  callerHolds := by simp [init, Caller.Inside]
  consumerHolds := by simp [init, Consumer.Inside]
  count := rfl
  appended := by simp [init]
  announced := by simp [init]
  drained := by simp [init]
  inline := fun _ => rfl
  order := rfl

section

variable {deferred : Bool} {s : EventQueue ι α} {i : ι} {a : α} {c : Caller α} {d : Consumer α}

theorem Sound.holder_of_caller (hs : s.Sound deferred) (hi : s.callers i = c) (hc : c.Inside) :
    s.holder = some (.caller i) :=
  (hs.callerHolds i).mp (hi ▸ hc)

theorem Sound.holder_ne_caller (hs : s.Sound deferred) (hi : s.callers i = c) (hc : ¬c.Inside) :
    s.holder ≠ some (.caller i) :=
  fun h => hc (hi ▸ (hs.callerHolds i).mpr h)

theorem Sound.holder_of_consumer (hs : s.Sound deferred) (hd : s.consumer = d) (hin : d.Inside) :
    s.holder = some .consumer :=
  hs.consumerHolds.mp (hd ▸ hin)

theorem Sound.holder_ne_consumer (hs : s.Sound deferred) (hd : s.consumer = d)
    (hout : ¬d.Inside) : s.holder ≠ some .consumer :=
  fun h => hout (hd ▸ hs.consumerHolds.mpr h)

/-- Only the thread that holds the lock has appended and not yet counted. -/
theorem Sound.not_pushed (hs : s.Sound deferred) (h : s.holder ≠ some (.caller i)) :
    s.callers i ≠ .pushed a :=
  fun hi => h (hs.holder_of_caller hi trivial)

/-- While the lock is not held by a thread, no thread is inside. -/
theorem Sound.callerHolds_of_ne (hs : s.Sound deferred) (h : ∀ i, s.holder ≠ some (.caller i))
    {holder : Option (Holder ι)} (h' : ∀ i, holder ≠ some (.caller i)) (j : ι) :
    (s.callers j).Inside ↔ holder = some (.caller j) := by
  simp [hs.callerHolds, h j, h' j]

/-- A move of the consumer outside the lock leaves the count as it is. -/
theorem Sound.count_of_holder_ne (hs : s.Sound deferred) (h : s.holder ≠ some .consumer)
    {s' : EventQueue ι α} (hcounter : s'.counter = s.counter) (hholder : s'.holder = s.holder)
    (hcallers : s'.callers = s.callers) (hqueue : s'.queue = s.queue) :
    s'.counter + s'.owed = s'.queue.length := by
  have howed : s'.owed = s.owed := by
    unfold owed
    rw [hholder, hcallers]
    cases hh : s.holder with
    | none => rfl
    | some holder =>
        cases holder with
        | caller i => rfl
        | consumer => contradiction
  rw [hcounter, howed, hqueue, hs.count]

/-- The consumer takes one request off the queue, and puts it aside or handles it. -/
theorem Sound.popped (hs : s.Sound deferred) {left : ℕ} {temp temp' rest handled : List α} {a : α}
    (hd : s.consumer = .draining (left + 1) temp) (hq : s.queue = a :: rest)
    (hinline : deferred = false → temp' = [])
    (horder : s.handled ++ temp ++ [a] = handled ++ temp') :
    Sound deferred
      { s with queue := rest, handled := handled, consumer := .draining left temp' } := by
  have hholder := hs.holder_of_consumer hd trivial
  have hnone : ∀ i b, s.callers i ≠ .pushed b := fun i b => hs.not_pushed (by simp [hholder])
  exact { hs with
    consumerHolds := by simp [Consumer.Inside, hholder]
    count := by
      have hcount := hs.count
      simp only [owed, hholder, hd, Consumer.left, hq, List.length_cons] at hcount ⊢
      omega
    appended := fun i b hi => absurd hi (hnone i b)
    announced := by simp
    drained := fun _ _ _ => hs.drained _ _ hd
    inline := hinline
    order := by
      rw [hs.order, hd, hq, Consumer.temp, Consumer.temp, ← horder, List.append_assoc _ [a] rest]
      rfl }

/-- The consumer goes on outside the lock. -/
theorem Sound.outside (hs : s.Sound deferred) {handled : List α} (hout : ¬s.consumer.Inside)
    (hd : ¬d.Inside) (hready : d = .ready → s.counter ≠ 0)
    (hinline : deferred = false → d.temp = [])
    (horder : s.handled ++ s.consumer.temp = handled ++ d.temp) :
    Sound deferred { s with handled := handled, consumer := d } := by
  have hholder := hs.holder_ne_consumer rfl hout
  exact { hs with
    consumerHolds := by simp [hd, hholder]
    count := hs.count_of_holder_ne hholder rfl rfl rfl rfl
    announced := by
      rintro (hr | rfl)
      · exact hready hr
      · exact absurd trivial hd
    drained := by
      rintro left temp rfl
      exact absurd trivial hd
    inline := hinline
    order := by rw [hs.order, horder] }

end

variable [DecidableEq ι]

def setCaller (s : EventQueue ι α) (i : ι) (c : Caller α) : ι → Caller α :=
  Function.update s.callers i c

/-- One move; `none` where the thread is elsewhere or has to wait, and for a `pop`
on an empty queue. With `deferred` the requests are handled after the release. -/
def step (deferred : Bool) (s : EventQueue ι α) : Move ι α → Option (EventQueue ι α)
  | .call i a =>
    match s.callers i with
    | .idle => some { s with callers := s.setCaller i (.waiting a) }
    | _ => none
  | .lock i =>
    match s.callers i, s.holder with
    | .waiting a, none =>
      some { s with holder := some (.caller i), callers := s.setCaller i (.locked a) }
    | _, _ => none
  | .push i =>
    match s.callers i with
    | .locked a =>
      some { s with
        queue := s.queue ++ [a], pushed := s.pushed ++ [a], callers := s.setCaller i (.pushed a) }
    | _ => none
  | .write i =>
    match s.callers i with
    | .pushed _ =>
      if s.counter < counterMax then
        some { s with counter := s.counter + 1, callers := s.setCaller i .written }
      else none
    | _ => none
  | .unlock i =>
    match s.callers i with
    | .written => some { s with holder := none, callers := s.setCaller i .idle }
    | _ => none
  | .poll =>
    match s.consumer with
    | .idle => if s.counter ≠ 0 then some { s with consumer := .ready } else none
    | _ => none
  | .take =>
    match s.consumer, s.holder with
    | .ready, none => some { s with holder := some .consumer, consumer := .locked }
    | _, _ => none
  | .read =>
    match s.consumer with
    | .locked =>
      if s.counter ≠ 0 then some { s with counter := 0, consumer := .draining s.counter [] }
      else none
    | _ => none
  | .pop =>
    match s.consumer, s.queue with
    | .draining (left + 1) temp, a :: rest =>
      if deferred then some { s with queue := rest, consumer := .draining left (temp ++ [a]) }
      else some { s with
        queue := rest, handled := s.handled ++ [a], consumer := .draining left temp }
    | _, _ => none
  | .release =>
    match s.consumer with
    | .draining 0 temp => some { s with holder := none, consumer := .processing temp }
    | _ => none
  | .process =>
    match s.consumer with
    | .processing (a :: temp) =>
      some { s with handled := s.handled ++ [a], consumer := .processing temp }
    | _ => none
  | .finish =>
    match s.consumer with
    | .processing [] => some { s with consumer := .idle }
    | _ => none

/-- What each move does. -/
inductive Steps (deferred : Bool) (s : EventQueue ι α) : Move ι α → EventQueue ι α → Prop
  | call {i : ι} (a : α) (hi : s.callers i = .idle) :
      Steps deferred s (.call i a) { s with callers := s.setCaller i (.waiting a) }
  | lock {i : ι} {a : α} (hi : s.callers i = .waiting a) (hfree : s.holder = none) :
      Steps deferred s (.lock i)
        { s with holder := some (.caller i), callers := s.setCaller i (.locked a) }
  | push {i : ι} {a : α} (hi : s.callers i = .locked a) :
      Steps deferred s (.push i) { s with
        queue := s.queue ++ [a], pushed := s.pushed ++ [a], callers := s.setCaller i (.pushed a) }
  | write {i : ι} {a : α} (hi : s.callers i = .pushed a) :
      Steps deferred s (.write i)
        { s with counter := s.counter + 1, callers := s.setCaller i .written }
  | unlock {i : ι} (hi : s.callers i = .written) :
      Steps deferred s (.unlock i) { s with holder := none, callers := s.setCaller i .idle }
  | poll (hc : s.consumer = .idle) (hcount : s.counter ≠ 0) :
      Steps deferred s .poll { s with consumer := .ready }
  | take (hc : s.consumer = .ready) (hfree : s.holder = none) :
      Steps deferred s .take { s with holder := some .consumer, consumer := .locked }
  | read (hc : s.consumer = .locked) :
      Steps deferred s .read { s with counter := 0, consumer := .draining s.counter [] }
  | popDeferred {left : ℕ} {temp : List α} {a : α} {rest : List α} (hd : deferred = true)
      (hc : s.consumer = .draining (left + 1) temp) (hq : s.queue = a :: rest) :
      Steps deferred s .pop
        { s with queue := rest, consumer := .draining left (temp ++ [a]) }
  | popInline {left : ℕ} {temp : List α} {a : α} {rest : List α} (hd : deferred = false)
      (hc : s.consumer = .draining (left + 1) temp) (hq : s.queue = a :: rest) :
      Steps deferred s .pop { s with
        queue := rest, handled := s.handled ++ [a], consumer := .draining left temp }
  | release {temp : List α} (hc : s.consumer = .draining 0 temp) :
      Steps deferred s .release { s with holder := none, consumer := .processing temp }
  | process {a : α} {temp : List α} (hc : s.consumer = .processing (a :: temp)) :
      Steps deferred s .process
        { s with handled := s.handled ++ [a], consumer := .processing temp }
  | finish (hc : s.consumer = .processing []) : Steps deferred s .finish { s with consumer := .idle }

variable {deferred : Bool} {s s' : EventQueue ι α} {m : Move ι α} {ms : List (Move ι α)}
  {q : RequestQueue α}

theorem steps_of_step (h : s.step deferred m = some s') : Steps deferred s m s' := by
  cases m with
  | call i a =>
      simp only [step] at h
      split at h
      · next hi => exact Option.some.inj h ▸ .call a hi
      · contradiction
  | lock i =>
      simp only [step] at h
      split at h
      · next hi hfree => exact Option.some.inj h ▸ .lock hi hfree
      · contradiction
  | push i =>
      simp only [step] at h
      split at h
      · next hi => exact Option.some.inj h ▸ .push hi
      · contradiction
  | write i =>
      simp only [step] at h
      split at h
      · next hi =>
          split at h
          · exact Option.some.inj h ▸ .write hi
          · contradiction
      · contradiction
  | unlock i =>
      simp only [step] at h
      split at h
      · next hi => exact Option.some.inj h ▸ .unlock hi
      · contradiction
  | poll =>
      simp only [step] at h
      split at h
      · next hc =>
          split at h
          · next hcount => exact Option.some.inj h ▸ .poll hc hcount
          · contradiction
      · contradiction
  | take =>
      simp only [step] at h
      split at h
      · next hc hfree => exact Option.some.inj h ▸ .take hc hfree
      · contradiction
  | read =>
      simp only [step] at h
      split at h
      · next hc =>
          split at h
          · exact Option.some.inj h ▸ .read hc
          · contradiction
      · contradiction
  | pop =>
      simp only [step] at h
      split at h
      · next hc hq =>
          split at h
          · next hd => exact Option.some.inj h ▸ .popDeferred hd hc hq
          · next hd => exact Option.some.inj h ▸ .popInline (by simpa using hd) hc hq
      · contradiction
  | release =>
      simp only [step] at h
      split at h
      · next hc => exact Option.some.inj h ▸ .release hc
      · contradiction
  | process =>
      simp only [step] at h
      split at h
      · next hc => exact Option.some.inj h ▸ .process hc
      · contradiction
  | finish =>
      simp only [step] at h
      split at h
      · next hc => exact Option.some.inj h ▸ .finish hc
      · contradiction

@[simp] theorem setCaller_self (s : EventQueue ι α) (i : ι) (c : Caller α) :
    s.setCaller i c i = c := by
  simp [setCaller]

theorem setCaller_of_ne (s : EventQueue ι α) {i j : ι} (h : j ≠ i) (c : Caller α) :
    s.setCaller i c j = s.callers j := by
  simp [setCaller, h]

/-- A thread that neither takes nor releases the lock keeps who holds it. -/
theorem Sound.callerHolds_setCaller (hs : s.Sound deferred) {i : ι} {c : Caller α}
    (h : c.Inside ↔ (s.callers i).Inside) (j : ι) :
    (s.setCaller i c j).Inside ↔ s.holder = some (.caller j) := by
  by_cases hj : j = i
  · rw [hj, setCaller_self, h, hs.callerHolds]
  · rw [setCaller_of_ne s hj, hs.callerHolds]

theorem owed_setCaller {i : ι} (h : s.holder ≠ some (.caller i)) (c : Caller α) :
    owed { s with callers := s.setCaller i c } = s.owed := by
  unfold owed
  cases hh : s.holder with
  | none => rfl
  | some holder =>
      cases holder with
      | caller j =>
          have hj : j ≠ i := fun hj => h (by rw [hh, hj])
          simp only [setCaller_of_ne s hj]
      | consumer => rfl

theorem Sound.appended_setCaller (hs : s.Sound deferred) {i : ι} {c : Caller α}
    (hc : ∀ a, c ≠ .pushed a) (j : ι) (a : α) (hj : s.setCaller i c j = .pushed a) :
    s.queue.getLast? = some a := by
  by_cases hji : j = i
  · rw [hji, setCaller_self] at hj
    exact absurd hj (hc a)
  · rw [setCaller_of_ne s hji] at hj
    exact hs.appended j a hj

/-- **Every move keeps the queue sound.** -/
theorem sound_step (hs : s.Sound deferred) (h : s.step deferred m = some s') :
    s'.Sound deferred := by
  cases steps_of_step h with
  | @call i a hi =>
      exact { hs with
        callerHolds := hs.callerHolds_setCaller (by simp [hi, Caller.Inside])
        count := by rw [owed_setCaller (hs.holder_ne_caller hi id), hs.count]
        appended := hs.appended_setCaller (by simp) }
  | @lock i a hi hfree =>
      have hcaller := hs.callerHolds
      have hconsumer := hs.consumerHolds
      simp only [hfree, reduceCtorEq, iff_false] at hcaller hconsumer
      exact { hs with
        callerHolds := by
          intro j
          by_cases hji : j = i
          · simp [hji, Caller.Inside]
          · simp [setCaller_of_ne s hji, hcaller j, Ne.symm hji]
        consumerHolds := by simp [hconsumer]
        count := by simpa [owed, hfree, Caller.owed] using hs.count
        appended := hs.appended_setCaller (by simp) }
  | @push i a hi =>
      have hholder := hs.holder_of_caller hi trivial
      exact { hs with
        callerHolds := hs.callerHolds_setCaller (by simp [hi, Caller.Inside])
        count := by
          have hcount := hs.count
          simp only [owed, hholder, hi, Caller.owed] at hcount
          simp [owed, hholder, Caller.owed, ← hcount]
        appended := by
          intro j b hj
          by_cases hji : j = i
          · obtain rfl : a = b := by simpa [hji] using hj
            simp
          · refine absurd ?_ (hs.not_pushed (i := j) (a := b) ?_)
            · simpa [setCaller_of_ne s hji] using hj
            · simp [hholder, Ne.symm hji]
        order := by simp [hs.order] }
  | @write i a hi =>
      have hholder := hs.holder_of_caller hi trivial
      exact { hs with
        callerHolds := hs.callerHolds_setCaller (by simp [hi, Caller.Inside])
        count := by
          have hcount := hs.count
          simp only [owed, hholder, hi, Caller.owed] at hcount
          simp [owed, hholder, Caller.owed, hcount]
        appended := hs.appended_setCaller (by simp)
        announced := fun _ => Nat.succ_ne_zero _
        drained := by
          intro left temp hd
          have hother := hs.holder_of_consumer hd trivial
          simp [hholder] at hother }
  | @unlock i hi =>
      have hholder := hs.holder_of_caller hi trivial
      have hconsumer := hs.consumerHolds
      simp only [hholder, Option.some.injEq, reduceCtorEq, iff_false] at hconsumer
      exact { hs with
        callerHolds := by
          intro j
          by_cases hji : j = i
          · simp [hji, Caller.Inside]
          · simp [setCaller_of_ne s hji, hs.callerHolds, hholder, Ne.symm hji]
        consumerHolds := by simp [hconsumer]
        count := by
          have hcount := hs.count
          simp only [owed, hholder, hi, Caller.owed] at hcount
          simpa [owed] using hcount
        appended := hs.appended_setCaller (by simp) }
  | poll hd hcount =>
      exact hs.outside (by simp [hd, Consumer.Inside]) id (fun _ => hcount) (fun _ => rfl)
        (by simp [hd, Consumer.temp])
  | take hd hfree =>
      exact { hs with
        callerHolds := hs.callerHolds_of_ne (by simp [hfree]) (by simp)
        consumerHolds := by simp [Consumer.Inside]
        count := by simpa [owed, hfree, Consumer.left] using hs.count
        announced := fun _ => hs.announced (.inl hd)
        drained := by simp
        inline := fun _ => rfl
        order := by simpa [hd, Consumer.temp] using hs.order }
  | read hd =>
      have hholder := hs.holder_of_consumer hd trivial
      exact { hs with
        consumerHolds := by simp [Consumer.Inside, hholder]
        count := by simpa [owed, hholder, hd, Consumer.left] using hs.count
        announced := by simp
        drained := fun _ _ _ => rfl
        inline := fun _ => rfl
        order := by simpa [hd, Consumer.temp] using hs.order }
  | @popDeferred left temp a rest hdef hd hq =>
      exact hs.popped hd hq (fun hinline => by simp [hdef] at hinline) (List.append_assoc _ _ _)
  | @popInline left temp a rest hdef hd hq =>
      have htemp : temp = [] := by simpa [hd, Consumer.temp] using hs.inline hdef
      exact hs.popped hd hq (fun _ => htemp) (by simp [htemp])
  | @release temp hd =>
      have hholder := hs.holder_of_consumer hd trivial
      exact { hs with
        callerHolds := hs.callerHolds_of_ne (by simp [hholder]) (by simp)
        consumerHolds := by simp [Consumer.Inside]
        count := by simpa [owed, hholder, hd, Consumer.left] using hs.count
        announced := by simp
        drained := by simp
        inline := fun hdef => by simpa [hd, Consumer.temp] using hs.inline hdef
        order := by simpa [hd, Consumer.temp] using hs.order }
  | @process a temp hd =>
      refine hs.outside (by simp [hd, Consumer.Inside]) id nofun (fun hdef => ?_)
        (by simp [hd, Consumer.temp])
      have htemp := hs.inline hdef
      simp [hd, Consumer.temp] at htemp
  | finish hd =>
      exact hs.outside (by simp [hd, Consumer.Inside]) id nofun (fun _ => rfl)
        (by simp [hd, Consumer.temp])

theorem sound_run (h : run (step deferred) init ms = some s) : s.Sound deferred :=
  run_induction (fun _ _ _ hs hstep => sound_step hs hstep) (sound_init deferred) h

/-! ## The consumer gets to the end -/

/-- The consumer alone takes the queue from `s` to `t`. -/
def Serves (deferred : Bool) (s t : EventQueue ι α) : Prop :=
  ∃ ms : List (Move ι α), (∀ m ∈ ms, m.OfConsumer) ∧ run (step deferred) s ms = some t

theorem Serves.refl (s : EventQueue ι α) : Serves deferred s s := ⟨[], by simp, rfl⟩

theorem Serves.cons {t : EventQueue ι α} (h : s.step deferred m = some s')
    (hrest : Serves deferred s' t) (hm : m.OfConsumer) : Serves deferred s t := by
  obtain ⟨ms, hms, hrun⟩ := hrest
  refine ⟨m :: ms, ?_, run_cons_eq_some.mpr ⟨s', h, hrun⟩⟩
  simp only [List.mem_cons, forall_eq_or_imp]
  exact ⟨hm, hms⟩

theorem Serves.trans {t : EventQueue ι α} (h : Serves deferred s s') (h' : Serves deferred s' t) :
    Serves deferred s t := by
  obtain ⟨ms, hms, hrun⟩ := h
  obtain ⟨ms', hms', hrun'⟩ := h'
  refine ⟨ms ++ ms', ?_, run_append_eq_some.mpr ⟨s', hrun, hrun'⟩⟩
  simp only [List.mem_append]
  rintro m (hm | hm)
  · exact hms m hm
  · exact hms' m hm

theorem Serves.sound {t : EventQueue ι α} (h : Serves deferred s t) (hs : s.Sound deferred) :
    t.Sound deferred := by
  obtain ⟨ms, -, hrun⟩ := h
  exact run_induction (fun _ _ _ hs hstep => sound_step hs hstep) hs hrun

/-- The consumer takes off the queue as many requests as it has read off the counter. -/
theorem exists_serves_draining {left : ℕ} {temp : List α} (hs : s.Sound deferred)
    (hd : s.consumer = .draining left temp) :
    ∃ t temp', Serves deferred s t ∧ t.consumer = .draining 0 temp' ∧ t.queue = [] ∧
      t.pushed = s.pushed := by
  induction left generalizing s temp with
  | zero =>
      have hcount := hs.count
      simp only [owed, hs.holder_of_consumer hd trivial, hd, Consumer.left, hs.drained _ _ hd] at hcount
      exact ⟨s, temp, .refl s, hd, List.length_eq_zero_iff.mp hcount.symm, rfl⟩
  | succ left ih =>
      have hcount := hs.count
      simp only [owed, hs.holder_of_consumer hd trivial, hd, Consumer.left, hs.drained _ _ hd] at hcount
      obtain ⟨a, rest, hq⟩ := List.exists_cons_of_length_pos (show 0 < s.queue.length by omega)
      cases deferred with
      | true =>
          have hstep : s.step true .pop =
              some { s with queue := rest, consumer := .draining left (temp ++ [a]) } := by
            simp [step, hd, hq]
          obtain ⟨t, temp', hserves, ht⟩ := ih (sound_step hs hstep) rfl
          exact ⟨t, temp', hserves.cons hstep trivial, ht⟩
      | false =>
          have hstep : s.step false .pop = some { s with
              queue := rest, handled := s.handled ++ [a], consumer := .draining left temp } := by
            simp [step, hd, hq]
          obtain ⟨t, temp', hserves, ht⟩ := ih (sound_step hs hstep) rfl
          exact ⟨t, temp', hserves.cons hstep trivial, ht⟩

/-- The consumer handles what it has put aside. -/
theorem exists_serves_processing (deferred : Bool) {temp : List α} (hd : s.consumer = .processing temp) :
    ∃ t, Serves deferred s t ∧ t.consumer = .idle ∧ t.queue = s.queue ∧ t.holder = s.holder ∧
      t.pushed = s.pushed := by
  induction temp generalizing s with
  | nil =>
      have hstep : s.step deferred .finish = some { s with consumer := .idle } := by
        simp [step, hd]
      exact ⟨_, (Serves.refl _).cons hstep trivial, rfl, rfl, rfl, rfl⟩
  | cons a temp ih =>
      have hstep : s.step deferred .process =
          some { s with handled := s.handled ++ [a], consumer := .processing temp } := by
        simp [step, hd]
      obtain ⟨t, hserves, ht⟩ := ih (s := { s with
        handled := s.handled ++ [a], consumer := .processing temp }) rfl
      exact ⟨t, hserves.cons hstep trivial, ht⟩

/-- Once the descriptor was found readable and the lock is free, everything that
was pushed gets handled. -/
theorem exists_serves_ready (hs : s.Sound deferred) (hd : s.consumer = .ready)
    (hfree : s.holder = none) :
    ∃ t, Serves deferred s t ∧ t.pushed = s.pushed ∧ t.handled = s.pushed := by
  have hcounter : s.counter ≠ 0 := hs.announced (.inl hd)
  have htake : s.step deferred .take =
      some { s with holder := some .consumer, consumer := .locked } := by
    simp [step, hd, hfree]
  have hread : step deferred { s with holder := some .consumer, consumer := .locked } .read =
      some { s with
        holder := some .consumer, counter := 0, consumer := .draining s.counter [] } := by
    simp [step, hcounter]
  have hsound := sound_step (sound_step hs htake) hread
  obtain ⟨t, temp, hdrain, htd, htq, htp⟩ := exists_serves_draining hsound rfl
  have hrelease : t.step deferred .release =
      some { t with holder := none, consumer := .processing temp } := by
    simp [step, htd]
  obtain ⟨w, hprocess, hwd, hwq, -, hwp⟩ := exists_serves_processing deferred
    (s := { t with holder := none, consumer := .processing temp }) rfl
  have hserves : Serves deferred s w :=
    ((hdrain.trans (hprocess.cons hrelease trivial)).cons hread trivial).cons htake trivial
  have hpushed : w.pushed = s.pushed := hwp.trans htp
  refine ⟨w, hserves, hpushed, ?_⟩
  have horder := (hserves.sound hs).order
  rw [hwd, hwq.trans htq] at horder
  simpa [Consumer.temp, hpushed] using horder.symm

/-- From wherever the lock is free the consumer alone handles what was pushed. -/
theorem exists_serves (hs : s.Sound deferred) (hfree : s.holder = none) :
    ∃ t, Serves deferred s t ∧ t.pushed = s.pushed ∧ t.handled = s.pushed := by
  have hidle : ∀ {s : EventQueue ι α}, s.Sound deferred → s.holder = none → s.consumer = .idle →
      ∃ t, Serves deferred s t ∧ t.pushed = s.pushed ∧ t.handled = s.pushed := by
    intro s hs hfree hd
    by_cases hcounter : s.counter = 0
    · have hcount := hs.count
      simp only [owed, hfree, hcounter] at hcount
      have hq : s.queue = [] := List.length_eq_zero_iff.mp hcount.symm
      exact ⟨s, .refl s, rfl, by simpa [hd, hq, Consumer.temp] using hs.order.symm⟩
    · have hpoll : s.step deferred .poll = some { s with consumer := .ready } := by
        simp [step, hd, hcounter]
      obtain ⟨t, hserves, ht⟩ := exists_serves_ready (sound_step hs hpoll) rfl hfree
      exact ⟨t, hserves.cons hpoll trivial, ht⟩
  cases hd : s.consumer with
  | idle => exact hidle hs hfree hd
  | ready => exact exists_serves_ready hs hd hfree
  | processing temp =>
      obtain ⟨t, hserves, htd, -, hth, htp⟩ := exists_serves_processing deferred hd
      obtain ⟨w, hrest, hwp, hwh⟩ := hidle (hserves.sound hs) (hth.trans hfree) htd
      exact ⟨w, hserves.trans hrest, hwp.trans htp, hwh.trans htp⟩
  | locked | draining left temp =>
      have hholder := hs.holder_of_consumer hd trivial
      rw [hfree] at hholder
      contradiction

/-! ## The queue as one -/

/-- Append a request or empty the queue. -/
def atomic (q : RequestQueue α) : Option α → RequestQueue α
  | some a => q.push a
  | none => q.drain.2

theorem foldl_atomic_map_some (q : RequestQueue α) (as : List α) :
    (as.map some).foldl atomic q = as.foldl RequestQueue.push q := by
  rw [List.foldl_map]
  rfl

/-- A queue is what its requests make of the empty one. -/
theorem foldl_atomic_empty (q : RequestQueue α) :
    (q.queue.map some).foldl atomic .empty = q := by
  rw [foldl_atomic_map_some]
  exact RequestQueue.ext_queue (RequestQueue.queue_foldl_push .empty q.queue)

/-- The operation that a move is where the operations are atomic: a call takes effect
when it counts its request, and the consumer when it reads the counter. -/
def operations (s : EventQueue ι α) : Move ι α → List (Option α)
  | .write i =>
    match s.callers i with
    | .pushed a => [some a]
    | _ => []
  | .read => [none]
  | _ => []

/-- The counted requests are those of a queue whose operations are atomic. -/
def Refines (s : EventQueue ι α) (q : RequestQueue α) : Prop := q.queue = s.queue.take s.counter

theorem refines_step (hs : s.Sound deferred) (hq : s.Refines q)
    (h : s.step deferred m = some s') : s'.Refines ((s.operations m).foldl atomic q) := by
  have hcount := hs.count
  cases steps_of_step h with
  | @push i a hi =>
      have hle : s.counter ≤ s.queue.length := by omega
      simpa [Refines, operations, List.take_append_of_le_length hle] using hq
  | @write i a hi =>
      simp only [owed, hs.holder_of_caller hi trivial, hi, Caller.owed] at hcount
      obtain ⟨front, hfront⟩ := List.getLast?_eq_some_iff.mp (hs.appended i a hi)
      have hlength : s.counter = front.length := by
        rw [hfront, List.length_append, List.length_singleton] at hcount
        omega
      have hpush : s.operations (.write i) = [some a] := by
        simp only [operations, hi]
      rw [hpush, List.foldl_cons, List.foldl_nil, atomic, Refines, RequestQueue.queue_push, hq,
        hfront, hlength, List.take_left, List.take_of_length_le (by simp)]
  | read hd => simp [Refines, operations, atomic]
  | popDeferred hdef hd hq' | popInline hdef hd hq' =>
      have hzero := hs.drained _ _ hd
      simp only [Refines, hzero, List.take_zero] at hq ⊢
      exact hq
  | _ => exact hq

/-- **The moves refine the atomic operations.** Whatever the interleaving, the
counted requests are those of a queue on which the calls have pushed theirs and the
consumer has read all there was, in the order in which they took effect. -/
theorem refines_run (h : run (step deferred) init ms = some s) :
    s.Refines
      (((history (step deferred) init ms).flatMap fun x => x.1.operations x.2).foldl atomic .empty) := by
  have hboth : s.Sound deferred ∧ s.Refines
      (((history (step deferred) init ms).flatMap fun x => x.1.operations x.2).foldl atomic
        .empty) := by
    refine history_induction (P := fun h s => s.Sound deferred ∧
      s.Refines ((h.flatMap fun x => x.1.operations x.2).foldl atomic .empty)) ?_
      ⟨sound_init deferred, rfl⟩ h
    rintro h s m s' ⟨hs, hq⟩ hstep
    refine ⟨sound_step hs hstep, ?_⟩
    rw [List.flatMap_append, List.foldl_append, List.flatMap_singleton]
    exact refines_step hs hq hstep
  exact hboth.2

/-- What the consumer has to take off the queue when it has read the counter is what
the atomic read finds. -/
theorem drains_of_read (hs : s.Sound deferred) (hq : s.Refines q)
    (h : s.step deferred .read = some s') :
    s'.queue = q.drain.1 ∧ s'.consumer = .draining q.drain.1.length [] := by
  have hcount := hs.count
  cases steps_of_step h with
  | read hd =>
      simp only [owed, hs.holder_of_consumer hd trivial, hd, Consumer.left] at hcount
      have hall : q.queue = s.queue := by
        rw [hq, List.take_of_length_le (by omega)]
      rw [RequestQueue.drain_fst, hall, ← hcount, Nat.add_zero]
      exact ⟨rfl, rfl⟩

end EventQueue
