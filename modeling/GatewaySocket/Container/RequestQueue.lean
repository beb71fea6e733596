import Mathlib.Tactic.Common
import Mathlib.Data.Nat.Notation

/-!
# Queues with a counting event

A producer appends a request and adds one to the counter of an event
descriptor; the consumer reads the counter, which sets it to zero, and takes
that many requests off the front. Between two such operations the counter is
the length of the queue, and the structure carries this as a field, so the
consumer always finds exactly the requests it takes.
-/

/-- A queue of requests with the counter that announces them. -/
structure RequestQueue (α : Type*) where
  queue : List α
  counter : ℕ
  synced : counter = queue.length

namespace RequestQueue

variable {α : Type*}

/-- A queue without requests. -/
def empty : RequestQueue α := ⟨[], 0, rfl⟩

/-- Append a request and announce it. -/
def push (q : RequestQueue α) (a : α) : RequestQueue α :=
  ⟨q.queue ++ [a], q.counter + 1, by simp [q.synced]⟩

/-- Read the counter and take that many requests off the front. -/
def drain (q : RequestQueue α) : List α × RequestQueue α :=
  (q.queue.take q.counter, ⟨q.queue.drop q.counter, 0, by simp [q.synced]⟩)

/-- The counter follows from the queue. -/
theorem ext_queue {q q' : RequestQueue α} (h : q.queue = q'.queue) : q = q' := by
  obtain ⟨queue, counter, rfl⟩ := q
  obtain ⟨queue', counter', rfl⟩ := q'
  obtain rfl : queue = queue' := h
  rfl

@[simp] theorem queue_push (q : RequestQueue α) (a : α) :
    (q.push a).queue = q.queue ++ [a] := rfl

theorem queue_foldl_push (q : RequestQueue α) (as : List α) :
    (as.foldl push q).queue = q.queue ++ as := by
  induction as generalizing q with
  | nil => exact (List.append_nil q.queue).symm
  | cons a as ih => rw [List.foldl_cons, ih, queue_push, List.append_assoc, List.singleton_append]

@[simp] theorem drain_fst (q : RequestQueue α) : q.drain.1 = q.queue := by
  simp [drain, q.synced]

@[simp] theorem queue_drain_snd (q : RequestQueue α) : q.drain.2.queue = [] := by
  simp [drain, q.synced]

/-- The descriptor is readable exactly when a request waits. -/
theorem counter_eq_zero_iff (q : RequestQueue α) : q.counter = 0 ↔ q.queue = [] := by
  rw [q.synced, List.length_eq_zero_iff]

theorem counter_ne_zero_iff (q : RequestQueue α) : decide (q.counter ≠ 0) = true ↔ q.queue ≠ [] := by
  rw [decide_eq_true_eq, Ne, counter_eq_zero_iff]

end RequestQueue
