import Mathlib.Logic.Function.Basic
import Mathlib.Tactic.Common

/-!
# Translation of names

A translator stands between an inside and an outside. Each of its addresses goes by
a name of its own outside, and belongs, while it is in use, to somebody with another
name inside. What leaves in the name of its owner gets the name that is known
outside, and what comes in for that name gets the one of the owner; in between
nobody can use an address that is not theirs, and neither side can use an address
against the other.

The table of names is all there is to know: what happens to a message is a matter of
the entries for the two addresses that it names.
-/

namespace GatewaySocket

/-- Under which name an address goes outside, and who has it inside. -/
@[ext] structure Translator (A H : Type*) where
  outer : A → Option H
  inner : A → Option H

/-- What becomes of a message. -/
inductive Fate (H : Type*)
  | dropped
  | passed
  /-- passed on under another name -/
  | renamed (name : H)
  /-- the owner of an address is known, but no name for it -/
  | undefined
  deriving DecidableEq

namespace Translator

variable {A H : Type*}

/-- What happens to a translator: a message goes from one side to the other, or an
entry changes. -/
inductive Event (A H : Type*)
  | leave (dest src : A) (sender : H)
  /-- a message that comes in; some kinds of messages may be sent to everybody -/
  | enter (everybody : Option H) (dest src : A) (addressed : H)
  | setOuter (a : A) (name : Option H)
  | setInner (a : A) (owner : Option H)
  deriving DecidableEq

variable {T T' : Translator A H} {dest src : A} {sender name addressed owner : H}
  {everybody : Option H} {K : A → Prop} {ev : Event A H}

/-! ## Which messages get across -/

section Fate

variable [DecidableEq H]

/-- What becomes of a message from inside. -/
def leave (T : Translator A H) (dest src : A) (sender : H) : Fate H :=
  match T.outer dest, T.inner src, T.outer src with
  | some _, _, _ => .dropped
  | none, some owner, some name => if owner = sender then .renamed name else .dropped
  | none, some owner, none => if owner = sender then .undefined else .dropped
  | none, none, some _ => .dropped
  | none, none, none => .passed

/-- What becomes of a message from outside. -/
def enter (T : Translator A H) (everybody : Option H) (dest src : A) (addressed : H) : Fate H :=
  match T.outer src, T.outer dest, T.inner dest with
  | some _, _, _ => .dropped
  | none, some name, some owner =>
    if name = addressed ∨ everybody = some addressed then .renamed owner else .dropped
  | none, some _, none => if everybody.isSome then .passed else .dropped
  | none, none, _ => .passed

/-- What becomes of the message of the event; a change of the table is no message. -/
def fate (T : Translator A H) : Event A H → Fate H
  | .leave dest src sender => T.leave dest src sender
  | .enter everybody dest src addressed => T.enter everybody dest src addressed
  | .setOuter _ _ | .setInner _ _ => .passed

theorem leave_eq_renamed_iff : T.leave dest src sender = .renamed name ↔
    T.outer dest = none ∧ T.inner src = some sender ∧ T.outer src = some name := by
  unfold leave
  cases T.outer dest <;> cases T.inner src <;> cases T.outer src <;> simp
  all_goals split <;> simp_all

theorem leave_eq_undefined_iff : T.leave dest src sender = .undefined ↔
    T.outer dest = none ∧ T.inner src = some sender ∧ T.outer src = none := by
  unfold leave
  cases T.outer dest <;> cases T.inner src <;> cases T.outer src <;> simp
  all_goals split <;> simp_all

theorem leave_eq_passed_iff : T.leave dest src sender = .passed ↔
    T.outer dest = none ∧ T.inner src = none ∧ T.outer src = none := by
  unfold leave
  cases T.outer dest <;> cases T.inner src <;> cases T.outer src <;> simp
  all_goals split <;> simp

theorem enter_eq_renamed_iff : T.enter everybody dest src addressed = .renamed owner ↔
    T.outer src = none ∧ T.inner dest = some owner ∧
      ∃ name, T.outer dest = some name ∧ (name = addressed ∨ everybody = some addressed) := by
  unfold enter
  cases T.outer src <;> cases T.outer dest <;> cases T.inner dest <;> simp
  · split <;> simp
  · split <;> simp_all

theorem enter_eq_passed_iff : T.enter everybody dest src addressed = .passed ↔
    T.outer src = none ∧ (T.outer dest = none ∨ T.inner dest = none ∧ everybody.isSome) := by
  unfold enter
  cases T.outer src <;> cases T.outer dest <;> cases T.inner dest <;> simp
  · exact Option.isSome_iff_ne_none.symm
  · split <;> simp

end Fate

/-! ## What the events change -/

section Step

variable [DecidableEq A]

/-- The table after the event. An owner of an address without a name is forgotten
when somebody asks for the address. -/
def step (T : Translator A H) : Event A H → Translator A H
  | .leave _ _ _ => T
  | .enter _ dest src _ =>
    if T.outer src = none ∧ T.outer dest = none then
      { T with inner := Function.update T.inner dest none }
    else T
  | .setOuter a name => { T with outer := Function.update T.outer a name }
  | .setInner a owner => { T with inner := Function.update T.inner a owner }

/-- A batch of changes of names is carried out one by one. -/
theorem foldl_setOuter {M α : Type*} {find : M → A → Option H} {change : M → α → M}
    (key : α → A) (val : α → Option H)
    (hchange : ∀ m c a, find (change m c) a = if a = key c then val c else find m a) (cs : List α)
    {m : M} (hm : T.outer = find m) :
    (cs.map fun c => Event.setOuter (key c) (val c)).foldl step T =
      { T with outer := find (cs.foldl change m) } := by
  induction cs generalizing T m with
  | nil => rw [List.map_nil, List.foldl_nil, List.foldl_nil, ← hm]
  | cons c cs ih =>
      have hnext : (T.step (.setOuter (key c) (val c))).outer = find (change m c) := by
        funext a
        rw [hchange, ← hm]
        exact Function.update_apply T.outer (key c) (val c) a
      rw [List.map_cons, List.foldl_cons, ih hnext, List.foldl_cons, step]

/-- A batch of changes of owners, one by one and on the map. -/
theorem foldl_setInner {M α : Type*} {find : M → A → Option H} {change : M → α → M}
    (key : α → A) (val : α → Option H)
    (hchange : ∀ m c a, find (change m c) a = if a = key c then val c else find m a) (cs : List α)
    {m : M} (hm : T.inner = find m) :
    (cs.map fun c => Event.setInner (key c) (val c)).foldl step T =
      { T with inner := find (cs.foldl change m) } := by
  induction cs generalizing T m with
  | nil => rw [List.map_nil, List.foldl_nil, List.foldl_nil, ← hm]
  | cons c cs ih =>
      have hnext : (T.step (.setInner (key c) (val c))).inner = find (change m c) := by
        funext a
        rw [hchange, ← hm]
        exact Function.update_apply T.inner (key c) (val c) a
      rw [List.map_cons, List.foldl_cons, ih hnext, List.foldl_cons, step]

end Step

/-! ## Locality -/

/-- The two tables have the same entries for the addresses. -/
def AgreeOn (K : A → Prop) (T T' : Translator A H) : Prop :=
  ∀ a, K a → T.outer a = T'.outer a ∧ T.inner a = T'.inner a

/-- The event names these addresses only. -/
def Event.Within (K : A → Prop) : Event A H → Prop
  | leave dest src _ => K dest ∧ K src
  | enter _ dest src _ => K dest ∧ K src
  | setOuter a _ | setInner a _ => K a

/-- The event is not for any of these addresses. -/
def Event.Apart (K : A → Prop) : Event A H → Prop
  | leave _ _ _ => True
  | enter _ dest _ _ => ¬K dest
  | setOuter a _ | setInner a _ => ¬K a

instance (K : A → Prop) [DecidablePred K] : DecidablePred (Event.Within (H := H) K)
  | .leave dest src _ => inferInstanceAs (Decidable (K dest ∧ K src))
  | .enter _ dest src _ => inferInstanceAs (Decidable (K dest ∧ K src))
  | .setOuter a _ => inferInstanceAs (Decidable (K a))
  | .setInner a _ => inferInstanceAs (Decidable (K a))

instance (K : A → Prop) [DecidablePred K] : DecidablePred (Event.Apart (H := H) K)
  | .leave _ _ _ => inferInstanceAs (Decidable True)
  | .enter _ dest _ _ => inferInstanceAs (Decidable (¬K dest))
  | .setOuter a _ => inferInstanceAs (Decidable (¬K a))
  | .setInner a _ => inferInstanceAs (Decidable (¬K a))

theorem AgreeOn.refl (K : A → Prop) (T : Translator A H) : AgreeOn K T T := fun _ _ => ⟨rfl, rfl⟩

theorem AgreeOn.fate [DecidableEq H] (h : AgreeOn K T T') (hev : ev.Within K) : T.fate ev = T'.fate ev := by
  cases ev with
  | leave dest src sender =>
      obtain ⟨hdest, hsrc⟩ := hev
      simp only [Translator.fate, leave, (h dest hdest).1, (h src hsrc).1, (h src hsrc).2]
  | enter everybody dest src addressed =>
      obtain ⟨hdest, hsrc⟩ := hev
      simp only [Translator.fate, enter, (h dest hdest).1, (h src hsrc).1, (h dest hdest).2]
  | setOuter a name => rfl
  | setInner a owner => rfl

/-- An entry that is changed in both tables is the same in both. -/
theorem AgreeOn.step [DecidableEq A] (h : AgreeOn K T T') (hev : ev.Within K) :
    AgreeOn K (T.step ev) (T'.step ev) := by
  intro a ha
  obtain ⟨houter, hinner⟩ := h a ha
  cases ev with
  | leave dest src sender => exact ⟨houter, hinner⟩
  | enter everybody dest src addressed =>
      simp only [Translator.step, (h dest hev.1).1, (h src hev.2).1]
      split
      · exact ⟨houter, by simp only [Function.update_apply, hinner]⟩
      · exact ⟨houter, hinner⟩
  | setOuter b name =>
      exact ⟨by simp only [Translator.step, Function.update_apply, houter], hinner⟩
  | setInner b owner =>
      exact ⟨houter, by simp only [Translator.step, Function.update_apply, hinner]⟩

/-- An event for other addresses leaves these as they are. -/
theorem AgreeOn.step_left [DecidableEq A] (h : AgreeOn K T T') (hev : ev.Apart K) :
    AgreeOn K (T.step ev) T' := by
  intro a ha
  obtain ⟨houter, hinner⟩ := h a ha
  have hupdate : ∀ (f : A → Option H) (v : Option H) {b : A}, ¬K b → Function.update f b v a = f a := by
    intro f v b hb
    rw [Function.update_apply, if_neg]
    rintro rfl
    exact hb ha
  cases ev with
  | leave dest src sender => exact ⟨houter, hinner⟩
  | enter everybody dest src addressed =>
      simp only [Translator.step]
      split
      · exact ⟨houter, (hupdate _ _ hev).trans hinner⟩
      · exact ⟨houter, hinner⟩
  | setOuter b name => exact ⟨(hupdate _ _ hev).trans houter, hinner⟩
  | setInner b owner => exact ⟨houter, (hupdate _ _ hev).trans hinner⟩

end Translator

end GatewaySocket
