import Mathlib.Data.Nat.Notation
import Mathlib.Tactic.Common

/-!
# Sessions with statements that may throw

A session works on some tables, one statement after the other. Every statement
takes effect by itself; one of them may throw instead, and `fault` says how many
are carried out before that happens. `Sql` is the monad of the programs that run
in a session. An exception leaves the effects of the earlier statements in
place.

The rules named `_ok` take a run that ended without an exception apart. `Runs` says
through which tables the statements of a program lead, and so what an exception
leaves at each of them.
-/

/-- An error reported by the database. -/
inductive SQLException
  | raised
  deriving DecidableEq

structure Session (τ : Type*) where
  tables : τ
  fault : Option ℕ

/-- A program that runs in a session on tables of type `τ`. -/
def Sql (τ : Type*) (α : Type*) := Session τ → Except SQLException α × Session τ

namespace Sql

universe u

variable {τ : Type*} {α β : Type u}

instance : Monad (Sql τ) where
  pure a := fun s => (.ok a, s)
  bind x f := fun s =>
    match x s with
    | (.ok a, s) => f a s
    | (.error e, s) => (.error e, s)

/-- Go on with `handler` after an exception of `x`. -/
def catching (x : Sql τ α) (handler : SQLException → Sql τ α) : Sql τ α := fun s =>
  match x s with
  | (.ok a, s) => (.ok a, s)
  | (.error e, s) => handler e s

/-- A statement with a result, which may change the tables. -/
def statement (f : τ → α × τ) : Sql τ α := fun s =>
  match s.fault with
  | some 0 => (.error .raised, { s with fault := none })
  | some (n + 1) => (.ok (f s.tables).1, ⟨(f s.tables).2, some n⟩)
  | none => (.ok (f s.tables).1, ⟨(f s.tables).2, none⟩)

/-- A statement that reads. -/
def executeQuery (f : τ → α) : Sql τ α := statement fun t => (f t, t)

variable {x : Sql τ α} {f : α → Sql τ β} {s s' : Session τ} {a : α} {b : β}

theorem pure_ok {a' : α} (h : (pure a : Sql τ α) s = (.ok a', s')) : a = a' ∧ s = s' := by
  injection h with ha hs
  exact ⟨Except.ok.inj ha, hs⟩

theorem bind_ok (h : (x >>= f) s = (.ok b, s')) :
    ∃ a s₁, x s = (.ok a, s₁) ∧ f a s₁ = (.ok b, s') := by
  cases hx : x s with
  | mk result s₁ =>
      cases result with
      | ok a => exact ⟨a, s₁, rfl, by simpa [bind, hx] using h⟩
      | error e => simp [bind, hx] at h

theorem catching_ok {handler : SQLException → Sql τ α}
    (h : catching x handler s = (.ok a, s')) :
    x s = (.ok a, s') ∨ ∃ e s₁, x s = (.error e, s₁) ∧ handler e s₁ = (.ok a, s') := by
  unfold catching at h
  split at h
  · next hx =>
      rw [hx]
      exact .inl h
  · next e s₁ hx => exact .inr ⟨e, s₁, hx, h⟩

theorem statement_ok {f : τ → α × τ} (h : statement f s = (.ok a, s')) :
    a = (f s.tables).1 ∧ s'.tables = (f s.tables).2 := by
  unfold statement at h
  split at h
  · simp at h
  · obtain ⟨ha, rfl⟩ := Prod.mk.inj h
    exact ⟨(Except.ok.inj ha).symm, rfl⟩
  · obtain ⟨ha, rfl⟩ := Prod.mk.inj h
    exact ⟨(Except.ok.inj ha).symm, rfl⟩

/-- A statement that throws has done nothing. -/
theorem statement_error {f : τ → α × τ} {e : SQLException} (h : statement f s = (.error e, s')) :
    s'.tables = s.tables := by
  unfold statement at h
  split at h
  · obtain ⟨-, rfl⟩ := Prod.mk.inj h
    rfl
  · simp at h
  · simp at h

/-- Where no exception is to come, the program ends without one. -/
def Total (x : Sql τ α) : Prop := ∀ t, ∃ a t', x ⟨t, none⟩ = (.ok a, ⟨t', none⟩)

/-! ## The statements of a run -/

/-- From the tables `t` the program carries out one statement in each of the tables
`before`, then the tables are `t'` and it returns `a`. A statement that throws leaves
the tables in which it was to be carried out. -/
structure Runs (x : Sql τ α) (t : τ) (before : List τ) (t' : τ) (a : α) : Prop where
  completes : x ⟨t, none⟩ = (.ok a, ⟨t', none⟩)
  outlasts : ∀ n, x ⟨t, some (before.length + n)⟩ = (.ok a, ⟨t', some n⟩)
  throws : ∀ n u, before[n]? = some u → x ⟨t, some n⟩ = (.error .raised, ⟨u, none⟩)

variable {t t' t'' : τ} {before before' : List τ}

theorem Runs.pure (t : τ) (a : α) : Runs (Pure.pure a : Sql τ α) t [] t a where
  completes := rfl
  outlasts := fun n => by rw [List.length_nil, Nat.zero_add]; rfl
  throws := fun n u hu => by simp at hu

theorem Runs.statement (f : τ → α × τ) (t : τ) :
    Runs (statement f) t [t] (f t).2 (f t).1 where
  completes := rfl
  outlasts := fun n => by rw [List.length_singleton, Nat.add_comm]; rfl
  throws := fun n u hu => by
    obtain ⟨rfl, rfl⟩ : n = 0 ∧ t = u := by simpa [List.getElem?_singleton] using hu
    rfl

theorem Runs.executeQuery (f : τ → α) (t : τ) : Runs (executeQuery f) t [t] t (f t) :=
  Runs.statement _ t

theorem Runs.bind (hx : Runs x t before t' a) (hf : Runs (f a) t' before' t'' b) :
    Runs (x >>= f) t (before ++ before') t'' b := by
  refine ⟨?_, fun n => ?_, fun n u hu => ?_⟩
  · simp only [Bind.bind, hx.completes, hf.completes]
  · simp only [Bind.bind, List.length_append, Nat.add_assoc, hx.outlasts, hf.outlasts]
  · by_cases hlt : n < before.length
    · rw [List.getElem?_append_left hlt] at hu
      simp only [Bind.bind, hx.throws n u hu]
    · -- the statement belongs to the second program
      obtain ⟨m, rfl⟩ := Nat.exists_eq_add_of_le (Nat.le_of_not_lt hlt)
      rw [List.getElem?_append_right (Nat.le_add_right _ _), Nat.add_sub_cancel_left] at hu
      simp only [Bind.bind, hx.outlasts, hf.throws m u hu]

theorem Runs.statement_bind {g : τ → α × τ} (hf : Runs (f (g t).1) (g t).2 before t' b) :
    Runs (Sql.statement g >>= f) t (t :: before) t' b :=
  (Runs.statement g t).bind hf

theorem Runs.executeQuery_bind {g : τ → α} (hf : Runs (f (g t)) t before t' b) :
    Runs (Sql.executeQuery g >>= f) t (t :: before) t' b :=
  (Runs.executeQuery g t).bind hf

/-- A program throws exactly where it has a statement. -/
theorem Runs.error_iff (hx : Runs x t before t' a) {n : ℕ} {e : SQLException} :
    x ⟨t, some n⟩ = (.error e, s) ↔ e = .raised ∧ ∃ u, before[n]? = some u ∧ s = ⟨u, none⟩ := by
  by_cases hlt : n < before.length
  · have hu : before[n]? = some before[n] := List.getElem?_eq_getElem hlt
    rw [hx.throws n _ hu, hu]
    constructor
    · intro h
      obtain ⟨he, rfl⟩ := Prod.mk.inj h
      exact ⟨(Except.error.inj he).symm, _, rfl, rfl⟩
    · rintro ⟨rfl, u, hsame, rfl⟩
      rw [Option.some.inj hsame]
  · obtain ⟨m, rfl⟩ := Nat.exists_eq_add_of_le (Nat.le_of_not_lt hlt)
    rw [hx.outlasts]
    constructor
    · intro h
      cases (Prod.mk.inj h).1
    · rintro ⟨-, u, hu, -⟩
      rw [List.getElem?_eq_none (Nat.le_add_right _ _)] at hu
      contradiction

/-- A run that ends without an exception has carried out all the statements. -/
theorem Runs.ok (hx : Runs x t before t' a) {fault : Option ℕ} {a' : α}
    (h : x ⟨t, fault⟩ = (.ok a', s')) : a' = a ∧ s'.tables = t' := by
  cases fault with
  | none =>
      rw [hx.completes] at h
      obtain ⟨ha, rfl⟩ := Prod.mk.inj h
      exact ⟨(Except.ok.inj ha).symm, rfl⟩
  | some n =>
      by_cases hlt : n < before.length
      · rw [hx.throws n _ (List.getElem?_eq_getElem hlt)] at h
        cases (Prod.mk.inj h).1
      · obtain ⟨m, rfl⟩ := Nat.exists_eq_add_of_le (Nat.le_of_not_lt hlt)
        rw [hx.outlasts] at h
        obtain ⟨ha, rfl⟩ := Prod.mk.inj h
        exact ⟨(Except.ok.inj ha).symm, rfl⟩

end Sql
