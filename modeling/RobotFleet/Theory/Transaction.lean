/-
# Theory.Transaction -- one database connection, with statements that may fail

`Conn σ` is a connection over a database of type `σ`: the state its statements
see, and, while a transaction is open, the state a `ROLLBACK` returns to.  Which
statements of one call fail, and with what error, is the input `Faults`; a
failing statement has no effect of its own.  Three facts about the engine are
built in: `BEGIN` inside an open transaction fails, a failing `COMMIT` leaves
the transaction open, and `ROLLBACK` inside a transaction succeeds.

`transaction` is the usual hand-written block over such a connection: `BEGIN`,
a body, then `COMMIT` on success and `ROLLBACK` on error, with the error of the
`COMMIT` itself returned as it is.  `transaction_hygienic_iff` says exactly when
the block leaves the connection clean: unless its body succeeded and its
`COMMIT` failed, for then nobody rolls back (`transaction_leak`) and every later
block is refused (`transaction_nested`).
-/
import Mathlib.Data.Option.Basic

namespace RobotFleet.Theory.Transaction

set_option autoImplicit false

/-- What a statement reports when it does not succeed. -/
inductive SqlError where
  | queryReturnedNoRows
  | constraintViolation (message : String)
  | sqliteFailure (code : Nat) (message : String)
  deriving DecidableEq, Repr

def SqlError.toString : SqlError → String
  | .queryReturnedNoRows => "Query returned no rows"
  | .constraintViolation m => m
  | .sqliteFailure _ m => m

/-- The kinds of statement a call issues, each at most once. -/
inductive Stmt where
  | beginImmediate
  | select
  | update
  | insert
  | commit
  deriving DecidableEq, Repr

/-- Which statements of a call fail, and how. -/
abbrev Faults (η : Type) := Stmt → Option η

def Faults.none {η : Type} : Faults η := fun _ => Option.none

/-- What a connection's statements see, and what `ROLLBACK` returns to. -/
structure Conn (σ : Type) where
  view : σ
  saved : Option σ := none
  deriving DecidableEq, Repr

variable {σ η ε α β : Type}

/-- Straight-line database code: an error ends it and undoes nothing. -/
abbrev Sql (σ ε α : Type) := ExceptT ε (StateM σ) α

/-- One statement over the connection's view: it fails as a whole or runs as a
whole.  `wrap` is the caller's treatment of the error. -/
def statement (wrap : η → ε) (fails : Faults η) (stmt : Stmt) (effect : σ → α × σ) : Sql σ ε α :=
  fun s =>
    match fails stmt with
    | some e => (.error (wrap e), s)
    | none => (.ok (effect s).1, (effect s).2)

namespace Conn

/-- No transaction is open. -/
def Closed (c : Conn σ) : Prop := c.saved = none

theorem closed_fresh (s : σ) : Closed { view := s } := rfl

instance (c : Conn σ) : Decidable c.Closed :=
  decidable_of_iff (c.saved.isNone = true) (by simp [Closed])

def beginImmediate (nested : η) (fails : Faults η) (c : Conn σ) : Except η Unit × Conn σ :=
  match fails .beginImmediate with
  | some e => (.error e, c)
  | none =>
    match c.saved with
    | some _ => (.error nested, c)
    | none => (.ok (), { c with saved := some c.view })

def commit (fails : Faults η) (c : Conn σ) : Except η Unit × Conn σ :=
  match fails .commit with
  | some e => (.error e, c)
  | none => (.ok (), { c with saved := none })

def rollback (c : Conn σ) : Conn σ :=
  match c.saved with
  | some before => { view := before, saved := none }
  | none => c

/-- Code over the view; it opens and closes no transaction. -/
def within (body : Sql σ ε α) (c : Conn σ) : Except ε α × Conn σ :=
  ((body c.view).1, { c with view := (body c.view).2 })

end Conn

@[simp] theorem bind_apply (x : Sql σ ε α) (f : α → Sql σ ε β) (s : σ) :
    (x >>= f) s = match x s with
      | (.ok a, s') => f a s'
      | (.error e, s') => (.error e, s') := by
  change StateT.bind x (ExceptT.bindCont f) s = _
  simp only [StateT.bind, bind, ExceptT.bindCont]
  cases ran : x s with
  | mk result s' => cases result <;> rfl

@[simp] theorem pure_apply (a : α) (s : σ) : (pure a : Sql σ ε α) s = (.ok a, s) := rfl

@[simp] theorem throw_apply (e : ε) (s : σ) : (throw e : Sql σ ε α) s = (.error e, s) := rfl

theorem statement_ok {wrap : η → ε} {fails : Faults η} {stmt : Stmt} (runs : fails stmt = none)
    (effect : σ → α × σ) (s : σ) :
    statement wrap fails stmt effect s = (.ok (effect s).1, (effect s).2) := by
  simp only [statement, runs]

theorem statement_error {wrap : η → ε} {fails : Faults η} {stmt : Stmt} {e : η}
    (refused : fails stmt = some e) (effect : σ → α × σ) (s : σ) :
    statement wrap fails stmt effect s = (.error (wrap e), s) := by
  simp only [statement, refused]

/-- `BEGIN IMMEDIATE`, a body, then `COMMIT` or `ROLLBACK`.  The `?` on `BEGIN`
and on `COMMIT` returns their error at once. -/
def transaction (wrap : η → ε) (nested : η) (fails : Faults η) (body : Sql σ ε α)
    (c : Conn σ) : Except ε α × Conn σ :=
  match c.beginImmediate nested fails with
  | (.error e, c) => (.error (wrap e), c)
  | (.ok (), c) =>
    match c.within body with
    | (.ok a, c) =>
      match c.commit fails with
      | (.error e, c) => (.error (wrap e), c)
      | (.ok (), c) => (.ok a, c)
    | (.error e, c) => (.error e, c.rollback)

/-- What a call should leave behind: no open transaction, and after an error
the state it found. -/
def Hygienic (before : Conn σ) (outcome : Except ε α × Conn σ) : Prop :=
  outcome.2.Closed ∧ ((∃ e, outcome.1 = .error e) → outcome.2.view = before.view)

section Block

variable {wrap : η → ε} {nested : η} {fails : Faults η} {body : Sql σ ε α} {c : Conn σ}

theorem transaction_refused {e : η} (refused : fails .beginImmediate = some e) :
    transaction wrap nested fails body c = (.error (wrap e), c) := by
  simp [transaction, Conn.beginImmediate, refused]

theorem transaction_error {e : ε} {s : σ} (starts : fails .beginImmediate = none)
    (closed : c.Closed) (failed : body c.view = (.error e, s)) :
    transaction wrap nested fails body c = (.error e, c) := by
  obtain ⟨view, saved⟩ := c
  cases closed
  simp [transaction, Conn.beginImmediate, starts, Conn.within, failed, Conn.rollback]

theorem transaction_ok {a : α} {s : σ} (starts : fails .beginImmediate = none)
    (commits : fails .commit = none) (closed : c.Closed) (done : body c.view = (.ok a, s)) :
    transaction wrap nested fails body c = (.ok a, { view := s }) := by
  obtain ⟨view, saved⟩ := c
  cases closed
  simp [transaction, Conn.beginImmediate, starts, Conn.within, done, Conn.commit, commits]

/-- The one path on which nobody rolls back. -/
theorem transaction_leak {a : α} {s : σ} {e : η} (starts : fails .beginImmediate = none)
    (closed : c.Closed) (done : body c.view = (.ok a, s)) (refused : fails .commit = some e) :
    transaction wrap nested fails body c = (.error (wrap e), { view := s, saved := some c.view }) := by
  obtain ⟨view, saved⟩ := c
  cases closed
  simp [transaction, Conn.beginImmediate, starts, Conn.within, done, Conn.commit, refused]

/-- Under an open transaction the block is refused as a whole. -/
theorem transaction_nested (opened : c.saved ≠ none) :
    ∃ e, transaction wrap nested fails body c = (.error (wrap e), c) := by
  cases starts : fails .beginImmediate with
  | some e => exact ⟨e, transaction_refused starts⟩
  | none =>
      obtain ⟨s, holds⟩ := Option.ne_none_iff_exists'.1 opened
      exact ⟨nested, by simp [transaction, Conn.beginImmediate, starts, holds]⟩

/-- The `COMMIT` of the block is reached, and fails. -/
def CommitLost (fails : Faults η) (body : Sql σ ε α) (s : σ) : Prop :=
  fails .beginImmediate = none ∧ (∃ a, (body s).1 = .ok a) ∧ ∃ e, fails .commit = some e

/-- **Exactly when the block is clean**: on a closed connection it is, unless its
`COMMIT` is reached and fails. -/
theorem transaction_hygienic_iff (closed : c.Closed) :
    Hygienic c (transaction wrap nested fails body c) ↔ ¬ CommitLost fails body c.view := by
  cases starts : fails .beginImmediate with
  | some e =>
      rw [transaction_refused starts]
      refine ⟨fun _ lost => ?_, fun _ => ⟨closed, fun _ => rfl⟩⟩
      rw [lost.1] at starts
      cases starts
  | none =>
      cases ran : body c.view with
      | mk result s =>
        cases result with
        | error e =>
            rw [transaction_error starts closed ran]
            refine ⟨fun _ lost => ?_, fun _ => ⟨closed, fun _ => rfl⟩⟩
            obtain ⟨-, ⟨a, done⟩, -⟩ := lost
            rw [ran] at done
            cases done
        | ok a =>
            cases commits : fails .commit with
            | none =>
                rw [transaction_ok starts commits closed ran]
                refine ⟨fun _ lost => ?_, fun _ => ⟨rfl, fun failed => ?_⟩⟩
                · obtain ⟨-, -, e, refused⟩ := lost
                  rw [refused] at commits
                  cases commits
                · obtain ⟨e, impossible⟩ := failed
                  cases impossible
            | some e =>
                rw [transaction_leak starts closed ran commits]
                refine ⟨fun clean => ?_, fun kept => ?_⟩
                · exact absurd clean.1 (by simp [Conn.Closed])
                · exact absurd ⟨starts, ⟨a, by rw [ran]⟩, e, commits⟩ kept

end Block

end RobotFleet.Theory.Transaction
