/-
# Theory.Calls -- concurrent calls over one shared state

A service handles calls that are not atomic.  Each runs as a sequence of atomic
moves over the shared state, keeps its own data between two moves, and any other
call may move in between.  `World` is the shared state, the calls in flight and
the log of what calls have returned; an `Action` says what moves next, so the
runs of `Machine.step` over all lists of actions are all the interleavings.

`Holds I P` is the shape of an invariant here: `I` of the state and the log, `P`
of every call in flight.  `holds_step` is the rule for it, in the manner of rely
and guarantee: each move guarantees `R` of the state and the log, and `P`
survives `R`, so only the call that moves has to be looked at.  `Recorded Q`
says `Q` of every logged event, and `recorded_append` extends it.
-/
import Mathlib.Logic.Function.Basic
import RobotFleet.Theory.Run

namespace RobotFleet.Theory.Calls

set_option autoImplicit false

/-- The gRPC codes that handlers answer with. -/
inductive Code where
  | invalidArgument
  | notFound
  | alreadyExists
  | permissionDenied
  | failedPrecondition
  | unavailable
  | unauthenticated
  | internal
  deriving DecidableEq, Repr

structure Status where
  code : Code
  message : String
  deriving DecidableEq, Repr

/-- `google.protobuf.Timestamp`. -/
structure Timestamp where
  seconds : Int64
  nanos : Int32
  deriving DecidableEq, Repr

/-! ## Peeling a `do` block of a handler -/

/-- Rewording the error does not touch a success. -/
theorem mapError_ok {ε ε' α : Type} {x : Except ε α} {f : ε → ε'} {a : α} :
    x.mapError f = .ok a ↔ x = .ok a := by
  constructor
  · intro mapped
    cases x with
    | error e => cases mapped
    | ok b => exact congrArg Except.ok (Except.ok.inj mapped)
  · rintro rfl
    rfl

/-- A block that succeeds got past its first line. -/
theorem ok_of_bind {ε α β : Type} {x : Except ε α} {f : α → Except ε β} {b : β}
    (done : (x >>= f) = .ok b) : ∃ a, x = .ok a ∧ f a = .ok b := by
  cases x with
  | error e => cases done
  | ok a => exact ⟨a, rfl, done⟩

/-! ## The machine -/

/-- The shared state, the calls in flight by number, and the events that calls
returned so far, oldest first. -/
structure World (σ π ε : Type) where
  state : σ
  calls : Nat → Option π
  log : List ε

/-- No call in flight, nothing returned yet. -/
def World.init {σ π ε : Type} (state : σ) : World σ π ε := ⟨state, fun _ => none, []⟩

/-- An atomic operation on the state, a move of one call, or a restart, which
loses the calls in flight and keeps the state. -/
inductive Action (δ κ : Type) where
  | direct (op : δ)
  | call (id : Nat) (move : κ)
  | restart

/-- What a move leaves: the call's data (`none` once it is over), the event if
the call returned, and the state. -/
structure Outcome (σ π ε : Type) where
  call : Option π
  event : Option ε
  state : σ

structure Machine (σ δ κ π ε : Type) where
  direct : σ → δ → σ
  advance : Option π → σ → κ → Outcome σ π ε

variable {σ δ κ π ε : Type} (M : Machine σ δ κ π ε)

namespace Machine

def step (w : World σ π ε) : Action δ κ → World σ π ε
  | .direct op => { w with state := M.direct w.state op }
  | .call id move =>
    let o := M.advance (w.calls id) w.state move
    ⟨o.state, Function.update w.calls id o.call, w.log ++ o.event.toList⟩
  | .restart => { w with calls := fun _ => none }

/-- A run uses finitely many call numbers. -/
theorem exists_unused (s : σ) (actions : List (Action δ κ)) :
    ∃ bound, ∀ id, bound ≤ id → (Run.run M.step (.init s) actions).calls id = none := by
  refine Run.run_invariant_free M.step (I := fun w => ∃ bound, ∀ id, bound ≤ id → w.calls id = none) ?_
    ⟨0, fun _ _ => rfl⟩ actions
  rintro w a ⟨bound, unused⟩
  cases a with
  | direct op => exact ⟨bound, unused⟩
  | restart => exact ⟨0, fun _ _ => rfl⟩
  | call number move =>
      refine ⟨max bound (number + 1), fun id above => ?_⟩
      have apart : id ≠ number := by omega
      simp only [step, Function.update_of_ne apart]
      exact unused id (by omega)

end Machine

/-! ## Invariants of a machine of calls -/

/-- `I` of the state and the log, and `P` of every call in flight. -/
structure Holds (I : σ → List ε → Prop) (P : σ → List ε → π → Prop) (w : World σ π ε) : Prop where
  shared : I w.state w.log
  inFlight : ∀ id p, w.calls id = some p → P w.state w.log p

section Rules

variable {I : σ → List ε → Prop} {P : σ → List ε → π → Prop}
  {R : σ → List ε → σ → List ε → Prop}

theorem holds_init {s : σ} (initially : I s []) : Holds I P (World.init s : World σ π ε) where
  shared := initially
  inFlight _ _ flying := by cases flying

/-- **The rule for one action.**  A move answers for the shared part, for what it
guarantees to the calls that stand still, and for its own call. -/
theorem holds_step (stable : ∀ {s l s' l' p}, R s l s' l' → P s l p → P s' l' p)
    {w : World σ π ε} {a : Action δ κ}
    (direct : ∀ op, a = .direct op →
      I (M.direct w.state op) w.log ∧ R w.state w.log (M.direct w.state op) w.log)
    (call : ∀ id move o, a = .call id move → M.advance (w.calls id) w.state move = o →
      I o.state (w.log ++ o.event.toList) ∧ R w.state w.log o.state (w.log ++ o.event.toList) ∧
        ∀ p, o.call = some p → P o.state (w.log ++ o.event.toList) p)
    (holds : Holds I P w) : Holds I P (M.step w a) := by
  cases a with
  | direct op =>
      obtain ⟨kept, guaranteed⟩ := direct op rfl
      exact ⟨kept, fun id p flying => stable guaranteed (holds.inFlight id p flying)⟩
  | call id move =>
      obtain ⟨kept, guaranteed, own⟩ := call id move _ rfl rfl
      refine ⟨kept, fun other p flying => ?_⟩
      by_cases same : other = id
      · subst same
        simp only [Machine.step, Function.update_self] at flying
        exact own p flying
      · simp only [Machine.step, Function.update_of_ne same] at flying
        exact stable guaranteed (holds.inFlight other p flying)
  | restart => exact ⟨holds.shared, fun _ _ flying => by cases flying⟩

/-- `Q` of every event of the log. -/
def Recorded (Q : σ → List ε → ε → Prop) (s : σ) (l : List ε) : Prop := ∀ ev ∈ l, Q s l ev

variable {Q : σ → List ε → ε → Prop}

theorem recorded_mono (stable : ∀ {s l s' l' ev}, R s l s' l' → Q s l ev → Q s' l' ev)
    {s s' : σ} {l : List ε} (guaranteed : R s l s' l) (recorded : Recorded Q s l) :
    Recorded Q s' l :=
  fun ev member => stable guaranteed (recorded ev member)

theorem recorded_append (stable : ∀ {s l s' l' ev}, R s l s' l' → Q s l ev → Q s' l' ev)
    {s s' : σ} {l : List ε} {event : Option ε} (guaranteed : R s l s' (l ++ event.toList))
    (recorded : Recorded Q s l) (new : ∀ ev, event = some ev → Q s' (l ++ event.toList) ev) :
    Recorded Q s' (l ++ event.toList) := by
  intro ev member
  rcases List.mem_append.1 member with old | fresh
  · exact stable guaranteed (recorded ev old)
  · exact new ev (Option.mem_toList.1 fresh)

end Rules

end RobotFleet.Theory.Calls
