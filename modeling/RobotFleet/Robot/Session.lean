/-
# Robot.Session -- Phase 3: three loops under `main`'s `select!`

`heartbeat::run`, `ota::run` and `telemetry::run` repeat their attempts until one
returns `Ok`, and sleep between them; `main` waits for the first of the three to return,
or for Ctrl-C, and the process ends.  A new process may be started then.

What an attempt of `telemetry::run` reads is decided when it begins: if there is a file
at `$SOCKET_PATH`, `run_from_socket` removes it, binds a socket of its own there and
waits for the simulator; otherwise `run_sine_wave` makes the joint states up.  The
simulator only ever connects (`RobotController.initialize`), so it is the agent's own
`bind` that creates the file.

* `reconnect_waits`: the waits of every loop double up to `MAX_BACKOFF`, for the life of
  the process.
* `attempts_listen_first`: whether the simulator is ever read was decided before the first
  process started, by a file that was already there; and an agent that has once made its
  joint states up does so for good.

A second `connect` while the first simulator is being read stays in the backlog of a
listener that accepts once, and counts as not accepted here.
-/
import Mathlib.Algebra.Order.Ring.Nat
import Mathlib.Logic.Function.Basic
import RobotFleet.Theory.Run

namespace RobotFleet.Robot

open RobotFleet.Theory.Run

set_option autoImplicit false

/-- `MAX_BACKOFF`, in seconds. -/
def maxBackoff : Nat := 60

inductive Loop where
  | heartbeat
  | ota
  | telemetry
  deriving DecidableEq, Repr

/-- Where a `run` loop is, its `backoff`, and how long it has slept each time. -/
inductive Phase where
  | attempting
  | sleeping
  | returned
  deriving DecidableEq, Repr

structure Retry where
  phase : Phase
  backoff : Nat
  slept : List Nat
  deriving DecidableEq, Repr

namespace Retry

def start : Retry := ⟨.attempting, 1, []⟩

/-- The attempt returned `Ok` or `Err`. -/
def finish (r : Retry) (ok : Bool) : Retry :=
  if ok then { r with phase := .returned }
  else { r with phase := .sleeping, slept := r.slept ++ [r.backoff] }

/-- The sleep is over. -/
def wake (r : Retry) : Retry :=
  { r with phase := .attempting, backoff := min (r.backoff * 2) maxBackoff }

end Retry

/-- What the telemetry attempt under way reads: nothing but sine waves, or the
simulator, once it has connected. -/
inductive Source where
  | sineWave
  | listening
  | connected
  deriving DecidableEq, Repr

structure Session where
  /-- `$SOCKET_PATH` is set. -/
  socketPath : Bool
  /-- There is a file at `$SOCKET_PATH`. -/
  socketFile : Bool
  running : Bool
  retry : Loop → Retry
  source : Option Source
  /-- The sources of all attempts, and whether each connect of the simulator was accepted. -/
  begun : List Source
  connects : List Bool

def Session.start (socketPath socketFile : Bool) : Session where
  socketPath := socketPath
  socketFile := socketFile
  running := true
  retry := fun _ => .start
  source := none
  begun := []
  connects := []

/-- How `remove_file` and `bind` go. -/
inductive Bind where
  | bound
  | removeFails
  | bindFails
  deriving DecidableEq, Repr

inductive Event where
  /-- A telemetry attempt looks at `$SOCKET_PATH`. -/
  | begins (bind : Bind)
  /-- `initialize` of the simulator. -/
  | connect
  | finish (loop : Loop) (ok : Bool)
  | wake (loop : Loop)
  | ctrlC
  | restart

namespace Session

/-- The loop is in an attempt.  `run_from_socket` cannot return `Ok` before the
simulator has connected. -/
def attempts (s : Session) (loop : Loop) (ok : Bool) : Bool :=
  s.running && decide ((s.retry loop).phase = .attempting) &&
    (decide (loop ≠ .telemetry) || s.source.isSome && !(ok && decide (s.source = some .listening)))

/-- The attempt of the loop is over; `select!` ends with the first loop that returns. -/
def finish (s : Session) (loop : Loop) (ok : Bool) : Session :=
  { s with
    retry := Function.update s.retry loop ((s.retry loop).finish ok)
    source := if loop = .telemetry then none else s.source
    running := !ok }

/-- `telemetry::run` picks a source. -/
def begins (s : Session) (bind : Bind) : Session :=
  if s.running ∧ (s.retry .telemetry).phase = .attempting ∧ s.source = none then
    if s.socketPath ∧ s.socketFile then
      match bind with
      | .bound => { s with source := some .listening, begun := s.begun ++ [.listening] }
      | .removeFails => s.finish .telemetry false
      | .bindFails => { s.finish .telemetry false with socketFile := false }
    else { s with source := some .sineWave, begun := s.begun ++ [.sineWave] }
  else s

def connect (s : Session) : Session :=
  if s.running ∧ s.source = some .listening then
    { s with source := some .connected, connects := s.connects ++ [true] }
  else { s with connects := s.connects ++ [false] }

end Session

def Session.step (s : Session) : Event → Session
  | .begins bind => s.begins bind
  | .connect => s.connect
  | .finish loop ok => if s.attempts loop ok then s.finish loop ok else s
  | .wake loop =>
    if s.running ∧ (s.retry loop).phase = .sleeping then
      { s with retry := Function.update s.retry loop (s.retry loop).wake }
    else s
  | .ctrlC => { s with running := false }
  | .restart =>
    if s.running then s else { s with running := true, retry := fun _ => .start, source := none }

/-- The agent after any events, started with or without a file at `$SOCKET_PATH`. -/
def session (socketPath socketFile : Bool) (events : List Event) : Session :=
  run Session.step (.start socketPath socketFile) events

/-! ## The waits -/

/-- How long a loop sleeps after its `n`-th failed attempt, counted from zero. -/
def wait (n : Nat) : Nat := min (2 ^ n) maxBackoff

theorem wait_succ (n : Nat) : min (wait n * 2) maxBackoff = wait (n + 1) := by
  simp only [wait, Nat.pow_succ]
  omega

/-- The waits so far are the first ones of the schedule, with the next one at hand. -/
def Retry.Paced (r : Retry) : Prop :=
  ∃ n, r.backoff = wait n ∧
    r.slept = (List.range (if r.phase = .sleeping then n + 1 else n)).map wait

namespace Retry.Paced

variable {r : Retry}

theorem start : Retry.start.Paced := ⟨0, rfl, rfl⟩

theorem finish (paced : r.Paced) (ok : Bool) (attempting : r.phase = .attempting) :
    (r.finish ok).Paced := by
  obtain ⟨n, backoff, slept⟩ := paced
  rw [attempting] at slept
  refine ⟨n, ?_, ?_⟩
  · cases ok <;> exact backoff
  · cases ok
    · simp [Retry.finish, slept, backoff, List.range_succ]
    · simpa [Retry.finish] using slept

theorem wake (paced : r.Paced) (sleeping : r.phase = .sleeping) : r.wake.Paced := by
  obtain ⟨n, backoff, slept⟩ := paced
  rw [if_pos sleeping] at slept
  refine ⟨n + 1, ?_, slept⟩
  rw [← wait_succ, ← backoff]
  rfl

theorem slept_eq (paced : r.Paced) : r.slept = (List.range r.slept.length).map wait := by
  obtain ⟨n, -, slept⟩ := paced
  rw [slept]
  simp

end Retry.Paced

namespace Session

/-- What a loop that is replaced and the loops that are not have in common. -/
theorem forall_update {s : Session} {P : Retry → Prop} {loop : Loop} {r : Retry}
    (all : ∀ other, P (s.retry other)) (new : P r) (other : Loop) :
    P (Function.update s.retry loop r other) := by
  by_cases same : other = loop
  · rw [same, Function.update_self]
    exact new
  · rw [Function.update_of_ne same]
    exact all other

/-- All loops keep to the schedule, and `select!` is over once a loop has returned. -/
structure Waiting (s : Session) : Prop where
  paced : ∀ loop, (s.retry loop).Paced
  unreturned : s.running = true → ∀ loop, (s.retry loop).phase ≠ .returned

theorem Waiting.finish {s : Session} (inv : s.Waiting) {loop : Loop} (ok : Bool)
    (attempting : (s.retry loop).phase = .attempting) (running : s.running = true) :
    (s.finish loop ok).Waiting where
  paced := forall_update inv.paced ((inv.paced loop).finish ok attempting)
  unreturned := by
    intro still
    have failed : ok = false := by simpa [Session.finish] using still
    subst failed
    exact forall_update (P := fun r => r.phase ≠ .returned) (inv.unreturned running) Phase.noConfusion

theorem Waiting.begins {s : Session} (inv : s.Waiting) (bind : Bind) : (s.begins bind).Waiting := by
  simp only [Session.begins]
  split
  · rename_i guard
    split
    · cases bind with
      | bound => exact ⟨inv.paced, inv.unreturned⟩
      | removeFails => exact inv.finish false guard.2.1 guard.1
      | bindFails =>
          have finished := inv.finish false guard.2.1 guard.1
          exact ⟨finished.paced, finished.unreturned⟩
    · exact ⟨inv.paced, inv.unreturned⟩
  · exact inv

theorem waiting_step (s : Session) (e : Event) (inv : s.Waiting) : (s.step e).Waiting := by
  cases e with
  | begins bind => exact inv.begins bind
  | connect =>
      simp only [Session.step, Session.connect]
      split <;> exact ⟨inv.paced, inv.unreturned⟩
  | finish loop ok =>
      simp only [Session.step]
      split
      · rename_i attempts
        simp only [Session.attempts, Bool.and_eq_true, decide_eq_true_eq] at attempts
        exact inv.finish ok attempts.1.2 attempts.1.1
      · exact inv
  | wake loop =>
      simp only [Session.step]
      split
      · rename_i asleep
        refine ⟨forall_update inv.paced ((inv.paced loop).wake asleep.2), fun running => ?_⟩
        exact forall_update (P := fun r => r.phase ≠ .returned) (inv.unreturned running)
          Phase.noConfusion
      · exact inv
  | ctrlC => exact ⟨inv.paced, fun running => Bool.noConfusion running⟩
  | restart =>
      simp only [Session.step]
      split
      · exact inv
      · exact ⟨fun _ => .start, fun _ _ => Phase.noConfusion⟩

end Session

/-- **The waits never start over.**  In every run of the agent, however long the attempts
in between lasted and whatever ended them, the sleeps of each of the three loops since
its process started are `1, 2, 4, …, 60, 60, …` seconds; and as long as the process
runs, none of the loops has returned. -/
theorem reconnect_waits (socketPath socketFile : Bool) (events : List Event) (loop : Loop) :
    ((session socketPath socketFile events).retry loop).slept =
        (List.range ((session socketPath socketFile events).retry loop).slept.length).map
          (fun k => min (2 ^ k) maxBackoff) ∧
      ((session socketPath socketFile events).running = true →
        ((session socketPath socketFile events).retry loop).phase ≠ .returned) := by
  have waiting : (session socketPath socketFile events).Waiting :=
    run_invariant_free Session.step Session.waiting_step
      ⟨fun _ => .start, fun _ _ => Phase.noConfusion⟩ events
  exact ⟨(waiting.paced loop).slept_eq, fun running => waiting.unreturned running loop⟩

/-! ## What is read -/

namespace Session

/-- The room for one more simulator. -/
def accepting (s : Session) : Nat := if s.source = some .listening then 1 else 0

/-- What the files of the first process leave open, `failed` being the one accident that
takes the socket away. -/
structure Heard (socketPath socketFile : Bool) (failed : Prop) (s : Session) : Prop where
  path : s.socketPath = socketPath
  kept : s.socketFile = true → socketFile = true
  lost : s.socketFile = false → socketFile = false ∨ failed
  sources : ∃ listened made,
    s.begun = List.replicate listened .listening ++ List.replicate made .sineWave ∧
      (listened ≠ 0 → socketPath = true ∧ socketFile = true) ∧
      (made ≠ 0 → ¬ (s.socketPath = true ∧ s.socketFile = true)) ∧
      s.connects.count true + s.accepting ≤ listened

section Steps

variable {socketPath socketFile : Bool} {failed : Prop} {s : Session}

/-- Steps that pick no source and take no simulator on. -/
theorem Heard.keep (inv : s.Heard socketPath socketFile failed) {t : Session}
    (path : t.socketPath = s.socketPath) (file : t.socketFile = s.socketFile)
    (begun : t.begun = s.begun) (connects : t.connects.count true = s.connects.count true)
    (room : t.accepting ≤ s.accepting) : t.Heard socketPath socketFile failed where
  path := path.trans inv.path
  kept := by rw [file]; exact inv.kept
  lost := by rw [file]; exact inv.lost
  sources := by
    obtain ⟨listened, made, all, heard, deaf, accepted⟩ := inv.sources
    rw [path, file, begun, connects]
    exact ⟨listened, made, all, heard, deaf, by omega⟩

theorem accepting_of_ne {t : Session} (deaf : t.source ≠ some .listening) : t.accepting = 0 :=
  if_neg deaf

theorem Heard.finish (inv : s.Heard socketPath socketFile failed) (loop : Loop) (ok : Bool) :
    (s.finish loop ok).Heard socketPath socketFile failed := by
  refine inv.keep rfl rfl rfl rfl ?_
  simp only [accepting, Session.finish]
  by_cases ours : loop = .telemetry
  · simp [ours]
  · simp [ours]

/-- The socket is removed and no other is bound in its place. -/
theorem Heard.forget (inv : s.Heard socketPath socketFile failed) (why : failed) :
    ({ s with socketFile := false } : Session).Heard socketPath socketFile failed where
  path := inv.path
  kept := Bool.noConfusion
  lost := fun _ => .inr why
  sources := by
    obtain ⟨listened, made, all, heard, -, accepted⟩ := inv.sources
    exact ⟨listened, made, all, heard, by simp, accepted⟩

theorem Heard.listen (inv : s.Heard socketPath socketFile failed)
    (path : s.socketPath = true) (file : s.socketFile = true) :
    ({ s with source := some .listening, begun := s.begun ++ [.listening] } : Session).Heard
      socketPath socketFile failed where
  path := inv.path
  kept := inv.kept
  lost := inv.lost
  sources := by
    obtain ⟨listened, made, all, -, deaf, accepted⟩ := inv.sources
    -- there has been no attempt without the socket yet, since it is still there
    have none_made : made = 0 := by
      by_contra some_made
      exact deaf some_made ⟨path, file⟩
    subst none_made
    refine ⟨listened + 1, 0, ?_, fun _ => ⟨inv.path ▸ path, inv.kept file⟩, fun h => absurd rfl h, ?_⟩
    · simp [all, List.replicate_succ']
    · simp only [accepting, if_pos]
      omega

theorem Heard.makeUp (inv : s.Heard socketPath socketFile failed)
    (absent : ¬ (s.socketPath = true ∧ s.socketFile = true)) :
    ({ s with source := some .sineWave, begun := s.begun ++ [.sineWave] } : Session).Heard
      socketPath socketFile failed where
  path := inv.path
  kept := inv.kept
  lost := inv.lost
  sources := by
    obtain ⟨listened, made, all, heard, -, accepted⟩ := inv.sources
    refine ⟨listened, made + 1, ?_, heard, fun _ => absent, ?_⟩
    · simp [all, List.replicate_succ', List.append_assoc]
    · rw [accepting_of_ne (by simp)]
      exact Nat.le_of_add_right_le accepted

theorem Heard.accept (inv : s.Heard socketPath socketFile failed)
    (listening : s.source = some .listening) :
    ({ s with source := some .connected, connects := s.connects ++ [true] } : Session).Heard
      socketPath socketFile failed where
  path := inv.path
  kept := inv.kept
  lost := inv.lost
  sources := by
    obtain ⟨listened, made, all, heard, deaf, accepted⟩ := inv.sources
    refine ⟨listened, made, all, heard, deaf, ?_⟩
    rw [accepting, if_pos listening] at accepted
    rw [accepting_of_ne (by simp)]
    simpa [List.count_append] using accepted

theorem heard_step (e : Event) (inv : s.Heard socketPath socketFile failed)
    (accident : e = .begins .bindFails → failed) :
    (s.step e).Heard socketPath socketFile failed := by
  cases e with
  | begins bind =>
      simp only [Session.step, Session.begins]
      split
      · split
        · rename_i there
          cases bind with
          | bound => exact inv.listen there.1 there.2
          | removeFails => exact inv.finish .telemetry false
          | bindFails => exact (inv.finish .telemetry false).forget (accident rfl)
        · rename_i absent
          exact inv.makeUp absent
      · exact inv
  | connect =>
      simp only [Session.step, Session.connect]
      split
      · rename_i listening
        exact inv.accept listening.2
      · exact inv.keep rfl rfl rfl (by simp [List.count_append]) (le_refl _)
  | finish loop ok =>
      simp only [Session.step]
      split
      · exact inv.finish loop ok
      · exact inv
  | wake loop =>
      simp only [Session.step]
      split
      · exact inv.keep rfl rfl rfl rfl (le_refl _)
      · exact inv
  | ctrlC => exact inv.keep rfl rfl rfl rfl (le_refl _)
  | restart =>
      simp only [Session.step]
      split
      · exact inv
      · exact inv.keep rfl rfl rfl rfl (by rw [accepting_of_ne (by simp)]; exact Nat.zero_le _)

end Steps

theorem heard_start (socketPath socketFile : Bool) (failed : Prop) :
    (Session.start socketPath socketFile).Heard socketPath socketFile failed where
  path := rfl
  kept := id
  lost := .inl
  sources := ⟨0, 0, rfl, fun h => absurd rfl h, fun h => absurd rfl h, Nat.le_refl 0⟩

end Session

/-- **The simulator is heard from the start or never.**  In every run of the agent, over any
number of processes, the attempts of `telemetry::run` first listen for the simulator and
from some point on make the joint states up; the first part is empty unless
`$SOCKET_PATH` was set and a file was there before the first process started, the second
one unless that was not so or a `bind` has failed; and there are at most as many
simulators read as there were attempts that listened. -/
theorem attempts_listen_first (socketPath socketFile : Bool) (events : List Event) :
    ∃ listened made,
      (session socketPath socketFile events).begun =
          List.replicate listened .listening ++ List.replicate made .sineWave ∧
        (listened ≠ 0 → socketPath = true ∧ socketFile = true) ∧
        (made ≠ 0 → (socketPath && socketFile) = false ∨ Event.begins .bindFails ∈ events) ∧
        (session socketPath socketFile events).connects.count true ≤ listened := by
  have inv : (session socketPath socketFile events).Heard socketPath socketFile
      (Event.begins .bindFails ∈ events) :=
    run_invariant_of_forall Session.step (A := (· ∈ events))
      (fun s e heard member => Session.heard_step e heard (fun is => is ▸ member))
      (Session.heard_start socketPath socketFile _) (fun _ member => member)
  obtain ⟨listened, made, all, heard, deaf, accepted⟩ := inv.sources
  refine ⟨listened, made, all, heard, fun some_made => ?_, by omega⟩
  have absent := deaf some_made
  rw [inv.path] at absent
  cases path : socketPath with
  | false => exact .inl rfl
  | true =>
      have gone : (session true socketFile events).socketFile = false := by
        simpa [path] using absent
      rw [path] at inv
      exact (inv.lost gone).imp (by simp) id

/-- One failed `bind` is enough: the next attempt no longer finds the socket it removed. -/
example : (session true true [.begins .bindFails, .wake .telemetry, .begins .bound, .connect]).begun =
      [.sineWave] ∧
    (session true true [.begins .bindFails, .wake .telemetry, .begins .bound, .connect]).connects =
      [false] := by decide

end RobotFleet.Robot
