/-
# Ota.Sessions -- the service of the fleet is the service alone

`Ota.Fleet` runs the handlers of the service together with the `run_stream` loops of the
robots; `Ota.Streams` runs the handlers alone, with streams that anybody reads at any
time.  `fleet_projects`: the service's side of every run of the fleet is a run of the
service alone, with the same job table, the same channels and receivers, the same
`dispatch_update` calls between their two steps, and with streams that yield what the
robots receive, in that order.  So whatever holds of every run in `Ota.Streams` holds of
the commands that robots get.

In the fleet a restart of the service leaves its calls in place, to be abandoned one by
one; in `Ota.Streams` they go with it.  `CleanRestart` asks for the first before the
second: no `dispatch_update` is left when the service restarts.
-/
import RobotFleet.Ota.Streams

namespace RobotFleet.Ota

open RobotFleet.Theory
open RobotFleet.Theory.Run
open RobotFleet.Theory.Calls (World Action Machine)

set_option autoImplicit false

/-! ## The service's side -/

/-- The call is a `dispatch_update` that created its job. -/
def InFlight.dispatch? : InFlight → Option (DispatchUpdateRequest × JobRecord)
  | .dispatching req job => some (req, job)
  | _ => none

/-- A robot received an item of its stream. -/
def Event.item? : Event → Option (Nat × UpdateCommand)
  | .received session cmd => some (session.receiver, cmd)
  | _ => none

structure Projects (w : World State InFlight Event) (s : Service) : Prop where
  jobs : s.jobs = w.state.jobs
  dispatcher : s.dispatcher = w.state.dispatcher
  dispatching : ∀ call, s.dispatching call = (w.calls call).bind InFlight.dispatch?
  yielded : s.yielded = w.log.filterMap Event.item?

/-- The handlers are gone before the process restarts. -/
def CleanRestart (w : World State InFlight Event) : Action ServerOp Move → Prop
  | .direct .restart => ∀ call req job, w.calls call ≠ some (.dispatching req job)
  | _ => True

namespace Service

/-- Calls that are abandoned one by one. -/
theorem run_abandon (s : Service) (n : Nat) :
    run step s ((List.range n).map Action.abandon) =
      { s with dispatching := fun call => if call < n then none else s.dispatching call } := by
  induction n with
  | zero => simp
  | succ n ih =>
      rw [List.range_succ, List.map_append, List.map_singleton, run_concat, ih]
      simp only [step, Service.mk.injEq, true_and, and_true]
      funext call
      by_cases last : call = n
      · simp [last]
      · have bound : call < n + 1 ↔ call < n := by omega
        simp [Function.update_of_ne last, bound]

end Service

section Steps

variable (digest : List UInt8 → List UInt8) {w : World State InFlight Event} {s : Service}

/-- A move of one call, and what the service does at it. -/
theorem Projects.of_move (projects : Projects w s) {state : State} {call : Nat} {after : Option InFlight}
    {event : Option Event} {s' : Service} (jobs : s'.jobs = state.jobs)
    (dispatcher : s'.dispatcher = state.dispatcher)
    (dispatching : s'.dispatching = Function.update s.dispatching call (after.bind InFlight.dispatch?))
    (yielded : s'.yielded = s.yielded ++ (event.bind Event.item?).toList) :
    Projects ⟨state, Function.update w.calls call after, w.log ++ event.toList⟩ s' where
  jobs := jobs
  dispatcher := dispatcher
  dispatching other := by
    rw [dispatching]
    by_cases own : other = call
    · subst own
      simp
    · simp [projects.dispatching, Function.update_of_ne own]
  yielded := by
    rw [yielded, projects.yielded, List.filterMap_append]
    cases event with
    | none => simp
    | some e => cases item : e.item? <;> simp [item]

/-- The service does nothing at it. -/
theorem Projects.stutter (projects : Projects w s) {call : Nat} {after : Option InFlight}
    {event : Option Event}
    (same : after.bind InFlight.dispatch? = (w.calls call).bind InFlight.dispatch?)
    (quiet : event.bind Event.item? = none) :
    Projects ⟨w.state, Function.update w.calls call after, w.log ++ event.toList⟩ s := by
  refine projects.of_move projects.jobs projects.dispatcher ?_ (by simp [quiet])
  rw [same, ← projects.dispatching call, Function.update_eq_self]

/-- **A move of one call is at most one action of the service.** -/
theorem projects_call (projects : Projects w s) (call : Nat) (move : Move) :
    ∃ actions, Projects ((fleet digest).step w (.call call move)) (run Service.step s actions) := by
  have moved := advance_spec digest (w.calls call) w.state move
  have slot := projects.dispatching call
  simp only [Machine.step, fleet]
  generalize advance digest (w.calls call) w.state move = o at moved ⊢
  generalize flying : w.calls call = before at moved slot
  cases moved with
  | idle => exact ⟨[], projects.stutter (by rw [flying]) rfl⟩
  | ended p =>
      exact ⟨[.abandon call], projects.of_move projects.jobs projects.dispatcher rfl (by simp [Service.step])⟩
  | dispatchRefused req id now status => exact ⟨[], projects.stutter (by rw [flying]) rfl⟩
  | dispatchCreated req id now job jobs created =>
      have ran : dispatchCreate req id now s.jobs = (.ok job, jobs) := by
        rw [projects.jobs, dispatchCreate, created]
      have free : s.dispatching call = none := slot
      refine ⟨[.createJob call req id now], projects.of_move ?_ ?_ ?_ ?_⟩
      all_goals simp [Service.step, free, ran, projects.dispatcher, InFlight.dispatch?]
  | dispatchSent req job result dispatcher sent =>
      have created : s.dispatching call = some (req, job) := slot
      refine ⟨[.dispatch call], projects.of_move ?_ ?_ ?_ ?_⟩
      all_goals simp [Service.step, created, projects.jobs, projects.dispatcher, sent, Event.item?]
  | watched agent deviceId receiver dispatcher subscribed =>
      refine ⟨[.watchUpdates deviceId], projects.of_move projects.jobs ?_ ?_ ?_⟩
      · simp [Service.step, projects.dispatcher, subscribed]
      · have free : s.dispatching call = none := slot
        simp [Service.step, InFlight.dispatch?, ← free]
      · simp [Service.step]
  | messageReceived session cmd dispatcher got =>
      have free : s.dispatching call = none := slot
      rw [← projects.dispatcher] at got
      refine ⟨[.readStream session.receiver], projects.of_move ?_ ?_ ?_ ?_⟩
      all_goals simp [Service.step, got, projects.jobs, Event.item?, InFlight.dispatch?, ← free]
  | updateApplied | ackSent | ackReturned =>
      exact ⟨[], projects.stutter (by rw [flying]; rfl) rfl⟩

/-- An action of the fleet, as actions of the service. -/
theorem projects_step (projects : Projects w s) (a : Action ServerOp Move) (clean : CleanRestart w a)
    (unused : ∃ bound, ∀ call, bound ≤ call → w.calls call = none) :
    ∃ actions, Projects ((fleet digest).step w a) (run Service.step s actions) := by
  obtain ⟨jobs, dispatcher, dispatching, yielded⟩ := projects
  cases a with
  | call call move => exact projects_call digest ⟨jobs, dispatcher, dispatching, yielded⟩ call move
  | restart =>
      obtain ⟨bound, unused⟩ := unused
      refine ⟨(List.range bound).map .abandon, ?_⟩
      rw [Service.run_abandon]
      refine ⟨jobs, dispatcher, fun call => ?_, yielded⟩
      by_cases used : call < bound
      · simp [used, Machine.step]
      · simp [used, Machine.step, dispatching, unused call (by omega)]
  | direct op =>
      cases op with
      | checkUpdate | listUpdateJobs => exact ⟨[], jobs, dispatcher, dispatching, yielded⟩
      | ackUpdate req now =>
          refine ⟨[.ackUpdate req now], ?_, dispatcher, dispatching, yielded⟩
          simp [Service.step, Machine.step, fleet, serverOp, jobs]
      | unsubscribe receiver =>
          refine ⟨[.dropStream receiver], jobs, ?_, dispatching, yielded⟩
          simp [Service.step, Machine.step, fleet, serverOp, dispatcher]
      | restart =>
          refine ⟨[.restart], jobs, ?_, fun call => ?_, yielded⟩
          · simp [Service.step, Machine.step, fleet, serverOp, dispatcher]
          · -- nothing was left to lose
            have none_ : (w.calls call).bind InFlight.dispatch? = none := by
              cases flying : w.calls call with
              | none => rfl
              | some p =>
                  cases p with
                  | dispatching req job => exact absurd flying (clean call req job)
                  | _ => rfl
            exact none_.symm

end Steps

/-- **The service's side of a run of the fleet is a run of the service.** -/
theorem fleet_projects (digest : List UInt8 → List UInt8) (actions : List (Action ServerOp Move))
    (clean : Guarded (fleet digest).step CleanRestart (.init .empty) actions) :
    ∃ actions', Projects (runFleet digest actions) (Service.runService actions') := by
  induction actions using List.reverseRecOn with
  | nil => exact ⟨[], rfl, rfl, fun _ => rfl, rfl⟩
  | append_singleton actions a ih =>
      obtain ⟨before, now⟩ := (guarded_append _).1 clean
      obtain ⟨actions', projects⟩ := ih before
      obtain ⟨more, projects'⟩ := projects_step digest projects a now.1
        ((fleet digest).exists_unused State.empty actions)
      refine ⟨actions' ++ more, ?_⟩
      rw [runFleet_concat, Service.runService, run_append]
      exact projects'

/-- The run of `Toy.failedUpdate`, in which one robot receives one command. -/
theorem fleet_projects_failedUpdate :
    ∃ actions', Projects (runFleet (fun bytes => bytes) Toy.failedUpdate) (Service.runService actions') ∧
      (Service.runService actions').yielded.length = 1 := by
  obtain ⟨actions', projects⟩ := fleet_projects (fun bytes => bytes) Toy.failedUpdate
    ⟨trivial, trivial, trivial, trivial, trivial, trivial, trivial, trivial, trivial⟩
  refine ⟨actions', projects, ?_⟩
  rw [projects.yielded]
  decide

end RobotFleet.Ota
