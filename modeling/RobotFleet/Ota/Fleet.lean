/-
# Ota.Fleet -- the OTA service together with the robots that watch it

One machine of `Theory.Calls`.  Its shared state is the service's: the job table
and the dispatcher.  Its calls are the handlers of `dispatch_update`, cut where
they await the dispatcher, and the `run_stream` loops of the robots, cut at each
message they receive or send.  A loop may be abandoned at any point (a crash, a
broken stream), and the service may restart, which empties the dispatcher.

An ack is a message: a loop logs that it sent one, and the service handles
`ack_update` requests as direct operations, whenever they arrive and however
often.  That the only ones are those of the loops is a guard that
`Ota.Applied` makes and `Ota.Jobs` does not.

`Advances` lists what a move can do; `step_jobs` is its projection to the job
table, which is all that the invariants of that table need.
-/
import RobotFleet.Ota.Agent

namespace RobotFleet.Ota

open RobotFleet.Theory
open RobotFleet.Theory.Run
open RobotFleet.Theory.Calls (World Action Outcome Machine Status)

set_option autoImplicit false

structure State where
  jobs : Jobs
  dispatcher : Dispatcher

def State.empty : State := ⟨.empty, .empty⟩

/-- What reaches the service other than a `dispatch_update` or a `run_stream`. -/
inductive ServerOp where
  | ackUpdate (req : AckUpdateRequest) (now : String)
  | checkUpdate (scan : Scan JobRow) (deviceId : String)
  | listUpdateJobs (scan : Scan JobRow) (req : ListUpdateJobsRequest)
  | unsubscribe (receiver : Nat)
  | restart

def serverOp (s : State) : ServerOp → State
  | .ackUpdate req now => { s with jobs := (ackUpdate req now s.jobs).2 }
  | .checkUpdate .. | .listUpdateJobs .. => s
  | .unsubscribe receiver => { s with dispatcher := s.dispatcher.unsubscribe receiver }
  | .restart => { s with dispatcher := s.dispatcher.restart }

/-- One `run_stream` of an agent, and the receiver its stream reads. -/
structure Session where
  agent : Nat
  deviceId : String
  receiver : Nat
  deriving DecidableEq

inductive InFlight where
  | dispatching (req : DispatchUpdateRequest) (job : JobRecord)
  | watching (session : Session)
  | received (session : Session) (cmd : UpdateCommand)
  | applied (session : Session) (cmd : UpdateCommand) (result : Except Agent.Error Unit)
  | acking (session : Session)

inductive Event where
  | dispatched (req : DispatchUpdateRequest) (result : Except Status UpdateJob)
  | received (session : Session) (cmd : UpdateCommand)
  | applied (session : Session) (cmd : UpdateCommand) (env : Env) (result : Except Agent.Error Unit)
  | ackSent (session : Session) (req : AckUpdateRequest)

inductive Move where
  | dispatchCreate (req : DispatchUpdateRequest) (id now : String)
  | dispatchSend
  | watch (agent : Nat) (deviceId : String)
  | receive
  | apply (env : Env)
  | sendAck
  | ackReturned (accepted : Bool)
  | abandon

variable (digest : List UInt8 → List UInt8)

/-- One move of one call; a move that the call is not waiting for does nothing. -/
def advance (call : Option InFlight) (s : State) (move : Move) : Outcome State InFlight Event :=
  match call, move with
  | none, .dispatchCreate req id now =>
    match dispatchCreate req id now s.jobs with
    | (.error status, jobs) => ⟨none, some (.dispatched req (.error status)), { s with jobs }⟩
    | (.ok job, jobs) => ⟨some (.dispatching req job), none, { s with jobs }⟩
  | some (.dispatching req job), .dispatchSend =>
    match dispatchSend req job s.dispatcher with
    | (result, dispatcher) => ⟨none, some (.dispatched req result), { s with dispatcher }⟩
  | none, .watch agent deviceId =>
    match s.dispatcher.subscribe deviceId with
    | (receiver, dispatcher) => ⟨some (.watching ⟨agent, deviceId, receiver⟩), none, { s with dispatcher }⟩
  | some (.watching session), .receive =>
    match s.dispatcher.recv session.receiver with
    | (none, _) => ⟨some (.watching session), none, s⟩
    | (some cmd, dispatcher) =>
      ⟨some (.received session cmd), some (.received session cmd), { s with dispatcher }⟩
  | some (.received session cmd), .apply env =>
    let result := (applyUpdate digest cmd.artifactUrl cmd.sha256 env).result
    ⟨some (.applied session cmd result), some (.applied session cmd env result), s⟩
  | some (.applied session cmd result), .sendAck =>
    ⟨some (.acking session), some (.ackSent session (ackFor session.deviceId cmd result)), s⟩
  | some (.acking session), .ackReturned accepted =>
    ⟨if accepted then some (.watching session) else none, none, s⟩
  | some _, .abandon => ⟨none, none, s⟩
  | call, _ => ⟨call, none, s⟩

def fleet : Machine State ServerOp Move InFlight Event where
  direct := serverOp
  advance := advance digest

/-- The service and its robots after a run from the empty job table. -/
def runFleet (actions : List (Action ServerOp Move)) : World State InFlight Event :=
  run (fleet digest).step (.init .empty) actions

theorem runFleet_concat (actions : List (Action ServerOp Move)) (a : Action ServerOp Move) :
    runFleet digest (actions ++ [a]) = (fleet digest).step (runFleet digest actions) a :=
  run_concat _ _ actions a

/-! ## What a move can do -/

theorem dispatchCreate_ok {req : DispatchUpdateRequest} {id now : String} {jobs jobs' : Jobs}
    {job : JobRecord} (created : dispatchCreate req id now jobs = (.ok job, jobs')) :
    createJob req.toJob id now jobs = (.ok job, jobs') := by
  unfold dispatchCreate at created
  split at created
  · cases created
  · rename_i ran
    cases created
    exact ran

theorem dispatchCreate_error {req : DispatchUpdateRequest} {id now : String} {jobs jobs' : Jobs}
    {status : Status} (refused : dispatchCreate req id now jobs = (.error status, jobs')) :
    jobs' = jobs := by
  unfold dispatchCreate at refused
  split at refused
  · rename_i e jobs'' ran
    cases refused
    have kept := createJob_error (e := e) (by rw [ran])
    rwa [ran] at kept
  · cases refused

inductive Advances (s : State) : Option InFlight → Move → Outcome State InFlight Event → Prop
  | idle (call : Option InFlight) (move : Move) : Advances s call move ⟨call, none, s⟩
  | ended (call : InFlight) (move : Move) : Advances s (some call) move ⟨none, none, s⟩
  | dispatchRefused (req : DispatchUpdateRequest) (id now : String) (status : Status) :
      Advances s none (.dispatchCreate req id now) ⟨none, some (.dispatched req (.error status)), s⟩
  | dispatchCreated (req : DispatchUpdateRequest) (id now : String) (job : JobRecord) (jobs : Jobs) :
      createJob req.toJob id now s.jobs = (.ok job, jobs) →
      Advances s none (.dispatchCreate req id now) ⟨some (.dispatching req job), none, { s with jobs }⟩
  | dispatchSent (req : DispatchUpdateRequest) (job : JobRecord) (result : Except Status UpdateJob)
      (dispatcher : Dispatcher) :
      dispatchSend req job s.dispatcher = (result, dispatcher) →
      Advances s (some (.dispatching req job)) .dispatchSend
        ⟨none, some (.dispatched req result), { s with dispatcher }⟩
  | watched (agent : Nat) (deviceId : String) (receiver : Nat) (dispatcher : Dispatcher) :
      s.dispatcher.subscribe deviceId = (receiver, dispatcher) →
      Advances s none (.watch agent deviceId)
        ⟨some (.watching ⟨agent, deviceId, receiver⟩), none, { s with dispatcher }⟩
  | messageReceived (session : Session) (cmd : UpdateCommand) (dispatcher : Dispatcher) :
      s.dispatcher.recv session.receiver = (some cmd, dispatcher) →
      Advances s (some (.watching session)) .receive
        ⟨some (.received session cmd), some (.received session cmd), { s with dispatcher }⟩
  | updateApplied (session : Session) (cmd : UpdateCommand) (env : Env) (result : Except Agent.Error Unit) :
      (applyUpdate digest cmd.artifactUrl cmd.sha256 env).result = result →
      Advances s (some (.received session cmd)) (.apply env)
        ⟨some (.applied session cmd result), some (.applied session cmd env result), s⟩
  | ackSent (session : Session) (cmd : UpdateCommand) (result : Except Agent.Error Unit) :
      Advances s (some (.applied session cmd result)) .sendAck
        ⟨some (.acking session), some (.ackSent session (ackFor session.deviceId cmd result)), s⟩
  | ackReturned (session : Session) :
      Advances s (some (.acking session)) (.ackReturned true) ⟨some (.watching session), none, s⟩

theorem advance_spec (call : Option InFlight) (s : State) (move : Move) :
    Advances digest s call move (advance digest call s move) := by
  unfold advance
  split
  · split
    · rename_i refused
      rw [dispatchCreate_error refused]
      exact .dispatchRefused ..
    · rename_i created
      exact .dispatchCreated _ _ _ _ _ (dispatchCreate_ok created)
  · exact .dispatchSent _ _ _ _ rfl
  · exact .watched _ _ _ _ rfl
  · split
    · exact .idle ..
    · exact .messageReceived _ _ _ ‹_›
  · exact .updateApplied _ _ _ _ rfl
  · exact .ackSent ..
  · split
    · rename_i accepted
      rw [accepted]
      exact .ackReturned _
    · exact .ended ..
  · exact .ended ..
  · exact .idle ..

/-! ## What an action does to the job table -/

theorem ackUpdate_jobs (req : AckUpdateRequest) (now : String) (jobs : Jobs) :
    (ackUpdate req now jobs).2 = (updateStatus req.updateJobId req.status req.error now jobs).2 := by
  unfold ackUpdate
  split
  · rename_i ran; rw [ran]
  · rename_i ran; rw [ran]

/-- A job was added, for a device that had none active. -/
def JobAdded (jobs jobs' : Jobs) : Prop :=
  ∃ (job : NewJob) (id now : String), ¬ HasActive jobs job.deviceId ∧
    jobs.insert (job.toRow id now) = some jobs'

theorem Advances.jobs {s : State} {call : Option InFlight} {move : Move}
    {o : Outcome State InFlight Event} (moved : Advances digest s call move o) :
    o.state.jobs = s.jobs ∨ JobAdded s.jobs o.state.jobs := by
  cases moved with
  | dispatchCreated req id now job jobs created =>
      obtain ⟨free, -, inserted⟩ := createJob_ok created
      exact Or.inr ⟨req.toJob, id, now, free, inserted⟩
  | idle | ended | dispatchRefused | dispatchSent | watched | messageReceived | updateApplied
  | ackSent | ackReturned => exact Or.inl rfl

/-- An ack settles a job, a dispatch adds one to a device that has none active,
and nothing else touches the table. -/
theorem step_jobs (w : World State InFlight Event) (a : Action ServerOp Move) :
    (∃ req now, a = .direct (.ackUpdate req now) ∧ ((fleet digest).step w a).state.jobs =
      (updateStatus req.updateJobId req.status req.error now w.state.jobs).2) ∨
    ((∀ req now, a ≠ .direct (.ackUpdate req now)) ∧
      (((fleet digest).step w a).state.jobs = w.state.jobs ∨
        JobAdded w.state.jobs ((fleet digest).step w a).state.jobs)) := by
  cases a with
  | direct op =>
      cases op with
      | ackUpdate req now => exact Or.inl ⟨req, now, rfl, ackUpdate_jobs req now w.state.jobs⟩
      | checkUpdate | listUpdateJobs | unsubscribe | restart =>
          exact Or.inr ⟨fun _ _ same => (nomatch same), Or.inl rfl⟩
  | call id move =>
      exact Or.inr ⟨fun _ _ same => (nomatch same),
        (advance_spec digest (w.calls id) w.state move).jobs⟩
  | restart => exact Or.inr ⟨fun _ _ same => (nomatch same), Or.inl rfl⟩

/-- The two moves of `dispatch_update` with nothing in between are `dispatchUpdate`. -/
theorem run_dispatchUpdate (w : World State InFlight Event) {call : Nat} (free : w.calls call = none)
    (req : DispatchUpdateRequest) (id now : String) :
    run (fleet digest).step w [.call call (.dispatchCreate req id now), .call call .dispatchSend] =
      ⟨⟨(dispatchUpdate req id now w.state.jobs w.state.dispatcher).2.1,
          (dispatchUpdate req id now w.state.jobs w.state.dispatcher).2.2⟩, w.calls,
        w.log ++ [.dispatched req (dispatchUpdate req id now w.state.jobs w.state.dispatcher).1]⟩ := by
  have kept : Function.update w.calls call none = w.calls := by rw [← free, Function.update_eq_self]
  cases ran : dispatchCreate req id now w.state.jobs with
  | mk result jobs' =>
    cases result <;>
      simp [Machine.step, fleet, advance, dispatchUpdate, free, ran, kept, Function.update_idem]

end RobotFleet.Ota
