/-
# Ota.Failure -- what a refused `dispatch_update` leaves behind

`dispatch_update` commits the job and then looks for a subscriber.  A call that
is refused by `create_job` has written nothing; a call that is refused by the
dispatcher has already created an active job, and nothing takes it back: every
later dispatch to the device answers `ALREADY_EXISTS`.

`dispatch_all_or_nothing_iff` says exactly when a call is all-or-nothing, in any
reachable state and whatever other calls do between its two moves.  It rests on
`Wired` of `Ota.Dispatch`: a receiver that lives has a sender in the map, so that
`NoActiveSubscribers` means what its name says.
-/
import RobotFleet.Ota.Dispatch

namespace RobotFleet.Ota

open RobotFleet.Theory
open RobotFleet.Theory.Run
open RobotFleet.Theory.Calls (World Action Outcome Machine Status)

set_option autoImplicit false

/-! ## The dispatcher of the fleet -/

section Wiring

variable {d : Dispatcher}

theorem Wired.dispatchSend (wired : Wired d) (req : DispatchUpdateRequest) (job : JobRecord) :
    Wired (dispatchSend req job d).2 := by
  unfold Ota.dispatchSend Dispatcher.dispatch
  cases found : d.senders.find? () req.deviceId with
  | none => exact wired
  | some sender =>
      have opened : d.Opened req.deviceId := by simp [Dispatcher.Opened, found]
      have sent := wired.send opened (commandFor req job)
      by_cases alone : d.receiverCount req.deviceId = 0
      · simpa [alone] using wired
      · simpa [alone] using sent

/-- The dispatcher refuses exactly the devices that nobody listens for. -/
theorem dispatchSend_refused_iff (wired : Wired d) (req : DispatchUpdateRequest) (job : JobRecord) :
    (∃ status, (dispatchSend req job d).1 = .error status) ↔ d.receiverCount req.deviceId = 0 := by
  unfold Ota.dispatchSend Dispatcher.dispatch
  cases found : d.senders.find? () req.deviceId with
  | none => exact ⟨fun _ => wired.receiverCount_eq_zero found, fun _ => ⟨_, rfl⟩⟩
  | some sender =>
      by_cases alone : d.receiverCount req.deviceId = 0
      · simp [alone]
      · simp [alone]

end Wiring

variable (digest : List UInt8 → List UInt8)

theorem Advances.wired {s : State} {call : Option InFlight} {move : Move}
    {o : Outcome State InFlight Event} (moved : Advances digest s call move o)
    (wired : Wired s.dispatcher) : Wired o.state.dispatcher := by
  cases moved with
  | dispatchSent req job result dispatcher sent =>
      have kept := wired.dispatchSend req job
      rwa [sent] at kept
  | watched agent deviceId receiver dispatcher subscribed =>
      have kept := wired.subscribe deviceId
      rwa [subscribed] at kept
  | messageReceived session cmd dispatcher got =>
      have kept := wired.recv session.receiver
      rwa [got] at kept
  | idle | ended | dispatchRefused | dispatchCreated | updateApplied | ackSent | ackReturned =>
      exact wired

theorem wired_step (w : World State InFlight Event) (a : Action ServerOp Move)
    (wired : Wired w.state.dispatcher) : Wired ((fleet digest).step w a).state.dispatcher := by
  cases a with
  | direct op =>
      cases op with
      | unsubscribe receiver => exact wired.unsubscribe receiver
      | restart => exact wired_restart _
      | ackUpdate | checkUpdate | listUpdateJobs => exact wired
  | call id move => exact (advance_spec digest (w.calls id) w.state move).wired digest wired
  | restart => exact wired

theorem wired_run (actions : List (Action ServerOp Move)) :
    Wired (runFleet digest actions).state.dispatcher :=
  run_invariant_free (fleet digest).step (I := fun w => Wired w.state.dispatcher) (wired_step digest)
    (wired_restart .empty) actions

/-! ## One call among others -/

/-- Not a move of this call, and not the end of all calls. -/
def Elsewhere (call : Nat) : Action ServerOp Move → Prop
  | .direct _ => True
  | .call other _ => other ≠ call
  | .restart => False

theorem calls_elsewhere {call : Nat} {between : List (Action ServerOp Move)}
    (apart : ∀ a ∈ between, Elsewhere call a) (w : World State InFlight Event) :
    (run (fleet digest).step w between).calls call = w.calls call := by
  refine run_invariant_of_forall (fleet digest).step (A := Elsewhere call)
    (I := fun w' => w'.calls call = w.calls call) ?_ rfl apart
  intro w' a same other
  cases a with
  | direct op => exact same
  | call id move =>
      have different : call ≠ id := fun here => other here.symm
      simp only [Machine.step, Function.update_of_ne different]
      exact same
  | restart => exact other.elim

section OneDispatch

variable (w : World State InFlight Event) (call : Nat) (req : DispatchUpdateRequest) (id now : String)
  (between : List (Action ServerOp Move))

/-- A `dispatch_update` after its `create_job`, ... -/
def afterCreate : World State InFlight Event :=
  (fleet digest).step w (.call call (.dispatchCreate req id now))

/-- ... after what others did until it reached the dispatcher, ... -/
def beforeSend : World State InFlight Event :=
  run (fleet digest).step (afterCreate digest w call req id now) between

/-- ... and after the dispatcher. -/
def afterSend : World State InFlight Event :=
  (fleet digest).step (beforeSend digest w call req id now between) (.call call .dispatchSend)

/-- The call answered with an error, at its first or at its second move. -/
def DispatchRefused : Prop :=
  ∃ status, (afterCreate digest w call req id now).log = w.log ++ [.dispatched req (.error status)] ∨
    (afterSend digest w call req id now between).log =
      (beforeSend digest w call req id now between).log ++ [.dispatched req (.error status)]

/-- If the call answers with an error, neither of its moves changed the job table,
and a later dispatch to the device finds an active job only if there was one. -/
def DispatchAtomic : Prop :=
  DispatchRefused digest w call req id now between →
    (afterCreate digest w call req id now).state.jobs = w.state.jobs ∧
    (afterSend digest w call req id now between).state.jobs =
      (beforeSend digest w call req id now between).state.jobs ∧
    ∀ (retry : DispatchUpdateRequest) (id' now' : String), retry.deviceId = req.deviceId →
      (createJob retry.toJob id' now' (afterCreate digest w call req id now).state.jobs).1 =
        .error .alreadyPending → HasActive w.state.jobs req.deviceId

variable {w call req id now between}

/-- The second move writes no job. -/
theorem afterSend_jobs : (afterSend digest w call req id now between).state.jobs =
    (beforeSend digest w call req id now between).state.jobs := by
  unfold afterSend
  generalize beforeSend digest w call req id now between = w'
  have moved := advance_spec digest (w'.calls call) w'.state .dispatchSend
  show (advance digest (w'.calls call) w'.state .dispatchSend).state.jobs = w'.state.jobs
  generalize w'.calls call = p at moved ⊢
  generalize advance digest p w'.state .dispatchSend = o at moved ⊢
  cases moved <;> rfl

/-- A call that `create_job` refuses is atomic. -/
theorem dispatchAtomic_of_same (between : List (Action ServerOp Move))
    (same : (afterCreate digest w call req id now).state.jobs = w.state.jobs) :
    DispatchAtomic digest w call req id now between := by
  intro _
  refine ⟨same, afterSend_jobs digest, fun retry id' now' device refused => ?_⟩
  rw [same, createJob_alreadyPending_iff] at refused
  exact device ▸ refused

theorem afterCreate_refused (free : w.calls call = none) {e : Error}
    (refused : createJob req.toJob id now w.state.jobs = (.error e, w.state.jobs)) :
    (afterCreate digest w call req id now).state.jobs = w.state.jobs := by
  simp [afterCreate, Machine.step, fleet, advance, free, dispatchCreate, refused]

/-- What a call that created its job goes on to do. -/
theorem afterCreate_created (free : w.calls call = none) {job : JobRecord} {jobs' : Jobs}
    (created : createJob req.toJob id now w.state.jobs = (.ok job, jobs')) :
    (afterCreate digest w call req id now).state.jobs = jobs' ∧
    (afterCreate digest w call req id now).calls call = some (.dispatching req job) ∧
    (afterCreate digest w call req id now).log = w.log := by
  simp [afterCreate, Machine.step, fleet, advance, free, dispatchCreate, created]

theorem afterSend_log {job : JobRecord}
    (flying : (beforeSend digest w call req id now between).calls call = some (.dispatching req job)) :
    (afterSend digest w call req id now between).log =
      (beforeSend digest w call req id now between).log ++ [.dispatched req
        (dispatchSend req job (beforeSend digest w call req id now between).state.dispatcher).1] := by
  unfold afterSend
  generalize beforeSend digest w call req id now between = w' at flying ⊢
  simp [Machine.step, fleet, advance, flying]

/-- A call that created its job is refused exactly when the dispatcher finds nobody. -/
theorem dispatchRefused_iff (free : w.calls call = none) (apart : ∀ a ∈ between, Elsewhere call a)
    {job : JobRecord} {jobs' : Jobs}
    (created : createJob req.toJob id now w.state.jobs = (.ok job, jobs'))
    (wired : Wired (beforeSend digest w call req id now between).state.dispatcher) :
    DispatchRefused digest w call req id now between ↔
      (beforeSend digest w call req id now between).state.dispatcher.receiverCount req.deviceId = 0 := by
  obtain ⟨-, dispatching, silent⟩ := afterCreate_created digest free created
  have flying : (beforeSend digest w call req id now between).calls call =
      some (.dispatching req job) := by
    unfold beforeSend
    rw [calls_elsewhere digest apart, dispatching]
  rw [← dispatchSend_refused_iff wired req job]
  unfold DispatchRefused
  constructor
  · rintro ⟨status, first | second⟩
    · rw [silent] at first
      simp at first
    · rw [afterSend_log digest flying] at second
      simp only [List.append_cancel_left_eq, List.cons.injEq, Event.dispatched.injEq, true_and,
        and_true] at second
      exact ⟨status, second⟩
  · rintro ⟨status, refused⟩
    refine ⟨status, Or.inr ?_⟩
    rw [afterSend_log digest flying, refused]

end OneDispatch

/-- The `INSERT` of `create_job` is refused exactly for an id that is taken. -/
theorem insert_job_eq_none_iff (jobs : Jobs) (job : NewJob) (id now : String) :
    jobs.insert (job.toRow id now) = none ↔ ∃ row ∈ jobs.rows, row.id = id := by
  rw [Table.insert_eq_none_iff]
  constructor
  · rintro ⟨_, row, stored, same⟩
    exact ⟨row, stored, same⟩
  · rintro ⟨row, stored, same⟩
    exact ⟨(), row, stored, same⟩

/-- **A dispatch is all-or-nothing exactly when** `create_job` refuses it (the
device has an active job, or the generated id is taken) or a subscriber of the
device is alive when the command is sent. -/
theorem dispatch_all_or_nothing_iff (actions between : List (Action ServerOp Move)) (call : Nat)
    (req : DispatchUpdateRequest) (id now : String)
    (free : (runFleet digest actions).calls call = none) (apart : ∀ a ∈ between, Elsewhere call a) :
    DispatchAtomic digest (runFleet digest actions) call req id now between ↔
      HasActive (runFleet digest actions).state.jobs req.deviceId ∨
      (∃ row ∈ (runFleet digest actions).state.jobs.rows, row.id = id) ∨
      0 < (beforeSend digest (runFleet digest actions) call req id now between).state.dispatcher.receiverCount
        req.deviceId := by
  have wired : Wired (beforeSend digest (runFleet digest actions) call req id now
      between).state.dispatcher := by
    have reached : beforeSend digest (runFleet digest actions) call req id now between =
        runFleet digest (actions ++ [.call call (.dispatchCreate req id now)] ++ between) := by
      unfold beforeSend afterCreate
      rw [← runFleet_concat]
      exact (run_append _ _ _ between).symm
    rw [reached]
    exact wired_run digest _
  generalize runFleet digest actions = w at free wired ⊢
  rcases createJob_cases req.toJob id now w.state.jobs with
    ⟨active, ran⟩ | ⟨inactive, e, ran⟩ | ⟨inactive, jobs', inserted, ran⟩
  · have atomic := dispatchAtomic_of_same digest between (afterCreate_refused digest free ran)
    exact ⟨fun _ => Or.inl active, fun _ => atomic⟩
  · have atomic := dispatchAtomic_of_same digest between (afterCreate_refused digest free ran)
    refine ⟨fun _ => Or.inr (Or.inl ?_), fun _ => atomic⟩
    -- an insert that goes through would have answered with a record
    cases inserted : w.state.jobs.insert (req.toJob.toRow id now) with
    | none => exact (insert_job_eq_none_iff _ _ id now).1 inserted
    | some jobs' =>
        rw [createJob_of_inserted inactive inserted] at ran
        cases ran
  · have refused := dispatchRefused_iff digest free apart ran wired
    obtain ⟨left, -, -⟩ := afterCreate_created digest free ran
    constructor
    · intro atomic
      refine Or.inr (Or.inr (Nat.pos_of_ne_zero fun nobody => ?_))
      obtain ⟨same, -⟩ := atomic (refused.2 nobody)
      have rows := congrArg (fun jobs : Jobs => jobs.rows.length) (left.symm.trans same)
      simp [Table.insert_rows inserted] at rows
    · rintro (active | taken | somebody) failed
      · exact absurd active inactive
      · rw [(insert_job_eq_none_iff _ _ id now).2 taken] at inserted
        cases inserted
      · rw [refused.1 failed] at somebody
        cases somebody

/-- `dev-1` is watched while the command is sent. -/
theorem dispatch_all_or_nothing_iff_watched :
    DispatchAtomic (fun bytes => bytes) (runFleet (fun bytes => bytes) [.call 0 (.watch 0 "dev-1")]) 1
      ⟨"dev-1", "v2.0.0", none⟩ "job-1" "2025-01-01 00:00:00"
      [.direct (.ackUpdate ⟨"dev-2", "job-0", "", true, ""⟩ "2025-01-01 00:00:00")] :=
  (dispatch_all_or_nothing_iff (fun bytes => bytes) [.call 0 (.watch 0 "dev-1")]
    [.direct (.ackUpdate ⟨"dev-2", "job-0", "", true, ""⟩ "2025-01-01 00:00:00")] 1
    ⟨"dev-1", "v2.0.0", none⟩ "job-1" "2025-01-01 00:00:00" rfl (by simp [Elsewhere])).2
    (Or.inr (Or.inr (by decide)))

/-- Nobody listens for `dev-1`: the dispatch is refused as unavailable, the job
stays, and the dispatch that follows once the robot is back is refused too. -/
theorem offline_dispatch_blocks_retry :
    ¬ DispatchAtomic (fun bytes => bytes) (runFleet (fun bytes => bytes) []) 0 ⟨"dev-1", "v2.0.0", none⟩
      "job-1" "2025-01-01 00:00:00" [] ∧
    (dispatchUpdate ⟨"dev-1", "v2.0.0", none⟩ "job-1" "2025-01-01 00:00:00" .empty .empty).1 =
      .error ⟨.unavailable, "device dev-1 is not connected"⟩ ∧
    (dispatchUpdate ⟨"dev-1", "v2.0.0", none⟩ "job-2" "2025-01-01 00:05:00"
      (dispatchUpdate ⟨"dev-1", "v2.0.0", none⟩ "job-1" "2025-01-01 00:00:00" .empty .empty).2.1
      (Dispatcher.empty.subscribe "dev-1").2).1 =
      .error ⟨.alreadyExists, "device already has an active job"⟩ := by
  refine ⟨?_, by decide, by decide⟩
  intro atomic
  obtain ⟨same, -⟩ := atomic ⟨_, Or.inr rfl⟩
  have rows := congrArg (fun jobs : Jobs => jobs.rows.length) same
  revert rows
  decide

end RobotFleet.Ota
