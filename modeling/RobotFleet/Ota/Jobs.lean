/-
# Ota.Jobs -- the job table over whole runs

Here acks are arbitrary: any `ack_update` request may reach the service at any
point, from anyone, any number of times.

* `one_active_job`: a device has at most one active job, `create_job` refuses
  exactly while it has one, and `check_update` reports exactly that one.
* `settled_by_acks`: a job changes only by an ack that names it, which settles it
  as completed or failed whatever it was before and whoever sent it; so a settled
  job stays settled, though not with the outcome it had.  `foreign_ack_settles`
  is a run where another device decides, and then the outcome flips.
-/
import RobotFleet.Ota.Fleet

namespace RobotFleet.Ota

open RobotFleet.Theory
open RobotFleet.Theory.Run
open RobotFleet.Theory.Calls (World Action)

set_option autoImplicit false

variable {digest : List UInt8 → List UInt8}

/-! ## One active job for each device -/

/-- No device has two active jobs. -/
def OneActive (jobs : Jobs) : Prop :=
  ∀ row ∈ jobs.rows, ∀ row' ∈ jobs.rows, ∀ deviceId, row.activeFor deviceId = true →
    row'.activeFor deviceId = true → row = row'

theorem not_activeFor_settle (row : JobRow) (req : AckUpdateRequest) (now deviceId : String) :
    (row.settle req.status req.error now).activeFor deviceId = false := by
  have settled : req.status.asStr = "completed" ∨ req.status.asStr = "failed" := by
    unfold AckUpdateRequest.status
    split
    · exact Or.inl rfl
    · exact Or.inr rfl
  unfold JobRow.activeFor JobRow.settle
  rcases settled with same | same
  · simp [same]
  · simp [same]

/-- A job that is active after an ack was active before, and is untouched. -/
theorem active_of_acked {req : AckUpdateRequest} {now deviceId : String} {jobs : Jobs} {row : JobRow}
    (stored : row ∈ (updateStatus req.updateJobId req.status req.error now jobs).2.rows)
    (active : row.activeFor deviceId = true) : row ∈ jobs.rows := by
  rw [updateStatus_rows] at stored
  obtain ⟨old, member, rfl⟩ := List.mem_map.1 stored
  by_cases here : old.id = req.updateJobId
  · rw [if_pos here, not_activeFor_settle] at active
    cases active
  · rw [if_neg here]
    exact member

theorem activeFor_deviceId {row : JobRow} {deviceId : String} (active : row.activeFor deviceId = true) :
    row.deviceId = deviceId := by
  unfold JobRow.activeFor at active
  rw [Bool.and_eq_true, decide_eq_true_iff] at active
  exact active.1

/-- A new job is the only active one of its device. -/
theorem OneActive.added {jobs jobs' : Jobs} (one : OneActive jobs) (added : JobAdded jobs jobs') :
    OneActive jobs' := by
  obtain ⟨job, id, now, free, inserted⟩ := added
  have rows := Table.insert_rows inserted
  have alone : ∀ row ∈ jobs.rows, ∀ deviceId, row.activeFor deviceId = true →
      (job.toRow id now).activeFor deviceId = true → False := by
    intro row stored deviceId active new
    have device : job.deviceId = deviceId := activeFor_deviceId new
    exact free ⟨row, stored, device ▸ active⟩
  intro row stored row' stored' deviceId active active'
  rw [rows, List.mem_append, List.mem_singleton] at stored stored'
  rcases stored with old | rfl
  · rcases stored' with old' | rfl
    · exact one row old row' old' deviceId active active'
    · exact (alone row old deviceId active active').elim
  · rcases stored' with old' | rfl
    · exact (alone row' old' deviceId active' active).elim
    · rfl

theorem oneActive_step (w : World State InFlight Event) (a : Action ServerOp Move)
    (one : OneActive w.state.jobs) : OneActive ((fleet digest).step w a).state.jobs := by
  rcases step_jobs digest w a with ⟨req, now, -, acked⟩ | ⟨-, same | added⟩
  · rw [acked]
    intro row stored row' stored' deviceId active active'
    exact one row (active_of_acked stored active) row' (active_of_acked stored' active') deviceId
      active active'
  · rwa [same]
  · exact one.added added

/-- The oldest active job is the active job. -/
theorem getPendingForDevice_of_active {jobs : Jobs} (one : OneActive jobs) (scan : Scan JobRow)
    {deviceId : String} {row : JobRow} (stored : row ∈ jobs.rows)
    (active : row.activeFor deviceId = true) :
    getPendingForDevice scan deviceId jobs = some (rowToRecord row) := by
  unfold getPendingForDevice
  cases first : (scan.orderBy (fun r r' => r.createdAt ≤ r'.createdAt)
      (jobs.rows.filter (JobRow.activeFor deviceId))).head? with
  | none =>
      have nothing := List.head?_eq_none_iff.1 first
      have selected := (scan.mem_orderBy (fun r r' => r.createdAt ≤ r'.createdAt)).2
        (List.mem_filter.2 ⟨stored, active⟩)
      rw [nothing] at selected
      cases selected
  | some row' =>
      have selected := (scan.mem_orderBy _).1 (List.mem_of_head? first)
      obtain ⟨stored', active'⟩ := List.mem_filter.1 selected
      rw [one row stored row' stored' deviceId active active']
      exact congrArg (Option.map rowToRecord) first

theorem getPendingForDevice_of_free {jobs : Jobs} (scan : Scan JobRow) {deviceId : String}
    (free : ¬ HasActive jobs deviceId) : getPendingForDevice scan deviceId jobs = none := by
  unfold getPendingForDevice
  have nothing : scan.orderBy (fun r r' => r.createdAt ≤ r'.createdAt)
      (jobs.rows.filter (JobRow.activeFor deviceId)) = [] := by
    rw [List.eq_nil_iff_forall_not_mem]
    intro row selected
    obtain ⟨stored, active⟩ := List.mem_filter.1 ((scan.mem_orderBy _).1 selected)
    exact free ⟨row, stored, active⟩
  simp only [nothing, List.head?_nil, Option.map_none]

/-- **One active update for each device, and the views agree on it.** -/
theorem one_active_job (actions : List (Action ServerOp Move)) :
    OneActive (runFleet digest actions).state.jobs ∧
    (∀ job id now, (createJob job id now (runFleet digest actions).state.jobs).1 = .error .alreadyPending ↔
      HasActive (runFleet digest actions).state.jobs job.deviceId) ∧
    (∀ job id now, HasActive (runFleet digest actions).state.jobs job.deviceId →
      (createJob job id now (runFleet digest actions).state.jobs).2 =
        (runFleet digest actions).state.jobs) ∧
    (∀ scan deviceId, (checkUpdate scan deviceId (runFleet digest actions).state.jobs).updateAvailable =
      true ↔ HasActive (runFleet digest actions).state.jobs deviceId) ∧
    ∀ scan deviceId, ∀ row ∈ (runFleet digest actions).state.jobs.rows, row.activeFor deviceId = true →
      checkUpdate scan deviceId (runFleet digest actions).state.jobs =
        ⟨true, row.targetVersion, row.artifactUrl, row.sha256, row.sizeBytes.toUInt64, row.id⟩ := by
  have one : OneActive (runFleet digest actions).state.jobs :=
    run_invariant_free (fleet digest).step (I := fun w => OneActive w.state.jobs) oneActive_step
      (fun _ stored => by cases stored) actions
  have reports : ∀ scan deviceId, ∀ row ∈ (runFleet digest actions).state.jobs.rows,
      row.activeFor deviceId = true →
      checkUpdate scan deviceId (runFleet digest actions).state.jobs =
        ⟨true, row.targetVersion, row.artifactUrl, row.sha256, row.sizeBytes.toUInt64, row.id⟩ := by
    intro scan deviceId row stored active
    unfold checkUpdate
    rw [getPendingForDevice_of_active one scan stored active]
    rfl
  refine ⟨one, fun job id now => createJob_alreadyPending_iff, fun job id now active => ?_,
    fun scan deviceId => ⟨fun available => ?_, ?_⟩, reports⟩
  · rw [createJob_of_active active]
  · by_contra free
    unfold checkUpdate at available
    rw [getPendingForDevice_of_free scan free] at available
    cases available
  · rintro ⟨row, stored, active⟩
    rw [reports scan deviceId row stored active]

/-- The status a record shows is the one that is stored: text that `from_str`
would not recognise is never written. -/
theorem record_status (actions : List (Action ServerOp Move)) :
    ∀ row ∈ (runFleet digest actions).state.jobs.rows, (rowToRecord row).status.asStr = row.status := by
  have known : ∀ row ∈ (runFleet digest actions).state.jobs.rows,
      ∃ status : JobStatus, row.status = status.asStr := by
    refine run_invariant_free (fleet digest).step
      (I := fun w => ∀ row ∈ w.state.jobs.rows, ∃ status : JobStatus, row.status = status.asStr) ?_
      (fun _ stored => by cases stored) actions
    intro w a known row stored
    rcases step_jobs digest w a with ⟨req, now, -, acked⟩ | ⟨-, same | added⟩
    · rw [acked, updateStatus_rows] at stored
      obtain ⟨old, member, rfl⟩ := List.mem_map.1 stored
      split
      · exact ⟨req.status, rfl⟩
      · exact known old member
    · rw [same] at stored
      exact known row stored
    · obtain ⟨job, id, now, -, inserted⟩ := added
      rw [Table.insert_rows inserted, List.mem_append, List.mem_singleton] at stored
      rcases stored with old | rfl
      · exact known row old
      · exact ⟨.pending, rfl⟩
  intro row stored
  obtain ⟨status, same⟩ := known row stored
  show ((JobStatus.fromStr row.status).getD .pending).asStr = row.status
  rw [same, JobStatus.fromStr_asStr]
  rfl

/-! ## Acks settle jobs -/

/-- The job is completed or failed. -/
def JobRow.Settled (row : JobRow) : Prop := row.status = "completed" ∨ row.status = "failed"

theorem settled_settle (row : JobRow) (req : AckUpdateRequest) (now : String) :
    (row.settle req.status req.error now).Settled := by
  unfold JobRow.Settled JobRow.settle AckUpdateRequest.status
  cases req.success
  · exact Or.inr rfl
  · exact Or.inl rfl

/-- What one action does to one job. -/
theorem step_row (w : World State InFlight Event) (a : Action ServerOp Move) {row : JobRow}
    (stored : row ∈ w.state.jobs.rows) :
    (∃ req now, a = .direct (.ackUpdate req now) ∧ req.updateJobId = row.id ∧
      row.settle req.status req.error now ∈ ((fleet digest).step w a).state.jobs.rows) ∨
    ((∀ req now, a = .direct (.ackUpdate req now) → req.updateJobId ≠ row.id) ∧
      row ∈ ((fleet digest).step w a).state.jobs.rows) := by
  rcases step_jobs digest w a with ⟨req, now, taken, acked⟩ | ⟨others, same | added⟩
  · have image : (if row.id = req.updateJobId then row.settle req.status req.error now else row) ∈
        ((fleet digest).step w a).state.jobs.rows := by
      rw [acked, updateStatus_rows]
      exact List.mem_map_of_mem stored
    by_cases here : row.id = req.updateJobId
    · rw [if_pos here] at image
      exact Or.inl ⟨req, now, taken, here.symm, image⟩
    · rw [if_neg here] at image
      refine Or.inr ⟨fun req' now' taken' => ?_, image⟩
      rw [taken] at taken'
      cases taken'
      exact fun same => here same.symm
  · refine Or.inr ⟨fun req now taken => absurd taken (others req now), ?_⟩
    rwa [same]
  · refine Or.inr ⟨fun req now taken => absurd taken (others req now), ?_⟩
    obtain ⟨job, id, now, -, inserted⟩ := added
    rw [Table.insert_rows inserted]
    exact List.mem_append_left _ stored

/-- An ack that names no job leaves the table as it was. -/
theorem ack_unknown (w : World State InFlight Event) (req : AckUpdateRequest) (now : String)
    (unknown : ∀ row ∈ w.state.jobs.rows, row.id ≠ req.updateJobId) :
    ((fleet digest).step w (.direct (.ackUpdate req now))).state.jobs = w.state.jobs := by
  have absent : w.state.jobs.find? () req.updateJobId = none :=
    (w.state.jobs.find?_eq_none_iff () req.updateJobId).2 unknown
  have none_ : w.state.jobs.affected (fun r => decide (r.id = req.updateJobId)) = 0 :=
    (w.state.jobs.affected_eq_zero_iff () req.updateJobId).2 absent
  show (ackUpdate req now w.state.jobs).2 = w.state.jobs
  rw [ackUpdate_jobs]
  unfold updateStatus
  rw [if_pos none_]

/-- A settled job stays settled, to the end of every run. -/
theorem settled_stays (w : World State InFlight Event) (more : List (Action ServerOp Move)) (id : String)
    (settled : ∃ row ∈ w.state.jobs.rows, row.id = id ∧ row.Settled) :
    ∃ row ∈ (run (fleet digest).step w more).state.jobs.rows, row.id = id ∧ row.Settled := by
  refine run_invariant_free (fleet digest).step
    (I := fun w => ∃ row ∈ w.state.jobs.rows, row.id = id ∧ row.Settled) ?_ settled more
  rintro v a ⟨row, stored, named, ended⟩
  rcases @step_row digest v a row stored with ⟨req, now, -, -, changed⟩ | ⟨-, kept⟩
  · exact ⟨_, changed, named, settled_settle row req now⟩
  · exact ⟨row, kept, named, ended⟩

/-- **Only acks settle a job, and any ack that names it does.**  In every reachable
state, an action changes a job only if it is an ack for the job's id, and then
the status, the error and `updated_at` are what the ack says; an ack for an
unknown id changes nothing; and from a settled job on, the job stays settled. -/
theorem settled_by_acks (actions : List (Action ServerOp Move)) :
    (∀ a, ∀ row ∈ (runFleet digest actions).state.jobs.rows,
      (∃ req now, a = .direct (.ackUpdate req now) ∧ req.updateJobId = row.id ∧
        row.settle req.status req.error now ∈ (runFleet digest (actions ++ [a])).state.jobs.rows) ∨
      ((∀ req now, a = .direct (.ackUpdate req now) → req.updateJobId ≠ row.id) ∧
        row ∈ (runFleet digest (actions ++ [a])).state.jobs.rows)) ∧
    (∀ req now, (∀ row ∈ (runFleet digest actions).state.jobs.rows, row.id ≠ req.updateJobId) →
      (runFleet digest (actions ++ [.direct (.ackUpdate req now)])).state.jobs =
        (runFleet digest actions).state.jobs) ∧
    ∀ more, ∀ row ∈ (runFleet digest actions).state.jobs.rows, row.Settled →
      ∃ row' ∈ (runFleet digest (actions ++ more)).state.jobs.rows, row'.id = row.id ∧ row'.Settled := by
  refine ⟨fun a row stored => ?_, fun req now unknown => ?_, fun more row stored ended => ?_⟩
  · rw [runFleet_concat]
    exact step_row _ a stored
  · rw [runFleet_concat]
    exact ack_unknown _ req now unknown
  · have later : runFleet digest (actions ++ more) =
        run (fleet digest).step (runFleet digest actions) more := run_append _ _ actions more
    rw [later]
    exact settled_stays _ more row.id ⟨row, stored, rfl, ended⟩

/-- A job for `dev-1`. -/
def Toy.dispatched : List (Action ServerOp Move) :=
  [.call 0 (.dispatchCreate ⟨"dev-1", "v2.0.0", none⟩ "job-1" "2025-01-01 00:00:00")]

/-- An ack from `dev-2` that the job of `dev-1` succeeded. -/
def Toy.foreignAck : Action ServerOp Move :=
  .direct (.ackUpdate ⟨"dev-2", "job-1", "v2.0.0", true, ""⟩ "2025-01-01 00:01:00")

/-- A later ack from `dev-1` that it failed. -/
def Toy.lateAck : Action ServerOp Move :=
  .direct (.ackUpdate ⟨"dev-1", "job-1", "", false, "install script failed"⟩ "2025-01-01 00:02:00")

/-- The status of `dev-1`'s job changes by the ack of `dev-2`; and the job, already
completed, changes again, to failed. -/
theorem foreign_ack_settles :
    ¬ (∀ row ∈ (runFleet (fun bytes => bytes) Toy.dispatched).state.jobs.rows,
        ∀ row' ∈ (runFleet (fun bytes => bytes) (Toy.dispatched ++ [Toy.foreignAck])).state.jobs.rows,
          row'.id = row.id → row'.status ≠ row.status → row.deviceId = "dev-2") ∧
    ¬ (∀ row ∈ (runFleet (fun bytes => bytes) (Toy.dispatched ++ [Toy.foreignAck])).state.jobs.rows,
        ∀ row' ∈ (runFleet (fun bytes => bytes)
            (Toy.dispatched ++ [Toy.foreignAck] ++ [Toy.lateAck])).state.jobs.rows,
          row'.id = row.id → row.status = "completed" ∨ row.status = "failed" →
          row'.status = row.status ∧ row'.errorMessage = row.errorMessage) := by
  constructor
  · decide
  · decide

end RobotFleet.Ota
