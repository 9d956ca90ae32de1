/-
# Ota.Store -- the `update_jobs` table and its methods

`ota-service/src/store/mod.rs`.  A status is text in the table, compared as text
by the queries and read back through `from_str`; a size is a `u64` that passes
through a signed column.  What `Uuid::new_v4` and `datetime('now')` return is an
argument, and so is the order in which a query visits rows that tie (`Scan`).

The lemmas say what each method does: `createJob_alreadyPending_iff` and
`createJob_error` for the guard, `createJob_ok` for the insert,
`updateStatus_spec` for the update.
-/
import RobotFleet.Theory.Table
import RobotFleet.Theory.Transaction

namespace RobotFleet.Ota

open RobotFleet.Theory
open RobotFleet.Theory.Transaction (SqlError)

set_option autoImplicit false

/-- `ota-service/src/error.rs`, the errors the store and the dispatcher return. -/
inductive Error where
  | notFound (id : String)
  | alreadyPending
  | noActiveSubscribers (deviceId : String)
  | db (error : SqlError)
  deriving DecidableEq, Repr

inductive JobStatus where
  | pending
  | inProgress
  | completed
  | failed
  deriving DecidableEq, Repr

namespace JobStatus

def asStr : JobStatus → String
  | pending => "pending"
  | inProgress => "in_progress"
  | completed => "completed"
  | failed => "failed"

def fromStr : String → Option JobStatus
  | "pending" => some pending
  | "in_progress" => some inProgress
  | "completed" => some completed
  | "failed" => some failed
  | _ => none

theorem fromStr_asStr (status : JobStatus) : fromStr status.asStr = some status := by
  cases status <;> rfl

end JobStatus

structure NewJob where
  deviceId : String
  targetVersion : String
  artifactUrl : String
  sha256 : String
  sizeBytes : UInt64
  deriving DecidableEq, Repr

/-- A row of `update_jobs`. -/
structure JobRow where
  id : String
  deviceId : String
  targetVersion : String
  artifactUrl : String
  sha256 : String
  sizeBytes : Int64
  status : String
  errorMessage : Option String
  createdAt : String
  updatedAt : String
  deriving DecidableEq

structure JobRecord where
  id : String
  deviceId : String
  targetVersion : String
  artifactUrl : String
  sha256 : String
  sizeBytes : UInt64
  status : JobStatus
  errorMessage : Option String
  createdAt : String
  deriving DecidableEq, Repr

def JobRow.key (_ : Unit) (r : JobRow) : String := r.id

abbrev Jobs := Table JobRow.key

/-! ## The methods -/

/-- `row_to_record`; a status that does not parse reads as pending. -/
def rowToRecord (r : JobRow) : JobRecord where
  id := r.id
  deviceId := r.deviceId
  targetVersion := r.targetVersion
  artifactUrl := r.artifactUrl
  sha256 := r.sha256
  sizeBytes := r.sizeBytes.toUInt64
  status := (JobStatus.fromStr r.status).getD .pending
  errorMessage := r.errorMessage
  createdAt := r.createdAt

/-- `device_id = ? AND status IN ('pending','in_progress')`. -/
def JobRow.activeFor (deviceId : String) (r : JobRow) : Bool :=
  decide (r.deviceId = deviceId) && (r.status == "pending" || r.status == "in_progress")

/-- `get_job_with_conn`. -/
def getJobWithConn (id : String) (jobs : Jobs) : Except Error JobRecord :=
  match jobs.find? () id with
  | none => .error (.notFound id)
  | some row => .ok (rowToRecord row)

/-- The row that `create_job` inserts, with the defaults of the schema. -/
def NewJob.toRow (job : NewJob) (id now : String) : JobRow where
  id := id
  deviceId := job.deviceId
  targetVersion := job.targetVersion
  artifactUrl := job.artifactUrl
  sha256 := job.sha256
  sizeBytes := job.sizeBytes.toInt64
  status := "pending"
  errorMessage := none
  createdAt := now
  updatedAt := now

/-- `create_job`: count the active jobs of the device, then insert. -/
def createJob (job : NewJob) (id now : String) (jobs : Jobs) : Except Error JobRecord × Jobs :=
  let active := jobs.rows.countP (JobRow.activeFor job.deviceId)
  if active > 0 then (.error .alreadyPending, jobs)
  else
    match jobs.insert (job.toRow id now) with
    | none => (.error (.db (.constraintViolation "UNIQUE constraint failed: update_jobs.id")), jobs)
    | some jobs' => (getJobWithConn id jobs', jobs')

/-- `get_pending_for_device`: the oldest active job. -/
def getPendingForDevice (scan : Scan JobRow) (deviceId : String) (jobs : Jobs) : Option JobRecord :=
  let rows := scan.orderBy (fun r r' => r.createdAt ≤ r'.createdAt)
    (jobs.rows.filter (JobRow.activeFor deviceId))
  rows.head?.map rowToRecord

/-- `SET status = ?, error_message = ?, updated_at = datetime('now')`. -/
def JobRow.settle (status : JobStatus) (error : Option String) (now : String) (r : JobRow) : JobRow :=
  { r with status := status.asStr, errorMessage := error, updatedAt := now }

/-- `update_status`: whatever the status was. -/
def updateStatus (id : String) (status : JobStatus) (error : Option String) (now : String)
    (jobs : Jobs) : Except Error Unit × Jobs :=
  if jobs.affected (fun r => decide (r.id = id)) = 0 then (.error (.notFound id), jobs)
  else
    (.ok (), jobs.update (fun r => decide (r.id = id)) (JobRow.settle status error now) fun _ _ => rfl)

/-- `list_for_device`: one row more than asked for is fetched to see whether
there is a next page.  For every `limit` below `i64::MAX`, where `limit + 1` overflows,
and for 0 in builds without overflow checks only, as `limit as usize - 1` underflows
there.  The one caller, `list_update_jobs`, passes 1 to `i32::MAX`. -/
def listForDevice (scan : Scan JobRow) (deviceId : String) (limit : Int) (cursor : Option String)
    (jobs : Jobs) : List JobRecord × Option String :=
  let selected := jobs.rows.filter fun r =>
    decide (r.deviceId = deviceId) && cursor.all fun c => decide (r.createdAt < c)
  let records := (sqlLimit (limit + 1)
    (scan.orderBy (fun r r' => r'.createdAt ≤ r.createdAt) selected)).map rowToRecord
  let nextCursor :=
    if (records.length : Int) > limit ∧ 0 < limit then
      records[limit.toNat - 1]?.map (·.createdAt)
    else none
  (sqlLimit limit records, nextCursor)

/-! ## What they do -/

section Specs

variable {job : NewJob} {id now : String} {jobs jobs' : Jobs}

/-- The device has an active job. -/
def HasActive (jobs : Jobs) (deviceId : String) : Prop :=
  ∃ row ∈ jobs.rows, row.activeFor deviceId = true

theorem countP_activeFor_pos {deviceId : String} :
    jobs.rows.countP (JobRow.activeFor deviceId) > 0 ↔ HasActive jobs deviceId :=
  List.countP_pos_iff

theorem createJob_of_active (active : HasActive jobs job.deviceId) :
    createJob job id now jobs = (.error .alreadyPending, jobs) := by
  have positive := countP_activeFor_pos.2 active
  simp only [createJob, positive, if_true]

/-- An insert that goes through is read back as the record of its row. -/
theorem createJob_of_inserted (free : ¬ HasActive jobs job.deviceId)
    (inserted : jobs.insert (job.toRow id now) = some jobs') :
    createJob job id now jobs = (.ok (rowToRecord (job.toRow id now)), jobs') := by
  have none_ : ¬ jobs.rows.countP (JobRow.activeFor job.deviceId) > 0 :=
    fun positive => free (countP_activeFor_pos.1 positive)
  have read : jobs'.find? () id = some (job.toRow id now) := by
    rw [Table.find?_insert inserted]
    simp [JobRow.key, NewJob.toRow]
  simp only [createJob, none_, if_false, inserted, getJobWithConn, read]

theorem createJob_of_conflict (free : ¬ HasActive jobs job.deviceId)
    (refused : jobs.insert (job.toRow id now) = none) :
    createJob job id now jobs =
      (.error (.db (.constraintViolation "UNIQUE constraint failed: update_jobs.id")), jobs) := by
  have none_ : ¬ jobs.rows.countP (JobRow.activeFor job.deviceId) > 0 :=
    fun positive => free (countP_activeFor_pos.1 positive)
  simp only [createJob, none_, if_false, refused]

/-- The three ways `create_job` can go. -/
theorem createJob_cases (job : NewJob) (id now : String) (jobs : Jobs) :
    (HasActive jobs job.deviceId ∧ createJob job id now jobs = (.error .alreadyPending, jobs)) ∨
    (¬ HasActive jobs job.deviceId ∧ ∃ e, createJob job id now jobs = (.error (.db e), jobs)) ∨
    (¬ HasActive jobs job.deviceId ∧ ∃ jobs', jobs.insert (job.toRow id now) = some jobs' ∧
      createJob job id now jobs = (.ok (rowToRecord (job.toRow id now)), jobs')) := by
  by_cases active : HasActive jobs job.deviceId
  · exact Or.inl ⟨active, createJob_of_active active⟩
  · cases inserted : jobs.insert (job.toRow id now) with
    | none => exact Or.inr (Or.inl ⟨active, _, createJob_of_conflict active inserted⟩)
    | some jobs' => exact Or.inr (Or.inr ⟨active, jobs', rfl, createJob_of_inserted active inserted⟩)

theorem createJob_alreadyPending_iff :
    (createJob job id now jobs).1 = .error .alreadyPending ↔ HasActive jobs job.deviceId := by
  rcases createJob_cases job id now jobs with ⟨active, ran⟩ | ⟨free, e, ran⟩ | ⟨free, jobs', -, ran⟩
  · simp [ran, active]
  · simp [ran, free]
  · simp [ran, free]

theorem createJob_error {e : Error} (refused : (createJob job id now jobs).1 = .error e) :
    (createJob job id now jobs).2 = jobs := by
  rcases createJob_cases job id now jobs with ⟨-, ran⟩ | ⟨-, e', ran⟩ | ⟨-, jobs', -, ran⟩
  · rw [ran]
  · rw [ran]
  · rw [ran] at refused
    cases refused

theorem createJob_ok {record : JobRecord} (created : createJob job id now jobs = (.ok record, jobs')) :
    ¬ HasActive jobs job.deviceId ∧ record = rowToRecord (job.toRow id now) ∧
      jobs.insert (job.toRow id now) = some jobs' := by
  rcases createJob_cases job id now jobs with ⟨-, ran⟩ | ⟨-, e, ran⟩ | ⟨free, jobs'', inserted, ran⟩
  · rw [ran] at created; cases created
  · rw [ran] at created; cases created
  · rw [ran] at created
    cases created
    exact ⟨free, rfl, inserted⟩

/-- The row with the id is settled, every other row stays; an unknown id changes
nothing. -/
theorem updateStatus_rows (id : String) (status : JobStatus) (error : Option String) (now : String)
    (jobs : Jobs) : (updateStatus id status error now jobs).2.rows =
      jobs.rows.map fun r => if r.id = id then r.settle status error now else r := by
  unfold updateStatus
  split
  · rename_i none_
    have absent : jobs.find? () id = none := (jobs.affected_eq_zero_iff () id).1 none_
    have untouched : ∀ r ∈ jobs.rows, (if r.id = id then r.settle status error now else r) = r := by
      intro r stored
      rw [if_neg]
      exact (jobs.find?_eq_none_iff () id).1 absent r stored
    exact ((List.map_congr_left untouched).trans (List.map_id _)).symm
  · refine (Table.update_rows jobs (fun r => decide (r.id = id)) (JobRow.settle status error now)
      fun _ _ => rfl).trans ?_
    simp

end Specs

end RobotFleet.Ota
