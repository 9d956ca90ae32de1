/-
# Ota.Server -- the dispatcher and the handlers of the OTA service

`ota-service/src/dispatcher/mod.rs` and `ota-service/src/server/mod.rs`.

A `tokio::sync::broadcast` channel is the list of everything ever sent on it; a
receiver is its position in that list.  Only the last `channelCapacity` values
are retained: a receiver that is further behind has lost the difference, and the
stream of `watch_updates` drops the `Lagged` error that says so and goes on with
the oldest retained value (`Dispatcher.recv`).

`dispatch_update` awaits between `create_job` and `Dispatcher::dispatch`; its two
halves are `dispatchCreate` and `dispatchSend`.
-/
import RobotFleet.Ota.Store
import RobotFleet.Theory.Calls

namespace RobotFleet.Ota

open RobotFleet.Theory
open RobotFleet.Theory.Calls (Code Status Timestamp)

set_option autoImplicit false

/-! ## Messages -/

structure UpdateCommand where
  updateJobId : String
  targetVersion : String
  artifactUrl : String
  sha256 : String
  sizeBytes : UInt64
  applyBy : Option Timestamp
  deriving DecidableEq, Repr

structure AckUpdateRequest where
  deviceId : String
  updateJobId : String
  version : String
  success : Bool
  errorMessage : String
  deriving DecidableEq, Repr

structure DispatchUpdateRequest where
  deviceId : String
  targetVersion : String
  applyBy : Option Timestamp
  deriving DecidableEq, Repr

/-- The fields that `record_to_proto` fills; the timestamps are left unset. -/
structure UpdateJob where
  updateJobId : String
  deviceId : String
  targetVersion : String
  artifactUrl : String
  status : String
  errorMessage : String
  deriving DecidableEq, Repr

structure CheckUpdateResponse where
  updateAvailable : Bool
  targetVersion : String
  artifactUrl : String
  sha256 : String
  sizeBytes : UInt64
  updateJobId : String
  deriving DecidableEq, Repr

structure ListUpdateJobsRequest where
  deviceId : String
  limit : Int
  cursor : String
  deriving DecidableEq, Repr

structure ListUpdateJobsResponse where
  jobs : List UpdateJob
  nextCursor : String
  deriving DecidableEq, Repr

/-! ## The dispatcher -/

def channelCapacity : Nat := 8

/-- An entry of the `senders` map. -/
structure Sender where
  deviceId : String
  sent : List UpdateCommand
  deriving DecidableEq

/-- A live `broadcast::Receiver`, with the position of its next value. -/
structure Receiver where
  id : Nat
  deviceId : String
  next : Nat
  deriving DecidableEq

def Sender.key (_ : Unit) (s : Sender) : String := s.deviceId

def Receiver.key (_ : Unit) (r : Receiver) : Nat := r.id

/-- The `senders` map and the live receivers.  Receivers are numbered as they are
created, so that no two are ever confused. -/
structure Dispatcher where
  senders : Table Sender.key
  receivers : Table Receiver.key
  nextReceiver : Nat
  fresh : ∀ r ∈ receivers.rows, r.id < nextReceiver

namespace Dispatcher

def empty : Dispatcher := ⟨.empty, .empty, 0, by simp⟩

/-- The service restarts: all channels are gone, and streams that read them end. -/
def restart (d : Dispatcher) : Dispatcher := ⟨.empty, .empty, d.nextReceiver, by simp⟩

/-- What was sent to a device so far. -/
def sentTo (d : Dispatcher) (deviceId : String) : List UpdateCommand :=
  ((d.senders.find? () deviceId).map Sender.sent).getD []

/-- `Sender::receiver_count`. -/
def receiverCount (d : Dispatcher) (deviceId : String) : Nat :=
  d.receivers.rows.countP fun r => decide (r.deviceId = deviceId)

/-- `subscribe`: the channel is created if absent, and the new receiver starts
at its end. -/
def subscribe (deviceId : String) (d : Dispatcher) : Nat × Dispatcher :=
  let receiver : Receiver := ⟨d.nextReceiver, deviceId, (d.sentTo deviceId).length⟩
  (d.nextReceiver,
    { senders := d.senders.insertOrIgnore ⟨deviceId, []⟩
      receivers := d.receivers.insertOrIgnore receiver
      nextReceiver := d.nextReceiver + 1
      fresh := by
        intro r stored
        rcases Table.mem_insertOrIgnore stored with old | rfl
        · exact Nat.lt_succ_of_lt (d.fresh r old)
        · exact Nat.lt_succ_self _ })

/-- `Sender::send`, to every live receiver at once. -/
def send (deviceId : String) (cmd : UpdateCommand) (d : Dispatcher) : Dispatcher :=
  let senders := d.senders.update (fun s => decide (s.deviceId = deviceId))
    (fun s => { s with sent := s.sent ++ [cmd] }) (fun _ _ => rfl)
  { d with senders }

def dispatch (deviceId : String) (cmd : UpdateCommand) (d : Dispatcher) : Except Error Nat × Dispatcher :=
  match d.senders.find? () deviceId with
  | none => (.error (.noActiveSubscribers deviceId), d)
  | some _ =>
    let count := d.receiverCount deviceId
    if count = 0 then (.error (.noActiveSubscribers deviceId), d)
    else (.ok count, d.send deviceId cmd)

/-- Moves one receiver to a position. -/
def advanceTo (receiver next : Nat) (d : Dispatcher) : Dispatcher :=
  { d with
    receivers := d.receivers.update (fun r => decide (r.id = receiver))
      (fun r => { r with next }) (fun _ _ => rfl)
    fresh := by
      intro r stored
      obtain ⟨r', old, rfl⟩ := List.mem_map.1 stored
      have bound := d.fresh r' old
      dsimp only
      split
      · exact bound
      · exact bound }

/-- The next value of a receiver's stream, if there is one.  A receiver that
lagged goes on with the oldest value retained. -/
def recv (receiver : Nat) (d : Dispatcher) : Option UpdateCommand × Dispatcher :=
  match d.receivers.find? () receiver with
  | none => (none, d)
  | some r =>
    let sent := d.sentTo r.deviceId
    let next := max r.next (sent.length - channelCapacity)
    match sent[next]? with
    | none => (none, d)
    | some cmd => (some cmd, d.advanceTo receiver (next + 1))

/-- A receiver is dropped with the stream that reads it. -/
def unsubscribe (receiver : Nat) (d : Dispatcher) : Dispatcher :=
  { d with
    receivers := d.receivers.delete fun r => decide (r.id = receiver)
    fresh := fun r stored => d.fresh r (List.mem_of_mem_filter stored) }

end Dispatcher

/-! ## The handlers -/

/-- `to_status`. -/
def toStatus : Error → Status
  | .notFound m => ⟨.notFound, m⟩
  | .alreadyPending => ⟨.alreadyExists, "device already has an active job"⟩
  | .noActiveSubscribers id => ⟨.unavailable, "device " ++ id ++ " is not connected"⟩
  | .db e => ⟨.internal, e.toString⟩

def recordToProto (r : JobRecord) : UpdateJob where
  updateJobId := r.id
  deviceId := r.deviceId
  targetVersion := r.targetVersion
  artifactUrl := r.artifactUrl
  status := r.status.asStr
  errorMessage := r.errorMessage.getD ""

def checkUpdate (scan : Scan JobRow) (deviceId : String) (jobs : Jobs) : CheckUpdateResponse :=
  match getPendingForDevice scan deviceId jobs with
  | none => ⟨false, "", "", "", 0, ""⟩
  | some j => ⟨true, j.targetVersion, j.artifactUrl, j.sha256, j.sizeBytes, j.id⟩

/-- The status an ack asks for. -/
def AckUpdateRequest.status (req : AckUpdateRequest) : JobStatus :=
  if req.success then .completed else .failed

/-- The error an ack reports, absent when empty. -/
def AckUpdateRequest.error (req : AckUpdateRequest) : Option String :=
  if req.errorMessage.isEmpty then none else some req.errorMessage

/-- `ack_update`: the job is found by its id alone. -/
def ackUpdate (req : AckUpdateRequest) (now : String) (jobs : Jobs) : Except Status Unit × Jobs :=
  match updateStatus req.updateJobId req.status req.error now jobs with
  | (.error e, jobs') => (.error (toStatus e), jobs')
  | (.ok (), jobs') => (.ok (), jobs')

/-- The job that `dispatch_update` creates; the artifact is not resolved. -/
def DispatchUpdateRequest.toJob (req : DispatchUpdateRequest) : NewJob where
  deviceId := req.deviceId
  targetVersion := req.targetVersion
  artifactUrl := ""
  sha256 := ""
  sizeBytes := 0

/-- The command that `dispatch_update` builds from the job. -/
def commandFor (req : DispatchUpdateRequest) (job : JobRecord) : UpdateCommand where
  updateJobId := job.id
  targetVersion := job.targetVersion
  artifactUrl := job.artifactUrl
  sha256 := job.sha256
  sizeBytes := job.sizeBytes
  applyBy := req.applyBy

/-- The first half of `dispatch_update`. -/
def dispatchCreate (req : DispatchUpdateRequest) (id now : String) (jobs : Jobs) :
    Except Status JobRecord × Jobs :=
  match createJob req.toJob id now jobs with
  | (.error e, jobs') => (.error (toStatus e), jobs')
  | (.ok job, jobs') => (.ok job, jobs')

/-- The second half. -/
def dispatchSend (req : DispatchUpdateRequest) (job : JobRecord) (d : Dispatcher) :
    Except Status UpdateJob × Dispatcher :=
  match d.dispatch req.deviceId (commandFor req job) with
  | (.error e, d') => (.error (toStatus e), d')
  | (.ok _, d') => (.ok (recordToProto job), d')

def dispatchUpdate (req : DispatchUpdateRequest) (id now : String) (jobs : Jobs) (d : Dispatcher) :
    Except Status UpdateJob × Jobs × Dispatcher :=
  match dispatchCreate req id now jobs with
  | (.error status, jobs') => (.error status, jobs', d)
  | (.ok job, jobs') =>
    match dispatchSend req job d with
    | (result, d') => (result, jobs', d')

def listUpdateJobs (scan : Scan JobRow) (req : ListUpdateJobsRequest) (jobs : Jobs) :
    ListUpdateJobsResponse :=
  let limit := if req.limit ≤ 0 then 20 else req.limit
  let cursor := if req.cursor.isEmpty then none else some req.cursor
  let (records, nextCursor) := listForDevice scan req.deviceId limit cursor jobs
  ⟨records.map recordToProto, nextCursor.getD ""⟩

end RobotFleet.Ota
