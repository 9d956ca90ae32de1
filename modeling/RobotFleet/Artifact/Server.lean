/-
# Artifact.Server -- the handlers of the artifact store and their runs

`artifact-store/src/server/mod.rs` and the messages of `proto/artifacts.proto`.
Every handler makes at most one registry call, which holds the connection mutex,
so a run is a list of calls and every interleaving of concurrent calls is one.

* `published_artifacts_immutable`: over every run, a release is published at most
  once whatever the channel, a refused `PublishArtifact` changes nothing, and what
  an accepted one returned is what its id reads from then on, with the size the
  request gave although the column is signed.
-/
import RobotFleet.Artifact.Registry
import RobotFleet.Theory.Calls

namespace RobotFleet.Artifact

open RobotFleet.Theory
open RobotFleet.Theory.Run
open RobotFleet.Theory.Calls (Code Status Timestamp mapError_ok ok_of_bind)

set_option autoImplicit false

/-! ## Messages -/

structure ArtifactMeta where
  artifactId : String
  model : String
  version : String
  downloadUrl : String
  sha256 : String
  sizeBytes : UInt64
  channel : String
  createdAt : Option Timestamp
  metadata : List (String × String)
  deriving DecidableEq

structure PublishRequest where
  model : String
  version : String
  sha256 : String
  sizeBytes : UInt64
  channel : String
  objectKey : String
  metadata : List (String × String)
  deriving DecidableEq

structure PublishResponse where
  artifact : Option ArtifactMeta
  deriving DecidableEq

structure ListArtifactsRequest where
  model : String
  channel : String
  limit : Int32
  deriving DecidableEq

structure ListArtifactsResponse where
  artifacts : List ArtifactMeta
  deriving DecidableEq

structure UploadUrlResponse where
  uploadUrl : String
  objectKey : String
  deriving DecidableEq, Repr

/-! ## Handlers -/

def recordToProto (r : ArtifactRecord) : ArtifactMeta where
  artifactId := r.id
  model := r.model
  version := r.version
  downloadUrl := r.downloadUrl
  sha256 := r.sha256
  sizeBytes := r.sizeBytes.toUInt64
  channel := r.channel
  createdAt := some { seconds := r.createdAt, nanos := 0 }
  metadata := []

def mapErr (e : Error) : Status :=
  match e with
  | .notFound message => ⟨.notFound, message⟩
  | .versionConflict _ _ => ⟨.alreadyExists, e.toString⟩
  | _ => ⟨.internal, e.toString⟩

/-- What `publish_artifact` asks the registry to create; the request's metadata is
dropped and the size is cast to `i64`. -/
def PublishRequest.toNewArtifact (req : PublishRequest) : NewArtifact where
  model := req.model
  version := req.version
  sha256 := req.sha256
  sizeBytes := req.sizeBytes.toInt64
  channel := req.channel
  objectKey := req.objectKey
  downloadUrl := ""

def publishArtifact (req : PublishRequest) (id : String) (now : Int64) (fault : Option Fault)
    (reg : Registry) : Except Status PublishResponse × Registry :=
  if req.sha256.isEmpty then (.error ⟨.invalidArgument, "sha256 cannot be empty"⟩, reg)
  else
    let (created, reg') := create req.toNewArtifact id now fault reg
    (do
      let record ← created.mapError mapErr
      return { artifact := some (recordToProto record) }, reg')

def getArtifact (artifactId : String) (fault : Option Fault) (reg : Registry) :
    Except Status ArtifactMeta := do
  let record ← (get artifactId fault reg).mapError mapErr
  return recordToProto record

def listArtifacts (req : ListArtifactsRequest) (scan : Scan ArtifactRecord) (fault : Option Fault)
    (reg : Registry) : Except Status ListArtifactsResponse := do
  let limit := if req.limit > 0 then req.limit.toInt else 50
  let records ← (list req.model req.channel limit scan fault reg).mapError mapErr
  return { artifacts := records.map recordToProto }

/-- The handler `get_latest`. -/
def getLatestArtifact (model channel : String) (scan : Scan ArtifactRecord) (fault : Option Fault)
    (reg : Registry) : Except Status ArtifactMeta := do
  let record ← (getLatest model channel scan fault reg).mapError mapErr
  return recordToProto record

/-- `presign` is the object store's `presign_upload`. -/
def generateUploadUrl (presign : String → Nat → Except Error String) (model version : String) :
    Except Status UploadUrlResponse := do
  let key := model ++ "/" ++ version ++ "/firmware.bin"
  let uploadUrl ← (presign key 3600).mapError mapErr
  return { uploadUrl, objectKey := key }

/-! ## Runs -/

/-- A call with what the clock, the id generator and SQLite contribute to it. -/
inductive Call where
  | publishArtifact (req : PublishRequest) (id : String) (now : Int64) (fault : Option Fault)
  | getArtifact (artifactId : String) (fault : Option Fault)
  | getLatest (model channel : String) (scan : Scan ArtifactRecord) (fault : Option Fault)
  | listArtifacts (req : ListArtifactsRequest) (scan : Scan ArtifactRecord) (fault : Option Fault)

inductive Reply where
  | published (result : Except Status PublishResponse)
  | artifact (result : Except Status ArtifactMeta)
  | artifacts (result : Except Status ListArtifactsResponse)

def handle (reg : Registry) : Call → Reply × Registry
  | .publishArtifact req id now fault =>
    let (result, reg') := publishArtifact req id now fault reg
    (.published result, reg')
  | .getArtifact artifactId fault => (.artifact (getArtifact artifactId fault reg), reg)
  | .getLatest model channel scan fault =>
    (.artifact (getLatestArtifact model channel scan fault reg), reg)
  | .listArtifacts req scan fault => (.artifacts (listArtifacts req scan fault reg), reg)

/-- The registry after a list of calls on an empty one. -/
def serve (calls : List Call) : Registry := run (stateStep handle) Table.empty calls

section Publish

variable {req : PublishRequest} {id : String} {now : Int64} {fault : Option Fault} {reg : Registry}

/-- What an accepted publish returned is a record the registry created. -/
theorem publishArtifact_ok {response : PublishResponse}
    (accepted : (publishArtifact req id now fault reg).1 = .ok response) :
    ∃ record, (create req.toNewArtifact id now fault reg).1 = .ok record ∧
      response = { artifact := some (recordToProto record) } ∧
      (publishArtifact req id now fault reg).2 = (create req.toNewArtifact id now fault reg).2 := by
  unfold publishArtifact at accepted ⊢
  split at accepted
  · cases accepted
  · rename_i given
    obtain ⟨record, created, returned⟩ := ok_of_bind accepted
    refine ⟨record, mapError_ok.1 created, ?_, by simp [given]⟩
    exact (Except.ok.inj returned).symm

theorem publishArtifact_error {status : Status}
    (refused : (publishArtifact req id now fault reg).1 = .error status) :
    (publishArtifact req id now fault reg).2 = reg := by
  unfold publishArtifact at refused ⊢
  split at refused
  · rename_i missing
    simp [missing]
  · rename_i given
    simp only [given, if_false, Bool.false_eq_true]
    cases ran : create req.toNewArtifact id now fault reg with
    | mk result reg' =>
      simp only [ran] at refused
      cases result with
      | error e =>
          have untouched := create_error (congrArg Prod.fst ran)
          rwa [ran] at untouched
      | ok record => cases refused

theorem publishArtifact_keeps {r : ArtifactRecord} (stored : r ∈ reg.rows) :
    r ∈ (publishArtifact req id now fault reg).2.rows := by
  unfold publishArtifact
  split
  · exact stored
  · exact create_keeps stored

/-- A release in the registry is refused, in whatever channel and however the
statement fares. -/
theorem publishArtifact_of_released {r : ArtifactRecord} (stored : r ∈ reg.rows)
    (model : r.model = req.model) (version : r.version = req.version) (response : PublishResponse) :
    (publishArtifact req id now fault reg).1 ≠ .ok response := by
  intro accepted
  obtain ⟨record, created, -, -⟩ := publishArtifact_ok accepted
  cases fault with
  | some f => cases f <;> cases created
  | none =>
      rw [create_of_released stored model version] at created
      cases created

end Publish

theorem handle_keeps {r : ArtifactRecord} (reg : Registry) (call : Call) (stored : r ∈ reg.rows) :
    r ∈ (stateStep handle reg call).rows := by
  cases call with
  | publishArtifact req id now fault => exact publishArtifact_keeps stored
  | getArtifact artifactId fault => exact stored
  | getLatest model channel scan fault => exact stored
  | listArtifacts req scan fault => exact stored

/-- A row stays through every run. -/
theorem run_keeps {r : ArtifactRecord} {reg : Registry} (calls : List Call)
    (stored : r ∈ reg.rows) : r ∈ (run (stateStep handle) reg calls).rows :=
  run_invariant_free (stateStep handle) (I := fun reg => r ∈ reg.rows) handle_keeps stored calls

/-- The metadata describes the request: its texts, and its size whatever the sign
of the column. -/
def ArtifactMeta.Describes (m : ArtifactMeta) (req : PublishRequest) : Prop :=
  m.model = req.model ∧ m.version = req.version ∧ m.sha256 = req.sha256 ∧
    m.sizeBytes = req.sizeBytes ∧ m.channel = req.channel

/-- **Published artifacts are immutable and unique.** -/
theorem published_artifacts_immutable (calls : List Call) :
    ((serve calls).rows.map fun r => (r.model, r.version)).Nodup ∧
    (∀ req id now fault status,
      (publishArtifact req id now fault (serve calls)).1 = .error status →
        (publishArtifact req id now fault (serve calls)).2 = serve calls) ∧
    (∀ req id now fault response,
      (publishArtifact req id now fault (serve calls)).1 = .ok response →
        ∃ m, response.artifact = some m ∧ m.Describes req ∧
          ∀ later, let reg := serve (calls ++ .publishArtifact req id now fault :: later)
            getArtifact m.artifactId none reg = .ok m ∧
            ∀ req' id' now' fault' response', req'.model = req.model → req'.version = req.version →
              (publishArtifact req' id' now' fault' reg).1 ≠ .ok response') := by
  refine ⟨?_, ?_, ?_⟩
  · have unique := (serve calls).unique .release
    have columns : ArtifactRecord.key .release =
        (fun p : String × String => [p.1, p.2]) ∘ fun r => (r.model, r.version) := rfl
    rw [columns, ← List.map_map] at unique
    exact unique.of_map _
  · intro req id now fault status refused
    exact publishArtifact_error refused
  · intro req id now fault response accepted
    obtain ⟨record, created, rfl, after⟩ := publishArtifact_ok accepted
    have row : record = req.toNewArtifact.toRecord id now := (create_ok created).1
    refine ⟨recordToProto record, rfl, ?_, ?_⟩
    · subst row
      exact ⟨rfl, rfl, rfl, UInt64.toUInt64_toInt64 req.sizeBytes, rfl⟩
    · intro later reg
      -- the row is there right after the call, and no call removes it
      have stored : record ∈ reg.rows := by
        show record ∈ (run (stateStep handle) Table.empty
          (calls ++ .publishArtifact req id now fault :: later)).rows
        rw [run_append, run_cons]
        apply run_keeps
        show record ∈ (publishArtifact req id now fault (serve calls)).2.rows
        rw [after]
        exact create_stores created
      constructor
      · show ((get record.id none reg).mapError mapErr >>= fun r => pure (recordToProto r)) = _
        rw [get_of_stored stored]
        rfl
      · intro req' id' now' fault' response' model version
        apply publishArtifact_of_released stored
        · rw [row]
          exact model.symm
        · rw [row]
          exact version.symm

/-- A size of `2^63` is negative in its column and comes back as it was. -/
example :
    let req : PublishRequest := ⟨"h1", "1.0.0", "ab", 0x8000000000000000, "beta", "h1/1.0.0/fw", []⟩
    let reg := serve [.publishArtifact req "a-1" 100 none]
    reg.rows.map (fun r => r.sizeBytes) = [-0x8000000000000000] ∧
      ((getArtifact "a-1" none reg).toOption.map fun m => m.sizeBytes) = some 0x8000000000000000 := by
  decide

end RobotFleet.Artifact
