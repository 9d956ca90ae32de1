/-
# Artifact.Registry -- the `artifacts` table and the methods over it

`artifact-store/src/registry/mod.rs` and `artifact-store/src/error.rs`.  The two
constraints of `MIGRATION`, the primary key and `UNIQUE(model, version)`, are
carried by the table (`Theory.Table`).  Sizes and times are `i64` columns.

What `Uuid::new_v4` and the clock return is an argument of `create`, the order in
which a query visits rows that tie is a `Scan`, and every method may be kept from
running its one statement by a `Fault`.  Rows are never updated or deleted:
`create_ok` and `create_error` say all that a method does to the table.
-/
import RobotFleet.Theory.Table
import RobotFleet.Theory.Transaction

namespace RobotFleet.Artifact

open RobotFleet.Theory
open RobotFleet.Theory.Transaction (SqlError)

set_option autoImplicit false

/-- `artifact-store/src/error.rs`. -/
inductive Error where
  | notFound (message : String)
  | versionConflict (model version : String)
  | db (error : SqlError)
  | storage (message : String)
  | checksumMismatch (expected actual : String)
  deriving DecidableEq, Repr

def Error.toString : Error → String
  | .notFound m => "not found: " ++ m
  | .versionConflict model version => "version already exists: " ++ model ++ "@" ++ version
  | .db e => "database error: " ++ e.toString
  | .storage m => "storage error: " ++ m
  | .checksumMismatch expected actual =>
      "checksum mismatch: expected " ++ expected ++ ", got " ++ actual

structure NewArtifact where
  model : String
  version : String
  sha256 : String
  sizeBytes : Int64
  channel : String
  objectKey : String
  downloadUrl : String
  deriving DecidableEq

/-- A row of `artifacts`, which `row_to_record` reads column by column. -/
structure ArtifactRecord where
  id : String
  model : String
  version : String
  sha256 : String
  sizeBytes : Int64
  channel : String
  objectKey : String
  downloadUrl : String
  createdAt : Int64
  deriving DecidableEq

/-- The uniqueness constraints of `artifacts`. -/
inductive Constraint where
  | id
  | release
  deriving DecidableEq, Repr

instance : Fintype Constraint := ⟨{.id, .release}, fun c => by cases c <;> simp⟩

/-- The columns of a constraint. -/
def ArtifactRecord.key : Constraint → ArtifactRecord → List String
  | .id, r => [r.id]
  | .release, r => [r.model, r.version]

abbrev Registry := Table ArtifactRecord.key

/-! ## The methods -/

/-- Why a method's statement does not run. -/
inductive Fault where
  | poisoned
  | sqlite (error : SqlError)
  deriving DecidableEq, Repr

/-- `conn.lock()` and the statement behind it, for what the statement computes. -/
def underLock {α : Type} (fault : Option Fault) (handle : SqlError → Error)
    (statement : Except SqlError α) : Except Error α :=
  match fault with
  | some .poisoned => .error (.storage "db mutex poisoned")
  | some (.sqlite e) => .error (handle e)
  | none => statement.mapError handle

/-- The row that `create` inserts, which is also the record it returns. -/
def NewArtifact.toRecord (a : NewArtifact) (id : String) (now : Int64) : ArtifactRecord where
  id := id
  model := a.model
  version := a.version
  sha256 := a.sha256
  sizeBytes := a.sizeBytes
  channel := a.channel
  objectKey := a.objectKey
  downloadUrl := a.downloadUrl
  createdAt := now

/-- The `match` on the result of the `INSERT`: whatever constraint was violated,
the answer is a version conflict. -/
def NewArtifact.insertError (a : NewArtifact) : SqlError → Error
  | .constraintViolation _ => .versionConflict a.model a.version
  | e => .db e

def create (a : NewArtifact) (id : String) (now : Int64) (fault : Option Fault) (reg : Registry) :
    Except Error ArtifactRecord × Registry :=
  match fault with
  | some .poisoned => (.error (.storage "db mutex poisoned"), reg)
  | some (.sqlite e) => (.error (a.insertError e), reg)
  | none =>
    match reg.insert (a.toRecord id now) with
    | none => (.error (a.insertError (.constraintViolation "UNIQUE constraint failed")), reg)
    | some reg' => (.ok (a.toRecord id now), reg')

/-- The `map_err` of a `query_row`. -/
def readError (missing : String) : SqlError → Error
  | .queryReturnedNoRows => .notFound missing
  | e => .db e

/-- `query_row` over the rows a query selects. -/
def firstRow : List ArtifactRecord → Except SqlError ArtifactRecord
  | [] => .error .queryReturnedNoRows
  | r :: _ => .ok r

def get (id : String) (fault : Option Fault) (reg : Registry) : Except Error ArtifactRecord :=
  underLock fault (readError id) (firstRow (reg.find? .id [id]).toList)

/-- `WHERE model = ?1 AND channel = ?2`. -/
def ArtifactRecord.offers (model channel : String) (r : ArtifactRecord) : Bool :=
  decide (r.model = model) && decide (r.channel = channel)

/-- `… ORDER BY created_at DESC LIMIT n`. -/
def newest (model channel : String) (limit : Int) (scan : Scan ArtifactRecord) (reg : Registry) :
    List ArtifactRecord :=
  sqlLimit limit
    (scan.orderBy (fun r r' => r'.createdAt ≤ r.createdAt)
      (reg.rows.filter (ArtifactRecord.offers model channel)))

def getLatest (model channel : String) (scan : Scan ArtifactRecord) (fault : Option Fault)
    (reg : Registry) : Except Error ArtifactRecord :=
  underLock fault (readError (model ++ "@latest (" ++ channel ++ ")"))
    (firstRow (newest model channel 1 scan reg))

def list (model channel : String) (limit : Int) (scan : Scan ArtifactRecord) (fault : Option Fault)
    (reg : Registry) : Except Error (List ArtifactRecord) :=
  underLock fault .db (.ok (newest model channel limit scan reg))

/-! ## What the methods do -/

section Methods

variable {a : NewArtifact} {id : String} {now : Int64} {fault : Option Fault} {reg : Registry}

/-- A method that created a record appended that record. -/
theorem create_ok {record : ArtifactRecord} (created : (create a id now fault reg).1 = .ok record) :
    record = a.toRecord id now ∧ reg.insert record = some (create a id now fault reg).2 := by
  unfold create at created ⊢
  cases fault with
  | some f => cases f <;> cases created
  | none =>
      simp only at created ⊢
      cases inserted : reg.insert (a.toRecord id now) with
      | none =>
          rw [inserted] at created
          cases created
      | some reg' =>
          simp only [inserted, Except.ok.injEq] at created ⊢
          subst created
          exact ⟨rfl, inserted⟩

/-- A method that failed left the table alone. -/
theorem create_error {e : Error} (failed : (create a id now fault reg).1 = .error e) :
    (create a id now fault reg).2 = reg := by
  unfold create at failed ⊢
  cases fault with
  | some f => cases f <;> rfl
  | none =>
      simp only at failed ⊢
      cases inserted : reg.insert (a.toRecord id now) with
      | none => rfl
      | some reg' =>
          rw [inserted] at failed
          cases failed

/-- Rows stay once they are in. -/
theorem create_keeps {r : ArtifactRecord} (stored : r ∈ reg.rows) :
    r ∈ (create a id now fault reg).2.rows := by
  cases ran : (create a id now fault reg).1 with
  | error e => rwa [create_error ran]
  | ok record =>
      rw [Table.insert_rows (create_ok ran).2]
      exact List.mem_append_left _ stored

/-- A record that was created is stored. -/
theorem create_stores {record : ArtifactRecord}
    (created : (create a id now fault reg).1 = .ok record) :
    record ∈ (create a id now fault reg).2.rows := by
  rw [Table.insert_rows (create_ok created).2]
  simp

/-- A release that is in the table, in whatever channel, is not created again. -/
theorem create_of_released {r : ArtifactRecord} (stored : r ∈ reg.rows)
    (model : r.model = a.model) (version : r.version = a.version) :
    create a id now none reg = (.error (.versionConflict a.model a.version), reg) := by
  have taken : reg.Conflicts (a.toRecord id now) := by
    refine ⟨.release, r, stored, ?_⟩
    simp [ArtifactRecord.key, NewArtifact.toRecord, model, version]
  simp [create, (reg.insert_eq_none_iff _).2 taken, NewArtifact.insertError]

/-- A stored record is what its id reads. -/
theorem get_of_stored {r : ArtifactRecord} (stored : r ∈ reg.rows) : get r.id none reg = .ok r := by
  have found : reg.find? .id [r.id] = some r := reg.find?_self .id stored
  rw [get, found]
  rfl

end Methods

end RobotFleet.Artifact
