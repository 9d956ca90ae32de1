/-
# Device.Store -- the device-management tables and the store methods over them

`device-management-service/src/store/mod.rs`.  The three tables of `MIGRATION`
carry their constraints (`Theory.Table`), so no two rows of `factory_manifest`
or `pre_enrollment` share a serial and no two `devices` share an id or a serial,
in any state that can be written down.

Each method is given as the function it computes on the tables when it runs
alone under the connection mutex and SQLite reports no failure: what the clock
and `Uuid::new_v4` return is an argument.  `Device.Connection` has the same
methods statement by statement, and shows that they agree with these.
-/
import Mathlib.Data.List.Sort
import RobotFleet.Pki.Certificates
import RobotFleet.Theory.Table
import RobotFleet.Theory.Transaction

namespace RobotFleet.Device

open RobotFleet.Theory
open RobotFleet.Theory.Transaction (SqlError)

set_option autoImplicit false

/-- `device-management-service/src/error.rs`. -/
inductive Error where
  | notFound (id : String)
  | alreadyEnrolled (serial : String)
  | notPreEnrolled (serial : String)
  | serialAlreadyClaimed (serial : String)
  | deviceNotActive (status : String)
  | serialMismatch (cert request : String)
  | certVerification (message : String)
  | notInManifest (serial : String)
  | invalidProvisionToken (serial : String)
  | alreadyProvisioned (serial : String)
  | db (error : SqlError)
  | pki (error : Pki.Error)
  deriving DecidableEq, Repr

def Error.toString : Error → String
  | .notFound m => "device not found: " ++ m
  | .alreadyEnrolled m => "serial already enrolled: " ++ m
  | .notPreEnrolled m => "serial not in pre-enrollment registry: " ++ m
  | .serialAlreadyClaimed m => "serial already claimed: " ++ m
  | .deviceNotActive status => "device is " ++ status ++ ", cannot renew cert"
  | .serialMismatch cert request => "serial mismatch: cert=" ++ cert ++ " request=" ++ request
  | .certVerification m => "cert verification failed: " ++ m
  | .notInManifest m => "serial not in factory manifest: " ++ m
  | .invalidProvisionToken m => "invalid provision token for serial: " ++ m
  | .alreadyProvisioned m => "device already provisioned: " ++ m
  | .db e => "database error: " ++ e.toString
  | .pki e => "PKI error: " ++ e.toString

/-! ## The tables -/

/-- A row of `factory_manifest`. -/
structure ManifestRow where
  serial : String
  model : String
  token : String
  provisionedAt : Option Int
  deriving DecidableEq, Repr

/-- A row of `devices`. -/
structure DeviceRecord where
  id : String
  serial : String
  model : String
  firmware : String
  status : String
  operationalCertPem : String
  enrolledAt : Int
  lastSeenAt : Int
  deriving DecidableEq, Repr

/-- A row of `pre_enrollment`. -/
structure PreEnrollmentRow where
  serial : String
  model : String
  claimed : Int
  deriving DecidableEq, Repr

/-- The unique columns of `devices`: `id` is the primary key, `serial` is `UNIQUE`. -/
inductive DeviceKey where
  | id
  | serial
  deriving DecidableEq

instance : Fintype DeviceKey where
  elems := {.id, .serial}
  complete column := by cases column <;> simp

def ManifestRow.key (_ : Unit) (r : ManifestRow) : String := r.serial

def PreEnrollmentRow.key (_ : Unit) (r : PreEnrollmentRow) : String := r.serial

def DeviceRecord.key : DeviceKey → DeviceRecord → String
  | .id, r => r.id
  | .serial, r => r.serial

structure Db where
  factoryManifest : Table ManifestRow.key
  devices : Table DeviceRecord.key
  preEnrollment : Table PreEnrollmentRow.key

namespace Db

/-- What `MIGRATION` creates. -/
def empty : Db := ⟨.empty, .empty, .empty⟩

/-- The manifest row of a serial. -/
def manifest? (db : Db) (serial : String) : Option ManifestRow :=
  db.factoryManifest.find? () serial

def preEnrolled? (db : Db) (serial : String) : Option PreEnrollmentRow :=
  db.preEnrollment.find? () serial

def deviceById? (db : Db) (id : String) : Option DeviceRecord := db.devices.find? .id id

def deviceBySerial? (db : Db) (serial : String) : Option DeviceRecord :=
  db.devices.find? .serial serial

end Db

/-! ## The store methods -/

structure NewDevice where
  serial : String
  model : String
  firmware : String
  operationalCertPem : String
  deriving DecidableEq, Repr

structure PreEnrollmentRecord where
  serial : String
  model : String
  deriving DecidableEq, Repr

/-- The row `create_device` inserts and returns. -/
def NewDevice.toRecord (d : NewDevice) (id : String) (now : Int) : DeviceRecord where
  id := id
  serial := d.serial
  model := d.model
  firmware := d.firmware
  status := "active"
  operationalCertPem := d.operationalCertPem
  enrolledAt := now
  lastSeenAt := now

/-- `create_device`; every constraint violation is reported as `AlreadyEnrolled`. -/
def createDevice (d : NewDevice) (id : String) (now : Int) (db : Db) :
    Except Error DeviceRecord × Db :=
  match db.devices.insert (d.toRecord id now) with
  | none => (.error (.alreadyEnrolled d.serial), db)
  | some devices => (.ok (d.toRecord id now), { db with devices })

/-- `get_device` and `get_by_serial`, which differ in the column they select by. -/
def getBy (column : DeviceKey) (value : String) (db : Db) : Except Error DeviceRecord :=
  match db.devices.find? column value with
  | none => .error (.notFound value)
  | some record => .ok record

def getDevice (id : String) (db : Db) : Except Error DeviceRecord := getBy .id id db

def getBySerial (serial : String) (db : Db) : Except Error DeviceRecord := getBy .serial serial db

/-- `UPDATE devices SET … WHERE id = ?`, for a change that keeps both keys. -/
def updateDevice (id : String) (change : DeviceRecord → DeviceRecord)
    (keeps : ∀ column r, DeviceRecord.key column (change r) = DeviceRecord.key column r) (db : Db) :
    Except Error Unit × Db :=
  if db.devices.affected (fun r => decide (r.id = id)) = 0 then (.error (.notFound id), db)
  else
    let devices := db.devices.update (fun r => decide (r.id = id)) change keeps
    (.ok (), { db with devices })

/-- `update_status`; the reason is not stored. -/
def updateStatus (id status _reason : String) (db : Db) : Except Error Unit × Db :=
  updateDevice id (fun r => { r with status }) (fun column _ => by cases column <;> rfl) db

def touchLastSeen (id : String) (now : Int) (db : Db) : Except Error Unit × Db :=
  updateDevice id (fun r => { r with lastSeenAt := now }) (fun column _ => by cases column <;> rfl) db

/-- An absent filter matches every row. -/
def matchesFilter (wanted : Option String) (value : String) : Bool :=
  match wanted with
  | none => true
  | some w => value == w

/-- `list_devices`: one row more than the page is fetched to detect the next
page, and is then discarded. -/
def listDevices (model status : Option String) (limit : Int) (cursor : Option String) (db : Db) :
    List DeviceRecord × Option String :=
  let selected := db.devices.rows.filter fun r =>
    matchesFilter model r.model && matchesFilter status r.status &&
      cursor.all fun c => decide (c < r.id)
  let rows := sqlLimit (limit + 1) (selected.insertionSort fun r r' => r.id ≤ r'.id)
  if (rows.length : Int) > limit then
    (rows.dropLast, rows.dropLast.getLast?.map (·.id))
  else (rows, none)

/-- `UPDATE pre_enrollment SET claimed = ? WHERE serial = ?`. -/
def setClaimed (serial : String) (claimed : Int) (db : Db) : Db :=
  let preEnrollment := db.preEnrollment.update (fun r => decide (r.serial = serial))
    (fun r => { r with claimed }) (fun _ _ => rfl)
  { db with preEnrollment }

/-- `register_serial`: insert fresh, or reset the claim of a serial that has no
`devices` row. -/
def registerSerial (serial model : String) (db : Db) : Except Error Unit × Db :=
  match db.preEnrollment.insert { serial, model, claimed := 0 } with
  | some preEnrollment => (.ok (), { db with preEnrollment })
  | none =>
    match db.deviceBySerial? serial with
    | some _ => (.ok (), db)
    | none => (.ok (), setClaimed serial 0 db)

def lookupAndClaim (serial : String) (db : Db) : Except Error PreEnrollmentRecord × Db :=
  match db.preEnrolled? serial with
  | none => (.error (.notPreEnrolled serial), db)
  | some row =>
    if row.claimed ≠ 0 then (.error (.serialAlreadyClaimed serial), db)
    else (.ok { serial, model := row.model }, setClaimed serial 1 db)

def countDevices (db : Db) : Nat := db.devices.rows.length

/-- `seed_manifest`: a serial that is already in the manifest is left as it is. -/
def seedManifest (serial model token : String) (db : Db) : Except Error Unit × Db :=
  let factoryManifest :=
    db.factoryManifest.insertOrIgnore { serial, model, token, provisionedAt := none }
  (.ok (), { db with factoryManifest })

/-- `UPDATE factory_manifest SET provisioned_at = ? WHERE serial = ?`. -/
def setProvisioned (serial : String) (now : Int) (db : Db) : Db :=
  let factoryManifest := db.factoryManifest.update (fun r => decide (r.serial = serial))
    (fun r => { r with provisionedAt := some now }) (fun _ _ => rfl)
  { db with factoryManifest }

/-- `INSERT OR IGNORE INTO pre_enrollment (serial, model, claimed) VALUES (?, ?, 0)`. -/
def seedPreEnrollment (serial model : String) (db : Db) : Db :=
  let preEnrollment := db.preEnrollment.insertOrIgnore { serial, model, claimed := 0 }
  { db with preEnrollment }

/-- `claim_manifest_entry`: the token is checked before the one-time flag. -/
def claimManifestEntry (serial token : String) (now : Int) (db : Db) : Except Error String × Db :=
  match db.manifest? serial with
  | none => (.error (.notInManifest serial), db)
  | some row =>
    if row.token ≠ token then (.error (.invalidProvisionToken serial), db)
    else if row.provisionedAt.isSome then (.error (.alreadyProvisioned serial), db)
    else (.ok row.model, seedPreEnrollment serial row.model (setProvisioned serial now db))

end RobotFleet.Device
