/-
# Device.Growth -- what each store method does, and that the tables only grow

First the readings: for every primitive write, the row each serial (or id) has
afterwards, and for every method that can fail, what success and failure say
about the state before and after.  Later modules cite these and do not unfold
the methods.

Then the one fact all of them share.  `Db.Grows` says that a manifest row keeps
its model, its token and a `provisioned_at` once set; that a `pre_enrollment`
row keeps its model; and that the `devices` rows, up to `status` and
`last_seen_at`, are a prefix of the later ones.  It is a preorder and every
store call advances it (`exec_grows`), so it holds between any two states of
any run.
-/
import RobotFleet.Device.Store
import RobotFleet.Theory.Run

namespace RobotFleet.Device

open RobotFleet.Theory
open RobotFleet.Theory.Run

set_option autoImplicit false

/-! ## Readings -/

section Readings

variable (serial serial' model token : String) (claimed now : Int) (db : Db)

@[simp] theorem manifest?_empty : Db.empty.manifest? serial = none := rfl
@[simp] theorem preEnrolled?_empty : Db.empty.preEnrolled? serial = none := rfl

theorem serial_of_manifest? {serial : String} {row : ManifestRow}
    (found : db.manifest? serial = some row) : row.serial = serial :=
  Table.key_of_find? found

theorem serial_of_preEnrolled? {serial : String} {row : PreEnrollmentRow}
    (found : db.preEnrolled? serial = some row) : row.serial = serial :=
  Table.key_of_find? found

theorem seedManifest_manifest? :
    (seedManifest serial model token db).2.manifest? serial' =
      if serial = serial' then some ((db.manifest? serial').getD ⟨serial, model, token, none⟩)
      else db.manifest? serial' :=
  Table.find?_insertOrIgnore _ _ _

theorem setProvisioned_manifest? :
    (setProvisioned serial now db).manifest? serial' =
      if serial = serial' then (db.manifest? serial').map fun r => { r with provisionedAt := some now }
      else db.manifest? serial' :=
  db.factoryManifest.find?_update_key () serial serial'
    (fun r => { r with provisionedAt := some now }) (fun _ _ => rfl)

@[simp] theorem setProvisioned_preEnrolled? :
    (setProvisioned serial now db).preEnrolled? serial' = db.preEnrolled? serial' := rfl

theorem seedPreEnrollment_preEnrolled? :
    (seedPreEnrollment serial model db).preEnrolled? serial' =
      if serial = serial' then some ((db.preEnrolled? serial').getD ⟨serial, model, 0⟩)
      else db.preEnrolled? serial' :=
  Table.find?_insertOrIgnore _ _ _

@[simp] theorem seedPreEnrollment_manifest? :
    (seedPreEnrollment serial model db).manifest? serial' = db.manifest? serial' := rfl

theorem setClaimed_preEnrolled? :
    (setClaimed serial claimed db).preEnrolled? serial' =
      if serial = serial' then (db.preEnrolled? serial').map fun r => { r with claimed }
      else db.preEnrolled? serial' :=
  db.preEnrollment.find?_update_key () serial serial'
    (fun r => { r with claimed }) (fun _ _ => rfl)

/-- The upsert of `register_serial`, row by row. -/
theorem registerSerial_preEnrolled? :
    (registerSerial serial model db).2.preEnrolled? serial' =
      if serial = serial' then
        match db.preEnrolled? serial' with
        | none => some ⟨serial, model, 0⟩
        | some row => if (db.deviceBySerial? serial).isSome then some row
            else some { row with claimed := 0 }
      else db.preEnrolled? serial' := by
  unfold registerSerial
  cases inserted : db.preEnrollment.insert ⟨serial, model, 0⟩ with
  | some preEnrollment =>
      have read : preEnrollment.find? () serial' = _ := Table.find?_insert inserted () serial'
      have absent : db.preEnrolled? serial = none := by
        refine (Table.find?_eq_none_iff _ () serial).2 fun r stored same => ?_
        have free := mt (db.preEnrollment.insert_eq_none_iff ⟨serial, model, 0⟩).2 (by simp [inserted])
        exact free ⟨(), r, stored, same⟩
      change preEnrollment.find? () serial' = _
      rw [read]
      by_cases here : serial = serial'
      · subst here
        simp [absent, PreEnrollmentRow.key]
      · simp only [PreEnrollmentRow.key, here, if_false]
        rfl
  | none =>
      obtain ⟨⟨⟩, row, stored, same⟩ := (db.preEnrollment.insert_eq_none_iff _).1 inserted
      have found : db.preEnrolled? serial = some row :=
        (Table.find?_eq_some_iff _ () serial row).2 ⟨stored, same⟩
      cases enrolled : db.deviceBySerial? serial with
      | some device =>
          by_cases here : serial = serial'
          · subst here; simp [found]
          · simp [here]
      | none =>
          simp only [setClaimed_preEnrolled?]
          by_cases here : serial = serial'
          · subst here; simp [found]
          · simp [here]

@[simp] theorem registerSerial_devices : (registerSerial serial model db).2.devices = db.devices := by
  unfold registerSerial; repeat' split
  all_goals rfl

@[simp] theorem registerSerial_manifest? :
    (registerSerial serial model db).2.manifest? serial' = db.manifest? serial' := by
  unfold registerSerial; repeat' split
  all_goals rfl

end Readings

/-! ## Success and failure of the methods that can fail -/

theorem lookupAndClaim_ok {serial : String} {db db' : Db} {pre : PreEnrollmentRecord}
    (claimed : lookupAndClaim serial db = (.ok pre, db')) :
    ∃ row, db.preEnrolled? serial = some row ∧ row.claimed = 0 ∧
      pre = ⟨serial, row.model⟩ ∧ db' = setClaimed serial 1 db := by
  unfold lookupAndClaim at claimed
  split at claimed
  · cases claimed
  · rename_i row found
    split at claimed
    · cases claimed
    · rename_i free
      cases claimed
      exact ⟨row, found, by simpa using free, rfl, rfl⟩

theorem lookupAndClaim_error {serial : String} {db db' : Db} {e : Error}
    (refused : lookupAndClaim serial db = (.error e, db')) : db' = db := by
  unfold lookupAndClaim at refused
  repeat' split at refused
  all_goals cases refused
  all_goals rfl

theorem claimManifestEntry_ok {serial token model : String} {now : Int} {db db' : Db}
    (claimed : claimManifestEntry serial token now db = (.ok model, db')) :
    ∃ row, db.manifest? serial = some row ∧ row.token = token ∧ row.provisionedAt = none ∧
      model = row.model ∧
      db' = seedPreEnrollment serial row.model (setProvisioned serial now db) := by
  unfold claimManifestEntry at claimed
  split at claimed
  · cases claimed
  · rename_i row found
    split at claimed
    · cases claimed
    · rename_i same
      split at claimed
      · cases claimed
      · rename_i unspent
        cases claimed
        exact ⟨row, found, by simpa using same, by simpa using unspent, rfl, rfl⟩

theorem claimManifestEntry_error {serial token : String} {now : Int} {db db' : Db} {e : Error}
    (refused : claimManifestEntry serial token now db = (.error e, db')) : db' = db := by
  unfold claimManifestEntry at refused
  repeat' split at refused
  all_goals cases refused
  all_goals rfl

theorem createDevice_ok {d : NewDevice} {id : String} {now : Int} {db db' : Db}
    {record : DeviceRecord} (created : createDevice d id now db = (.ok record, db')) :
    ∃ devices, record = d.toRecord id now ∧ db.devices.insert record = some devices ∧
      db' = { db with devices } := by
  unfold createDevice at created
  split at created
  · cases created
  · rename_i devices inserted
    cases created
    exact ⟨devices, rfl, inserted, rfl⟩

theorem createDevice_error {d : NewDevice} {id : String} {now : Int} {db db' : Db} {e : Error}
    (refused : createDevice d id now db = (.error e, db')) : db' = db := by
  unfold createDevice at refused
  split at refused
  · cases refused; rfl
  · cases refused

/-- An update by id rewrites the row list in place, or leaves the state alone. -/
theorem updateDevice_cases (id : String) (change : DeviceRecord → DeviceRecord)
    (keeps : ∀ column r, DeviceRecord.key column (change r) = DeviceRecord.key column r) (db : Db) :
    (updateDevice id change keeps db).2 =
      { db with devices := db.devices.update (fun r => decide (r.id = id)) change keeps } := by
  unfold updateDevice
  split
  · rename_i none_
    rw [Table.update_of_affected_eq_zero _ _ _ _ none_]
  · rfl

/-! ## The tables only grow -/

/-- The part of a device row no store method rewrites. -/
structure Identity where
  id : String
  serial : String
  model : String
  firmware : String
  operationalCertPem : String
  enrolledAt : Int
  deriving DecidableEq, Repr

def DeviceRecord.identity (r : DeviceRecord) : Identity :=
  ⟨r.id, r.serial, r.model, r.firmware, r.operationalCertPem, r.enrolledAt⟩

/-- The devices in the order they were enrolled. -/
def Db.identities (db : Db) : List Identity := db.devices.rows.map DeviceRecord.identity

/-- An update that keeps identities keeps the whole list of them. -/
theorem updateDevice_identities (id : String) (change : DeviceRecord → DeviceRecord)
    (keeps : ∀ column r, DeviceRecord.key column (change r) = DeviceRecord.key column r) (db : Db)
    (same : ∀ r, (change r).identity = r.identity) :
    (updateDevice id change keeps db).2.identities = db.identities := by
  rw [updateDevice_cases]
  unfold Db.identities
  rw [Table.update_rows, List.map_map]
  apply List.map_congr_left
  intro r _
  simp only [Function.comp_apply]
  split
  · exact same r
  · rfl

@[simp] theorem updateStatus_identities (id status reason : String) (db : Db) :
    (updateStatus id status reason db).2.identities = db.identities :=
  updateDevice_identities _ _ _ _ fun _ => rfl

@[simp] theorem touchLastSeen_identities (id : String) (now : Int) (db : Db) :
    (touchLastSeen id now db).2.identities = db.identities :=
  updateDevice_identities _ _ _ _ fun _ => rfl

/-- `updateDevice` writes no other table. -/
@[simp] theorem updateStatus_manifest? (id status reason serial : String) (db : Db) :
    (updateStatus id status reason db).2.manifest? serial = db.manifest? serial := by
  unfold updateStatus; rw [updateDevice_cases]; rfl

@[simp] theorem updateStatus_preEnrolled? (id status reason serial : String) (db : Db) :
    (updateStatus id status reason db).2.preEnrolled? serial = db.preEnrolled? serial := by
  unfold updateStatus; rw [updateDevice_cases]; rfl

@[simp] theorem touchLastSeen_manifest? (id : String) (now : Int) (serial : String) (db : Db) :
    (touchLastSeen id now db).2.manifest? serial = db.manifest? serial := by
  unfold touchLastSeen; rw [updateDevice_cases]; rfl

@[simp] theorem touchLastSeen_preEnrolled? (id : String) (now : Int) (serial : String) (db : Db) :
    (touchLastSeen id now db).2.preEnrolled? serial = db.preEnrolled? serial := by
  unfold touchLastSeen; rw [updateDevice_cases]; rfl

namespace Db

/-- Nothing that was recorded is withdrawn or renamed. -/
structure Grows (db db' : Db) : Prop where
  manifest : ∀ serial row, db.manifest? serial = some row →
    ∃ row', db'.manifest? serial = some row' ∧ row'.model = row.model ∧ row'.token = row.token ∧
      ∀ t, row.provisionedAt = some t → row'.provisionedAt = some t
  preEnrolled : ∀ serial row, db.preEnrolled? serial = some row →
    ∃ row', db'.preEnrolled? serial = some row' ∧ row'.model = row.model
  identities : db.identities <+: db'.identities

theorem Grows.rfl {db : Db} : Grows db db where
  manifest _ row found := ⟨row, found, Eq.refl _, Eq.refl _, fun _ => id⟩
  preEnrolled _ row found := ⟨row, found, Eq.refl _⟩
  identities := List.prefix_refl _

theorem Grows.trans {a b c : Db} (first : Grows a b) (second : Grows b c) : Grows a c where
  manifest serial row found := by
    obtain ⟨row', found', model, token, spent⟩ := first.manifest serial row found
    obtain ⟨row'', found'', model', token', spent'⟩ := second.manifest serial row' found'
    exact ⟨row'', found'', model'.trans model, token'.trans token,
      fun t set => spent' t (spent t set)⟩
  preEnrolled serial row found := by
    obtain ⟨row', found', model⟩ := first.preEnrolled serial row found
    obtain ⟨row'', found'', model'⟩ := second.preEnrolled serial row' found'
    exact ⟨row'', found'', model'.trans model⟩
  identities := first.identities.trans second.identities

instance : Std.Refl Grows := ⟨fun _ => Grows.rfl⟩

instance : IsTrans Db Grows := ⟨fun _ _ _ => Grows.trans⟩

end Db

theorem seedManifest_grows (serial model token : String) (db : Db) :
    db.Grows (seedManifest serial model token db).2 where
  manifest serial' row found := by
    refine ⟨row, ?_, rfl, rfl, fun _ => id⟩
    rw [seedManifest_manifest?, found]
    split <;> rfl
  preEnrolled _ row found := ⟨row, found, rfl⟩
  identities := List.prefix_refl _

theorem setProvisioned_grows {serial : String} {now : Int} {db : Db} {row : ManifestRow}
    (found : db.manifest? serial = some row) (unspent : row.provisionedAt = none) :
    db.Grows (setProvisioned serial now db) where
  manifest serial' row' found' := by
    rw [setProvisioned_manifest?]
    split
    · rename_i here
      subst here
      rw [found] at found'
      cases found'
      refine ⟨{ row with provisionedAt := some now }, by rw [found]; rfl, rfl, rfl, fun t set => ?_⟩
      rw [unspent] at set
      cases set
    · exact ⟨row', found', rfl, rfl, fun _ => id⟩
  preEnrolled _ row found := ⟨row, found, rfl⟩
  identities := List.prefix_refl _

theorem seedPreEnrollment_grows (serial model : String) (db : Db) :
    db.Grows (seedPreEnrollment serial model db) where
  manifest _ row found := ⟨row, found, rfl, rfl, fun _ => id⟩
  preEnrolled serial' row found := by
    refine ⟨row, ?_, rfl⟩
    rw [seedPreEnrollment_preEnrolled?, found]
    split <;> rfl
  identities := List.prefix_refl _

theorem setClaimed_grows (serial : String) (claimed : Int) (db : Db) :
    db.Grows (setClaimed serial claimed db) where
  manifest _ row found := ⟨row, found, rfl, rfl, fun _ => id⟩
  preEnrolled serial' row found := by
    rw [setClaimed_preEnrolled?, found]
    split
    · exact ⟨_, rfl, rfl⟩
    · exact ⟨row, rfl, rfl⟩
  identities := List.prefix_refl _

theorem claimManifestEntry_grows (serial token : String) (now : Int) (db : Db) :
    db.Grows (claimManifestEntry serial token now db).2 := by
  cases ran : claimManifestEntry serial token now db with
  | mk result db' =>
    cases result with
    | error e => rw [claimManifestEntry_error ran]; exact Db.Grows.rfl
    | ok model =>
        obtain ⟨row, found, -, unspent, -, rfl⟩ := claimManifestEntry_ok ran
        exact (setProvisioned_grows found unspent).trans (seedPreEnrollment_grows serial row.model _)

theorem lookupAndClaim_grows (serial : String) (db : Db) :
    db.Grows (lookupAndClaim serial db).2 := by
  cases ran : lookupAndClaim serial db with
  | mk result db' =>
    cases result with
    | error e => rw [lookupAndClaim_error ran]; exact Db.Grows.rfl
    | ok pre =>
        obtain ⟨row, -, -, -, rfl⟩ := lookupAndClaim_ok ran
        exact setClaimed_grows serial 1 db

theorem registerSerial_grows (serial model : String) (db : Db) :
    db.Grows (registerSerial serial model db).2 where
  manifest serial' row found := ⟨row, by rw [registerSerial_manifest?, found], rfl, rfl, fun _ => id⟩
  preEnrolled serial' row found := by
    rw [registerSerial_preEnrolled?, found]
    simp only
    split
    · split
      · exact ⟨row, rfl, rfl⟩
      · exact ⟨_, rfl, rfl⟩
    · exact ⟨row, rfl, rfl⟩
  identities := by simp [Db.identities]

theorem createDevice_grows (d : NewDevice) (id : String) (now : Int) (db : Db) :
    db.Grows (createDevice d id now db).2 := by
  cases ran : createDevice d id now db with
  | mk result db' =>
    cases result with
    | error e => rw [createDevice_error ran]; exact Db.Grows.rfl
    | ok record =>
        obtain ⟨devices, -, inserted, rfl⟩ := createDevice_ok ran
        refine ⟨fun _ row found => ⟨row, found, rfl, rfl, fun _ set => set⟩,
          fun _ row found => ⟨row, found, rfl⟩, ?_⟩
        unfold Db.identities
        rw [Table.insert_rows inserted, List.map_append]
        exact List.prefix_append _ _

/-- A call that writes only `status` or `last_seen_at`. -/
theorem grows_of_identities {db db' : Db} (manifest : ∀ serial, db'.manifest? serial = db.manifest? serial)
    (preEnrolled : ∀ serial, db'.preEnrolled? serial = db.preEnrolled? serial)
    (identities : db'.identities = db.identities) : db.Grows db' where
  manifest serial row found := ⟨row, by rw [manifest, found], rfl, rfl, fun _ => id⟩
  preEnrolled serial row found := ⟨row, by rw [preEnrolled, found], rfl⟩
  identities := by rw [identities]

/-! ## The store as a machine that answers -/

/-- Every `DeviceStore` method, with what the environment supplies to it.
`reopen` is `SqliteDeviceStore::new` on an existing database: `CREATE TABLE IF
NOT EXISTS` leaves the tables as they are. -/
inductive StoreOp where
  | createDevice (d : NewDevice) (id : String) (now : Int)
  | getDevice (id : String)
  | getBySerial (serial : String)
  | updateStatus (id status reason : String)
  | touchLastSeen (id : String) (now : Int)
  | listDevices (model status : Option String) (limit : Int) (cursor : Option String)
  | registerSerial (serial model : String)
  | lookupAndClaim (serial : String)
  | countDevices
  | seedManifest (serial model token : String)
  | claimManifestEntry (serial token : String) (now : Int)
  | reopen
  deriving DecidableEq, Repr

inductive Reply where
  | done (result : Except Error Unit)
  | device (result : Except Error DeviceRecord)
  | page (result : Except Error (List DeviceRecord × Option String))
  | preEnrollment (result : Except Error PreEnrollmentRecord)
  | count (result : Except Error Nat)
  | model (result : Except Error String)
  deriving DecidableEq

def exec (db : Db) : StoreOp → Reply × Db
  | .createDevice d id now => (createDevice d id now db).map .device fun db => db
  | .getDevice id => (.device (getDevice id db), db)
  | .getBySerial serial => (.device (getBySerial serial db), db)
  | .updateStatus id status reason => (updateStatus id status reason db).map .done fun db => db
  | .touchLastSeen id now => (touchLastSeen id now db).map .done fun db => db
  | .listDevices model status limit cursor => (.page (.ok (listDevices model status limit cursor db)), db)
  | .registerSerial serial model => (registerSerial serial model db).map .done fun db => db
  | .lookupAndClaim serial => (lookupAndClaim serial db).map .preEnrollment fun db => db
  | .countDevices => (.count (.ok (countDevices db)), db)
  | .seedManifest serial model token => (seedManifest serial model token db).map .done fun db => db
  | .claimManifestEntry serial token now => (claimManifestEntry serial token now db).map .model fun db => db
  | .reopen => (.done (.ok ()), db)

/-- **The tables only grow.** -/
theorem exec_grows (db : Db) (op : StoreOp) : db.Grows (exec db op).2 := by
  cases op with
  | createDevice d id now => exact createDevice_grows d id now db
  | updateStatus id status reason =>
      exact grows_of_identities (by simp [exec]) (by simp [exec]) (by simp [exec])
  | touchLastSeen id now =>
      exact grows_of_identities (by simp [exec]) (by simp [exec]) (by simp [exec])
  | registerSerial serial model => exact registerSerial_grows serial model db
  | lookupAndClaim serial => exact lookupAndClaim_grows serial db
  | seedManifest serial model token => exact seedManifest_grows serial model token db
  | claimManifestEntry serial token now => exact claimManifestEntry_grows serial token now db
  | getDevice | getBySerial | listDevices | countDevices | reopen => exact Db.Grows.rfl

/-- What a call can do to the `devices` table: nothing, one row more, or one column
of one row. -/
inductive DevicesStep (db : Db) : StoreOp → Db → Prop
  | kept (op : StoreOp) (db' : Db) : db'.devices = db.devices → DevicesStep db op db'
  | created (d : NewDevice) (id : String) (now : Int) (db' : Db) :
      db.devices.insert (d.toRecord id now) = some db'.devices →
      DevicesStep db (.createDevice d id now) db'
  | statusSet (id status reason : String) (db' : Db) :
      db'.devices.rows = db.devices.rows.map (fun r => if r.id = id then { r with status } else r) →
      DevicesStep db (.updateStatus id status reason) db'
  | touched (id : String) (now : Int) (db' : Db) :
      db'.devices.rows =
        db.devices.rows.map (fun r => if r.id = id then { r with lastSeenAt := now } else r) →
      DevicesStep db (.touchLastSeen id now) db'

theorem updateDevice_rows (id : String) (change : DeviceRecord → DeviceRecord)
    (keeps : ∀ column r, DeviceRecord.key column (change r) = DeviceRecord.key column r) (db : Db) :
    (updateDevice id change keeps db).2.devices.rows =
      db.devices.rows.map fun r => if r.id = id then change r else r := by
  rw [updateDevice_cases]
  refine (Table.update_rows db.devices (fun r => decide (r.id = id)) change keeps).trans ?_
  simp

theorem exec_devices (db : Db) (op : StoreOp) : DevicesStep db op (exec db op).2 := by
  cases op with
  | createDevice d id now =>
      cases ran : createDevice d id now db with
      | mk result db' =>
        have reached : (exec db (.createDevice d id now)).2 = db' := by simp [exec, ran]
        rw [reached]
        cases result with
        | error e => exact .kept _ _ (by rw [createDevice_error ran])
        | ok record =>
            obtain ⟨devices, rfl, inserted, rfl⟩ := createDevice_ok ran
            exact .created d id now _ inserted
  | updateStatus id status reason => exact .statusSet _ _ _ _ (updateDevice_rows ..)
  | touchLastSeen id now => exact .touched _ _ _ (updateDevice_rows ..)
  | registerSerial serial model => exact .kept _ _ (by simp [exec])
  | lookupAndClaim serial =>
      refine .kept _ _ ?_
      show (lookupAndClaim serial db).2.devices = db.devices
      unfold lookupAndClaim
      repeat' split
      all_goals rfl
  | claimManifestEntry serial token now =>
      refine .kept _ _ ?_
      show (claimManifestEntry serial token now db).2.devices = db.devices
      unfold claimManifestEntry
      repeat' split
      all_goals rfl
  | seedManifest | getDevice | getBySerial | listDevices | countDevices | reopen =>
      exact .kept _ _ rfl

/-- The tables after a sequence of store calls. -/
def runStore (db : Db) (ops : List StoreOp) : Db := run (stateStep exec) db ops

theorem runStore_append (db : Db) (first second : List StoreOp) :
    runStore db (first ++ second) = runStore (runStore db first) second :=
  run_append (stateStep exec) db first second

theorem runStore_concat (db : Db) (ops : List StoreOp) (op : StoreOp) :
    runStore db (ops ++ [op]) = (exec (runStore db ops) op).2 :=
  run_concat (stateStep exec) db ops op

theorem runStore_grows (db : Db) (ops : List StoreOp) : db.Grows (runStore db ops) :=
  run_preorder (stateStep exec) exec_grows db ops

end RobotFleet.Device
