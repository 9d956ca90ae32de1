/-
# Device.Isolation -- one robot's records do not depend on the others

The rows that concern one serial, one in each table, are a `Slot`.  `Slot.exec` is
the store as a single robot sees it: it reads and writes one slot.  The store of
all robots refines it (`exec_own`): a call that belongs to a serial answers and
acts as `Slot.exec` on that serial's slot, and leaves every other slot alone
(`exec_silent`).  An update by id belongs to the serial of the device with that
id.

So the store unwinds in the sense of `Theory.Isolation`, and
`per_serial_isolation` is its two rules for the device tables.
-/
import RobotFleet.Device.Claims
import RobotFleet.Theory.Isolation

namespace RobotFleet.Device

open RobotFleet.Theory
open RobotFleet.Theory.Run
open RobotFleet.Theory.Isolation

set_option autoImplicit false

/-! ## The store of one robot -/

/-- The rows of one serial. -/
structure Slot where
  manifest : Option ManifestRow
  preEnrolled : Option PreEnrollmentRow
  device : Option DeviceRecord
  deriving DecidableEq

def Db.slot (db : Db) (serial : String) : Slot :=
  ⟨db.manifest? serial, db.preEnrolled? serial, db.deviceBySerial? serial⟩

namespace Slot

/-- An update of the device, if there is one. -/
def updateDevice (slot : Slot) (id : String) (change : DeviceRecord → DeviceRecord) : Reply × Slot :=
  match slot.device with
  | none => (.done (.error (.notFound id)), slot)
  | some r => (.done (.ok ()), { slot with device := some (change r) })

/-- A call of the slot's serial; the calls that belong to no serial do nothing. -/
def exec (slot : Slot) : StoreOp → Reply × Slot
  | .createDevice d id now =>
    match slot.device with
    | some _ => (.device (.error (.alreadyEnrolled d.serial)), slot)
    | none => (.device (.ok (d.toRecord id now)), { slot with device := some (d.toRecord id now) })
  | .getDevice value | .getBySerial value =>
    match slot.device with
    | none => (.device (.error (.notFound value)), slot)
    | some r => (.device (.ok r), slot)
  | .updateStatus id status _ => slot.updateDevice id fun r => { r with status }
  | .touchLastSeen id now => slot.updateDevice id fun r => { r with lastSeenAt := now }
  | .registerSerial serial model =>
    match slot.preEnrolled with
    | none => (.done (.ok ()), { slot with preEnrolled := some ⟨serial, model, 0⟩ })
    | some row =>
      if slot.device.isSome then (.done (.ok ()), slot)
      else (.done (.ok ()), { slot with preEnrolled := some { row with claimed := 0 } })
  | .lookupAndClaim serial =>
    match slot.preEnrolled with
    | none => (.preEnrollment (.error (.notPreEnrolled serial)), slot)
    | some row =>
      if row.claimed ≠ 0 then (.preEnrollment (.error (.serialAlreadyClaimed serial)), slot)
      else (.preEnrollment (.ok ⟨serial, row.model⟩),
        { slot with preEnrolled := some { row with claimed := 1 } })
  | .seedManifest serial model token =>
    (.done (.ok ()), { slot with manifest := some (slot.manifest.getD ⟨serial, model, token, none⟩) })
  | .claimManifestEntry serial token now =>
    match slot.manifest with
    | none => (.model (.error (.notInManifest serial)), slot)
    | some row =>
      if row.token ≠ token then (.model (.error (.invalidProvisionToken serial)), slot)
      else if row.provisionedAt.isSome then (.model (.error (.alreadyProvisioned serial)), slot)
      else (.model (.ok row.model),
        { slot with manifest := some { row with provisionedAt := some now },
                    preEnrolled := some (slot.preEnrolled.getD ⟨serial, row.model, 0⟩) })
  | .listDevices .. | .countDevices | .reopen => (.done (.ok ()), slot)

end Slot

/-- The serial a call belongs to, if any. -/
def owner (db : Db) : StoreOp → Option String
  | .createDevice d _ _ => some d.serial
  | .getDevice id | .updateStatus id _ _ | .touchLastSeen id _ => (db.deviceById? id).map (·.serial)
  | .getBySerial serial | .registerSerial serial _ | .lookupAndClaim serial | .seedManifest serial _ _
  | .claimManifestEntry serial _ _ => some serial
  | .listDevices .. | .countDevices | .reopen => none

/-- A generated id is not in use. -/
def FreshId (db : Db) : StoreOp → Prop
  | .createDevice _ id _ => db.deviceById? id = none
  | _ => True

/-! ## What a call does to the slots -/

theorem createDevice_manifest? (d : NewDevice) (id : String) (now : Int) (db : Db)
    (serial : String) : (createDevice d id now db).2.manifest? serial = db.manifest? serial := by
  unfold createDevice
  split <;> rfl

theorem updateDevice_deviceBySerial? (id : String) (change : DeviceRecord → DeviceRecord)
    (keeps : ∀ column r, DeviceRecord.key column (change r) = DeviceRecord.key column r) (db : Db)
    (serial : String) :
    (updateDevice id change keeps db).2.deviceBySerial? serial =
      (db.deviceBySerial? serial).map fun r => if r.id = id then change r else r := by
  rw [updateDevice_cases]
  have read := db.devices.find?_update (fun r => decide (r.id = id)) change keeps .serial serial
  simp only [decide_eq_true_eq] at read
  exact read

/-- The device under an id is the device under its serial. -/
theorem deviceBySerial?_of_id {db : Db} {id : String} {r : DeviceRecord}
    (found : db.deviceById? id = some r) : db.deviceBySerial? r.serial = some r ∧ r.id = id :=
  ⟨db.devices.find?_self .serial (Table.mem_of_find? found), Table.key_of_find? found⟩

theorem deviceById?_of_serial {db : Db} {serial : String} {r : DeviceRecord}
    (found : db.deviceBySerial? serial = some r) : db.deviceById? r.id = some r ∧ r.serial = serial :=
  ⟨db.devices.find?_self .id (Table.mem_of_find? found), Table.key_of_find? found⟩

/-- An update by id is not seen under the serials of other devices. -/
theorem updateDevice_silent {id serial : String} {change : DeviceRecord → DeviceRecord}
    (keeps : ∀ column r, DeviceRecord.key column (change r) = DeviceRecord.key column r) {db : Db}
    (other : (db.deviceById? id).map (·.serial) ≠ some serial) :
    (updateDevice id change keeps db).2.slot serial = db.slot serial := by
  have devices : (updateDevice id change keeps db).2.deviceBySerial? serial =
      db.deviceBySerial? serial := by
    rw [updateDevice_deviceBySerial?]
    cases found : db.deviceBySerial? serial with
    | none => rfl
    | some r =>
        obtain ⟨byId, named⟩ := deviceById?_of_serial found
        have elsewhere : r.id ≠ id := by
          intro here
          rw [here] at byId
          rw [byId, Option.map_some, named] at other
          exact other rfl
        rw [Option.map_some, if_neg elsewhere]
  unfold Db.slot
  rw [devices, updateDevice_cases]
  rfl

/-- A call leaves the slots of the serials it does not belong to. -/
theorem exec_silent {db : Db} {op : StoreOp} {serial : String} (other : owner db op ≠ some serial) :
    (exec db op).2.slot serial = db.slot serial := by
  cases op with
  | getDevice | getBySerial | listDevices | countDevices | reopen => rfl
  | updateStatus id status reason => exact updateDevice_silent _ other
  | touchLastSeen id now => exact updateDevice_silent _ other
  | createDevice d id now =>
      have elsewhere : d.serial ≠ serial := fun same => other (congrArg some same)
      have devices : (createDevice d id now db).2.deviceBySerial? serial = db.deviceBySerial? serial := by
        unfold createDevice
        cases inserted : db.devices.insert (d.toRecord id now) with
        | none => rfl
        | some devices => exact (Table.find?_insert inserted .serial serial).trans (if_neg elsewhere)
      show (createDevice d id now db).2.slot serial = db.slot serial
      unfold Db.slot
      rw [devices, createDevice_manifest?, createDevice_preEnrolled?]
  | registerSerial serial' model =>
      have elsewhere : serial' ≠ serial := fun same => other (congrArg some same)
      show (registerSerial serial' model db).2.slot serial = db.slot serial
      unfold Db.slot Db.deviceBySerial?
      rw [registerSerial_manifest?, registerSerial_devices, registerSerial_preEnrolled?, if_neg elsewhere]
  | lookupAndClaim serial' =>
      have elsewhere : serial' ≠ serial := fun same => other (congrArg some same)
      show (lookupAndClaim serial' db).2.slot serial = db.slot serial
      cases ran : lookupAndClaim serial' db with
      | mk result db' =>
        cases result with
        | error e => rw [lookupAndClaim_error ran]
        | ok pre =>
            obtain ⟨row, -, -, -, rfl⟩ := lookupAndClaim_ok ran
            unfold Db.slot
            rw [setClaimed_preEnrolled?, if_neg elsewhere]
            rfl
  | seedManifest serial' model token =>
      have elsewhere : serial' ≠ serial := fun same => other (congrArg some same)
      show (seedManifest serial' model token db).2.slot serial = db.slot serial
      unfold Db.slot
      rw [seedManifest_manifest?, if_neg elsewhere]
      rfl
  | claimManifestEntry serial' token now =>
      have elsewhere : serial' ≠ serial := fun same => other (congrArg some same)
      show (claimManifestEntry serial' token now db).2.slot serial = db.slot serial
      cases ran : claimManifestEntry serial' token now db with
      | mk result db' =>
        cases result with
        | error e => rw [claimManifestEntry_error ran]
        | ok model =>
            obtain ⟨row, -, -, -, -, rfl⟩ := claimManifestEntry_ok ran
            unfold Db.slot
            rw [seedPreEnrollment_preEnrolled?, if_neg elsewhere, seedPreEnrollment_manifest?,
              setProvisioned_manifest?, if_neg elsewhere]
            rfl

/-- A call by id that belongs to a serial finds the device of that serial. -/
theorem device_of_owner {db : Db} {id serial : String}
    (mine : (db.deviceById? id).map (·.serial) = some serial) :
    ∃ r, db.deviceById? id = some r ∧ db.deviceBySerial? serial = some r ∧ r.id = id := by
  obtain ⟨r, found, rfl⟩ := Option.map_eq_some_iff.1 mine
  obtain ⟨bySerial, named⟩ := deviceBySerial?_of_id found
  exact ⟨r, found, bySerial, named⟩

theorem updateDevice_own {id serial : String} {change : DeviceRecord → DeviceRecord}
    (keeps : ∀ column r, DeviceRecord.key column (change r) = DeviceRecord.key column r) {db : Db}
    (mine : (db.deviceById? id).map (·.serial) = some serial) :
    .done (updateDevice id change keeps db).1 = ((db.slot serial).updateDevice id change).1 ∧
      (updateDevice id change keeps db).2.slot serial = ((db.slot serial).updateDevice id change).2 := by
  obtain ⟨r, found, bySerial, named⟩ := device_of_owner mine
  have present : ¬ db.devices.affected (fun r => decide (r.id = id)) = 0 := by
    intro zero
    have absent : db.deviceById? id = none := (db.devices.affected_eq_zero_iff .id id).1 zero
    rw [found] at absent
    cases absent
  have devices := updateDevice_deviceBySerial? id change keeps db serial
  rw [bySerial, Option.map_some, if_pos named] at devices
  constructor
  · simp only [updateDevice, if_neg present, Slot.updateDevice, Db.slot, bySerial]
  · rw [Db.slot, devices, updateDevice_cases]
    simp only [Slot.updateDevice, Db.slot, bySerial]
    rfl

/-- The store answers a call and acts on a serial's slot as the store of that one
robot does. -/
def ActsAsSlot (db : Db) (op : StoreOp) (serial : String) : Prop :=
  (exec db op).1 = ((db.slot serial).exec op).1 ∧
    (exec db op).2.slot serial = ((db.slot serial).exec op).2

section Own

variable {db : Db} {id serial model token : String} {now : Int}

theorem getDevice_own (mine : (db.deviceById? id).map (·.serial) = some serial) :
    ActsAsSlot db (.getDevice id) serial := by
  obtain ⟨r, found, bySerial, -⟩ := device_of_owner mine
  have read : getDevice id db = .ok r := by
    unfold getDevice getBy
    rw [show db.devices.find? .id id = some r from found]
  constructor
  · simp only [exec, read, Slot.exec, Db.slot, bySerial]
  · simp only [exec, Slot.exec, Db.slot, bySerial]

theorem getBySerial_own : ActsAsSlot db (.getBySerial serial) serial := by
  have read : getBySerial serial db = match db.deviceBySerial? serial with
      | none => .error (.notFound serial)
      | some r => .ok r := rfl
  cases found : db.deviceBySerial? serial with
  | none => simp only [ActsAsSlot, exec, read, Slot.exec, Db.slot, found, and_self]
  | some r => simp only [ActsAsSlot, exec, read, Slot.exec, Db.slot, found, and_self]

theorem createDevice_own {d : NewDevice} (fresh : db.deviceById? id = none) :
    ActsAsSlot db (.createDevice d id now) d.serial := by
  cases inserted : db.devices.insert (d.toRecord id now) with
  | none =>
      -- the id is fresh, so it is the serial that conflicts
      obtain ⟨column, r, stored, same⟩ := (db.devices.insert_eq_none_iff _).1 inserted
      have enrolled : db.deviceBySerial? d.serial = some r := by
        cases column with
        | serial => exact (db.devices.find?_eq_some_iff .serial d.serial r).2 ⟨stored, same⟩
        | id => exact absurd same ((db.devices.find?_eq_none_iff .id id).1 fresh r stored)
      simp [ActsAsSlot, exec, createDevice, inserted, Slot.exec, Db.slot, enrolled]
  | some devices =>
      have absent : db.deviceBySerial? d.serial = none := by
        refine (db.devices.find?_eq_none_iff .serial d.serial).2 fun r stored same => ?_
        have free := mt (db.devices.insert_eq_none_iff (d.toRecord id now)).2 (by simp [inserted])
        exact free ⟨.serial, r, stored, same⟩
      have read : devices.find? .serial d.serial = some (d.toRecord id now) :=
        (Table.find?_insert inserted .serial d.serial).trans (if_pos rfl)
      constructor
      · simp [exec, createDevice, inserted, Slot.exec, Db.slot, absent]
      · simp only [exec, createDevice, inserted, Slot.exec, Db.slot, absent, Prod.map]
        rw [show Db.deviceBySerial? { db with devices } d.serial = some (d.toRecord id now) from read]
        rfl

theorem registerSerial_own : ActsAsSlot db (.registerSerial serial model) serial := by
  have read := registerSerial_preEnrolled? serial serial model db
  rw [if_pos rfl] at read
  have replied : (registerSerial serial model db).1 = .ok () := by
    unfold registerSerial
    repeat' split
    all_goals rfl
  have after : (exec db (.registerSerial serial model)).2.slot serial =
      { db.slot serial with preEnrolled := (registerSerial serial model db).2.preEnrolled? serial } := by
    simp only [exec, Prod.map, Db.slot, Db.deviceBySerial?, registerSerial_manifest?,
      registerSerial_devices]
  unfold ActsAsSlot
  rw [after, read]
  simp only [exec, Prod.map, replied, Slot.exec, Db.slot]
  cases found : db.preEnrolled? serial with
  | none => exact ⟨rfl, rfl⟩
  | some row =>
      by_cases enrolled : (db.deviceBySerial? serial).isSome = true
      · simp only [enrolled, if_true, and_self]
      · simp only [enrolled, if_false, Bool.false_eq_true, and_self]

theorem lookupAndClaim_own : ActsAsSlot db (.lookupAndClaim serial) serial := by
  cases found : db.preEnrolled? serial with
  | none => simp [ActsAsSlot, exec, lookupAndClaim, Slot.exec, Db.slot, found]
  | some row =>
      by_cases free : row.claimed = 0
      · have read := setClaimed_preEnrolled? serial serial 1 db
        rw [if_pos rfl, found, Option.map_some] at read
        have after : (exec db (.lookupAndClaim serial)).2 = setClaimed serial 1 db := by
          simp [exec, lookupAndClaim, found, free]
        refine ⟨by simp [exec, lookupAndClaim, Slot.exec, Db.slot, found, free], ?_⟩
        rw [after, Db.slot, read]
        simp only [Slot.exec, Db.slot, found, free, ne_eq, not_true_eq_false, if_false]
        rfl
      · simp [ActsAsSlot, exec, lookupAndClaim, Slot.exec, Db.slot, found, free]

theorem seedManifest_own : ActsAsSlot db (.seedManifest serial model token) serial := by
  have read := seedManifest_manifest? serial serial model token db
  rw [if_pos rfl] at read
  refine ⟨rfl, ?_⟩
  simp only [exec, Prod.map, Db.slot, Slot.exec, read]
  rfl

theorem claimManifestEntry_own : ActsAsSlot db (.claimManifestEntry serial token now) serial := by
  cases found : db.manifest? serial with
  | none => simp [ActsAsSlot, exec, claimManifestEntry, Slot.exec, Db.slot, found]
  | some row =>
      by_cases wrong : row.token ≠ token
      · simp [ActsAsSlot, exec, claimManifestEntry, Slot.exec, Db.slot, found, wrong]
      · by_cases spent : row.provisionedAt.isSome = true
        · simp [ActsAsSlot, exec, claimManifestEntry, Slot.exec, Db.slot, found, wrong, spent]
        · have manifest := setProvisioned_manifest? serial serial now db
          have preEnrolled := seedPreEnrollment_preEnrolled? serial serial row.model
            (setProvisioned serial now db)
          rw [if_pos rfl, found, Option.map_some] at manifest
          rw [if_pos rfl, setProvisioned_preEnrolled?] at preEnrolled
          have after : (exec db (.claimManifestEntry serial token now)).2 =
              seedPreEnrollment serial row.model (setProvisioned serial now db) := by
            simp [exec, claimManifestEntry, found, wrong, spent]
          refine ⟨by simp [exec, claimManifestEntry, Slot.exec, Db.slot, found, wrong, spent], ?_⟩
          rw [after, Db.slot, preEnrolled, seedPreEnrollment_manifest?, manifest]
          simp only [Slot.exec, Db.slot, found, wrong, spent, if_false, Bool.false_eq_true]
          rfl

/-- **The store refines the store of one robot**, call by call. -/
theorem exec_own {op : StoreOp} (mine : owner db op = some serial) (fresh : FreshId db op) :
    ActsAsSlot db op serial := by
  cases op with
  | listDevices | countDevices | reopen => cases mine
  | getDevice id => exact getDevice_own mine
  | updateStatus id status reason => exact updateDevice_own _ mine
  | touchLastSeen id now => exact updateDevice_own _ mine
  | createDevice d id now =>
      cases mine
      exact createDevice_own fresh
  | getBySerial => cases mine; exact getBySerial_own
  | registerSerial => cases mine; exact registerSerial_own
  | lookupAndClaim => cases mine; exact lookupAndClaim_own
  | seedManifest => cases mine; exact seedManifest_own
  | claimManifestEntry => cases mine; exact claimManifestEntry_own

end Own

/-- Whom a call belongs to shows in the slot it belongs to. -/
theorem owner_of_slot {db db' : Db} {op : StoreOp} {serial : String} (mine : owner db op = some serial)
    (same : db.slot serial = db'.slot serial) : owner db' op = some serial := by
  have byId : ∀ id, (db.deviceById? id).map (·.serial) = some serial →
      (db'.deviceById? id).map (·.serial) = some serial := by
    intro id owned
    obtain ⟨r, -, bySerial, rfl⟩ := device_of_owner owned
    have bySerial' : db'.deviceBySerial? serial = some r :=
      (congrArg Slot.device same).symm.trans bySerial
    obtain ⟨found', named⟩ := deviceById?_of_serial bySerial'
    rw [found', Option.map_some, named]
  cases op with
  | getDevice id => exact byId id mine
  | updateStatus id status reason => exact byId id mine
  | touchLastSeen id now => exact byId id mine
  | createDevice | getBySerial | registerSerial | lookupAndClaim | seedManifest | claimManifestEntry
  | listDevices | countDevices | reopen => exact mine

theorem store_unwinding : Unwinding exec owner Db.slot FreshId where
  silent := exec_silent
  own := by
    intro db db' op serial mine fresh fresh' same
    have mine' := owner_of_slot mine same
    obtain ⟨answered, after⟩ := exec_own mine fresh
    obtain ⟨answered', after'⟩ := exec_own mine' fresh'
    refine ⟨mine', ?_, ?_⟩
    · rw [answered, answered', same]
    · rw [after, after', same]

/-! ## Distinct ids -/

/-- The id that a `create_device` call generated. -/
def StoreOp.createdId : StoreOp → Option String
  | .createDevice _ id _ => some id
  | _ => none

/-- A device that a call adds has the id that the call generated. -/
theorem exec_ids {db : Db} {op : StoreOp} {device : Identity}
    (stored : device ∈ (exec db op).2.identities) :
    device ∈ db.identities ∨ op.createdId = some device.id := by
  cases op with
  | createDevice d id now =>
      cases ran : createDevice d id now db with
      | mk result db' =>
        have after : (exec db (.createDevice d id now)).2 = db' := by simp only [exec, ran, Prod.map]
        rw [after] at stored
        cases result with
        | error e =>
            rw [createDevice_error ran] at stored
            exact Or.inl stored
        | ok record =>
            rw [createDevice_identities ran, List.mem_append, List.mem_singleton] at stored
            rcases stored with old | rfl
            · exact Or.inl old
            · exact Or.inr rfl
  | lookupAndClaim serial =>
      have same := lookupAndClaim_identities serial db
      exact Or.inl (same ▸ stored)
  | getDevice | getBySerial | updateStatus | touchLastSeen | listDevices | registerSerial | countDevices
  | seedManifest | claimManifestEntry | reopen =>
      rw [exec_direct_identities db rfl] at stored
      exact Or.inl stored

/-- Ids that are generated at most once are fresh when they are used. -/
theorem guarded_freshId {db : Db} {ops : List StoreOp}
    (unused : ∀ device ∈ db.identities, device.id ∉ ops.filterMap StoreOp.createdId)
    (distinct : (ops.filterMap StoreOp.createdId).Nodup) :
    Guarded (stateStep exec) FreshId db ops := by
  induction ops generalizing db with
  | nil => trivial
  | cons op rest ih =>
      have sub : ∀ id ∈ rest.filterMap StoreOp.createdId,
          id ∈ (op :: rest).filterMap StoreOp.createdId := by
        intro id member
        rw [List.filterMap_cons]
        split
        · exact member
        · exact List.mem_cons_of_mem _ member
      refine ⟨?_, ih ?_ ?_⟩
      · cases op with
        | createDevice d id now =>
            refine (db.devices.find?_eq_none_iff .id id).2 fun r stored same => ?_
            refine unused r.identity (List.mem_map_of_mem stored) ?_
            rw [show r.identity.id = id from same]
            exact List.mem_cons_self
        | getDevice | getBySerial | updateStatus | touchLastSeen | listDevices | registerSerial
        | lookupAndClaim | countDevices | seedManifest | claimManifestEntry | reopen => trivial
      · intro device stored member
        rcases exec_ids stored with old | created
        · exact unused device old (sub _ member)
        · rw [List.filterMap_cons, created] at distinct
          exact (List.nodup_cons.1 distinct).1 member
      · rw [List.filterMap_cons] at distinct
        split at distinct
        · exact distinct
        · exact (List.nodup_cons.1 distinct).2

theorem guarded_freshId_empty {ops : List StoreOp}
    (distinct : (ops.filterMap StoreOp.createdId).Nodup) :
    Guarded (stateStep exec) FreshId .empty ops :=
  guarded_freshId (fun _ stored => by cases stored) distinct

/-! ## Two runs -/

/-- **Per-serial isolation.**  In every run of store calls whose generated ids are
distinct, the calls of a serial are answered, and its rows end, as if nobody else
had called; and neighbouring calls of different serials may be swapped without
any serial noticing. -/
theorem per_serial_isolation (ops : List StoreOp)
    (distinct : (ops.filterMap StoreOp.createdId).Nodup) :
    (∀ serial,
      ownTrace exec owner serial .empty ops = trace exec .empty (ownCalls exec owner serial .empty ops) ∧
      (runStore .empty ops).slot serial =
        (runStore .empty (ownCalls exec owner serial .empty ops)).slot serial) ∧
    ∀ before a b after serial serial', ops = before ++ a :: b :: after → serial ≠ serial' →
      owner (runStore .empty before) a = some serial → owner (runStore .empty before) b = some serial' →
      ∀ s, ownTrace exec owner s .empty ops = ownTrace exec owner s .empty (before ++ b :: a :: after) ∧
        (runStore .empty ops).slot s = (runStore .empty (before ++ b :: a :: after)).slot s := by
  have guarded := guarded_freshId_empty distinct
  constructor
  · intro serial
    have sub := ownCalls_sublist exec owner serial .empty ops
    have alone := guarded_freshId_empty (distinct.sublist (sub.filterMap StoreOp.createdId))
    exact isolated store_unwinding rfl guarded alone
  · intro before a b after serial serial' split apart first second s
    subst split
    have swapped : (before ++ b :: a :: after).Perm (before ++ a :: b :: after) :=
      (List.Perm.swap a b after).append_left before
    have guarded' := guarded_freshId_empty
      ((swapped.filterMap StoreOp.createdId).nodup_iff.2 distinct)
    exact swap store_unwinding first second apart guarded guarded' s

/-- Two robots that are provisioned, enrolled and updated side by side. -/
def Toy.sideBySide : List StoreOp :=
  [.seedManifest "SN-1" "humanoid-v2" "token-1", .seedManifest "SN-2" "humanoid-v2" "token-2",
   .claimManifestEntry "SN-1" "token-1" 100, .claimManifestEntry "SN-2" "token-2" 100,
   .lookupAndClaim "SN-2", .lookupAndClaim "SN-1",
   .createDevice ⟨"SN-1", "humanoid-v2", "1.0.0", "cert-1"⟩ "id-1" 200,
   .createDevice ⟨"SN-2", "humanoid-v2", "1.0.0", "cert-2"⟩ "id-2" 200,
   .updateStatus "id-2" "suspended" "lost", .touchLastSeen "id-1" 300]

theorem per_serial_isolation_sideBySide :
    (ownCalls exec owner "SN-1" .empty Toy.sideBySide).length = 5 ∧
    (runStore .empty Toy.sideBySide).slot "SN-1" =
      (runStore .empty (ownCalls exec owner "SN-1" .empty Toy.sideBySide)).slot "SN-1" :=
  ⟨by decide, ((per_serial_isolation Toy.sideBySide (by decide)).1 "SN-1").2⟩

end RobotFleet.Device
