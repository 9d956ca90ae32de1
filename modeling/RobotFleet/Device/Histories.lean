/-
# Device.Histories -- a `devices` row is the log of the calls about it

The table keeps the latest state of a device only.  `device_is_its_history`: over every
sequence of store calls, the row of an id is the row that the one successful
`create_device` with that id inserted, after the calls of `update_status` and
`touch_last_seen` for this id that followed, in their order; there is a row exactly when
there was such a call.  `get_device`, the page that lists the device and the read-back of
`update_device_status` show this row.

`Theory.Run.run_born_iff` does the induction; `deviceById?_revised` and `deviceById?_born`
are what one call does to the row of one id.
-/
import RobotFleet.Device.LastSeen

namespace RobotFleet.Device

open RobotFleet.Theory
open RobotFleet.Theory.Run

set_option autoImplicit false

/-- What a call does to the row of `id`, once there is one. -/
def DeviceRecord.revise (id : String) (r : DeviceRecord) : StoreOp → DeviceRecord
  | .updateStatus id' status _ => if id' = id then { r with status } else r
  | .touchLastSeen id' now => if id' = id then { r with lastSeenAt := now } else r
  | _ => r

/-- The row that a call inserts under `id`. -/
def bornAs (id : String) (db : Db) : StoreOp → Option DeviceRecord
  | .createDevice d id' now =>
    if id' = id then (createDevice d id' now db).1.toOption else none
  | _ => none

/-- The methods that write `devices`. -/
def StoreOp.writesDevices : StoreOp → Bool
  | .createDevice .. | .updateStatus .. | .touchLastSeen .. => true
  | _ => false

section OneCall

variable {db : Db} {id : String}

theorem deviceById?_of_quiet {op : StoreOp} (quiet : op.writesDevices = false) :
    (exec db op).2.deviceById? id = db.deviceById? id := by
  have stepped := exec_devices db op
  generalize (exec db op).2 = db' at stepped ⊢
  cases stepped with
  | kept _ _ same =>
      unfold Db.deviceById?
      rw [same]
  | created | statusSet | touched => cases quiet

theorem deviceById?_createDevice (d : NewDevice) (id' : String) (now : Int) :
    (createDevice d id' now db).2.deviceById? id =
      ((bornAs id db (.createDevice d id' now)).orElse fun _ => db.deviceById? id) := by
  cases ran : createDevice d id' now db with
  | mk result db' =>
    cases result with
    | error e =>
        rw [createDevice_error ran]
        simp [bornAs, ran, Except.toOption]
    | ok record =>
        obtain ⟨devices, rfl, inserted, rfl⟩ := createDevice_ok ran
        have read := Table.find?_insert inserted .id id
        simp only [bornAs, ran, Except.toOption]
        by_cases named : id' = id
        · subst named
          simpa [Db.deviceById?, DeviceRecord.key, NewDevice.toRecord] using read
        · simpa [Db.deviceById?, DeviceRecord.key, NewDevice.toRecord, named] using read

/-- Nothing is inserted under an id that is taken. -/
theorem bornAs_of_present {r : DeviceRecord} (present : db.deviceById? id = some r) (op : StoreOp) :
    bornAs id db op = none := by
  cases op with
  | createDevice d id' now =>
      simp only [bornAs]
      split
      · rename_i named
        subst named
        have taken : db.devices.insert (d.toRecord id' now) = none :=
          (Table.insert_eq_none_iff _ _).2 ⟨.id, r, Table.mem_of_find? present, Table.key_of_find? present⟩
        simp [createDevice, taken, Except.toOption]
      · rfl
  | _ => rfl

/-- One call, at an id that has a row. -/
theorem deviceById?_revised (op : StoreOp) {r : DeviceRecord} (present : db.deviceById? id = some r) :
    (exec db op).2.deviceById? id = some (r.revise id op) := by
  cases op with
  | createDevice d id' now =>
      refine (deviceById?_createDevice d id' now).trans ?_
      rw [bornAs_of_present present]
      exact present
  | updateStatus id' status reason =>
      refine (deviceById?_updateDevice _ _ id).trans ?_
      rw [present]
      by_cases named : id' = id <;> simp [named, DeviceRecord.revise]
  | touchLastSeen id' now =>
      refine (deviceById?_updateDevice _ _ id).trans ?_
      rw [present]
      by_cases named : id' = id <;> simp [named, DeviceRecord.revise]
  | _ => exact (deviceById?_of_quiet rfl).trans present

/-- One call, at an id that has none. -/
theorem deviceById?_born (op : StoreOp) (absent : db.deviceById? id = none) :
    (exec db op).2.deviceById? id = bornAs id db op := by
  cases op with
  | createDevice d id' now =>
      refine (deviceById?_createDevice d id' now).trans ?_
      rw [absent]
      simp
  | updateStatus id' status reason =>
      refine (deviceById?_updateDevice _ _ id).trans ?_
      simp [absent, bornAs]
  | touchLastSeen id' now =>
      refine (deviceById?_updateDevice _ _ id).trans ?_
      simp [absent, bornAs]
  | _ => exact (deviceById?_of_quiet rfl).trans absent

end OneCall

theorem bornAs_eq_some_iff {id : String} {db : Db} {op : StoreOp} {r : DeviceRecord} :
    bornAs id db op = some r ↔
      ∃ d now, op = .createDevice d id now ∧ (exec db op).1 = .device (.ok r) ∧ r = d.toRecord id now := by
  constructor
  · intro made
    cases op with
    | createDevice d id' now =>
        simp only [bornAs] at made
        split at made
        · rename_i named
          subst named
          cases ran : createDevice d id' now db with
          | mk result db' =>
            cases result with
            | error e => simp [ran, Except.toOption] at made
            | ok record =>
                obtain ⟨-, rfl, -, -⟩ := createDevice_ok ran
                simp only [ran, Except.toOption, Option.some.injEq] at made
                subst made
                exact ⟨d, now, rfl, by simp [exec, ran], rfl⟩
        · cases made
    | _ => cases made
  · rintro ⟨d, now, rfl, answered, -⟩
    have ran : (createDevice d id now db).1 = .ok r := by simpa [exec] using answered
    simp [bornAs, ran, Except.toOption]

/-- **A device is its history.** -/
theorem device_is_its_history (ops : List StoreOp) (id : String) (r : DeviceRecord) :
    (runStore .empty ops).deviceById? id = some r ↔
      ∃ before d now after, ops = before ++ .createDevice d id now :: after ∧
        (exec (runStore .empty before) (.createDevice d id now)).1 = .device (.ok (d.toRecord id now)) ∧
        r = after.foldl (DeviceRecord.revise id) (d.toRecord id now) := by
  have lives : ∀ db op r, Db.deviceById? db id = some r →
      (stateStep exec db op).deviceById? id = some (r.revise id op) :=
    fun db op r present => deviceById?_revised op present
  have starts : ∀ db op, Db.deviceById? db id = none →
      (stateStep exec db op).deviceById? id = bornAs id db op :=
    fun db op absent => deviceById?_born op absent
  have history := run_born_iff (stateStep exec) lives starts (s := Db.empty) rfl ops r
  rw [runStore, history]
  constructor
  · rintro ⟨before, op, after, first, rfl, -, made, rfl⟩
    obtain ⟨d, now, rfl, answered, rfl⟩ := bornAs_eq_some_iff.1 made
    exact ⟨before, d, now, after, rfl, answered, rfl⟩
  · rintro ⟨before, d, now, after, rfl, answered, rfl⟩
    have made := bornAs_eq_some_iff.2 ⟨d, now, rfl, answered, rfl⟩
    refine ⟨before, _, after, _, rfl, ?_, made, rfl⟩
    -- an id that is taken is not inserted again
    by_contra present
    obtain ⟨row, present⟩ := Option.ne_none_iff_exists'.1 present
    rw [runStore, bornAs_of_present present] at made
    cases made

/-- A device that was suspended, came back and sent heartbeats, and another one. -/
example : (runStore .empty
      [.createDevice ⟨"SN-1", "humanoid-v2", "1.0.0", "cert"⟩ "id-1" 100,
        .updateStatus "id-1" "suspended" "stolen", .touchLastSeen "id-1" 110,
        .createDevice ⟨"SN-1", "humanoid-v2", "1.0.0", "cert"⟩ "id-2" 120,
        .updateStatus "id-1" "active" "found", .touchLastSeen "id-1" 130]).deviceById? "id-1" =
    some ⟨"id-1", "SN-1", "humanoid-v2", "1.0.0", "active", "cert", 100, 130⟩ := by decide

end RobotFleet.Device
