/-
# Robot.Telemetry -- the joint-state stream between the simulator and the agent

The encoder is `_encode_frame` of `simulator/controller/robot_controller.py`; the
decoder is `parse_frame` and the read loop of `run_from_socket` in
`robot-agent/src/telemetry.rs`.  A double is its 64-bit pattern.  What Python
refuses to pack is `none`; a slice out of range or an overflow in Rust is a
`Panic`, apart from the `None` that `parse_frame` returns.

* `parseFrame_of_fits` gives the frame that a long enough payload parses to.
* `telemetry_stream_codec`: whatever the chunks, the loop emits what was encoded,
  frame by frame; payloads that do not parse and an unfinished last frame leave
  no trace.
-/
import Mathlib.Algebra.Group.Int.Defs
import Mathlib.Data.List.Forall2
import RobotFleet.Theory.Bytes
import RobotFleet.Theory.Calls

namespace RobotFleet.Robot

open RobotFleet.Theory.Bytes
open RobotFleet.Theory.Calls (Timestamp)

set_option autoImplicit false

/-! ## The encoder -/

/-- `struct.pack(">q", x)`: eight bytes of two's complement, or `struct.error`. -/
def packQ (x : Int) : Option (List UInt8) :=
  if -2 ^ 63 ≤ x ∧ x < 2 ^ 63 then some (toBe 8 (Int64.ofInt x).toUInt64.toNat) else none

/-- `struct.pack(">I", n)`. -/
def packI (n : Nat) : Option (List UInt8) :=
  if n < 2 ^ 32 then some (toBe 4 n) else none

def encodeF64 (bits : UInt64) : List UInt8 := toBe 8 bits.toNat

/-- `struct.pack(f">{n}d", *values)`: the count has to match. -/
def packD (n : Nat) (values : List UInt64) : Option (List UInt8) :=
  if values.length = n then some (values.flatMap encodeF64) else none

/-- `_encode_frame`. -/
def encodeFrame (timestampNs : Int) (positions torques : List UInt64) : Option (List UInt8) := do
  let n := positions.length
  let payload := (← packQ timestampNs) ++ (← packI n) ++ (← packD n positions) ++ (← packD n torques)
  return (← packI payload.length) ++ payload

/-! ## The decoder -/

structure JointStatus where
  name : String
  positionRad : UInt64
  torqueNm : UInt64
  temperatureC : UInt64
  deriving DecidableEq

structure SensorReading where
  sensorId : String
  type : String
  payload : List UInt8
  deriving DecidableEq

structure TelemetryFrame where
  deviceId : String
  recordedAt : Option Timestamp
  joints : List JointStatus
  sensors : List SensorReading
  metrics : List (String × UInt64)
  deriving DecidableEq

def jointNames : List String :=
  ["panda_joint1", "panda_joint2", "panda_joint3", "panda_joint4", "panda_joint5", "panda_joint6"]

/-- `35.0` as an `f64`. -/
def temperature : UInt64 := 0x4041800000000000

inductive Panic where
  | arithmeticOverflow
  | sliceOutOfRange
  deriving DecidableEq, Repr

/-- A function that returns an `Option` and may panic. -/
abbrev Parse (α : Type) := OptionT (Except Panic) α

/-- `+` on a 64-bit `usize`. -/
def uadd (a b : Nat) : Parse Nat :=
  if a + b < 2 ^ 64 then pure (a + b) else OptionT.lift (throw .arithmeticOverflow)

def umul (a b : Nat) : Parse Nat :=
  if a * b < 2 ^ 64 then pure (a * b) else OptionT.lift (throw .arithmeticOverflow)

/-- `payload[lo..hi]`. -/
def slice (payload : List UInt8) (lo hi : Nat) : Parse (List UInt8) :=
  if lo ≤ hi ∧ hi ≤ payload.length then pure (fieldAt payload lo (hi - lo))
  else OptionT.lift (throw .sliceOutOfRange)

/-- `from_be_bytes(payload[lo..hi].try_into().ok()?)` into an array of `width` bytes. -/
def fromBeBytes (width : Nat) (payload : List UInt8) (lo hi : Nat) : Parse Nat := do
  let bytes ← slice payload lo hi
  if bytes.length = width then pure (ofBe bytes) else failure

/-- The body of the loop over the joints. -/
def parseJoint (payload : List UInt8) (jointCount i : Nat) : Parse JointStatus := do
  let posOff ← uadd 12 (← umul i 8)
  let torOff ← uadd (← uadd 12 (← umul jointCount 8)) (← umul i 8)
  let positionRad ← fromBeBytes 8 payload posOff (← uadd posOff 8)
  let torqueNm ← fromBeBytes 8 payload torOff (← uadd torOff 8)
  return { name := (jointNames[i]?).getD "unknown"
           positionRad := UInt64.ofNat positionRad
           torqueNm := UInt64.ofNat torqueNm
           temperatureC := temperature }

/-- The timestamp of a frame: `i64` division and remainder truncate towards zero. -/
def recordedAt (timestampNs : Int64) : Timestamp where
  seconds := timestampNs / 1000000000
  nanos := (timestampNs % 1000000000).toInt32

/-- `parse_frame`. -/
def parseFrame (deviceId : String) (payload : List UInt8) : Parse TelemetryFrame := do
  if payload.length < 12 then failure
  let timestampNs := (UInt64.ofNat (← fromBeBytes 8 payload 0 8)).toInt64
  let jointCount ← fromBeBytes 4 payload 8 12
  let expectedLen ← uadd 12 (← umul (← umul jointCount 8) 2)
  if payload.length < expectedLen then failure
  let joints ← (List.range jointCount).mapM (parseJoint payload jointCount)
  return { deviceId
           recordedAt := some (recordedAt timestampNs)
           joints
           sensors := []
           metrics := [] }

/-- The loop that `run_from_socket` spawns, as the list of frames it sends while
the receiver is open.  A panic ends the task like a `break` does. -/
def readLoop (deviceId : String) (chunks : List (List UInt8)) : List TelemetryFrame :=
  match _lengthRead : readExact chunks 4 with
  | none => []
  | some (lenBuf, afterLen) =>
    if ofBe lenBuf = 0 ∨ ofBe lenBuf > 1000000 then []
    else
      match _payloadRead : readExact afterLen (ofBe lenBuf) with
      | none => []
      | some (payload, left) =>
        match (parseFrame deviceId payload).run with
        | .error _ => []
        | .ok none => readLoop deviceId left
        | .ok (some frame) => frame :: readLoop deviceId left
termination_by chunks.flatten.length
decreasing_by
  all_goals
    have first := readExact_length _lengthRead
    have second := readExact_length _payloadRead
    omega

/-! ## What the parser computes -/

section Parser

theorem uadd_eq {a b : Nat} (fits : a + b < 2 ^ 64) : uadd a b = pure (a + b) := by
  unfold uadd
  rw [if_pos fits]

theorem umul_eq {a b : Nat} (fits : a * b < 2 ^ 64) : umul a b = pure (a * b) := by
  unfold umul
  rw [if_pos fits]

theorem fromBeBytes_eq {width : Nat} {payload : List UInt8} {lo hi : Nat} (sized : hi = lo + width)
    (inside : hi ≤ payload.length) :
    fromBeBytes width payload lo hi = pure (ofBe (fieldAt payload lo width)) := by
  subst sized
  have cut : slice payload lo (lo + width) = pure (fieldAt payload lo width) := by
    rw [slice, if_pos ⟨Nat.le_add_right lo width, inside⟩, Nat.add_sub_cancel_left]
  rw [fromBeBytes, cut, pure_bind, if_pos (length_fieldAt inside)]

/-- The joint whose two values stand at index `i` of their blocks. -/
def jointAt (payload : List UInt8) (jointCount i : Nat) : JointStatus where
  name := (jointNames[i]?).getD "unknown"
  positionRad := UInt64.ofNat (ofBe (fieldAt payload (12 + i * 8) 8))
  torqueNm := UInt64.ofNat (ofBe (fieldAt payload (12 + jointCount * 8 + i * 8) 8))
  temperatureC := temperature

theorem parseJoint_eq {payload : List UInt8} {n i : Nat} (count : n < 2 ^ 32) (member : i < n)
    (fits : 12 + n * 16 ≤ payload.length) : parseJoint payload n i = pure (jointAt payload n i) := by
  have positions : fromBeBytes 8 payload (12 + i * 8) (12 + i * 8 + 8) = _ :=
    fromBeBytes_eq rfl (by omega)
  have torques : fromBeBytes 8 payload (12 + n * 8 + i * 8) (12 + n * 8 + i * 8 + 8) = _ :=
    fromBeBytes_eq rfl (by omega)
  rw [parseJoint, umul_eq (by omega), pure_bind, uadd_eq (by omega), pure_bind, umul_eq (by omega),
    pure_bind, uadd_eq (by omega), pure_bind, pure_bind, uadd_eq (by omega), pure_bind,
    uadd_eq (by omega), pure_bind, positions, pure_bind, uadd_eq (by omega), pure_bind, torques,
    pure_bind]
  rfl

/-- A loop whose every turn succeeds collects the results. -/
theorem mapM_eq_pure {α β : Type} {f : α → Parse β} {g : α → β} {values : List α}
    (each : ∀ a ∈ values, f a = pure (g a)) : values.mapM f = pure (values.map g) := by
  induction values with
  | nil => simp
  | cons a rest ih =>
      have tail := ih fun b member => each b (List.mem_cons_of_mem a member)
      simp [each a (by simp), tail]

/-- The joint count that the payload announces. -/
def announced (payload : List UInt8) : Nat := ofBe (fieldAt payload 8 4)

theorem announced_lt (payload : List UInt8) (header : 12 ≤ payload.length) :
    announced payload < 2 ^ 32 := by
  have bound := ofBe_lt (fieldAt payload 8 4)
  rwa [length_fieldAt (by omega)] at bound

/-- Behind the header the parser only has its length test and its loop left: the
count is below `2 ^ 32`, so the length it computes is exact. -/
theorem parseFrame_of_header (deviceId : String) {payload : List UInt8}
    (header : 12 ≤ payload.length) :
    parseFrame deviceId payload = do
      if payload.length < 12 + announced payload * 8 * 2 then failure
      let joints ← (List.range (announced payload)).mapM (parseJoint payload (announced payload))
      return { deviceId
               recordedAt := some (recordedAt (UInt64.ofNat (ofBe (fieldAt payload 0 8))).toInt64)
               joints
               sensors := []
               metrics := [] } := by
  have count := announced_lt payload header
  have head : ¬ payload.length < 12 := by omega
  have stamp : fromBeBytes 8 payload 0 8 = _ := fromBeBytes_eq rfl (by omega)
  have joints : fromBeBytes 4 payload 8 12 = pure (announced payload) :=
    fromBeBytes_eq rfl (by omega)
  have eight : announced payload * 8 < 2 ^ 64 := by omega
  have sixteen : announced payload * 8 * 2 < 2 ^ 64 := by omega
  have expected : 12 + announced payload * 8 * 2 < 2 ^ 64 := by omega
  simp only [parseFrame, if_neg head, pure_bind, stamp, joints, umul_eq eight, umul_eq sixteen,
    uadd_eq expected]

/-- A payload that holds the joints it announces parses to them. -/
theorem parseFrame_of_fits (deviceId : String) {payload : List UInt8}
    (fits : 12 + announced payload * 16 ≤ payload.length) :
    parseFrame deviceId payload = pure
      { deviceId
        recordedAt := some (recordedAt (UInt64.ofNat (ofBe (fieldAt payload 0 8))).toInt64)
        joints := (List.range (announced payload)).map (jointAt payload (announced payload))
        sensors := []
        metrics := [] } := by
  have header : 12 ≤ payload.length := by omega
  have count := announced_lt payload header
  have whole : ¬ payload.length < 12 + announced payload * 8 * 2 := by omega
  have each : (List.range (announced payload)).mapM (parseJoint payload (announced payload)) = _ :=
    mapM_eq_pure fun i member => parseJoint_eq count (List.mem_range.1 member) fits
  rw [parseFrame_of_header deviceId header]
  simp only [if_neg whole, pure_bind, each]

end Parser

/-! ## Frames on the wire -/

/-- A frame the agent accepts: one torque per position, and a payload within the
limit of the read loop. -/
structure Frame where
  timestampNs : Int64
  positions : List UInt64
  torques : List UInt64
  paired : torques.length = positions.length
  fits : 12 + 16 * positions.length ≤ 1000000

namespace Frame

def encode (f : Frame) : Option (List UInt8) :=
  encodeFrame f.timestampNs.toInt f.positions f.torques

/-- The bytes behind the length prefix. -/
def payload (f : Frame) : List UInt8 :=
  toBe 8 f.timestampNs.toUInt64.toNat ++ toBe 4 f.positions.length ++
    f.positions.flatMap encodeF64 ++ f.torques.flatMap encodeF64

theorem length_encodeF64 (bits : UInt64) : (encodeF64 bits).length = 8 := length_toBe 8 _

theorem length_payload (f : Frame) : f.payload.length = 12 + f.positions.length * 16 := by
  have positions := length_flatMap_uniform length_encodeF64 f.positions
  have torques := length_flatMap_uniform length_encodeF64 f.torques
  rw [f.paired] at torques
  simp only [payload, List.length_append, length_toBe, positions, torques]
  omega

/-- Python packs every frame, into a length prefix and the payload. -/
theorem encode_eq (f : Frame) : f.encode = some (toBe 4 f.payload.length ++ f.payload) := by
  have stamp : packQ f.timestampNs.toInt = some (toBe 8 f.timestampNs.toUInt64.toNat) := by
    rw [packQ, Int64.ofInt_toInt, if_pos ⟨f.timestampNs.le_toInt, f.timestampNs.toInt_lt⟩]
  have small := f.fits
  have count : packI f.positions.length = some (toBe 4 f.positions.length) := by
    rw [packI, if_pos (by omega)]
  have size : packI f.payload.length = some (toBe 4 f.payload.length) := by
    rw [packI, length_payload, if_pos (by omega)]
  have packed : f.encode = (packI f.payload.length).bind fun prefix_ => some (prefix_ ++ f.payload) := by
    simp only [encode, encodeFrame, stamp, count, packD, f.paired, if_pos, Option.bind_eq_bind,
      Option.bind_some]
    rfl
  rw [packed, size]
  rfl

/-- The header and the two blocks of values, where the parser looks for them. -/
theorem stampField (f : Frame) :
    fieldAt f.payload 0 8 = toBe 8 f.timestampNs.toUInt64.toNat := by
  simp only [payload, List.append_assoc]
  rw [fieldAt_append_right (by simp), fieldAt, List.drop_zero]
  exact List.take_of_length_le (by simp)

theorem countField (f : Frame) : fieldAt f.payload 8 4 = toBe 4 f.positions.length := by
  have header := fieldAt_append_left (toBe 8 f.timestampNs.toUInt64.toNat)
    (toBe 4 f.positions.length ++ (f.positions.flatMap encodeF64 ++ f.torques.flatMap encodeF64)) 0 4
  rw [length_toBe] at header
  simp only [payload, List.append_assoc]
  rw [header, fieldAt_append_right (by simp), fieldAt, List.drop_zero]
  exact List.take_of_length_le (by simp)

theorem positionField (f : Frame) {i : Nat} {bits : UInt64} (here : f.positions[i]? = some bits) :
    fieldAt f.payload (12 + i * 8) 8 = encodeF64 bits := by
  have member : i < f.positions.length := (List.getElem?_eq_some_iff.1 here).1
  have block := length_flatMap_uniform length_encodeF64 f.positions
  have header := fieldAt_append_left
    (toBe 8 f.timestampNs.toUInt64.toNat ++ toBe 4 f.positions.length)
    (f.positions.flatMap encodeF64 ++ f.torques.flatMap encodeF64) (i * 8) 8
  rw [List.length_append, length_toBe, length_toBe] at header
  rw [payload, List.append_assoc, header, fieldAt_append_right (by omega)]
  exact fieldAt_flatMap length_encodeF64 here

theorem torqueField (f : Frame) {i : Nat} {bits : UInt64} (here : f.torques[i]? = some bits) :
    fieldAt f.payload (12 + f.positions.length * 8 + i * 8) 8 = encodeF64 bits := by
  have block := length_flatMap_uniform length_encodeF64 f.positions
  have header := fieldAt_append_left
    (toBe 8 f.timestampNs.toUInt64.toNat ++ toBe 4 f.positions.length ++
      f.positions.flatMap encodeF64) (f.torques.flatMap encodeF64) (i * 8) 8
  rw [List.length_append, List.length_append, length_toBe, length_toBe, block] at header
  rw [payload, header]
  exact fieldAt_flatMap length_encodeF64 here

theorem announced_payload (f : Frame) : announced f.payload = f.positions.length := by
  have small := f.fits
  rw [announced, countField, ofBe_toBe (by omega)]

/-- What the agent makes of the frame. -/
def decoded (deviceId : String) (f : Frame) : TelemetryFrame where
  deviceId := deviceId
  recordedAt := some (Robot.recordedAt f.timestampNs)
  joints := (List.range f.positions.length).map (jointAt f.payload f.positions.length)
  sensors := []
  metrics := []

/-- Encoding and parsing agree on every offset. -/
theorem parseFrame_payload (deviceId : String) (f : Frame) :
    parseFrame deviceId f.payload = pure (f.decoded deviceId) := by
  have whole : 12 + announced f.payload * 16 = f.payload.length := by
    rw [announced_payload, length_payload]
  have fits : 12 + announced f.payload * 16 ≤ f.payload.length := Nat.le_of_eq whole
  rw [parseFrame_of_fits deviceId fits, announced_payload, stampField,
    ofBe_toBe (show f.timestampNs.toUInt64.toNat < 256 ^ 8 from f.timestampNs.toUInt64.toNat_lt),
    UInt64.ofNat_toNat, Int64.toInt64_toUInt64]
  rfl

theorem ofBe_encodeF64 (bits : UInt64) : UInt64.ofNat (ofBe (encodeF64 bits)) = bits := by
  rw [encodeF64, ofBe_toBe (show bits.toNat < 256 ^ 8 from bits.toNat_lt), UInt64.ofNat_toNat]

theorem decoded_positions (deviceId : String) (f : Frame) :
    (f.decoded deviceId).joints.map JointStatus.positionRad = f.positions := by
  apply List.ext_getElem
  · simp [decoded]
  · intro i _ member
    have here : f.positions[i]? = some f.positions[i] := List.getElem?_eq_getElem member
    simp [decoded, jointAt, f.positionField here, ofBe_encodeF64]

theorem decoded_torques (deviceId : String) (f : Frame) :
    (f.decoded deviceId).joints.map JointStatus.torqueNm = f.torques := by
  apply List.ext_getElem
  · simp [decoded, f.paired]
  · intro i _ member
    have here : f.torques[i]? = some f.torques[i] := List.getElem?_eq_getElem member
    simp [decoded, jointAt, f.torqueField here, ofBe_encodeF64]

end Frame

theorem billion_toInt : (1000000000 : Int64).toInt = 10 ^ 9 := by decide

theorem seconds_recordedAt (timestampNs : Int64) :
    (recordedAt timestampNs).seconds.toInt = timestampNs.toInt.tdiv (10 ^ 9) := by
  rw [recordedAt, Int64.toInt_div_of_ne_right _ _ (by decide), billion_toInt]

/-- The cast to `i32` keeps the remainder. -/
theorem nanos_recordedAt (timestampNs : Int64) :
    (recordedAt timestampNs).nanos.toInt = timestampNs.toInt.tmod (10 ^ 9) := by
  have low := Int.lt_tmod_of_pos timestampNs.toInt (show (0 : Int) < 10 ^ 9 by decide)
  have high := Int.tmod_lt_of_pos timestampNs.toInt (show (0 : Int) < 10 ^ 9 by decide)
  rw [recordedAt, Int64.toInt_toInt32, Int64.toInt_mod, billion_toInt]
  exact Int.bmod_eq_of_le (by omega) (by omega)

/-- Seconds and nanoseconds add up to the timestamp, whatever its sign. -/
theorem recordedAt_sum (timestampNs : Int64) :
    (recordedAt timestampNs).seconds.toInt * 10 ^ 9 + (recordedAt timestampNs).nanos.toInt =
      timestampNs.toInt := by
  rw [seconds_recordedAt, nanos_recordedAt, Int.mul_comm]
  exact Int.mul_tdiv_add_tmod _ _

/-! ## The read loop -/

section Loop

variable (deviceId : String)

/-- A length prefix and the payload it announces. -/
def framed (payload : List UInt8) : List UInt8 := toBe 4 payload.length ++ payload

/-- The loop once it has read a length prefix. -/
theorem readLoop_announced {chunks : List (List UInt8)} {n : Nat} (nonempty : 1 ≤ n)
    (small : n ≤ 1000000) (begun : 4 ≤ chunks.flatten.length)
    (lengthField : chunks.flatten.take 4 = toBe 4 n) :
    ∃ afterLen, afterLen.flatten = chunks.flatten.drop 4 ∧ readLoop deviceId chunks =
      match readExact afterLen n with
      | none => []
      | some (payload, left) =>
        match (parseFrame deviceId payload).run with
        | .error _ => []
        | .ok none => readLoop deviceId left
        | .ok (some frame) => frame :: readLoop deviceId left := by
  obtain ⟨afterLen, lengthRead, behind⟩ := readExact_of_le begun
  rw [lengthField] at lengthRead
  have size : ofBe (toBe 4 n) = n := ofBe_toBe (by omega)
  have admitted : ¬ (n = 0 ∨ n > 1000000) := by omega
  refine ⟨afterLen, behind, ?_⟩
  rw [readLoop]
  split
  · rename_i failed
    rw [lengthRead] at failed
    cases failed
  · rename_i lenBuf afterLen' lengthRead'
    rw [lengthRead] at lengthRead'
    obtain ⟨rfl, rfl⟩ := Prod.mk.inj (Option.some.inj lengthRead')
    simp only [size, if_neg admitted]
    split
    · rename_i failed
      rw [size] at failed
      rw [failed]
    · rename_i payload left payloadRead
      rw [size] at payloadRead
      rw [payloadRead]

/-- One turn of the loop over a framed payload: what comes next depends on the
parse, and the bytes behind the payload are untouched. -/
theorem readLoop_framed {chunks : List (List UInt8)} {payload rest : List UInt8}
    (nonempty : 1 ≤ payload.length) (small : payload.length ≤ 1000000)
    (arrives : chunks.flatten = framed payload ++ rest) :
    ∃ left, left.flatten = rest ∧ readLoop deviceId chunks =
      match (parseFrame deviceId payload).run with
      | .error _ => []
      | .ok none => readLoop deviceId left
      | .ok (some frame) => frame :: readLoop deviceId left := by
  rw [framed, List.append_assoc] at arrives
  have four : (toBe 4 payload.length).length = 4 := length_toBe 4 _
  have begun : 4 ≤ chunks.flatten.length := by
    rw [arrives, List.length_append, four]
    omega
  have lengthField : chunks.flatten.take 4 = toBe 4 payload.length := by
    rw [arrives, List.take_left' four]
  obtain ⟨afterLen, behind, turn⟩ := readLoop_announced deviceId nonempty small begun lengthField
  rw [arrives, List.drop_left' four] at behind
  have complete : payload.length ≤ afterLen.flatten.length := by
    rw [behind, List.length_append]
    omega
  obtain ⟨left, payloadRead, after⟩ := readExact_of_le complete
  rw [behind] at payloadRead after
  rw [List.take_left' rfl] at payloadRead
  rw [List.drop_left' rfl] at after
  refine ⟨left, after, ?_⟩
  rw [turn, payloadRead]

/-- The loop ends on a stream that stops inside a frame. -/
theorem readLoop_unfinished {chunks : List (List UInt8)} {payload tail : List UInt8}
    (nonempty : 1 ≤ payload.length) (small : payload.length ≤ 1000000) (cut : tail <+: framed payload)
    (strict : tail ≠ framed payload) (arrives : chunks.flatten = tail) :
    readLoop deviceId chunks = [] := by
  obtain ⟨missing, whole⟩ := cut
  have lost : missing ≠ [] := by
    intro none_
    subst none_
    exact strict (by simpa using whole)
  have shorter : tail.length < 4 + payload.length := by
    have lengths := congrArg List.length whole
    have some_ := List.length_pos_of_ne_nil lost
    rw [List.length_append, framed, List.length_append, length_toBe] at lengths
    omega
  subst arrives
  by_cases begun : 4 ≤ chunks.flatten.length
  · have four : (toBe 4 payload.length).length = 4 := length_toBe 4 _
    have lengthField : chunks.flatten.take 4 = toBe 4 payload.length := by
      have taken := congrArg (List.take 4) whole
      rwa [framed, List.take_left' four, List.take_append_of_le_length begun] at taken
    obtain ⟨afterLen, behind, turn⟩ := readLoop_announced deviceId nonempty small begun lengthField
    have short : afterLen.flatten.length < payload.length := by
      rw [behind, List.length_drop]
      omega
    rw [turn, readExact_of_lt short]
  · rw [readLoop]
    split
    · rfl
    · rename_i lengthRead
      rw [readExact_of_lt (by omega)] at lengthRead
      cases lengthRead

end Loop

/-! ## The stream -/

/-- What may stand on the wire: a frame, or a payload the parser rejects. -/
inductive Item (deviceId : String) where
  | frame (f : Frame)
  | rejected (payload : List UInt8) (nonempty : 1 ≤ payload.length)
      (small : payload.length ≤ 1000000) (refused : (parseFrame deviceId payload).run = .ok none)

namespace Item

variable {deviceId : String}

def frame? : Item deviceId → Option Frame
  | .frame f => some f
  | .rejected .. => none

/-- The bytes of an item, where the encoder produces them. -/
def wire : Item deviceId → Option (List UInt8)
  | .frame f => f.encode
  | .rejected payload _ _ _ => some (framed payload)

end Item

/-- The frames among the items. -/
def frames {deviceId : String} (items : List (Item deviceId)) : List Frame :=
  items.filterMap Item.frame?

/-- A stream of frames alone. -/
def clean (deviceId : String) (frames : List Frame) : List (Item deviceId) :=
  frames.map fun f => .frame f

theorem frames_clean (deviceId : String) (sent : List Frame) : frames (clean deviceId sent) = sent := by
  induction sent with
  | nil => rfl
  | cons f rest ih => exact congrArg (f :: ·) ih

/-- A strict prefix of an encoded frame. -/
def Unfinished (tail : List UInt8) : Prop :=
  ∃ f : Frame, ∃ bytes, f.encode = some bytes ∧ tail <+: bytes ∧ tail ≠ bytes

/-- The socket delivers the encoded items and an unfinished frame, in chunks. -/
def Delivers {deviceId : String} (items : List (Item deviceId)) (chunks : List (List UInt8)) : Prop :=
  ∃ parts tail, items.mapM Item.wire = some parts ∧ Unfinished tail ∧
    chunks.flatten = parts.flatten ++ tail

/-- The emitted frame carries the encoded one: its bit patterns and its time. -/
def Decodes (deviceId : String) (f : Frame) (t : TelemetryFrame) : Prop :=
  t.deviceId = deviceId ∧ t.joints.length = f.positions.length ∧
    t.joints.map JointStatus.positionRad = f.positions ∧
    t.joints.map JointStatus.torqueNm = f.torques ∧
    ∃ at_, t.recordedAt = some at_ ∧
      at_.seconds.toInt * 10 ^ 9 + at_.nanos.toInt = f.timestampNs.toInt

theorem decodes_decoded (deviceId : String) (f : Frame) :
    Decodes deviceId f (f.decoded deviceId) := by
  refine ⟨rfl, ?_, f.decoded_positions deviceId, f.decoded_torques deviceId, ?_⟩
  · simp [Frame.decoded]
  · exact ⟨recordedAt f.timestampNs, rfl, recordedAt_sum f.timestampNs⟩

/-- One item of a delivered stream is one turn of the loop. -/
theorem readLoop_item {deviceId : String} (item : Item deviceId) {bytes rest : List UInt8}
    {chunks : List (List UInt8)} (encoded : item.wire = some bytes)
    (arrives : chunks.flatten = bytes ++ rest) :
    ∃ left, left.flatten = rest ∧ readLoop deviceId chunks =
      (item.frame?.map (Frame.decoded deviceId)).toList ++ readLoop deviceId left := by
  cases item with
  | frame f =>
      have wrapped : framed f.payload = bytes := Option.some.inj (f.encode_eq.symm.trans encoded)
      subst wrapped
      have small := f.fits
      obtain ⟨left, after, turn⟩ := readLoop_framed deviceId (by rw [f.length_payload]; omega)
        (by rw [f.length_payload]; omega) arrives
      refine ⟨left, after, ?_⟩
      rw [turn, f.parseFrame_payload]
      rfl
  | rejected payload nonempty small refused =>
      have wrapped : framed payload = bytes := Option.some.inj encoded
      subst wrapped
      obtain ⟨left, after, turn⟩ := readLoop_framed deviceId nonempty small arrives
      refine ⟨left, after, ?_⟩
      rw [turn, refused]
      rfl

/-- The loop emits the frames of the stream, by induction over its items. -/
theorem readLoop_delivers {deviceId : String} (items : List (Item deviceId))
    {chunks : List (List UInt8)} (delivered : Delivers items chunks) :
    readLoop deviceId chunks = (frames items).map (Frame.decoded deviceId) := by
  obtain ⟨parts, tail, encoded, unfinished, arrives⟩ := delivered
  induction items generalizing parts chunks with
  | nil =>
      have none_ : parts = [] := by simpa using encoded.symm
      subst none_
      obtain ⟨f, bytes, packed, cut, strict⟩ := unfinished
      have wrapped : framed f.payload = bytes := Option.some.inj (f.encode_eq.symm.trans packed)
      subst wrapped
      have small := f.fits
      have length := f.length_payload
      exact readLoop_unfinished deviceId (by omega) (by omega) cut strict arrives
  | cons item rest ih =>
      rw [List.mapM_cons] at encoded
      obtain ⟨bytes, first, encoded⟩ := Option.bind_eq_some_iff.1 encoded
      obtain ⟨others, later, same⟩ := Option.bind_eq_some_iff.1 encoded
      cases same
      rw [List.flatten_cons, List.append_assoc] at arrives
      obtain ⟨left, after, turn⟩ := readLoop_item item first arrives
      rw [turn, ih others later after]
      cases item <;> rfl

theorem wire_isSome {deviceId : String} (items : List (Item deviceId)) :
    ∃ parts, items.mapM Item.wire = some parts := by
  induction items with
  | nil => exact ⟨[], rfl⟩
  | cons item rest ih =>
      obtain ⟨others, later⟩ := ih
      have first : ∃ bytes, item.wire = some bytes := by
        cases item with
        | frame f => exact ⟨_, f.encode_eq⟩
        | rejected payload _ _ _ => exact ⟨_, rfl⟩
      obtain ⟨bytes, first⟩ := first
      exact ⟨bytes :: others, by simp [first, later]⟩

/-- **The telemetry stream codec.**  Every stream of frames and rejected payloads
can be put on the wire; in whatever chunks it arrives, the loop emits exactly one
frame for each that was encoded, in order and with its contents, and what it emits
is what it emits without the rejected payloads. -/
theorem telemetry_stream_codec (deviceId : String) (items : List (Item deviceId)) :
    (∃ parts, items.mapM Item.wire = some parts) ∧
    ∀ chunks, Delivers items chunks →
      List.Forall₂ (Decodes deviceId) (frames items) (readLoop deviceId chunks) ∧
      ∀ chunks', Delivers (clean deviceId (frames items)) chunks' →
        readLoop deviceId chunks = readLoop deviceId chunks' := by
  refine ⟨wire_isSome items, ?_⟩
  intro chunks delivered
  have emitted := readLoop_delivers items delivered
  constructor
  · rw [emitted, List.forall₂_map_right_iff]
    exact List.forall₂_same.2 fun f _ => decodes_decoded deviceId f
  · intro chunks' deliveredClean
    rw [emitted, readLoop_delivers _ deliveredClean, frames_clean]

end RobotFleet.Robot
