/-
# Robot.FrameFormat -- which payloads the agent accepts, and what it reads from them

`parse_frame` takes the joint count from the payload itself.  The stream codec of
`Robot.Telemetry` starts from frames the simulator encoded; here the payload is any
byte string.

* `parseFrame_run`: one equation for every payload.  The count is below `2 ^ 32`, so
  none of the offsets reaches `2 ^ 64`, and the test on the length covers every slice.
* `parse_frame_accepts_its_format`: accepted are the payloads that hold the joints
  they announce; the values come from their offsets, and encoding them again gives
  the accepted bytes back.
* `frame_timestamp_valid_iff`: the `recorded_at` of an accepted payload adds up to its
  nanoseconds and keeps their order; it is normal unless a time before 1970 has a
  fraction of a second, since division and remainder truncate towards zero.
* `readLoop_payloads` carries this to the socket: no payload within the limit ends
  the read loop.
-/
import RobotFleet.Robot.Telemetry

namespace RobotFleet.Robot

open RobotFleet.Theory.Bytes
open RobotFleet.Theory.Calls (Timestamp)

set_option autoImplicit false

/-! ## One equation for every payload -/

/-- The bytes that a payload of the announced joint count has to hold. -/
def formatLength (payload : List UInt8) : Nat := 12 + 16 * announced payload

/-- The payload has its header and the joints the header announces. -/
def WellFormed (payload : List UInt8) : Prop :=
  12 ≤ payload.length ∧ formatLength payload ≤ payload.length

instance (payload : List UInt8) : Decidable (WellFormed payload) :=
  inferInstanceAs (Decidable (_ ∧ _))

/-- The frame that a well-formed payload stands for. -/
def frameOf (deviceId : String) (payload : List UInt8) : TelemetryFrame where
  deviceId := deviceId
  recordedAt := some (recordedAt (UInt64.ofNat (ofBe (fieldAt payload 0 8))).toInt64)
  joints := (List.range (announced payload)).map (jointAt payload (announced payload))
  sensors := []
  metrics := []

theorem parseFrame_of_short (deviceId : String) {payload : List UInt8}
    (short : payload.length < 12) : parseFrame deviceId payload = failure := by
  simp only [parseFrame, if_pos short]
  rfl

/-- A count that the payload does not back up is rejected before the first joint is
read. -/
theorem parseFrame_of_missing (deviceId : String) {payload : List UInt8}
    (header : 12 ≤ payload.length) (missing : payload.length < formatLength payload) :
    parseFrame deviceId payload = failure := by
  unfold formatLength at missing
  have lacking : payload.length < 12 + announced payload * 8 * 2 := by omega
  rw [parseFrame_of_header deviceId header]
  simp only [if_pos lacking]
  rfl

/-- The parser does not panic, whatever the payload. -/
theorem parseFrame_run (deviceId : String) (payload : List UInt8) :
    (parseFrame deviceId payload).run =
      .ok (if WellFormed payload then some (frameOf deviceId payload) else none) := by
  by_cases short : payload.length < 12
  · have rejected : ¬ WellFormed payload := fun whole => by have := whole.1; omega
    rw [parseFrame_of_short deviceId short, if_neg rejected]
    rfl
  · by_cases missing : payload.length < formatLength payload
    · have rejected : ¬ WellFormed payload := fun whole => by have := whole.2; omega
      rw [parseFrame_of_missing deviceId (by omega) missing, if_neg rejected]
      rfl
    · have accepted : WellFormed payload := ⟨by omega, by omega⟩
      have fits : 12 + announced payload * 16 ≤ payload.length := by
        unfold formatLength at missing
        omega
      rw [parseFrame_of_fits deviceId fits, if_pos accepted]
      rfl

/-! ## Encoding again -/

section Again

variable {payload : List UInt8}

/-- As many values as there are joints, from offset `lo` on. -/
def valuesAt (payload : List UInt8) (lo : Nat) : List UInt64 :=
  (List.range (announced payload)).map fun i => UInt64.ofNat (ofBe (fieldAt payload (lo + i * 8) 8))

theorem frameOf_positions (deviceId : String) (payload : List UInt8) :
    (frameOf deviceId payload).joints.map JointStatus.positionRad = valuesAt payload 12 := by
  simp [frameOf, jointAt, valuesAt]

theorem frameOf_torques (deviceId : String) (payload : List UInt8) :
    (frameOf deviceId payload).joints.map JointStatus.torqueNm =
      valuesAt payload (12 + announced payload * 8) := by
  simp [frameOf, jointAt, valuesAt]

/-- Eight bytes, read as one word and written again. -/
theorem toBe_field {lo : Nat} (inside : lo + 8 ≤ payload.length) :
    toBe 8 (UInt64.ofNat (ofBe (fieldAt payload lo 8))).toNat = fieldAt payload lo 8 := by
  have sized : (fieldAt payload lo 8).length = 8 := length_fieldAt inside
  have bound := ofBe_lt (fieldAt payload lo 8)
  rw [sized] at bound
  have again := toBe_ofBe (fieldAt payload lo 8)
  rw [sized] at again
  rw [UInt64.toNat_ofNat_of_lt' bound, again]

/-- A block of values, read and written again. -/
theorem encode_valuesAt {lo : Nat} (inside : lo + announced payload * 8 ≤ payload.length) :
    (valuesAt payload lo).flatMap encodeF64 = fieldAt payload lo (announced payload * 8) := by
  rw [valuesAt, List.flatMap_map, ← flatMap_fieldAt payload lo 8 (announced payload)]
  apply List.flatMap_congr
  intro i member
  have reached := List.mem_range.1 member
  exact toBe_field (by omega)

/-- Header and blocks cover the accepted bytes, with no gap between them. -/
theorem take_formatLength (payload : List UInt8) :
    payload.take (formatLength payload) =
      fieldAt payload 0 8 ++ fieldAt payload 8 4 ++ fieldAt payload 12 (announced payload * 8) ++
        fieldAt payload (12 + announced payload * 8) (announced payload * 8) := by
  have length : formatLength payload = 8 + 4 + announced payload * 8 + announced payload * 8 := by
    unfold formatLength
    omega
  have whole : payload.take (formatLength payload) = fieldAt payload 0 (formatLength payload) := by
    rw [fieldAt, List.drop_zero]
  rw [whole, length, fieldAt_add, fieldAt_add, fieldAt_add]
  simp only [Nat.zero_add, Nat.reduceAdd]

theorem blocks_inside (whole : WellFormed payload) :
    12 + announced payload * 8 + announced payload * 8 ≤ payload.length := by
  have size := whole.2
  unfold formatLength at size
  omega

variable (whole : WellFormed payload) (small : payload.length ≤ 1000000)

/-- The accepted part of a payload, as a frame that the simulator could have sent. -/
def sent : Frame where
  timestampNs := (UInt64.ofNat (ofBe (fieldAt payload 0 8))).toInt64
  positions := valuesAt payload 12
  torques := valuesAt payload (12 + announced payload * 8)
  paired := by simp [valuesAt]
  fits := by
    have inside := blocks_inside whole
    rw [valuesAt, List.length_map, List.length_range]
    omega

theorem sent_payload : (sent whole small).payload = payload.take (formatLength payload) := by
  have inside := blocks_inside whole
  have count : toBe 4 (announced payload) = fieldAt payload 8 4 := by
    have sized : (fieldAt payload 8 4).length = 4 := length_fieldAt (by omega)
    have again := toBe_ofBe (fieldAt payload 8 4)
    rwa [sized] at again
  have stamp := toBe_field (show 0 + 8 ≤ payload.length by omega)
  have positions := encode_valuesAt (show 12 + announced payload * 8 ≤ payload.length by omega)
  have torques := encode_valuesAt inside
  have length : (valuesAt payload 12).length = announced payload := by simp [valuesAt]
  simp only [Frame.payload, sent, UInt64.toUInt64_toInt64, stamp, length, count, positions, torques]
  exact (take_formatLength payload).symm

/-- `_encode_frame` on what the parser returned. -/
theorem encode_sent :
    (sent whole small).encode = some (framed (payload.take (formatLength payload))) := by
  rw [Frame.encode_eq, sent_payload]
  rfl

end Again

/-! ## The format -/

/-- What a parsed frame owes to the payload it came from. -/
structure ReadFrom (deviceId : String) (payload : List UInt8) (frame : TelemetryFrame) : Prop where
  device : frame.deviceId = deviceId
  count : frame.joints.length = announced payload
  -- `Vec::with_capacity(joint_count)` asks for no more than the payload backs up.
  reserved : 16 * announced payload ≤ payload.length
  position : ∀ i joint, frame.joints[i]? = some joint →
    joint.positionRad = UInt64.ofNat (ofBe (fieldAt payload (12 + 8 * i) 8))
  torque : ∀ i joint, frame.joints[i]? = some joint →
    joint.torqueNm = UInt64.ofNat (ofBe (fieldAt payload (12 + 8 * announced payload + 8 * i) 8))
  again : ∃ at_, frame.recordedAt = some at_ ∧
    encodeFrame (at_.seconds.toInt * 10 ^ 9 + at_.nanos.toInt)
        (frame.joints.map JointStatus.positionRad) (frame.joints.map JointStatus.torqueNm) =
      some (framed (payload.take (12 + 16 * announced payload)))

theorem joint_frameOf {deviceId : String} {payload : List UInt8} {i : Nat} {joint : JointStatus}
    (here : (frameOf deviceId payload).joints[i]? = some joint) :
    joint = jointAt payload (announced payload) i := by
  simp only [frameOf, List.getElem?_map] at here
  obtain ⟨j, member, made⟩ := Option.map_eq_some_iff.1 here
  obtain ⟨reached, same⟩ := List.getElem?_eq_some_iff.1 member
  rw [List.getElem_range] at same
  rw [← made, same]

theorem frameOf_readFrom (deviceId : String) {payload : List UInt8} (whole : WellFormed payload)
    (small : payload.length ≤ 1000000) : ReadFrom deviceId payload (frameOf deviceId payload) where
  device := rfl
  count := by simp [frameOf]
  reserved := by
    have inside := blocks_inside whole
    omega
  position := by
    intro i joint here
    rw [joint_frameOf here, jointAt, Nat.mul_comm 8]
  torque := by
    intro i joint here
    rw [joint_frameOf here, jointAt, Nat.mul_comm 8, Nat.mul_comm 8]
  again := by
    refine ⟨_, rfl, ?_⟩
    rw [recordedAt_sum, frameOf_positions, frameOf_torques]
    exact encode_sent whole small

/-- **The parser accepts exactly its format.**  It never panics; it accepts a payload
if and only if the header and the announced joints are there; and what it returns
comes from its offsets and encodes to the accepted bytes. -/
theorem parse_frame_accepts_its_format (deviceId : String) (payload : List UInt8)
    (small : payload.length ≤ 1000000) :
    ∃ result, (parseFrame deviceId payload).run = .ok result ∧
      (result.isSome ↔
        12 ≤ payload.length ∧ 12 + 16 * announced payload ≤ payload.length) ∧
      ∀ frame, result = some frame → ReadFrom deviceId payload frame := by
  refine ⟨_, parseFrame_run deviceId payload, ?_, ?_⟩
  · by_cases whole : WellFormed payload
    · rw [if_pos whole]
      exact ⟨fun _ => whole, fun _ => rfl⟩
    · rw [if_neg whole]
      refine ⟨?_, fun fits => absurd fits whole⟩
      intro accepted
      cases accepted
  · intro frame returned
    by_cases whole : WellFormed payload
    · rw [if_pos whole] at returned
      cases returned
      exact frameOf_readFrom deviceId whole small
    · rw [if_neg whole] at returned
      cases returned

/-- Two joints with a byte behind them that no joint needs. -/
theorem parse_frame_accepts_two_joints :
    let payload := toBe 8 1700000001500000000 ++ toBe 4 2 ++ toBe 32 7 ++ [255]
    payload.length ≤ 1000000 ∧ ∃ frame, (parseFrame "dev" payload).run = .ok (some frame) ∧
      ReadFrom "dev" payload frame := by
  intro payload
  have small : payload.length ≤ 1000000 := by decide
  obtain ⟨result, returned, accepted, reads⟩ := parse_frame_accepts_its_format "dev" payload small
  have announcedTwo : announced payload = 2 := by decide
  have some_ : result.isSome := accepted.2 (by rw [announcedTwo]; decide)
  obtain ⟨frame, same⟩ := Option.isSome_iff_exists.1 some_
  refine ⟨small, frame, ?_, reads frame same⟩
  rw [returned, same]

/-! ## The time of a frame -/

section Truncated

variable {unit : Int}

/-- A quotient and a remainder that truncate towards zero order numbers as the
numbers are ordered, also across zero. -/
theorem lex_of_lt (positive : 0 < unit) {t t' : Int} (later : t < t') :
    t.tdiv unit < t'.tdiv unit ∨ t.tdiv unit = t'.tdiv unit ∧ t.tmod unit < t'.tmod unit := by
  have quotients : t.tdiv unit ≤ t'.tdiv unit := Int.tdiv_le_tdiv positive (Int.le_of_lt later)
  rcases Int.lt_or_eq_of_le quotients with less | same
  · exact Or.inl less
  · have whole := Int.mul_tdiv_add_tmod t unit
    have whole' := Int.mul_tdiv_add_tmod t' unit
    rw [same] at whole
    exact Or.inr ⟨same, by omega⟩

theorem lex_iff_lt (positive : 0 < unit) (t t' : Int) :
    (t.tdiv unit < t'.tdiv unit ∨ t.tdiv unit = t'.tdiv unit ∧ t.tmod unit < t'.tmod unit) ↔
      t < t' := by
  refine ⟨fun lex => ?_, lex_of_lt positive⟩
  rcases Int.lt_trichotomy t t' with less | same | greater
  · exact less
  · subst same
    omega
  · have back := lex_of_lt positive greater
    omega

/-- The remainder is negative for a negative number, unless it is nothing. -/
theorem tmod_nonneg_iff (t : Int) :
    0 ≤ t.tmod unit ↔ 0 ≤ t ∨ unit ∣ t := by
  constructor
  · intro nonneg
    by_cases sign : 0 ≤ t
    · exact Or.inl sign
    · have flipped : 0 ≤ (-t).tmod unit := Int.tmod_nonneg unit (by omega)
      rw [Int.neg_tmod] at flipped
      exact Or.inr (Int.dvd_iff_tmod_eq_zero.2 (by omega))
  · rintro (sign | multiple)
    · exact Int.tmod_nonneg unit sign
    · have none_ := Int.dvd_iff_tmod_eq_zero.1 multiple
      omega

end Truncated

/-- `timestamp_ns` of a payload: the first eight bytes, as an `i64`. -/
def timestampNs (payload : List UInt8) : Int64 := (UInt64.ofNat (ofBe (fieldAt payload 0 8))).toInt64

/-- The range that `google.protobuf.Timestamp` gives `nanos`. -/
def NormalForm (t : Timestamp) : Prop := 0 ≤ t.nanos.toInt ∧ t.nanos.toInt < 10 ^ 9

/-- `(seconds, nanos)` in lexicographic order. -/
def Earlier (t t' : Timestamp) : Prop :=
  t.seconds.toInt < t'.seconds.toInt ∨
    t.seconds.toInt = t'.seconds.toInt ∧ t.nanos.toInt < t'.nanos.toInt

def Accepts (deviceId : String) (payload : List UInt8) (frame : TelemetryFrame) : Prop :=
  (parseFrame deviceId payload).run = .ok (some frame)

/-- The time of a frame is a normal `Timestamp` of the payload's nanoseconds, and is
earlier or later than that of any other frame as these are. -/
structure Stamped (payload : List UInt8) (frame : TelemetryFrame) : Prop where
  valid : ∃ at_, frame.recordedAt = some at_ ∧
    at_.seconds.toInt * 10 ^ 9 + at_.nanos.toInt = (timestampNs payload).toInt ∧ NormalForm at_
  ordered : ∀ deviceId' payload' frame' at_ at',
    Accepts deviceId' payload' frame' → frame.recordedAt = some at_ → frame'.recordedAt = some at' →
      (Earlier at_ at' ↔ (timestampNs payload).toInt < (timestampNs payload').toInt) ∧
      (Earlier at' at_ ↔ (timestampNs payload').toInt < (timestampNs payload).toInt)

theorem recordedAt_of_accepts {deviceId : String} {payload : List UInt8} {frame : TelemetryFrame}
    (accepted : Accepts deviceId payload frame) :
    frame.recordedAt = some (recordedAt (timestampNs payload)) := by
  unfold Accepts at accepted
  rw [parseFrame_run] at accepted
  split at accepted
  · cases accepted
    rfl
  · cases accepted

theorem earlier_recordedAt_iff (t t' : Int64) :
    Earlier (recordedAt t) (recordedAt t') ↔ t.toInt < t'.toInt := by
  unfold Earlier
  rw [seconds_recordedAt, seconds_recordedAt, nanos_recordedAt, nanos_recordedAt]
  exact lex_iff_lt (by decide) t.toInt t'.toInt

theorem normalForm_recordedAt_iff (t : Int64) :
    NormalForm (recordedAt t) ↔ 0 ≤ t.toInt ∨ 10 ^ 9 ∣ t.toInt := by
  have below := Int.tmod_lt_of_pos t.toInt (show (0 : Int) < 10 ^ 9 by decide)
  unfold NormalForm
  rw [nanos_recordedAt, tmod_nonneg_iff]
  exact ⟨fun normal => normal.1, fun sign => ⟨sign, below⟩⟩

/-- **A frame has a normal timestamp exactly when** its time is not before 1970, or is
a whole second.  Sum and order are right in any case. -/
theorem frame_timestamp_valid_iff (deviceId : String) (payload : List UInt8) (frame : TelemetryFrame)
    (accepted : Accepts deviceId payload frame) :
    Stamped payload frame ↔
      0 ≤ (timestampNs payload).toInt ∨ 10 ^ 9 ∣ (timestampNs payload).toInt := by
  have stamp := recordedAt_of_accepts accepted
  rw [← normalForm_recordedAt_iff]
  constructor
  · intro stamped
    obtain ⟨at_, found, -, normal⟩ := stamped.valid
    rw [stamp] at found
    cases found
    exact normal
  · intro normal
    refine ⟨⟨_, stamp, recordedAt_sum _, normal⟩, ?_⟩
    intro deviceId' payload' frame' at_ at' accepted' found found'
    rw [stamp] at found
    rw [recordedAt_of_accepts accepted'] at found'
    cases found
    cases found'
    exact ⟨earlier_recordedAt_iff _ _, earlier_recordedAt_iff _ _⟩

/-- A payload without joints, half a second past a second of 2023. -/
theorem frame_timestamp_valid_recent :
    let payload := toBe 8 1700000001500000000 ++ toBe 4 0
    ∃ frame, Accepts "dev" payload frame ∧ Stamped payload frame := by
  intro payload
  have accepted : Accepts "dev" payload (frameOf "dev" payload) := by
    unfold Accepts
    rw [parseFrame_run, if_pos (by decide)]
  refine ⟨frameOf "dev" payload, accepted, ?_⟩
  exact (frame_timestamp_valid_iff "dev" payload _ accepted).2 (Or.inl (by decide))

/-- One nanosecond before 1970 becomes zero seconds and `-1` nanoseconds. -/
theorem nanos_before_epoch_negative :
    ∃ payload frame, Accepts "dev" payload frame ∧ (timestampNs payload).toInt = -1 ∧
      frame.recordedAt = some ⟨0, -1⟩ ∧ ¬ Stamped payload frame := by
  let payload := toBe 8 (2 ^ 64 - 1) ++ toBe 4 0
  have accepted : Accepts "dev" payload (frameOf "dev" payload) := by
    unfold Accepts
    rw [parseFrame_run, if_pos (by decide)]
  have stamp : (frameOf "dev" payload).recordedAt = some ⟨0, -1⟩ := by decide
  refine ⟨payload, frameOf "dev" payload, accepted, by decide, stamp, ?_⟩
  intro stamped
  obtain ⟨at_, found, -, normal⟩ := stamped.valid
  rw [stamp] at found
  cases found
  exact absurd normal.1 (by decide)

/-! ## On the socket -/

/-- **No payload ends the read loop.**  Whatever the payloads are, as long as their
lengths are within the limit, the loop emits the well-formed ones in order. -/
theorem readLoop_payloads (deviceId : String) {payloads : List (List UInt8)}
    (limits : ∀ payload ∈ payloads, 1 ≤ payload.length ∧ payload.length ≤ 1000000)
    {chunks : List (List UInt8)} {rest : List UInt8}
    (arrives : chunks.flatten = payloads.flatMap framed ++ rest) :
    ∃ left, left.flatten = rest ∧ readLoop deviceId chunks =
      (payloads.filter fun payload => WellFormed payload).map (frameOf deviceId) ++
        readLoop deviceId left := by
  induction payloads generalizing chunks with
  | nil => exact ⟨chunks, arrives, rfl⟩
  | cons payload others ih =>
      obtain ⟨nonempty, small⟩ := limits payload (by simp)
      rw [List.flatMap_cons, List.append_assoc] at arrives
      obtain ⟨behind, after, turn⟩ := readLoop_framed deviceId nonempty small arrives
      obtain ⟨left, end_, emitted⟩ :=
        ih (fun other member => limits other (List.mem_cons_of_mem payload member)) after
      refine ⟨left, end_, ?_⟩
      rw [turn, parseFrame_run]
      by_cases whole : WellFormed payload
      · simp [whole, emitted]
      · simp [whole, emitted]

end RobotFleet.Robot
