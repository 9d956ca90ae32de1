/-
# Telemetry.Reading -- the read loop, one turn at a time

`readLoop` of `Robot.Telemetry` is the loop that `run_from_socket` spawns, over a stream
that has ended.  While the simulator is still writing, a turn may have to wait;
`readTurn` is that turn, on the bytes that have arrived.

* `readTurn_cases`: a turn waits for an incomplete payload, stops at a refused length or
  at the end of the stream, or goes past one payload.
* `not_derails`: whole payloads are cut off a byte string in one way only, so a refused
  length is met in every reading of it or in none.
* `readLoop_of_incomplete`, `readLoop_of_badLength`: where a turn does not go on, the
  loop emits nothing.
-/
import RobotFleet.Robot.FrameFormat

namespace RobotFleet.Telemetry

open RobotFleet.Robot
open RobotFleet.Theory.Bytes

set_option autoImplicit false

/-- What a turn of the read loop does with the bytes that have arrived. -/
inductive Turn where
  | waits
  | stops
  | skips (rest : List UInt8)
  | emits (frame : TelemetryFrame) (rest : List UInt8)

def readTurn (deviceId : String) (wire : List UInt8) (closed : Bool) : Turn :=
  if wire.length < 4 then if closed then .stops else .waits
  else
    let payloadLen := ofBe (wire.take 4)
    if payloadLen = 0 ∨ payloadLen > 1000000 then .stops
    else if wire.length < 4 + payloadLen then if closed then .stops else .waits
    else
      let left := wire.drop (4 + payloadLen)
      match (parseFrame deviceId ((wire.drop 4).take payloadLen)).run with
      | .error _ => .stops
      | .ok none => .skips left
      | .ok (some frame) => .emits frame left

/-! ## Reading the socket -/

/-- The lengths that the read loop takes. -/
def Admissible (payload : List UInt8) : Prop := 1 ≤ payload.length ∧ payload.length ≤ 1000000

/-- A length comes next that the read loop refuses. -/
def BadLength (bytes : List UInt8) : Prop :=
  4 ≤ bytes.length ∧ (ofBe (bytes.take 4) = 0 ∨ ofBe (bytes.take 4) > 1000000)

/-- The bytes end before the next payload does. -/
def Incomplete (bytes : List UInt8) : Prop :=
  bytes.length < 4 ∨
    ¬ (ofBe (bytes.take 4) = 0 ∨ ofBe (bytes.take 4) > 1000000) ∧ bytes.length < 4 + ofBe (bytes.take 4)

/-- Behind whole payloads comes a length that the read loop refuses. -/
def Derails (bytes : List UInt8) : Prop :=
  ∃ (payloads : List (List UInt8)) (rest : List UInt8), (∀ payload ∈ payloads, Admissible payload) ∧
    bytes = payloads.flatMap framed ++ rest ∧ BadLength rest

section Reading

variable (deviceId : String)

theorem ofBe_take_framed {payload : List UInt8} (admissible : Admissible payload) (rest : List UInt8) :
    ofBe ((framed payload ++ rest).take 4) = payload.length := by
  have small := admissible.2
  rw [framed, List.append_assoc, List.take_left' (length_toBe 4 _), ofBe_toBe (by omega)]

theorem length_framed (payload rest : List UInt8) :
    (framed payload ++ rest).length = 4 + payload.length + rest.length := by
  rw [framed, List.length_append, List.length_append, length_toBe]

theorem not_badLength_framed {payload : List UInt8} (admissible : Admissible payload)
    (rest : List UInt8) : ¬ BadLength (framed payload ++ rest) := by
  rintro ⟨-, bad⟩
  rw [ofBe_take_framed admissible] at bad
  obtain ⟨nonempty, small⟩ := admissible
  omega

theorem not_incomplete_framed {payload : List UInt8} (admissible : Admissible payload)
    (rest : List UInt8) : ¬ Incomplete (framed payload ++ rest) := by
  have length := length_framed payload rest
  have size := ofBe_take_framed admissible rest
  unfold Incomplete
  rw [length, size]
  omega

theorem Incomplete.not_badLength {bytes : List UInt8} (incomplete : Incomplete bytes) :
    ¬ BadLength bytes := by
  rintro ⟨begun, bad⟩
  rcases incomplete with short | ⟨good, -⟩
  · omega
  · exact good bad

/-- Whole payloads are cut off a byte string in one way only. -/
theorem not_derails {payloads : List (List UInt8)} (all : ∀ payload ∈ payloads, Admissible payload)
    {rest : List UInt8} (incomplete : Incomplete rest) :
    ¬ Derails (payloads.flatMap framed ++ rest) := by
  rintro ⟨others, rest', all', same, bad⟩
  induction payloads generalizing others with
  | nil =>
      cases others with
      | nil =>
          have one : rest = rest' := by simpa using same
          exact incomplete.not_badLength (one ▸ bad)
      | cons other others =>
          have whole : rest = framed other ++ (others.flatMap framed ++ rest') := by simpa using same
          exact not_incomplete_framed (all' other (by simp)) _ (whole ▸ incomplete)
  | cons payload payloads ih =>
      have admissible : Admissible payload := all payload (by simp)
      cases others with
      | nil =>
          have whole : rest' = framed payload ++ (payloads.flatMap framed ++ rest) := by
            simpa using same.symm
          exact not_badLength_framed admissible _ (whole ▸ bad)
      | cons other others =>
          have admissible' : Admissible other := all' other (by simp)
          simp only [List.flatMap_cons, List.append_assoc] at same
          -- the two lengths are read from the same four bytes
          have sizes : payload.length = other.length := by
            rw [← ofBe_take_framed admissible, ← ofBe_take_framed admissible', same]
          have lengths : (framed payload).length = (framed other).length := by
            simp [framed, sizes]
          exact ih (fun p member => all p (List.mem_cons_of_mem _ member)) others
            (fun p member => all' p (List.mem_cons_of_mem _ member)) (List.append_inj same lengths).2

/-- The four things a turn can do. -/
theorem readTurn_cases (wire : List UInt8) (closed : Bool) :
    (readTurn deviceId wire closed = .waits ∧ closed = false ∧ Incomplete wire) ∨
    (readTurn deviceId wire closed = .stops ∧ (BadLength wire ∨ closed = true ∧ Incomplete wire)) ∨
    ∃ payload rest, wire = framed payload ++ rest ∧ Admissible payload ∧
      (¬ WellFormed payload ∧ readTurn deviceId wire closed = .skips rest ∨
        WellFormed payload ∧ readTurn deviceId wire closed = .emits (frameOf deviceId payload) rest) := by
  have ends : Incomplete wire →
      (if closed then Turn.stops else Turn.waits) = readTurn deviceId wire closed →
      (readTurn deviceId wire closed = .waits ∧ closed = false ∧ Incomplete wire) ∨
      (readTurn deviceId wire closed = .stops ∧ (BadLength wire ∨ closed = true ∧ Incomplete wire)) := by
    intro incomplete turn
    rw [← turn]
    cases closed with
    | false => exact Or.inl ⟨rfl, rfl, incomplete⟩
    | true => exact Or.inr ⟨rfl, Or.inr ⟨rfl, incomplete⟩⟩
  by_cases short : wire.length < 4
  · exact or_assoc.1 (Or.inl (ends (Or.inl short) (if_pos short).symm))
  by_cases bad : ofBe (wire.take 4) = 0 ∨ ofBe (wire.take 4) > 1000000
  · refine Or.inr (Or.inl ⟨?_, Or.inl ⟨by omega, bad⟩⟩)
    simp only [readTurn, if_neg short, if_pos bad]
  by_cases cut : wire.length < 4 + ofBe (wire.take 4)
  · refine or_assoc.1 (Or.inl (ends (Or.inr ⟨bad, cut⟩) ?_))
    simp only [readTurn, if_neg short, if_neg bad, if_pos cut]
  have sized : ((wire.drop 4).take (ofBe (wire.take 4))).length = ofBe (wire.take 4) := by
    rw [List.length_take, List.length_drop]
    omega
  refine Or.inr (Or.inr ⟨(wire.drop 4).take (ofBe (wire.take 4)), wire.drop (4 + ofBe (wire.take 4)),
    ?_, ?_, ?_⟩)
  · have four : (wire.take 4).length = 4 := by
      rw [List.length_take]
      omega
    have again := toBe_ofBe (wire.take 4)
    rw [four] at again
    rw [framed, sized, again, List.append_assoc, ← List.drop_drop, List.take_append_drop,
      List.take_append_drop]
  · rw [Admissible, sized]
    omega
  · have parses := parseFrame_run deviceId ((wire.drop 4).take (ofBe (wire.take 4)))
    by_cases whole : WellFormed ((wire.drop 4).take (ofBe (wire.take 4)))
    · rw [if_pos whole] at parses
      exact Or.inr ⟨whole, by simp only [readTurn, if_neg short, if_neg bad, if_neg cut, parses]⟩
    · rw [if_neg whole] at parses
      exact Or.inl ⟨whole, by simp only [readTurn, if_neg short, if_neg bad, if_neg cut, parses]⟩

section Turns

variable {deviceId} {wire rest : List UInt8} {closed : Bool}

theorem readTurn_waits (turn : readTurn deviceId wire closed = .waits) :
    closed = false ∧ Incomplete wire := by
  have cases_ := readTurn_cases deviceId wire closed
  simp only [turn, reduceCtorEq, true_and, false_and, and_false, or_self, exists_const,
    or_false] at cases_
  exact cases_

theorem readTurn_stops (turn : readTurn deviceId wire closed = .stops) :
    BadLength wire ∨ closed = true ∧ Incomplete wire := by
  have cases_ := readTurn_cases deviceId wire closed
  simp only [turn, reduceCtorEq, true_and, false_and, and_false, or_self, exists_const, or_false,
    false_or] at cases_
  exact cases_

theorem readTurn_skips (turn : readTurn deviceId wire closed = .skips rest) :
    ∃ payload, wire = framed payload ++ rest ∧ Admissible payload ∧ ¬ WellFormed payload := by
  have cases_ := readTurn_cases deviceId wire closed
  simp only [turn, reduceCtorEq, false_and, and_false, or_false, false_or, Turn.skips.injEq] at cases_
  obtain ⟨payload, _, next, admissible, rejected, rfl⟩ := cases_
  exact ⟨payload, next, admissible, rejected⟩

theorem readTurn_emits {frame : TelemetryFrame}
    (turn : readTurn deviceId wire closed = .emits frame rest) :
    ∃ payload, wire = framed payload ++ rest ∧ Admissible payload ∧ WellFormed payload ∧
      frame = frameOf deviceId payload := by
  have cases_ := readTurn_cases deviceId wire closed
  simp only [turn, reduceCtorEq, false_and, and_false, false_or, Turn.emits.injEq] at cases_
  obtain ⟨payload, _, next, admissible, whole, rfl, rfl⟩ := cases_
  exact ⟨payload, next, admissible, whole, rfl⟩

end Turns

/-- The read loop emits nothing from what a turn would not go past. -/
theorem readLoop_of_incomplete {chunks : List (List UInt8)} (incomplete : Incomplete chunks.flatten) :
    readLoop deviceId chunks = [] := by
  by_cases short : chunks.flatten.length < 4
  · rw [readLoop]
    split
    · rfl
    · rename_i lengthRead
      rw [readExact_of_lt short] at lengthRead
      cases lengthRead
  · obtain ⟨good, cut⟩ := incomplete.resolve_left short
    have four : (chunks.flatten.take 4).length = 4 := by
      rw [List.length_take]
      omega
    have again := toBe_ofBe (chunks.flatten.take 4)
    rw [four] at again
    obtain ⟨afterLen, behind, turn⟩ :=
      readLoop_announced deviceId (by omega) (by omega) (by omega) again.symm
    have missing : afterLen.flatten.length < ofBe (chunks.flatten.take 4) := by
      rw [behind, List.length_drop]
      omega
    rw [turn, readExact_of_lt missing]

theorem readLoop_of_badLength {chunks : List (List UInt8)} (bad : BadLength chunks.flatten) :
    readLoop deviceId chunks = [] := by
  obtain ⟨begun, bad⟩ := bad
  obtain ⟨left, lengthRead, -⟩ := readExact_of_le begun
  rw [readLoop]
  split
  · rfl
  · rename_i lenBuf afterLen lengthRead'
    rw [lengthRead] at lengthRead'
    obtain ⟨rfl, rfl⟩ := Prod.mk.inj (Option.some.inj lengthRead')
    exact if_pos bad

end Reading

end RobotFleet.Telemetry
