/-
# Telemetry.Pipeline -- joint states from the simulator to the service

Five parties hand the frames on: `RobotController` writes them to a socket, the task
that `run_from_socket` spawns reads them into a channel, tonic takes them to the
service, `stream_telemetry` counts and acknowledges them, and the loop of
`run_from_socket` reads the acks.  Both channels hold 32 entries.  Any party may move
next; a write may fail half way (`on_physics_step` swallows the `OSError`); and each
end of the connection may find it lost.

The socket is a byte string, and a party that finds nothing to do waits.  `written`,
`sent`, `emitted`, `counted` and `seen` record what has passed each party.

* `step_worked`, `step_moved`: all that a step can do.
* `Frames`, `Answered`: where the frames and the acks are, in every reachable state.
* `telemetry_in_order`: whatever happens, the service has counted a prefix of what the
  read loop makes of the written bytes, and the robot has seen the acks for a prefix of
  that.
-/
import RobotFleet.Telemetry.Reading
import RobotFleet.Telemetry.Server
import RobotFleet.Theory.Run

namespace RobotFleet.Telemetry

open RobotFleet.Robot
open RobotFleet.Theory.Bytes
open RobotFleet.Theory.Run

set_option autoImplicit false

/-- The capacity of both `mpsc` channels. -/
def channelCapacity : Nat := 32

/-- What the arguments of `_encode_frame` hold. -/
structure Sample where
  timestampNs : Int
  positions : List UInt64
  torques : List UInt64

def Sample.encode (sample : Sample) : Option (List UInt8) :=
  encodeFrame sample.timestampNs sample.positions sample.torques

/-- The spawned read loop: in `read_exact`, in `tx.send`, or ended. -/
inductive Reader where
  | reading
  | sending (frame : TelemetryFrame)
  | stopped
  deriving DecidableEq

/-- The spawned task of the service: in `stream.next`, in `tx.send`, or ended. -/
inductive Serving where
  | waiting
  | acking (ack : TelemetryAck)
  | ended
  deriving DecidableEq

/-- `run_from_socket`: its loop over the acks, or its result. -/
inductive Call where
  | running
  | returned
  | failed
  deriving DecidableEq

structure Pipeline where
  /-- The simulator closed its socket. -/
  closed : Bool
  wire : List UInt8
  reader : Reader
  channel : List TelemetryFrame
  request : List TelemetryFrame
  serving : Serving
  task : Task
  acks : List TelemetryAck
  response : List TelemetryAck
  call : Call
  /-- The robot's and the service's end of the connection. -/
  clientUp : Bool
  serverUp : Bool
  written : List UInt8
  sent : List Sample
  emitted : List TelemetryFrame
  counted : List TelemetryFrame
  logs : List LogLine
  seen : List TelemetryAck

/-- The simulator has connected and the stream is open. -/
def Pipeline.start (now : Nat) : Pipeline where
  closed := false
  wire := []
  reader := .reading
  channel := []
  request := []
  serving := .waiting
  task := .start now
  acks := []
  response := []
  call := .running
  clientUp := true
  serverUp := true
  written := []
  sent := []
  emitted := []
  counted := []
  logs := []
  seen := []

inductive Action where
  /-- `on_physics_step`; `failedAt` is where `sendall` raised an `OSError`. -/
  | physicsStep (sample : Sample) (failedAt : Option Nat)
  | shutdown
  | read
  | push
  | forward
  | serve (now later : Nat)
  | sendAck
  | respond
  | readAck
  /-- An end finds the connection lost, with `kept` messages arrived before. -/
  | clientLost (kept : Nat)
  | serverLost (kept : Nat)

/-! ## The parties -/

namespace Pipeline

/-- `on_physics_step`.  Python raises on values it cannot pack; a socket that nobody
reads any more raises the `OSError` at once. -/
def physicsStep (s : Pipeline) (sample : Sample) (failedAt : Option Nat) : Pipeline :=
  match sample.encode with
  | none => s
  | some frame =>
    if s.closed ∨ s.reader = .stopped then s
    else
      match failedAt with
      | none =>
        { s with
          wire := s.wire ++ frame
          written := s.written ++ frame
          sent := s.sent ++ [sample] }
      | some n => { s with wire := s.wire ++ frame.take n, written := s.written ++ frame.take n }

def read (deviceId : String) (s : Pipeline) : Pipeline :=
  match s.reader with
  | .reading =>
    match readTurn deviceId s.wire s.closed with
    | .waits => s
    | .stops => { s with reader := .stopped }
    | .skips rest => { s with wire := rest }
    | .emits frame rest =>
      { s with wire := rest, reader := .sending frame, emitted := s.emitted ++ [frame] }
  | _ => s

/-- `tx.send(frame).await`: the receiver goes with the connection. -/
def push (s : Pipeline) : Pipeline :=
  match s.reader with
  | .sending frame =>
    if s.clientUp then
      if s.channel.length < channelCapacity then
        { s with reader := .reading, channel := s.channel ++ [frame] }
      else s
    else { s with reader := .stopped }
  | _ => s

/-- The next message of the request stream sets out. -/
def forward (s : Pipeline) : Pipeline :=
  match s.channel with
  | [] => s
  | frame :: rest =>
    if s.clientUp then
      if s.serverUp then { s with channel := rest, request := s.request ++ [frame] }
      else { s with channel := rest }
    else s

/-- The loop of the service is over. -/
def finish (s : Pipeline) : Pipeline :=
  { s with serving := .ended, logs := s.logs ++ s.task.finish }

/-- `stream.next().await`, up to the ack.  The request stream ends behind its last
message once the read loop has dropped its sender. -/
def serve (s : Pipeline) (now later : Nat) : Pipeline :=
  match s.serving with
  | .waiting =>
    match s.request with
    | frame :: rest =>
      { s with
        request := rest
        task := (s.task.receive frame now later).1
        logs := s.logs ++ (s.task.receive frame now later).2
        serving := .acking (s.task.receive frame now later).1.ack
        counted := s.counted ++ [frame] }
    | [] =>
      if s.serverUp then
        if s.clientUp ∧ s.reader = .stopped ∧ s.channel = [] then s.finish else s
      -- the stream yields an error; the `INTERNAL` goes to a connection that is gone
      else s.finish
  | _ => s

def sendAck (s : Pipeline) : Pipeline :=
  match s.serving with
  | .acking ack =>
    if s.serverUp then
      if s.acks.length < channelCapacity then
        { s with serving := .waiting, acks := s.acks ++ [ack] }
      else s
    else s.finish
  | _ => s

def respond (s : Pipeline) : Pipeline :=
  match s.acks with
  | [] => s
  | ack :: rest =>
    if s.serverUp then
      if s.clientUp then { s with acks := rest, response := s.response ++ [ack] }
      else { s with acks := rest }
    else s

/-- `resp_stream.message().await?`.  The service never asks for the pause that a
`throttle` makes. -/
def readAck (s : Pipeline) : Pipeline :=
  match s.call with
  | .running =>
    match s.response with
    | ack :: rest => { s with response := rest, seen := s.seen ++ [ack] }
    | [] =>
      if s.clientUp then
        if s.serverUp ∧ s.serving = .ended ∧ s.acks = [] then { s with call := .returned } else s
      else { s with call := .failed }
  | _ => s

end Pipeline

def step (deviceId : String) (s : Pipeline) : Action → Pipeline
  | .physicsStep sample failedAt => s.physicsStep sample failedAt
  | .shutdown => { s with closed := true }
  | .read => s.read deviceId
  | .push => s.push
  | .forward => s.forward
  | .serve now later => s.serve now later
  | .sendAck => s.sendAck
  | .respond => s.respond
  | .readAck => s.readAck
  | .clientLost kept => { s with clientUp := false, response := s.response.take kept }
  | .serverLost kept => { s with serverUp := false, request := s.request.take kept }

/-- The parties' own moves. -/
def Action.inner : Action → Bool
  | .physicsStep .. | .shutdown | .clientLost _ | .serverLost _ => false
  | _ => true

def stream (deviceId : String) (now : Nat) (actions : List Action) : Pipeline :=
  run (step deviceId) (.start now) actions

/-! ## What a step can do -/

/-- The moves of the parties that do something, with what allows them. -/
inductive Worked (deviceId : String) (s : Pipeline) : Pipeline → Prop where
  | broke (reads : s.reader = .reading) (turn : readTurn deviceId s.wire s.closed = .stops) :
      Worked deviceId s { s with reader := .stopped }
  | skipped (rest : List UInt8) (reads : s.reader = .reading)
      (turn : readTurn deviceId s.wire s.closed = .skips rest) :
      Worked deviceId s { s with wire := rest }
  | parsed (frame : TelemetryFrame) (rest : List UInt8) (reads : s.reader = .reading)
      (turn : readTurn deviceId s.wire s.closed = .emits frame rest) :
      Worked deviceId s
        { s with wire := rest, reader := .sending frame, emitted := s.emitted ++ [frame] }
  | pushed (frame : TelemetryFrame) (sends : s.reader = .sending frame) (up : s.clientUp = true)
      (room : s.channel.length < channelCapacity) :
      Worked deviceId s { s with reader := .reading, channel := s.channel ++ [frame] }
  | refused (frame : TelemetryFrame) (sends : s.reader = .sending frame) (down : s.clientUp = false) :
      Worked deviceId s { s with reader := .stopped }
  | forwarded (frame : TelemetryFrame) (rest : List TelemetryFrame) (next : s.channel = frame :: rest)
      (up : s.clientUp = true) (reached : s.serverUp = true) :
      Worked deviceId s { s with channel := rest, request := s.request ++ [frame] }
  | dropped (frame : TelemetryFrame) (rest : List TelemetryFrame) (next : s.channel = frame :: rest)
      (down : s.serverUp = false) : Worked deviceId s { s with channel := rest }
  | received (frame : TelemetryFrame) (rest : List TelemetryFrame) (now later : Nat)
      (waits : s.serving = .waiting) (next : s.request = frame :: rest) :
      Worked deviceId s
        { s with
          request := rest
          task := (s.task.receive frame now later).1
          logs := s.logs ++ (s.task.receive frame now later).2
          serving := .acking (s.task.receive frame now later).1.ack
          counted := s.counted ++ [frame] }
  | exhausted (waits : s.serving = .waiting) (none_ : s.request = [])
      (finished : s.serverUp = false ∨ s.reader = .stopped ∧ s.channel = []) :
      Worked deviceId s s.finish
  | acked (ack : TelemetryAck) (acks : s.serving = .acking ack) (up : s.serverUp = true)
      (room : s.acks.length < channelCapacity) :
      Worked deviceId s { s with serving := .waiting, acks := s.acks ++ [ack] }
  | unheard (ack : TelemetryAck) (acks : s.serving = .acking ack) (down : s.serverUp = false) :
      Worked deviceId s s.finish
  | responded (ack : TelemetryAck) (rest : List TelemetryAck) (next : s.acks = ack :: rest)
      (up : s.serverUp = true) (reached : s.clientUp = true) :
      Worked deviceId s { s with acks := rest, response := s.response ++ [ack] }
  | discarded (ack : TelemetryAck) (rest : List TelemetryAck) (next : s.acks = ack :: rest)
      (down : s.clientUp = false) : Worked deviceId s { s with acks := rest }
  | saw (ack : TelemetryAck) (rest : List TelemetryAck) (runs : s.call = .running)
      (next : s.response = ack :: rest) :
      Worked deviceId s { s with response := rest, seen := s.seen ++ [ack] }
  | returned (runs : s.call = .running) (none_ : s.response = []) (finished : s.serving = .ended)
      (drained : s.acks = []) : Worked deviceId s { s with call := .returned }
  | failed (runs : s.call = .running) (down : s.clientUp = false) :
      Worked deviceId s { s with call := .failed }

/-- The steps that do something: those moves, and what comes from outside. -/
inductive Moved (deviceId : String) (s : Pipeline) : Pipeline → Prop where
  | worked {s' : Pipeline} (worked : Worked deviceId s s') : Moved deviceId s s'
  | wrote (bytes : List UInt8) (sent : List Sample) (open_ : s.closed = false)
      (attended : s.reader ≠ .stopped) :
      Moved deviceId s
        { s with wire := s.wire ++ bytes, written := s.written ++ bytes, sent := sent }
  | shut : Moved deviceId s { s with closed := true }
  | clientLost (kept : Nat) :
      Moved deviceId s { s with clientUp := false, response := s.response.take kept }
  | serverLost (kept : Nat) :
      Moved deviceId s { s with serverUp := false, request := s.request.take kept }

theorem moved_physicsStep (deviceId : String) (s : Pipeline) (sample : Sample) (failedAt : Option Nat) :
    s.physicsStep sample failedAt = s ∨ Moved deviceId s (s.physicsStep sample failedAt) := by
  unfold Pipeline.physicsStep
  cases packed : sample.encode with
  | none => exact Or.inl rfl
  | some frame =>
      by_cases refused : s.closed = true ∨ s.reader = .stopped
      · exact Or.inl (if_pos refused)
      · have open_ : s.closed = false := by
          cases closed : s.closed with
          | true => exact absurd (Or.inl closed) refused
          | false => rfl
        have attended : s.reader ≠ .stopped := fun stopped => refused (Or.inr stopped)
        simp only [if_neg refused]
        cases failedAt with
        | none => exact Or.inr (.wrote frame _ open_ attended)
        | some n => exact Or.inr (.wrote (frame.take n) s.sent open_ attended)

theorem worked_read (deviceId : String) (s : Pipeline) :
    s.read deviceId = s ∨ Worked deviceId s (s.read deviceId) := by
  unfold Pipeline.read
  split
  · rename_i reads
    split
    · exact Or.inl rfl
    · rename_i turn
      exact Or.inr (.broke reads turn)
    · rename_i rest turn
      exact Or.inr (.skipped rest reads turn)
    · rename_i frame rest turn
      exact Or.inr (.parsed frame rest reads turn)
  · exact Or.inl rfl

theorem worked_push (deviceId : String) (s : Pipeline) : s.push = s ∨ Worked deviceId s s.push := by
  unfold Pipeline.push
  split
  · rename_i frame sends
    split
    · rename_i up
      split
      · rename_i room
        exact Or.inr (.pushed frame sends up room)
      · exact Or.inl rfl
    · rename_i down
      exact Or.inr (.refused frame sends (Bool.eq_false_of_not_eq_true down))
  · exact Or.inl rfl

theorem worked_forward (deviceId : String) (s : Pipeline) :
    s.forward = s ∨ Worked deviceId s s.forward := by
  unfold Pipeline.forward
  split
  · exact Or.inl rfl
  · rename_i frame rest next
    split
    · rename_i up
      split
      · rename_i reached
        exact Or.inr (.forwarded frame rest next up reached)
      · rename_i down
        exact Or.inr (.dropped frame rest next (Bool.eq_false_of_not_eq_true down))
    · exact Or.inl rfl

theorem worked_serve (deviceId : String) (s : Pipeline) (now later : Nat) :
    s.serve now later = s ∨ Worked deviceId s (s.serve now later) := by
  unfold Pipeline.serve
  split
  · rename_i waits
    split
    · rename_i frame rest next
      exact Or.inr (.received frame rest now later waits next)
    · rename_i none_
      split
      · split
        · rename_i finished
          exact Or.inr (.exhausted waits none_ (Or.inr finished.2))
        · exact Or.inl rfl
      · rename_i down
        exact Or.inr (.exhausted waits none_ (Or.inl (Bool.eq_false_of_not_eq_true down)))
  · exact Or.inl rfl

theorem worked_sendAck (deviceId : String) (s : Pipeline) :
    s.sendAck = s ∨ Worked deviceId s s.sendAck := by
  unfold Pipeline.sendAck
  split
  · rename_i ack acks
    split
    · rename_i up
      split
      · rename_i room
        exact Or.inr (.acked ack acks up room)
      · exact Or.inl rfl
    · rename_i down
      exact Or.inr (.unheard ack acks (Bool.eq_false_of_not_eq_true down))
  · exact Or.inl rfl

theorem worked_respond (deviceId : String) (s : Pipeline) :
    s.respond = s ∨ Worked deviceId s s.respond := by
  unfold Pipeline.respond
  split
  · exact Or.inl rfl
  · rename_i ack rest next
    split
    · rename_i up
      split
      · rename_i reached
        exact Or.inr (.responded ack rest next up reached)
      · rename_i down
        exact Or.inr (.discarded ack rest next (Bool.eq_false_of_not_eq_true down))
    · exact Or.inl rfl

theorem worked_readAck (deviceId : String) (s : Pipeline) :
    s.readAck = s ∨ Worked deviceId s s.readAck := by
  unfold Pipeline.readAck
  split
  · rename_i runs
    split
    · rename_i ack rest next
      exact Or.inr (.saw ack rest runs next)
    · rename_i none_
      split
      · split
        · rename_i finished
          exact Or.inr (.returned runs none_ finished.2.1 finished.2.2)
        · exact Or.inl rfl
      · rename_i down
        exact Or.inr (.failed runs (Bool.eq_false_of_not_eq_true down))
  · exact Or.inl rfl

theorem step_worked (deviceId : String) (s : Pipeline) {a : Action} (inner : a.inner = true) :
    step deviceId s a = s ∨ Worked deviceId s (step deviceId s a) := by
  cases a with
  | physicsStep | shutdown | clientLost | serverLost => cases inner
  | read => exact worked_read deviceId s
  | push => exact worked_push deviceId s
  | forward => exact worked_forward deviceId s
  | serve now later => exact worked_serve deviceId s now later
  | sendAck => exact worked_sendAck deviceId s
  | respond => exact worked_respond deviceId s
  | readAck => exact worked_readAck deviceId s

theorem step_moved (deviceId : String) (s : Pipeline) (a : Action) :
    step deviceId s a = s ∨ Moved deviceId s (step deviceId s a) := by
  cases inner : a.inner with
  | true => exact (step_worked deviceId s inner).imp_right .worked
  | false =>
      cases a with
      | physicsStep sample failedAt => exact moved_physicsStep deviceId s sample failedAt
      | shutdown => exact Or.inr .shut
      | clientLost kept => exact Or.inr (.clientLost kept)
      | serverLost kept => exact Or.inr (.serverLost kept)
      | read | push | forward | serve | sendAck | respond | readAck => cases inner

/-! ## Frames -/

/-- The frame that the read loop has in its hands. -/
def Reader.held : Reader → List TelemetryFrame
  | .sending frame => [frame]
  | _ => []

/-- The read loop took whole payloads off the socket and emitted the well-formed ones. -/
def Consumed (deviceId : String) (s : Pipeline) : Prop :=
  ∃ payloads : List (List UInt8), (∀ payload ∈ payloads, Admissible payload) ∧
    s.written = payloads.flatMap framed ++ s.wire ∧
    s.emitted = (payloads.filter fun payload => WellFormed payload).map (frameOf deviceId)

/-- Where the frames are. -/
structure Frames (deviceId : String) (s : Pipeline) : Prop where
  consumed : Consumed deviceId s
  passed : s.counted ++ s.request <+: s.emitted
  conserved : s.clientUp = true → s.serverUp = true →
    s.emitted = s.counted ++ s.request ++ s.channel ++ s.reader.held
  bounded : s.channel.length ≤ channelCapacity
  stopped : s.reader = .stopped → s.clientUp = true →
    BadLength s.wire ∨ s.closed = true ∧ Incomplete s.wire
  ended : s.serving = .ended → s.clientUp = true → s.serverUp = true →
    s.reader = .stopped ∧ s.channel = [] ∧ s.request = []

section Frames

variable {deviceId : String} {s s' : Pipeline}

theorem frames_start (now : Nat) : Frames deviceId (.start now) where
  consumed := ⟨[], by simp, rfl, rfl⟩
  passed := List.prefix_rfl
  conserved _ _ := rfl
  bounded := Nat.zero_le _
  stopped stopped := by cases stopped
  ended ended := by cases ended

/-- A turn that goes past a payload. -/
theorem Consumed.turn (consumed : Consumed deviceId s) {payload rest : List UInt8}
    (next : s.wire = framed payload ++ rest) (admissible : Admissible payload)
    (wire : s'.wire = rest) (written : s'.written = s.written)
    (emitted : s'.emitted = s.emitted ++ if WellFormed payload then [frameOf deviceId payload] else []) :
    Consumed deviceId s' := by
  obtain ⟨payloads, all, bytes, frames⟩ := consumed
  refine ⟨payloads ++ [payload], ?_, ?_, ?_⟩
  · intro p member
    rcases List.mem_append.1 member with earlier | last
    · exact all p earlier
    · rwa [List.mem_singleton.1 last]
  · rw [written, bytes, wire, next, List.flatMap_append, List.flatMap_singleton, List.append_assoc]
  · rw [emitted, frames, List.filter_append, List.map_append]
    by_cases whole : WellFormed payload
    · simp [whole]
    · simp [whole]

theorem frames_worked (sound : Frames deviceId s) (worked : Worked deviceId s s') :
    Frames deviceId s' := by
  cases worked with
  | broke reads turn =>
      refine { sound with conserved := ?_, stopped := fun _ _ => readTurn_stops turn, ended := ?_ }
      · intro up reached
        have conserved := sound.conserved up reached
        rwa [reads] at conserved
      · exact fun ended up reached => ⟨rfl, (sound.ended ended up reached).2⟩
  | skipped rest reads turn =>
      obtain ⟨payload, next, admissible, rejected⟩ := readTurn_skips turn
      refine { sound with consumed := ?_, stopped := ?_ }
      · exact sound.consumed.turn next admissible rfl rfl (by simp [rejected])
      · exact fun stopped => absurd (reads.symm.trans stopped) (by simp)
  | parsed frame rest reads turn =>
      obtain ⟨payload, next, admissible, whole, rfl⟩ := readTurn_emits turn
      refine { sound with consumed := ?_, passed := ?_, conserved := ?_, stopped := ?_, ended := ?_ }
      · exact sound.consumed.turn next admissible rfl rfl (by simp [whole])
      · exact sound.passed.trans (List.prefix_append _ _)
      · intro up reached
        have conserved := sound.conserved up reached
        rw [reads] at conserved
        simp only [conserved, Reader.held, List.append_nil]
      · intro stopped
        cases stopped
      · intro ended up reached
        have stopped := (sound.ended ended up reached).1
        rw [reads] at stopped
        cases stopped
  | pushed frame sends up room =>
      refine { sound with conserved := ?_, bounded := ?_, stopped := ?_, ended := ?_ }
      · intro up reached
        have conserved := sound.conserved up reached
        rw [sends] at conserved
        simpa [Reader.held] using conserved
      · show (s.channel ++ [frame]).length ≤ channelCapacity
        rw [List.length_append]
        exact room
      · intro stopped
        cases stopped
      · intro ended up reached
        have stopped := (sound.ended ended up reached).1
        rw [sends] at stopped
        cases stopped
  | refused frame sends down =>
      refine { sound with conserved := ?_, stopped := ?_, ended := ?_ }
      · exact fun up => absurd (down.symm.trans up) (by simp)
      · exact fun _ up => absurd (down.symm.trans up) (by simp)
      · exact fun _ up => absurd (down.symm.trans up) (by simp)
  | forwarded frame rest next up reached =>
      have conserved := sound.conserved up reached
      rw [next] at conserved
      refine { sound with passed := ?_, conserved := ?_, bounded := ?_, ended := ?_ }
      · refine ⟨rest ++ s.reader.held, ?_⟩
        simp [conserved]
      · intro _ _
        simpa using conserved
      · have bounded := sound.bounded
        rw [next, List.length_cons] at bounded
        exact Nat.le_of_succ_le bounded
      · intro ended _ _
        have empty := (sound.ended ended up reached).2.1
        rw [next] at empty
        cases empty
  | dropped frame rest next down =>
      refine { sound with conserved := ?_, bounded := ?_, ended := ?_ }
      · exact fun _ reached => absurd (down.symm.trans reached) (by simp)
      · have bounded := sound.bounded
        rw [next, List.length_cons] at bounded
        exact Nat.le_of_succ_le bounded
      · exact fun _ _ reached => absurd (down.symm.trans reached) (by simp)
  | received frame rest now later waits next =>
      refine { sound with passed := ?_, conserved := ?_, ended := ?_ }
      · have passed := sound.passed
        rw [next] at passed
        simpa using passed
      · intro up reached
        have conserved := sound.conserved up reached
        rw [next] at conserved
        simpa using conserved
      · intro ended
        cases ended
  | exhausted waits none_ finished =>
      refine { sound with ended := fun _ up reached => ?_ }
      rcases finished with down | ⟨stopped, drained⟩
      · exact absurd (down.symm.trans reached) (by simp)
      · exact ⟨stopped, drained, none_⟩
  | acked ack acks up room =>
      refine { sound with ended := fun ended => ?_ }
      cases ended
  | unheard ack acks down =>
      exact { sound with ended := fun _ _ reached => absurd (down.symm.trans reached) (by simp) }
  | responded ack rest next up reached => exact { sound with }
  | discarded ack rest next down => exact { sound with }
  | saw ack rest runs next => exact { sound with }
  | returned runs none_ finished drained => exact { sound with }
  | failed runs down => exact { sound with }

theorem frames_moved (sound : Frames deviceId s) (moved : Moved deviceId s s') : Frames deviceId s' := by
  cases moved with
  | worked worked => exact frames_worked sound worked
  | wrote bytes sent open_ attended =>
      obtain ⟨payloads, all, written, frames⟩ := sound.consumed
      refine { sound with consumed := ⟨payloads, all, ?_, frames⟩, stopped := ?_ }
      · show s.written ++ bytes = _ ++ (s.wire ++ bytes)
        rw [written, List.append_assoc]
      · exact fun stopped => absurd stopped attended
  | shut =>
      refine { sound with stopped := fun stopped up => ?_ }
      rcases sound.stopped stopped up with bad | ⟨-, incomplete⟩
      · exact Or.inl bad
      · exact Or.inr ⟨rfl, incomplete⟩
  | clientLost kept =>
      refine { sound with conserved := fun up => ?_, stopped := fun _ up => ?_, ended := fun _ up => ?_ }
      all_goals cases up
  | serverLost kept =>
      refine { sound with passed := ?_, conserved := fun _ up => ?_, ended := fun _ _ up => ?_ }
      · exact ((List.prefix_append_right_inj _).2 (List.take_prefix kept _)).trans sound.passed
      all_goals cases up

theorem frames_step (s : Pipeline) (a : Action) (sound : Frames deviceId s) :
    Frames deviceId (step deviceId s a) := by
  rcases step_moved deviceId s a with same | moved
  · rwa [same]
  · exact frames_moved sound moved

end Frames

/-! ## Acks -/

/-- The ack that the service has in its hands. -/
def Serving.held : Serving → List TelemetryAck
  | .acking ack => [ack]
  | _ => []

/-- The acks for `n` frames. -/
def acksUpTo (n : Nat) : List TelemetryAck := (List.range n).map fun i => ⟨i + 1, false⟩

theorem acksUpTo_succ (n : Nat) : acksUpTo (n + 1) = acksUpTo n ++ [⟨n + 1, false⟩] := by
  simp [acksUpTo, List.range_succ]

/-- The frames that the log does not have yet. -/
def Pipeline.openWindow (s : Pipeline) : Nat :=
  match s.serving with
  | .ended => 0
  | _ => s.task.framesInWindow

/-- Where the acks are, and what the log has. -/
structure Answered (s : Pipeline) : Prop where
  received : s.task.framesReceived = s.counted.length
  acked : s.seen ++ s.response <+: acksUpTo s.counted.length
  conserved : s.clientUp = true → s.serverUp = true →
    acksUpTo s.counted.length = s.seen ++ s.response ++ s.acks ++ s.serving.held
  bounded : s.acks.length ≤ channelCapacity
  returned : s.call = .returned → s.serving = .ended ∧ s.acks = [] ∧ s.response = []
  failed : s.call = .failed → s.clientUp = false
  logged : (s.logs.map (·.framesInWindow)).sum + s.openWindow = s.counted.length

section Answered

variable {deviceId : String} {s s' : Pipeline}

theorem answered_start (now : Nat) : Answered (.start now) where
  received := rfl
  acked := List.prefix_rfl
  conserved _ _ := rfl
  bounded := Nat.zero_le _
  returned returned := by cases returned
  failed failed := by cases failed
  logged := rfl

/-- The task ends; what it held goes unsent. -/
theorem Answered.finish (sound : Answered s) (running : s.serving ≠ .ended)
    (lossless : s.serverUp = true → s.serving.held = []) : Answered s.finish := by
  refine { sound with conserved := ?_, returned := ?_, logged := ?_ }
  · intro up reached
    have conserved := sound.conserved up reached
    rwa [lossless reached] at conserved
  · exact fun returned => absurd (sound.returned returned).1 running
  · have logged := sound.logged
    have window : s.openWindow = s.task.framesInWindow := by
      unfold Pipeline.openWindow
      split
      · rename_i ended
        exact absurd ended running
      · rfl
    rw [window] at logged
    show ((s.logs ++ s.task.finish).map (·.framesInWindow)).sum + 0 = s.counted.length
    rw [List.map_append, List.sum_append, finish_window]
    omega

theorem answered_worked (sound : Answered s) (worked : Worked deviceId s s') : Answered s' := by
  cases worked with
  | broke | skipped | parsed | pushed | refused | forwarded | dropped => exact { sound with }
  | received frame rest now later waits next =>
      have ack := receive_ack s.task frame now later
      rw [sound.received] at ack
      have counts : acksUpTo (s.counted ++ [frame]).length =
          acksUpTo s.counted.length ++ [⟨s.counted.length + 1, false⟩] := by
        rw [List.length_append]
        exact acksUpTo_succ _
      refine { sound with received := ?_, acked := ?_, conserved := ?_, returned := ?_, logged := ?_ }
      · rw [receive_received, sound.received, List.length_append]
        rfl
      · rw [counts]
        exact sound.acked.trans (List.prefix_append _ _)
      · intro up reached
        have conserved := sound.conserved up reached
        rw [waits] at conserved
        rw [counts, conserved, ack]
        simp [Serving.held]
      · intro returned
        have ended := (sound.returned returned).1
        rw [waits] at ended
        cases ended
      · have logged := sound.logged
        have window := receive_window s.task frame now later
        simp only [Pipeline.openWindow, waits] at logged
        simp only [Pipeline.openWindow, List.map_append, List.sum_append, List.length_append,
          List.length_singleton]
        omega
  | exhausted waits none_ finished =>
      exact sound.finish (by simp [waits]) fun _ => by rw [waits]; rfl
  | acked ack acks up room =>
      refine { sound with conserved := ?_, bounded := ?_, returned := ?_, logged := ?_ }
      · intro client reached
        have conserved := sound.conserved client reached
        rw [acks] at conserved
        simpa [Serving.held] using conserved
      · show (s.acks ++ [ack]).length ≤ channelCapacity
        rw [List.length_append]
        exact room
      · intro returned
        have ended := (sound.returned returned).1
        rw [acks] at ended
        cases ended
      · have logged := sound.logged
        simp only [Pipeline.openWindow, acks] at logged
        exact logged
  | unheard ack acks down =>
      exact sound.finish (by simp [acks]) fun up => absurd (down.symm.trans up) (by simp)
  | responded ack rest next up reached =>
      have conserved := sound.conserved reached up
      rw [next] at conserved
      refine { sound with acked := ?_, conserved := ?_, bounded := ?_, returned := ?_ }
      · refine ⟨rest ++ s.serving.held, ?_⟩
        simp [conserved]
      · intro _ _
        simpa using conserved
      · have bounded := sound.bounded
        rw [next, List.length_cons] at bounded
        exact Nat.le_of_succ_le bounded
      · intro returned
        have drained := (sound.returned returned).2.1
        rw [next] at drained
        cases drained
  | discarded ack rest next down =>
      refine { sound with conserved := ?_, bounded := ?_, returned := ?_ }
      · exact fun up => absurd (down.symm.trans up) (by simp)
      · have bounded := sound.bounded
        rw [next, List.length_cons] at bounded
        exact Nat.le_of_succ_le bounded
      · intro returned
        have drained := (sound.returned returned).2.1
        rw [next] at drained
        cases drained
  | saw ack rest runs next =>
      refine { sound with acked := ?_, conserved := ?_, returned := ?_ }
      · have acked := sound.acked
        rw [next] at acked
        simpa using acked
      · intro up reached
        have conserved := sound.conserved up reached
        rw [next] at conserved
        simpa using conserved
      · intro returned
        have none_ := (sound.returned returned).2.2
        rw [next] at none_
        cases none_
  | returned runs none_ finished drained =>
      refine { sound with returned := fun _ => ⟨finished, drained, none_⟩, failed := fun failed => ?_ }
      cases failed
  | failed runs down =>
      refine { sound with returned := fun returned => ?_, failed := fun _ => down }
      cases returned

theorem answered_moved (sound : Answered s) (moved : Moved deviceId s s') : Answered s' := by
  cases moved with
  | worked worked => exact answered_worked sound worked
  | wrote | shut => exact { sound with }
  | clientLost kept =>
      refine { sound with acked := ?_, conserved := fun up => ?_, returned := ?_, failed := ?_ }
      · exact ((List.prefix_append_right_inj _).2 (List.take_prefix kept _)).trans sound.acked
      · cases up
      · intro returned
        obtain ⟨ended, drained, none_⟩ := sound.returned returned
        refine ⟨ended, drained, ?_⟩
        show s.response.take kept = []
        rw [none_, List.take_nil]
      · exact fun _ => rfl
  | serverLost kept =>
      refine { sound with conserved := fun _ up => ?_ }
      cases up

theorem answered_step (s : Pipeline) (a : Action) (sound : Answered s) :
    Answered (step deviceId s a) := by
  rcases step_moved deviceId s a with same | moved
  · rwa [same]
  · exact answered_moved sound moved

end Answered

/-- What the read loop makes of all that was written: what it has emitted, and what is
still in the socket. -/
theorem Consumed.readLoop {deviceId : String} {s : Pipeline} (consumed : Consumed deviceId s) :
    ∃ left, left.flatten = s.wire ∧
      Robot.readLoop deviceId [s.written] = s.emitted ++ Robot.readLoop deviceId left := by
  obtain ⟨payloads, all, written, emitted⟩ := consumed
  have arrives : [s.written].flatten = payloads.flatMap framed ++ s.wire := by
    rw [List.flatten_singleton, written]
  obtain ⟨left, behind, reads⟩ := readLoop_payloads deviceId all arrives
  exact ⟨left, behind, by rw [reads, emitted]⟩

theorem Frames.counted_prefix {deviceId : String} {s : Pipeline} (frames : Frames deviceId s) :
    s.counted <+: Robot.readLoop deviceId [s.written] := by
  obtain ⟨left, -, reads⟩ := frames.consumed.readLoop
  rw [reads]
  exact ((List.prefix_append _ _).trans frames.passed).trans (List.prefix_append _ _)

section Runs

variable (deviceId : String) (now : Nat) (actions : List Action)

theorem frames_stream : Frames deviceId (stream deviceId now actions) :=
  run_invariant_free _ frames_step (frames_start now) actions

theorem answered_stream : Answered (stream deviceId now actions) :=
  run_invariant_free _ answered_step (answered_start now) actions

/-- **Telemetry is in order.**  In every run, with writes cut short and the connection
lost at either end: the service has counted a prefix of what the read loop makes of the
written bytes, the robot has seen the acks of a prefix of these, in order and without
gaps, neither channel is over its capacity, and the windows of the log and the open
window have every counted frame. -/
theorem telemetry_in_order :
    (stream deviceId now actions).counted <+:
        Robot.readLoop deviceId [(stream deviceId now actions).written] ∧
    (stream deviceId now actions).seen <+: acksUpTo (stream deviceId now actions).counted.length ∧
    (stream deviceId now actions).channel.length ≤ channelCapacity ∧
    (stream deviceId now actions).acks.length ≤ channelCapacity ∧
    ((stream deviceId now actions).logs.map (·.framesInWindow)).sum +
        (stream deviceId now actions).openWindow = (stream deviceId now actions).counted.length := by
  have frames := frames_stream deviceId now actions
  have answered := answered_stream deviceId now actions
  exact ⟨frames.counted_prefix, (List.prefix_append _ _).trans answered.acked, frames.bounded,
    answered.bounded, answered.logged⟩

end Runs

end RobotFleet.Telemetry
