/-
# Telemetry.Drain -- the pipeline comes to rest, with everything delivered

The moves of the parties in `Telemetry.Pipeline` use up the work that is there: bytes
become frames, frames become acks, and a party that has ended stays ended.

* `worked_lowers`: every move lowers the weight of what is left.
* `idle_of_atRest`: with the connection up, a state in which no party can move has no
  frame and no ack on the way.
* `telemetry_drains`: so the parties, left alone, come to rest; all that was written is
  then counted and acknowledged, and `run_from_socket` has returned if and only if the
  simulator closed its socket or wrote a length that the read loop refuses.
* `telemetry_end_to_end`: the same for the frames of the simulator.
-/
import RobotFleet.Telemetry.Pipeline

namespace RobotFleet.Telemetry

open RobotFleet.Robot
open RobotFleet.Theory.Bytes
open RobotFleet.Theory.Run

set_option autoImplicit false

/-! ## Coming to rest -/

def Reader.work : Reader → Nat
  | .reading => 1
  | .sending _ => 7
  | .stopped => 0

def Serving.work : Serving → Nat
  | .waiting => 1
  | .acking _ => 4
  | .ended => 0

def Call.work : Call → Nat
  | .running => 1
  | _ => 0

/-- The moves that are left, at most: every byte, frame and ack weighs what it can
still cause. -/
def Pipeline.work (s : Pipeline) : Nat :=
  2 * s.wire.length + s.reader.work + 5 * s.channel.length + 4 * s.request.length + s.serving.work +
    2 * s.acks.length + s.response.length + s.call.work

section Rest

variable {deviceId : String} {s s' : Pipeline}

theorem worked_lowers (worked : Worked deviceId s s') : s'.work < s.work := by
  unfold Pipeline.work
  cases worked with
  | broke reads turn => simp only [reads, Reader.work]; omega
  | skipped rest reads turn =>
      obtain ⟨payload, next, -⟩ := readTurn_skips turn
      simp only [next, length_framed]
      omega
  | parsed frame rest reads turn =>
      obtain ⟨payload, next, -⟩ := readTurn_emits turn
      simp only [next, length_framed, reads, Reader.work]
      omega
  | pushed frame sends up room =>
      simp only [sends, Reader.work, List.length_append, List.length_singleton]
      omega
  | refused frame sends down => simp only [sends, Reader.work]; omega
  | forwarded frame rest next up reached =>
      simp only [next, List.length_append, List.length_cons, List.length_nil]
      omega
  | dropped frame rest next down => simp only [next, List.length_cons]; omega
  | received frame rest now later waits next =>
      simp only [waits, next, Serving.work, List.length_cons]
      omega
  | exhausted waits none_ finished => simp only [Pipeline.finish, waits, Serving.work]; omega
  | acked ack acks up room =>
      simp only [acks, Serving.work, List.length_append, List.length_singleton]
      omega
  | unheard ack acks down => simp only [Pipeline.finish, acks, Serving.work]; omega
  | responded ack rest next up reached =>
      simp only [next, List.length_append, List.length_cons, List.length_nil]
      omega
  | discarded ack rest next down => simp only [next, List.length_cons]; omega
  | saw ack rest runs next => simp only [next, List.length_cons]; omega
  | returned runs none_ finished drained => simp only [runs, Call.work]; omega
  | failed runs down => simp only [runs, Call.work]; omega

theorem work_lowers (s : Pipeline) (a : Action) (inner : a.inner = true) :
    step deviceId s a = s ∨ (step deviceId s a).work < s.work :=
  (step_worked deviceId s inner).imp_right worked_lowers

/-- No party has anything to do. -/
def AtRest (deviceId : String) (s : Pipeline) : Prop :=
  Quiescent (step deviceId) (fun a => a.inner = true) s

theorem AtRest.no_work (resting : AtRest deviceId s) (a : Action) (inner : a.inner = true)
    {after : Pipeline} (moves : step deviceId s a = after) (worked : Worked deviceId s after) :
    False := by
  have lower := worked_lowers worked
  rw [← moves, resting a inner] at lower
  exact Nat.lt_irrefl _ lower

/-- The ways in which a party can rest, with the connection up. -/
structure Idle (deviceId : String) (s : Pipeline) : Prop where
  response : s.response = []
  acks : s.acks = []
  acked : s.serving.held = []
  request : s.request = []
  channel : s.channel = []
  pushed : s.reader.held = []
  reader : s.reader = .stopped ∨ s.reader = .reading ∧ s.closed = false ∧ Incomplete s.wire
  returned : s.call = .returned ↔ s.reader = .stopped

theorem idle_of_atRest (frames : Frames deviceId s) (answered : Answered s)
    (client : s.clientUp = true) (server : s.serverUp = true) (resting : AtRest deviceId s) :
    Idle deviceId s := by
  have unfailed : s.call ≠ .failed := fun failed => by
    have down := answered.failed failed
    rw [client] at down
    cases down
  have response : s.response = [] := by
    cases next : s.response with
    | nil => rfl
    | cons ack rest =>
        cases runs : s.call with
        | running =>
            refine (resting.no_work .readAck rfl ?_ (.saw ack rest runs next)).elim
            simp only [step, Pipeline.readAck, runs, next]
        | returned => exact next.symm.trans (answered.returned runs).2.2
        | failed => exact absurd runs unfailed
  have acks : s.acks = [] := by
    cases next : s.acks with
    | nil => rfl
    | cons ack rest =>
        refine (resting.no_work .respond rfl ?_ (.responded ack rest next server client)).elim
        simp only [step, Pipeline.respond, next, if_pos server, if_pos client]
  have acked : s.serving.held = [] := by
    cases holds : s.serving with
    | waiting => rfl
    | ended => rfl
    | acking ack =>
        have room : s.acks.length < channelCapacity := by simp [acks, channelCapacity]
        refine (resting.no_work .sendAck rfl ?_ (.acked ack holds server room)).elim
        simp only [step, Pipeline.sendAck, holds, if_pos server, if_pos room]
  have channel : s.channel = [] := by
    cases next : s.channel with
    | nil => rfl
    | cons frame rest =>
        refine (resting.no_work .forward rfl ?_ (.forwarded frame rest next client server)).elim
        simp only [step, Pipeline.forward, next, if_pos server, if_pos client]
  have request : s.request = [] := by
    cases next : s.request with
    | nil => rfl
    | cons frame rest =>
        cases serves : s.serving with
        | waiting =>
            refine (resting.no_work (.serve 0 0) rfl ?_ (.received frame rest 0 0 serves next)).elim
            simp only [step, Pipeline.serve, serves, next]
        | acking ack =>
            rw [serves] at acked
            cases acked
        | ended => exact next.symm.trans (frames.ended serves client server).2.2
  have pushed : s.reader.held = [] := by
    cases sends : s.reader with
    | reading => rfl
    | stopped => rfl
    | sending frame =>
        have room : s.channel.length < channelCapacity := by simp [channel, channelCapacity]
        refine (resting.no_work .push rfl ?_ (.pushed frame sends client room)).elim
        simp only [step, Pipeline.push, sends, if_pos client, if_pos room]
  have reader : s.reader = .stopped ∨ s.reader = .reading ∧ s.closed = false ∧ Incomplete s.wire := by
    cases reads : s.reader with
    | stopped => exact Or.inl rfl
    | sending frame =>
        rw [reads] at pushed
        cases pushed
    | reading =>
        refine Or.inr ⟨rfl, ?_⟩
        cases turn : readTurn deviceId s.wire s.closed with
        | waits => exact readTurn_waits turn
        | stops =>
            refine (resting.no_work .read rfl ?_ (.broke reads turn)).elim
            simp only [step, Pipeline.read, reads, turn]
        | skips rest =>
            refine (resting.no_work .read rfl ?_ (.skipped rest reads turn)).elim
            simp only [step, Pipeline.read, reads, turn]
        | emits frame rest =>
            refine (resting.no_work .read rfl ?_ (.parsed frame rest reads turn)).elim
            simp only [step, Pipeline.read, reads, turn]
  refine ⟨response, acks, acked, request, channel, pushed, reader, ?_, ?_⟩
  · intro returned
    exact (frames.ended (answered.returned returned).1 client server).1
  · intro stopped
    -- the service has seen the end of the requests, and the robot the end of the acks
    have ended : s.serving = .ended := by
      cases serves : s.serving with
      | ended => rfl
      | acking ack =>
          rw [serves] at acked
          cases acked
      | waiting =>
          refine (resting.no_work (.serve 0 0) rfl ?_
            (.exhausted serves request (Or.inr ⟨stopped, channel⟩))).elim
          simp only [step, Pipeline.serve, serves, request, if_pos server,
            if_pos (And.intro client (And.intro stopped channel))]
    cases runs : s.call with
    | returned => rfl
    | failed => exact absurd runs unfailed
    | running =>
        refine (resting.no_work .readAck rfl ?_ (.returned runs response ended acks)).elim
        simp only [step, Pipeline.readAck, runs, response, if_pos client,
          if_pos (And.intro server (And.intro ended acks))]

end Rest

section Runs

variable (deviceId : String) (now : Nat) (actions : List Action)

/-- All that was written has arrived, and is acknowledged. -/
structure Delivered (s : Pipeline) : Prop where
  counted : s.counted = Robot.readLoop deviceId [s.written]
  seen : s.seen = acksUpTo s.counted.length
  returned : s.call = .returned ↔ s.closed = true ∨ Derails s.written

theorem delivered_of_atRest {s : Pipeline} (frames : Frames deviceId s) (answered : Answered s)
    (client : s.clientUp = true) (server : s.serverUp = true) (resting : AtRest deviceId s) :
    Delivered deviceId s := by
  have idle := idle_of_atRest frames answered client server resting
  have emitted := frames.conserved client server
  rw [idle.request, idle.channel, idle.pushed] at emitted
  simp only [List.append_nil] at emitted
  have acks := answered.conserved client server
  rw [idle.response, idle.acks, idle.acked] at acks
  simp only [List.append_nil] at acks
  obtain ⟨left, behind, reads⟩ := frames.consumed.readLoop
  obtain ⟨payloads, all, written, -⟩ := frames.consumed
  refine ⟨?_, acks.symm, ?_⟩
  · have silent : Robot.readLoop deviceId left = [] := by
      rcases idle.reader with stopped | ⟨-, -, incomplete⟩
      · rcases frames.stopped stopped client with bad | ⟨-, incomplete⟩
        · exact readLoop_of_badLength deviceId (by rwa [behind])
        · exact readLoop_of_incomplete deviceId (by rwa [behind])
      · exact readLoop_of_incomplete deviceId (by rwa [behind])
    rw [reads, silent, List.append_nil, emitted]
  · rw [idle.returned]
    constructor
    · intro stopped
      rcases frames.stopped stopped client with bad | ⟨closed, -⟩
      · exact Or.inr ⟨payloads, s.wire, all, written, bad⟩
      · exact Or.inl closed
    · intro why
      rcases idle.reader with stopped | ⟨-, open_, incomplete⟩
      · exact stopped
      · rcases why with closed | derails
        · rw [open_] at closed
          cases closed
        · rw [written] at derails
          exact absurd derails (not_derails all incomplete)

/-- **Nothing gets stuck.**  With the connection up, the parties left alone come to
rest, after no more moves than there is work; and whenever they are at rest, the service
has counted all that the read loop makes of the written bytes, the robot has seen an ack
for each, and `run_from_socket` has returned, which ends the agent, if and only if the
simulator has closed its socket or has written a length that the read loop refuses. -/
theorem telemetry_drains (client : (stream deviceId now actions).clientUp = true)
    (server : (stream deviceId now actions).serverUp = true) :
    (∃ more, (∀ a ∈ more, Action.inner a = true) ∧
      AtRest deviceId (stream deviceId now (actions ++ more))) ∧
    (∀ more, Guarded (step deviceId) (fun s a => a.inner = true ∧ step deviceId s a ≠ s)
        (stream deviceId now actions) more →
      more.length ≤ (stream deviceId now actions).work) ∧
    (AtRest deviceId (stream deviceId now actions) →
      Delivered deviceId (stream deviceId now actions)) := by
  refine ⟨?_, fun more busy => length_le_of_busy work_lowers busy, fun resting => ?_⟩
  · obtain ⟨more, all, there⟩ := exists_quiescent work_lowers (stream deviceId now actions)
    refine ⟨more, all, ?_⟩
    rw [stream, run_append]
    exact there
  · exact delivered_of_atRest deviceId (frames_stream deviceId now actions)
      (answered_stream deviceId now actions) client server resting

/-! ## From frame to frame -/

def sampleOf (f : Frame) : Sample := ⟨f.timestampNs.toInt, f.positions, f.torques⟩

/-- The simulator samples as many torques as positions, no more than a payload holds,
and no write fails. -/
def Action.Orderly : Action → Prop
  | .physicsStep sample failedAt => failedAt = none ∧ ∃ f, sample = sampleOf f
  | _ => True

/-- What was written is what was sent. -/
def Wrote (frames : List Frame) (s : Pipeline) : Prop :=
  s.sent = frames.map sampleOf ∧ s.written = (frames.map Frame.payload).flatMap framed

theorem written_worked {deviceId : String} {s s' : Pipeline} (worked : Worked deviceId s s') :
    s'.sent = s.sent ∧ s'.written = s.written := by
  cases worked <;> exact ⟨rfl, rfl⟩

theorem wrote_step {deviceId : String} (s : Pipeline) (a : Action) (wrote : ∃ frames, Wrote frames s)
    (orderly : a.Orderly) : ∃ frames, Wrote frames (step deviceId s a) := by
  obtain ⟨frames, sent, written⟩ := wrote
  have kept : ∀ s' : Pipeline, s'.sent = s.sent → s'.written = s.written → ∃ frames, Wrote frames s' :=
    fun s' sent' written' => ⟨frames, sent'.trans sent, written'.trans written⟩
  cases inner : a.inner with
  | true =>
      rcases step_worked deviceId s inner with same | worked
      · rw [same]
        exact ⟨frames, sent, written⟩
      · exact kept _ (written_worked worked).1 (written_worked worked).2
  | false =>
      cases a with
      | read | push | forward | serve | sendAck | respond | readAck => cases inner
      | shutdown | clientLost | serverLost => exact kept _ rfl rfl
      | physicsStep sample failedAt =>
          obtain ⟨rfl, f, rfl⟩ := orderly
          have packed : (sampleOf f).encode = some (framed f.payload) := f.encode_eq
          by_cases refused : s.closed = true ∨ s.reader = .stopped
          · refine kept _ ?_ ?_
            all_goals simp only [step, Pipeline.physicsStep, packed, if_pos refused]
          · refine ⟨frames ++ [f], ?_, ?_⟩
            · simp only [step, Pipeline.physicsStep, packed, if_neg refused, sent, List.map_append,
                List.map_singleton]
            · simp only [step, Pipeline.physicsStep, packed, if_neg refused, written, List.map_append,
                List.map_singleton, List.flatMap_append, List.flatMap_singleton]

theorem wire_clean (frames : List Frame) :
    (clean deviceId frames).mapM Robot.Item.wire = some ((frames.map Frame.payload).map framed) := by
  induction frames with
  | nil => rfl
  | cons f rest ih =>
      have first : (Robot.Item.frame f : Robot.Item deviceId).wire = some (framed f.payload) :=
        f.encode_eq
      simp only [clean, List.map_cons, List.mapM_cons, first] at ih ⊢
      rw [ih]
      rfl

/-- The read loop on the frames that were sent. -/
theorem readLoop_sent (sent : List Frame) :
    Robot.readLoop deviceId [(sent.map Frame.payload).flatMap framed] =
      sent.map (Frame.decoded deviceId) := by
  have unfinished : Unfinished [] :=
    ⟨⟨0, [], [], rfl, by decide⟩, _, Frame.encode_eq _, List.nil_prefix, by simp [toBe]⟩
  have delivers : Delivers (clean deviceId sent) [(sent.map Frame.payload).flatMap framed] := by
    refine ⟨_, [], wire_clean deviceId sent, unfinished, ?_⟩
    rw [List.flatten_singleton, List.append_nil, List.flatMap_def]
  rw [readLoop_delivers _ delivers, frames_clean]

theorem admissible_payloads (frames : List Frame) :
    ∀ payload ∈ frames.map Frame.payload, Admissible payload := by
  intro payload member
  obtain ⟨f, -, rfl⟩ := List.mem_map.1 member
  have fits := f.fits
  rw [Admissible, f.length_payload]
  omega

theorem decodes_map (sent : List Frame) :
    List.Forall₂ (Decodes deviceId) sent (sent.map (Frame.decoded deviceId)) :=
  List.forall₂_map_right_iff.2 (List.forall₂_same.2 fun f _ => decodes_decoded deviceId f)

/-- **From frame to frame.**  When the simulator samples frames that fit and no write
fails: the service has counted the first of the frames that were sent, each with its
contents; and at rest, with the connection up, it has counted all of them, the robot
has seen an ack for each, and the agent ends if and only if the simulator has closed
its socket. -/
theorem telemetry_end_to_end (orderly : ∀ a ∈ actions, Action.Orderly a) :
    ∃ frames : List Frame, (stream deviceId now actions).sent = frames.map sampleOf ∧
      List.Forall₂ (Decodes deviceId) (frames.take (stream deviceId now actions).counted.length)
        (stream deviceId now actions).counted ∧
      ((stream deviceId now actions).clientUp = true → (stream deviceId now actions).serverUp = true →
        AtRest deviceId (stream deviceId now actions) →
        List.Forall₂ (Decodes deviceId) frames (stream deviceId now actions).counted ∧
        (stream deviceId now actions).seen = acksUpTo frames.length ∧
        ((stream deviceId now actions).call = .returned ↔
          (stream deviceId now actions).closed = true)) := by
  obtain ⟨frames, sent, written⟩ := run_invariant_of_forall (step deviceId) wrote_step
    (s := .start now) ⟨[], rfl, rfl⟩ orderly
  have reads : Robot.readLoop deviceId [(stream deviceId now actions).written] =
      frames.map (Frame.decoded deviceId) := by
    rw [stream, written]
    exact readLoop_sent deviceId frames
  have sound := frames_stream deviceId now actions
  have answered := answered_stream deviceId now actions
  refine ⟨frames, sent, ?_, ?_⟩
  · have cut : (stream deviceId now actions).counted =
        (frames.take (stream deviceId now actions).counted.length).map (Frame.decoded deviceId) := by
      rw [List.map_take, ← reads]
      exact List.prefix_iff_eq_take.1 sound.counted_prefix
    have each := decodes_map deviceId (frames.take (stream deviceId now actions).counted.length)
    rwa [← cut] at each
  · intro client server resting
    have delivered := delivered_of_atRest deviceId sound answered client server resting
    have counted := delivered.counted.trans reads
    have straight : ¬ Derails (stream deviceId now actions).written := by
      have whole : (stream deviceId now actions).written =
          (frames.map Frame.payload).flatMap framed ++ [] := by rw [List.append_nil, stream, written]
      rw [whole]
      exact not_derails (admissible_payloads frames) (Or.inl (by decide))
    refine ⟨?_, ?_, ?_⟩
    · rw [counted]
      exact decodes_map deviceId frames
    · rw [delivered.seen, counted, List.length_map]
    · rw [delivered.returned, or_iff_left straight]

end Runs

namespace Toy

/-- One joint. -/
def frame : Frame := ⟨1700000001500000000, [7], [9], rfl, by decide⟩

/-- A frame goes all the way, and the simulator closes its socket. -/
def closing : List Action :=
  [.physicsStep (sampleOf frame) none, .read, .push, .forward, .serve 0 0, .sendAck, .respond, .readAck,
   .shutdown, .read, .serve 0 0, .readAck]

theorem closing_atRest : AtRest "dev" (stream "dev" 0 closing) := by
  intro a inner
  cases a with
  | physicsStep | shutdown | clientLost | serverLost => cases inner
  | read => rfl
  | push => rfl
  | forward => rfl
  | serve now later => rfl
  | sendAck => rfl
  | respond => rfl
  | readAck => rfl

end Toy

theorem telemetry_drains_closing : Delivered "dev" (stream "dev" 0 Toy.closing) :=
  (telemetry_drains "dev" 0 Toy.closing (by decide) (by decide)).2.2 Toy.closing_atRest

theorem telemetry_end_to_end_closing :
    ∃ frames : List Frame, (stream "dev" 0 Toy.closing).sent = frames.map sampleOf ∧
      (stream "dev" 0 Toy.closing).seen = acksUpTo frames.length ∧
      (stream "dev" 0 Toy.closing).call = .returned := by
  obtain ⟨frames, sent, -, rest⟩ := telemetry_end_to_end "dev" 0 Toy.closing (by
    simp only [Toy.closing, List.mem_cons, List.not_mem_nil, or_false]
    rintro a (rfl | rfl | rfl | rfl | rfl | rfl | rfl | rfl | rfl | rfl | rfl | rfl)
    all_goals first | exact ⟨rfl, Toy.frame, rfl⟩ | trivial)
  obtain ⟨-, seen, ended⟩ := rest (by decide) (by decide) Toy.closing_atRest
  exact ⟨frames, sent, seen, ended.2 (by decide)⟩

end RobotFleet.Telemetry
