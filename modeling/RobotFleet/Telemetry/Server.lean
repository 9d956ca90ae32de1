/-
# Telemetry.Server -- `stream_telemetry` of the device management service

`device-management-service/src/telemetry.rs`.  The handler spawns a task that counts
the frames of the stream, acknowledges each with the count so far, and logs a line for
every window of at least `LOG_INTERVAL`.  An `Instant` is its nanoseconds on the
monotonic clock.

* `serveItems_sends`: the acks count up from one; an error of the stream is answered
  with one `INTERNAL`, and a receiver that is gone ends the task.
* `serveItems_logged`, `serveItems_totalled`: the windows of the log add up to the
  frames of the stream, also when the stream ends early.
* `serveItems_paced`: between two lines of an active stream lies the interval.
* `serveItems_eq_answersTo`: the task is the telemetry stage behind the listeners of
  `Device.Server`, with its count as a `u64`.
-/
import Mathlib.Algebra.Order.Ring.Nat
import RobotFleet.Device.Server
import RobotFleet.Robot.Telemetry

namespace RobotFleet.Telemetry

open RobotFleet.Robot (TelemetryFrame)
open RobotFleet.Theory.Calls (Status)

set_option autoImplicit false

structure TelemetryAck where
  framesReceived : Nat
  throttle : Bool
  deriving DecidableEq

/-- `LOG_INTERVAL`, five seconds, in nanoseconds. -/
def logInterval : Nat := 5 * 1000000000

/-- `LOG_INTERVAL.as_secs()`. -/
def logIntervalSecs : Nat := 5

/-- A line of the log: "telemetry stream active" has an `fps` field, "telemetry stream
ended" has none. -/
structure LogLine where
  deviceId : String
  framesInWindow : Nat
  framesTotal : Nat
  fps : Option Nat
  deriving DecidableEq

/-- The variables of the spawned task. -/
structure Task where
  framesReceived : Nat
  framesInWindow : Nat
  lastLog : Nat
  deviceId : String
  deriving DecidableEq

namespace Task

def start (now : Nat) : Task := ⟨0, 0, now, ""⟩

/-- The frame is counted. -/
def count (task : Task) (frame : TelemetryFrame) : Task :=
  { task with
    framesReceived := task.framesReceived + 1
    framesInWindow := task.framesInWindow + 1
    deviceId := frame.deviceId }

/-- The loop on a frame, up to the ack.  The clock is read by `elapsed()`, and once
more if the window is over. -/
def receive (task : Task) (frame : TelemetryFrame) (now later : Nat) : Task × List LogLine :=
  let counted := task.count frame
  if now - task.lastLog ≥ logInterval then
    ({ counted with framesInWindow := 0, lastLog := later },
      [⟨counted.deviceId, counted.framesInWindow, counted.framesReceived,
        some (counted.framesInWindow / logIntervalSecs)⟩])
  else (counted, [])

def ack (task : Task) : TelemetryAck := ⟨task.framesReceived, false⟩

/-- Behind the loop. -/
def finish (task : Task) : List LogLine :=
  if task.framesInWindow > 0 then
    [⟨task.deviceId, task.framesInWindow, task.framesReceived, none⟩]
  else []

end Task

/-- An item of the stream, an error by its text; with the clock readings of its turn,
and whether the response receiver is gone by then. -/
structure Item where
  message : Except String TelemetryFrame
  now : Nat
  later : Nat
  gone : Bool

/-- What the task passed to `tx.send`, with whether it was delivered, and the log. -/
structure Served where
  sends : List (Except Status TelemetryAck × Bool)
  logs : List LogLine

def serveItems (task : Task) : List Item → Served
  | [] => ⟨[], task.finish⟩
  | item :: rest =>
    match item.message with
    | .error e => ⟨[(.error ⟨.internal, e⟩, !item.gone)], task.finish⟩
    | .ok frame =>
      let (counted, lines) := task.receive frame item.now item.later
      if item.gone then ⟨[(.ok counted.ack, false)], lines ++ counted.finish⟩
      else
        let served := serveItems counted rest
        ⟨(.ok counted.ack, true) :: served.sends, lines ++ served.logs⟩

def streamTelemetry (start : Nat) (items : List Item) : Served := serveItems (Task.start start) items

/-! ## One frame -/

section Receive

variable (task : Task) (frame : TelemetryFrame) (now later : Nat)

/-- The line that closes a window. -/
def Task.line (counted : Task) : LogLine :=
  ⟨counted.deviceId, counted.framesInWindow, counted.framesReceived,
    some (counted.framesInWindow / logIntervalSecs)⟩

theorem receive_elapsed {now : Nat} (elapsed : now - task.lastLog ≥ logInterval) :
    task.receive frame now later =
      ({ task.count frame with framesInWindow := 0, lastLog := later }, [(task.count frame).line]) :=
  if_pos elapsed

theorem receive_open {now : Nat} (open_ : ¬ now - task.lastLog ≥ logInterval) :
    task.receive frame now later = (task.count frame, []) :=
  if_neg open_

theorem receive_received :
    (task.receive frame now later).1.framesReceived = task.framesReceived + 1 := by
  by_cases elapsed : now - task.lastLog ≥ logInterval
  · rw [receive_elapsed task frame later elapsed]
    rfl
  · rw [receive_open task frame later elapsed]
    rfl

theorem receive_ack : (task.receive frame now later).1.ack = ⟨task.framesReceived + 1, false⟩ := by
  rw [Task.ack, receive_received]

/-- The frames of the lines, and those of the open window. -/
theorem receive_window :
    ((task.receive frame now later).2.map (·.framesInWindow)).sum +
      (task.receive frame now later).1.framesInWindow = task.framesInWindow + 1 := by
  by_cases elapsed : now - task.lastLog ≥ logInterval
  · rw [receive_elapsed task frame later elapsed]
    simp [Task.line, Task.count]
  · rw [receive_open task frame later elapsed]
    simp [Task.count]

theorem finish_window : (task.finish.map (·.framesInWindow)).sum = task.framesInWindow := by
  unfold Task.finish
  split
  · simp
  · simp only [List.map_nil, List.sum_nil]
    omega

end Receive

/-! ## The stream -/

/-- The items that reach the counter: those before the first error, and of them none
after the receiver is found gone. -/
def counted : List Item → List Item
  | [] => []
  | item :: rest =>
    match item.message with
    | .error _ => []
    | .ok _ => if item.gone then [item] else item :: counted rest

/-- The error that ends the stream, if one does. -/
def failure? : List Item → Option (String × Bool)
  | [] => none
  | item :: rest =>
    match item.message with
    | .error e => some (e, !item.gone)
    | .ok _ => if item.gone then none else failure? rest

/-- The acks of as many items, counting on from `n`. -/
def acksFrom : Nat → List Item → List (Except Status TelemetryAck × Bool)
  | _, [] => []
  | n, item :: rest => (.ok ⟨n + 1, false⟩, !item.gone) :: acksFrom (n + 1) rest

/-- The answer to an error. -/
def errorSend (failed : Option (String × Bool)) : List (Except Status TelemetryAck × Bool) :=
  failed.toList.map fun (e, delivered) => (.error ⟨.internal, e⟩, delivered)

theorem serveItems_sends (task : Task) (items : List Item) :
    (serveItems task items).sends =
      acksFrom task.framesReceived (counted items) ++ errorSend (failure? items) := by
  induction items generalizing task with
  | nil => rfl
  | cons item rest ih =>
      cases read : item.message with
      | error e => simp [serveItems, counted, failure?, acksFrom, errorSend, read]
      | ok frame =>
          have ack := receive_ack task frame item.now item.later
          have received := receive_received task frame item.now item.later
          cases lost : item.gone with
          | true => simp [serveItems, counted, failure?, acksFrom, errorSend, read, lost, ack]
          | false =>
              have tail := ih (task.receive frame item.now item.later).1
              rw [received] at tail
              simp [serveItems, counted, failure?, acksFrom, read, lost, ack, tail]

theorem serveItems_logged (task : Task) (items : List Item) :
    ((serveItems task items).logs.map (·.framesInWindow)).sum =
      task.framesInWindow + (counted items).length := by
  induction items generalizing task with
  | nil => simp [serveItems, counted, finish_window]
  | cons item rest ih =>
      cases read : item.message with
      | error e => simp [serveItems, counted, read, finish_window]
      | ok frame =>
          have window := receive_window task frame item.now item.later
          cases lost : item.gone with
          | true =>
              simp only [serveItems, counted, read, lost, if_true, List.map_append, List.sum_append,
                finish_window, List.length_singleton]
              exact window
          | false =>
              simp only [serveItems, counted, read, lost, Bool.false_eq_true, if_false, List.map_append,
                List.sum_append, ih, List.length_cons]
              omega

/-! ## Totals -/

/-- Every line has the frames of the lines up to it, on top of `before`, as its total. -/
def Totalled (before : Nat) : List LogLine → Prop
  | [] => True
  | line :: rest =>
    line.framesTotal = before + line.framesInWindow ∧ 0 < line.framesInWindow ∧
      Totalled line.framesTotal rest

/-- The frames that earlier windows have logged. -/
def Task.logged (task : Task) : Nat := task.framesReceived - task.framesInWindow

theorem totalled_finish {task : Task} (within : task.framesInWindow ≤ task.framesReceived) :
    Totalled task.logged task.finish := by
  unfold Task.finish Task.logged
  split
  · refine ⟨?_, by assumption, trivial⟩
    simp only
    omega
  · exact trivial

/-- The window never holds more than was received, and the lines go on from each other. -/
theorem receive_totalled {task : Task} (within : task.framesInWindow ≤ task.framesReceived)
    (frame : TelemetryFrame) (now later : Nat) :
    (task.receive frame now later).1.framesInWindow ≤ (task.receive frame now later).1.framesReceived ∧
      ∀ rest, Totalled (task.receive frame now later).1.logged rest →
        Totalled task.logged ((task.receive frame now later).2 ++ rest) := by
  by_cases elapsed : now - task.lastLog ≥ logInterval
  · rw [receive_elapsed task frame later elapsed]
    refine ⟨Nat.zero_le _, fun rest tail => ⟨?_, Nat.succ_pos _, tail⟩⟩
    simp only [Task.line, Task.count, Task.logged]
    omega
  · rw [receive_open task frame later elapsed]
    have same : (task.count frame).logged = task.logged := by
      simp only [Task.count, Task.logged]
      omega
    refine ⟨Nat.succ_le_succ within, fun rest tail => ?_⟩
    rwa [same] at tail

theorem serveItems_totalled {task : Task} (within : task.framesInWindow ≤ task.framesReceived)
    (items : List Item) : Totalled task.logged (serveItems task items).logs := by
  induction items generalizing task with
  | nil => exact totalled_finish within
  | cons item rest ih =>
      cases read : item.message with
      | error e =>
          simp only [serveItems, read]
          exact totalled_finish within
      | ok frame =>
          obtain ⟨inside, lines⟩ := receive_totalled within frame item.now item.later
          cases lost : item.gone with
          | true =>
              simp only [serveItems, read, lost, if_true]
              exact lines _ (totalled_finish inside)
          | false =>
              simp only [serveItems, read, lost, Bool.false_eq_true, if_false]
              exact lines _ (ih inside)

/-! ## The pace of the log -/

/-- The clock readings of the items, from `now` on, never go back. -/
def Ticking : Nat → List Item → Prop
  | _, [] => True
  | now, item :: rest => now ≤ item.now ∧ item.now ≤ item.later ∧ Ticking item.later rest

/-- The last clock reading. -/
def lastReading : Nat → List Item → Nat
  | now, [] => now
  | _, item :: rest => lastReading item.later rest

theorem le_lastReading {now : Nat} {items : List Item} (ticking : Ticking now items) :
    now ≤ lastReading now items := by
  induction items generalizing now with
  | nil => exact Nat.le_refl now
  | cons item rest ih =>
      obtain ⟨first, second, later⟩ := ticking
      have tail := ih later
      simp only [lastReading]
      omega

/-- The lines of an active stream. -/
def active (logs : List LogLine) : List LogLine := logs.filter fun line => line.fps.isSome

theorem active_finish (task : Task) : active task.finish = [] := by
  unfold Task.finish active
  split
  · rfl
  · rfl

/-- A line is paid for with an interval on the clock. -/
theorem receive_paced {task : Task} (frame : TelemetryFrame) {start now later : Nat}
    (known : task.lastLog ≤ start) (first : start ≤ now) (second : now ≤ later) :
    (task.receive frame now later).1.lastLog ≤ later ∧
      task.lastLog + logInterval * (active (task.receive frame now later).2).length ≤
        (task.receive frame now later).1.lastLog := by
  by_cases elapsed : now - task.lastLog ≥ logInterval
  · rw [receive_elapsed task frame later elapsed]
    refine ⟨Nat.le_refl later, ?_⟩
    simp only [active, Task.line, List.filter_cons, Option.isSome_some, if_true, List.filter_nil,
      List.length_singleton]
    omega
  · rw [receive_open task frame later elapsed]
    refine ⟨?_, ?_⟩
    · simp only [Task.count]
      omega
    · simp [active, Task.count]

theorem serveItems_paced (task : Task) {now : Nat} {items : List Item} (known : task.lastLog ≤ now)
    (ticking : Ticking now items) :
    task.lastLog + logInterval * (active (serveItems task items).logs).length ≤ lastReading now items := by
  induction items generalizing task now with
  | nil => simpa [serveItems, active_finish, lastReading] using known
  | cons item rest ih =>
      obtain ⟨first, second, later⟩ := ticking
      have reached := le_lastReading later
      cases read : item.message with
      | error e =>
          simp only [serveItems, read, active_finish, List.length_nil, lastReading]
          omega
      | ok frame =>
          obtain ⟨known', paid⟩ := receive_paced frame known first second
          cases lost : item.gone with
          | true =>
              have ended := active_finish (task.receive frame item.now item.later).1
              simp only [active] at ended paid
              simp only [serveItems, read, lost, if_true, active, List.filter_append, ended,
                List.append_nil, lastReading]
              omega
          | false =>
              have tail := ih _ known' later
              simp only [active] at paid tail
              simp only [serveItems, read, lost, Bool.false_eq_true, if_false, active, List.filter_append,
                List.length_append, lastReading, Nat.mul_add]
              omega

/-! ## Behind the listener -/

section Listener

variable (C : Pki.Crypto) (cfg : Device.Config) (db : Device.Db)

/-- The ack in the response stream, where `frames_received` is a `u64`. -/
def TelemetryAck.toResponse (ack : TelemetryAck) : Device.Response :=
  .ack ⟨UInt64.ofNat ack.framesReceived, ack.throttle⟩

/-- What the stage of `Device.Server` answers to the items, as long as it is there and
the answers are read. -/
def answersTo : Option (Device.Stage C) → List Item → List Device.Answer
  | none, _ | _, [] => []
  | some stage, item :: rest =>
    let o := Device.resumeCall C cfg stage (.telemetryFrame (item.message.map fun _ => ())) db
    o.event.toList ++ if item.gone then [] else answersTo o.call rest

/-- The task is the telemetry stage of `Device.Server`. -/
theorem serveItems_eq_answersTo (task : Task) (items : List Item) :
    (serveItems task items).sends.map (fun send => (.streamTelemetry, send.1.map TelemetryAck.toResponse)) =
      answersTo C cfg db (some (.telemetry (UInt64.ofNat task.framesReceived))) items := by
  induction items generalizing task with
  | nil => rfl
  | cons item rest ih =>
      cases read : item.message with
      | error e =>
          simp only [serveItems, answersTo, read, Except.map, Device.resumeCall]
          cases item.gone with
          | true => rfl
          | false => cases rest <;> rfl
      | ok frame =>
          have ack := receive_ack task frame item.now item.later
          have later := ih (task.receive frame item.now item.later).1
          rw [receive_received] at later
          have next : UInt64.ofNat (task.framesReceived + 1) = UInt64.ofNat task.framesReceived + 1 := by
            simp
          simp only [answersTo, read, Except.map, Device.resumeCall, Option.toList_some, ← next, ← later]
          cases lost : item.gone with
          | true => simp [serveItems, read, lost, ack, TelemetryAck.toResponse]
          | false =>
              simp only [serveItems, read, lost, ack, Bool.false_eq_true, if_false, List.map_cons]
              rfl

end Listener

/-! ## The handler -/

/-- **How a telemetry stream goes.**  The frames before the first error, up to the one
whose ack found no receiver, are acknowledged with their number, never with a throttle;
the error, if it is reached, is answered with one `INTERNAL`.  Every line of the log has
a window with a frame in it and the frames so far as its total; together the windows
have every frame.  On a clock that does not go back, each line of an active stream
takes an interval. -/
theorem telemetry_stream (start : Nat) (items : List Item) :
    (streamTelemetry start items).sends = acksFrom 0 (counted items) ++ errorSend (failure? items) ∧
    Totalled 0 (streamTelemetry start items).logs ∧
    ((streamTelemetry start items).logs.map (·.framesInWindow)).sum = (counted items).length ∧
    (Ticking start items →
      logInterval * (active (streamTelemetry start items).logs).length ≤
        lastReading start items - start) := by
  refine ⟨serveItems_sends _ items, ?_, ?_, ?_⟩
  · have within : (Task.start start).framesInWindow ≤ (Task.start start).framesReceived := Nat.le_refl 0
    exact serveItems_totalled within items
  · have logged := serveItems_logged (Task.start start) items
    simpa [streamTelemetry, Task.start] using logged
  · intro ticking
    have paced := serveItems_paced (Task.start start) (Nat.le_refl start) ticking
    simp only [Task.start, streamTelemetry] at paced ⊢
    omega

end RobotFleet.Telemetry
