/-
# Ota.Wedged -- jobs that nobody will ever settle

A job leaves its active state by an ack, and an ack is sent for a command that a
robot received.  A command is sent once, to whoever watches at that moment, and
nothing sends it again.  So a job is settled or can still be settled exactly while
its command is on the way (`job_can_settle_iff`): the handler that created it has
not sent it yet, a robot that watches has yet to read it, a robot is at work on it,
or its ack was sent.

When none of that is so the job stays active, and its device takes no other job,
for the rest of every run (`wedged_device`).  A dispatch to a robot that is not
connected ends there at once.
-/
import RobotFleet.Ota.Streams
import RobotFleet.Theory.Broadcast

namespace RobotFleet.Ota

open RobotFleet.Theory
open RobotFleet.Theory.Run
open RobotFleet.Theory.Calls (World Action Outcome Machine Status)

set_option autoImplicit false

/-! ## What a receiver will read -/

namespace Dispatcher

variable {d d' : Dispatcher} {deviceId : String} {receiver other : Nat} {cmd cmd' : UpdateCommand}

/-- Unread and still retained by the channel. -/
def due (d : Dispatcher) (receiver : Nat) : List UpdateCommand :=
  match d.receivers.find? () receiver with
  | none => []
  | some r => Broadcast.due channelCapacity (d.sentTo r.deviceId) r.next

theorem due_of_find? {r : Receiver} (found : d.receivers.find? () receiver = some r) :
    d.due receiver = Broadcast.due channelCapacity (d.sentTo r.deviceId) r.next := by
  unfold due
  rw [found]

theorem due_of_none (absent : d.receivers.find? () receiver = none) : d.due receiver = [] := by
  unfold due
  rw [absent]

/-- Two dispatchers that agree on a receiver and on its channel. -/
theorem due_congr (receivers : d'.receivers.find? () receiver = d.receivers.find? () receiver)
    (sent : ∀ deviceId, d'.sentTo deviceId = d.sentTo deviceId) : d'.due receiver = d.due receiver := by
  unfold due
  rw [receivers]
  split
  · rfl
  · simp only [sent]

/-- What a read takes, and where it leaves the receiver. -/
theorem recv_position (got : d.recv receiver = (some cmd, d')) :
    ∃ r, d.receivers.find? () receiver = some r ∧
      (d.sentTo r.deviceId)[Broadcast.position channelCapacity (d.sentTo r.deviceId) r.next]? = some cmd ∧
      d' = d.advanceTo receiver
        (Broadcast.position channelCapacity (d.sentTo r.deviceId) r.next + 1) := by
  unfold recv at got
  split at got
  · cases got
  · rename_i r found
    dsimp only at got
    split at got
    · cases got
    · rename_i cmd' read
      cases got
      exact ⟨r, found, read, rfl⟩

theorem find?_advanceTo {r : Receiver} (found : d.receivers.find? () receiver = some r) (next : Nat) :
    (d.advanceTo receiver next).receivers.find? () receiver = some { r with next } := by
  rw [receivers_advanceTo, if_pos rfl, found]
  rfl

/-- A stream reads what is due, from its front. -/
theorem due_recv (got : d.recv receiver = (some cmd, d')) : d.due receiver = cmd :: d'.due receiver := by
  obtain ⟨r, found, read, rfl⟩ := recv_position got
  rw [due_of_find? found, due_of_find? (find?_advanceTo found _)]
  exact Broadcast.due_eq_cons read

theorem recv_of_due {rest : List UpdateCommand} (waits : d.due receiver = cmd :: rest) :
    ∃ d', d.recv receiver = (some cmd, d') ∧ d'.due receiver = rest := by
  cases found : d.receivers.find? () receiver with
  | none =>
      rw [due_of_none found] at waits
      cases waits
  | some r =>
      have first : (d.sentTo r.deviceId)[max r.next ((d.sentTo r.deviceId).length - channelCapacity)]? =
          some cmd := by
        have front : (Broadcast.due channelCapacity (d.sentTo r.deviceId) r.next).head? = _ :=
          Broadcast.head?_due
        rw [← due_of_find? found, waits] at front
        exact front.symm
      have got : d.recv receiver = (some cmd, d.advanceTo receiver
          (max r.next ((d.sentTo r.deviceId).length - channelCapacity) + 1)) := by
        simp only [recv, found, first]
      refine ⟨_, got, ?_⟩
      have both := due_recv got
      rw [waits] at both
      exact (List.cons.inj both).2.symm

/-- Reading moves one receiver. -/
theorem due_recv_other (got : d.recv receiver = (some cmd, d')) (apart : other ≠ receiver) :
    d'.due other = d.due other := by
  obtain ⟨r, next, -, -, rfl⟩ := recv_some got
  exact due_congr (by rw [receivers_advanceTo, if_neg (Ne.symm apart)]) (fun _ => rfl)

theorem sentTo_send_cases (deviceId' : String) :
    (d.send deviceId cmd).sentTo deviceId' = d.sentTo deviceId' ∨
      (d.send deviceId cmd).sentTo deviceId' = d.sentTo deviceId' ++ [cmd] := by
  by_cases same : deviceId = deviceId'
  · subst same
    by_cases opened : d.Opened deviceId
    · exact Or.inr (sentTo_send cmd opened)
    · refine Or.inl ?_
      have absent : d.senders.find? () deviceId = none := by simpa [Opened] using opened
      unfold sentTo
      rw [senders_send, if_pos rfl, absent]
      rfl
  · exact Or.inl (sentTo_send_other same)

theorem mem_due_send (waits : cmd' ∈ (d.send deviceId cmd).due receiver) :
    cmd' ∈ d.due receiver ∨ cmd' = cmd := by
  cases found : d.receivers.find? () receiver with
  | none =>
      rw [due_of_none (show (d.send deviceId cmd).receivers.find? () receiver = none from found)] at waits
      cases waits
  | some r =>
      rw [due_of_find? (show (d.send deviceId cmd).receivers.find? () receiver = some r from found)] at waits
      rw [due_of_find? found]
      rcases d.sentTo_send_cases r.deviceId with same | longer
      · rw [same] at waits
        exact Or.inl waits
      · rw [longer] at waits
        exact Broadcast.mem_due_concat waits

theorem mem_due_dispatchSend {req : DispatchUpdateRequest} {job : JobRecord}
    (waits : cmd ∈ (dispatchSend req job d).2.due receiver) :
    cmd ∈ d.due receiver ∨ cmd = commandFor req job := by
  rcases dispatchSend_cases req job d with same | enqueued
  · rw [same] at waits
    exact Or.inl waits
  · rw [enqueued] at waits
    exact mem_due_send waits

/-- A new receiver starts at the end of its channel. -/
theorem mem_due_subscribe (waits : cmd ∈ (d.subscribe deviceId).2.due receiver) : cmd ∈ d.due receiver := by
  by_cases new : d.nextReceiver = receiver
  · subst new
    rw [due_of_find? (d.find?_subscribe_new deviceId), sentTo_subscribe, Broadcast.due_end] at waits
    cases waits
  · rwa [due_congr (by rw [receivers_subscribe, if_neg new]) (d.sentTo_subscribe deviceId)] at waits

theorem mem_due_unsubscribe {receiver' : Nat} (waits : cmd ∈ (d.unsubscribe receiver').due receiver) :
    cmd ∈ d.due receiver := by
  cases found : (d.unsubscribe receiver').receivers.find? () receiver with
  | none =>
      rw [due_of_none found] at waits
      cases waits
  | some r =>
      have before : d.receivers.find? () receiver = some r := by
        rw [Table.find?_eq_some_iff] at found ⊢
        exact ⟨List.mem_of_mem_filter found.1, found.2⟩
      rw [due_of_find? found] at waits
      rw [due_of_find? before]
      exact waits

end Dispatcher

/-! ## Commands on their way -/

/-- The call is at work on the job. -/
def InFlight.Carries (id : String) : InFlight → Prop
  | .dispatching _ job => job.id = id
  | .received _ cmd | .applied _ cmd _ => cmd.updateJobId = id
  | .watching _ | .acking _ => False

/-- The session of a `run_stream`. -/
def InFlight.session? : InFlight → Option Session
  | .dispatching .. => none
  | .watching session | .received session _ | .applied session _ _ | .acking session => some session

/-- The ack of the job was sent. -/
def AckSent (log : List Event) (id : String) : Prop :=
  ∃ session req, .ackSent session req ∈ log ∧ req.updateJobId = id

/-- A call is at work on the job, or has its command still to read. -/
def InHand (s : State) (id : String) (p : InFlight) : Prop :=
  p.Carries id ∨ ∃ session, p.session? = some session ∧
    ∃ cmd ∈ s.dispatcher.due session.receiver, cmd.updateJobId = id

/-- The command of the job, or its ack, is on the way. -/
def OnTheWay (w : World State InFlight Event) (id : String) : Prop :=
  AckSent w.log id ∨ ∃ call p, w.calls call = some p ∧ InHand w.state id p

section Lost

variable {digest : List UInt8 → List UInt8} {s : State} {log : List Event} {id : String}

/-- Less is due, so no more calls have the job in hand. -/
theorem InHand.of_due {s' : State} {p : InFlight} (inHand : InHand s' id p)
    (fewer : ∀ receiver, ∀ cmd ∈ s'.dispatcher.due receiver, cmd.updateJobId = id →
      ∃ cmd' ∈ s.dispatcher.due receiver, cmd'.updateJobId = id) : InHand s id p := by
  rcases inHand with carries | ⟨session, reads, cmd, waits, named⟩
  · exact Or.inl carries
  · exact Or.inr ⟨session, reads, fewer session.receiver cmd waits named⟩

theorem AckSent.of_silent {event : Option Event} (sent : AckSent (log ++ event.toList) id)
    (silent : ∀ session req, event = some (.ackSent session req) → req.updateJobId ≠ id) :
    AckSent log id := by
  obtain ⟨session, req, member, named⟩ := sent
  rcases List.mem_append.1 member with old | new
  · exact ⟨session, req, old, named⟩
  · exact absurd named (silent session req (Option.mem_toList.1 new))

/-- What a move leaves on the way was on the way before: it is still due to the same
receivers, or the call that moved had it. -/
theorem Advances.brings {call : Option InFlight} {move : Move} {o : Outcome State InFlight Event}
    (moved : Advances digest s call move o) (known : ∃ row ∈ s.jobs.rows, row.id = id)
    (idle : ∀ p, call = some p → ¬ InHand s id p) :
    (∀ receiver, ∀ cmd ∈ o.state.dispatcher.due receiver, cmd.updateJobId = id →
      ∃ cmd' ∈ s.dispatcher.due receiver, cmd'.updateJobId = id) ∧
    (∀ p, o.call = some p → ¬ InHand o.state id p) ∧
    ∀ session req, o.event = some (.ackSent session req) → req.updateJobId ≠ id := by
  have same : ∀ receiver, ∀ cmd ∈ s.dispatcher.due receiver, cmd.updateJobId = id →
      ∃ cmd' ∈ s.dispatcher.due receiver, cmd'.updateJobId = id :=
    fun receiver cmd waits named => ⟨cmd, waits, named⟩
  have reads : ∀ {session : Session} {p p' : InFlight}, call = some p → p.session? = some session →
      p'.session? = some session → ¬ p'.Carries id → ¬ InHand s id p' := by
    rintro session p p' here before after empty (carries | ⟨session', reads', waits⟩)
    · exact empty carries
    · rw [after] at reads'
      cases reads'
      exact idle p here (Or.inr ⟨session, before, waits⟩)
  cases moved with
  | idle => exact ⟨same, idle, nofun⟩
  | ended | dispatchRefused => exact ⟨same, nofun, nofun⟩
  | dispatchCreated req id' now job jobs created =>
      refine ⟨same, ?_, nofun⟩
      rintro p ⟨⟩ (carries | ⟨session, reads, -⟩)
      · obtain ⟨row, stored, named⟩ := known
        exact (activeJob_created created).2 row stored (named.trans carries.symm)
      · cases reads
  | dispatchSent req job result dispatcher sent =>
      have after : dispatcher = (dispatchSend req job s.dispatcher).2 := by rw [sent]
      refine ⟨fun receiver cmd waits named => ?_, nofun, nofun⟩
      rcases Dispatcher.mem_due_dispatchSend (after ▸ waits) with old | rfl
      · exact ⟨cmd, old, named⟩
      · exact absurd (Or.inl named) (idle _ rfl)
  | watched agent deviceId receiver dispatcher subscribed =>
      have fewer : ∀ receiver, ∀ cmd ∈ dispatcher.due receiver, cmd ∈ s.dispatcher.due receiver := by
        have after : dispatcher = (s.dispatcher.subscribe deviceId).2 := by rw [subscribed]
        subst after
        exact fun receiver cmd waits => Dispatcher.mem_due_subscribe waits
      refine ⟨fun receiver cmd waits named => ⟨cmd, fewer receiver cmd waits, named⟩, ?_, nofun⟩
      have end_ : dispatcher.due receiver = [] := by
        have new := s.dispatcher.find?_subscribe_new deviceId
        have number : receiver = s.dispatcher.nextReceiver := (congrArg Prod.fst subscribed).symm
        rw [subscribed] at new
        have kept := s.dispatcher.sentTo_subscribe deviceId
        rw [subscribed] at kept
        rw [number, Dispatcher.due_of_find? new, kept]
        exact Broadcast.due_end
      rintro p ⟨⟩ (carries | ⟨session, reads, cmd, waits, -⟩)
      · cases carries
      · cases reads
        rw [end_] at waits
        cases waits
  | messageReceived session cmd dispatcher got =>
      have front := Dispatcher.due_recv got
      have fewer : ∀ receiver, ∀ cmd ∈ dispatcher.due receiver, cmd ∈ s.dispatcher.due receiver := by
        intro receiver cmd' waits
        by_cases here : receiver = session.receiver
        · subst here
          rw [front]
          exact List.mem_cons_of_mem cmd waits
        · rwa [Dispatcher.due_recv_other got here] at waits
      have other : cmd.updateJobId ≠ id := by
        intro named
        refine idle _ rfl (Or.inr ⟨session, rfl, cmd, ?_, named⟩)
        rw [front]
        exact List.mem_cons_self
      refine ⟨fun receiver cmd' waits named => ⟨cmd', fewer receiver cmd' waits, named⟩, ?_, nofun⟩
      have nothing : ¬ InHand s id (.received session cmd) := reads rfl rfl rfl other
      rintro p ⟨⟩ inHand
      refine nothing (inHand.of_due ?_)
      exact fun receiver cmd' waits named => ⟨cmd', fewer receiver cmd' waits, named⟩
  | updateApplied session cmd env result ran =>
      have other : cmd.updateJobId ≠ id := fun named => idle _ rfl (Or.inl named)
      refine ⟨same, ?_, nofun⟩
      rintro p ⟨⟩
      exact reads rfl rfl rfl other
  | ackSent session cmd result =>
      have other : cmd.updateJobId ≠ id := fun named => idle _ rfl (Or.inl named)
      refine ⟨same, ?_, ?_⟩
      · rintro p ⟨⟩
        exact reads rfl rfl rfl (fun carries => carries)
      · rintro session' req ⟨⟩
        cases result with
        | ok => exact other
        | error e => exact other
  | ackReturned session =>
      refine ⟨same, ?_, nofun⟩
      rintro p ⟨⟩
      exact reads rfl rfl rfl (fun carries => carries)

/-- Nothing that is done brings the command of a known job back on the way. -/
theorem onTheWay_before {w : World State InFlight Event} {a : Action ServerOp Move}
    (known : ∃ row ∈ w.state.jobs.rows, row.id = id)
    (after : OnTheWay ((fleet digest).step w a) id) : OnTheWay w id := by
  have kept : ∀ s' : State, (∀ receiver, ∀ cmd ∈ s'.dispatcher.due receiver,
        cmd ∈ w.state.dispatcher.due receiver) →
      OnTheWay ⟨s', w.calls, w.log⟩ id → OnTheWay w id := by
    rintro s' fewer (sent | ⟨call, p, flying, inHand⟩)
    · exact Or.inl sent
    · refine Or.inr ⟨call, p, flying, inHand.of_due ?_⟩
      exact fun receiver cmd waits named => ⟨cmd, fewer receiver cmd waits, named⟩
  cases a with
  | restart =>
      rcases after with sent | ⟨call, p, flying, -⟩
      · exact Or.inl sent
      · cases flying
  | direct op =>
      cases op with
      | ackUpdate | checkUpdate | listUpdateJobs => exact kept _ (fun _ _ waits => waits) after
      | unsubscribe receiver' =>
          exact kept _ (fun _ _ waits => Dispatcher.mem_due_unsubscribe waits) after
      | restart =>
          refine kept _ (fun receiver cmd waits => ?_) after
          have waits : cmd ∈ w.state.dispatcher.restart.due receiver := waits
          rw [Dispatcher.due_of_none rfl] at waits
          cases waits
  | call moves move =>
      have moved := advance_spec digest (w.calls moves) w.state move
      by_contra nowhere
      obtain ⟨fewer, own, silent⟩ := moved.brings known fun p flying inHand =>
        nowhere (Or.inr ⟨moves, p, flying, inHand⟩)
      rcases after with sent | ⟨call, p, flying, inHand⟩
      · exact nowhere (Or.inl (sent.of_silent silent))
      · by_cases here : call = moves
        · subst here
          exact own p (by simpa [Machine.step, fleet] using flying) inHand
        · have before : w.calls call = some p := by
            simpa [Machine.step, fleet, Function.update_of_ne here] using flying
          exact nowhere (Or.inr ⟨call, p, before, inHand.of_due fewer⟩)

/-- A job whose command is not on the way: it is there, as it was, and nothing is. -/
def Wedged (row : JobRow) (w : World State InFlight Event) : Prop :=
  row ∈ w.state.jobs.rows ∧ ¬ OnTheWay w row.id

theorem wedged_step (row : JobRow) (w : World State InFlight Event) (a : Action ServerOp Move)
    (wedged : Wedged row w) (honest : AcksFromAgents w a) : Wedged row ((fleet digest).step w a) := by
  obtain ⟨stored, nowhere⟩ := wedged
  refine ⟨?_, fun after => nowhere (onTheWay_before ⟨row, stored, rfl⟩ after)⟩
  rcases step_row w a stored with ⟨req, now, rfl, named, -⟩ | ⟨-, kept⟩
  · obtain ⟨session, sent⟩ := honest
    exact absurd (Or.inl ⟨session, req, sent, named⟩) nowhere
  · exact kept

variable (digest)

/-- **A wedged device.**  While acks come from robots only: once the command of an
active job is nowhere on the way, the job stays as it is to the end of every run, and
every later dispatch to its device is refused. -/
theorem wedged_device (actions later : List (Action ServerOp Move)) (row : JobRow)
    (stored : row ∈ (runFleet digest actions).state.jobs.rows)
    (active : row.activeFor row.deviceId = true) (nowhere : ¬ OnTheWay (runFleet digest actions) row.id)
    (honest : Guarded (fleet digest).step AcksFromAgents (runFleet digest actions) later) :
    row ∈ (runFleet digest (actions ++ later)).state.jobs.rows ∧
      ∀ req id now, req.deviceId = row.deviceId →
        dispatchCreate req id now (runFleet digest (actions ++ later)).state.jobs =
          (.error ⟨.alreadyExists, "device already has an active job"⟩,
            (runFleet digest (actions ++ later)).state.jobs) := by
  have split : runFleet digest (actions ++ later) =
      run (fleet digest).step (runFleet digest actions) later := run_append _ _ actions later
  have wedged : Wedged row (runFleet digest (actions ++ later)) := by
    rw [split]
    exact run_invariant _ (wedged_step row) ⟨stored, nowhere⟩ honest
  refine ⟨wedged.1, fun req id now same => ?_⟩
  have busy : HasActive (runFleet digest (actions ++ later)).state.jobs req.toJob.deviceId :=
    ⟨row, wedged.1, by rw [show req.toJob.deviceId = row.deviceId from same]; exact active⟩
  rw [dispatchCreate, createJob_of_active busy]
  rfl

end Lost

/-! ## Commands that arrive -/

section Arrival

variable {digest : List UInt8 → List UInt8} {w : World State InFlight Event} {id : String} {call : Nat}
  {session : Session}

variable (digest)

end Arrival

/-! ## A robot that was not there -/

/-- `dev-1` gets a job while nobody watches, and then connects. -/
def Toy.missed : List (Action ServerOp Move) :=
  [.call 0 (.dispatchCreate ⟨"dev-1", "v2.0.0", none⟩ "job-1" "2025-01-01 00:00:00"),
    .call 0 .dispatchSend, .call 1 (.watch 0 "dev-1")]

/-- The job that it was given. -/
def Toy.missedJob : JobRow :=
  (DispatchUpdateRequest.toJob ⟨"dev-1", "v2.0.0", none⟩).toRow "job-1" "2025-01-01 00:00:00"

theorem Toy.missed_stored :
    Toy.missedJob ∈ (runFleet (fun bytes => bytes) Toy.missed).state.jobs.rows := List.mem_singleton.2 rfl

theorem Toy.missed_nowhere : ¬ OnTheWay (runFleet (fun bytes => bytes) Toy.missed) Toy.missedJob.id := by
  rintro (⟨session, req, sent, -⟩ | ⟨call, p, flying, inHand⟩)
  · have only : (runFleet (fun bytes => bytes) Toy.missed).log =
        [.dispatched ⟨"dev-1", "v2.0.0", none⟩ (.error ⟨.unavailable, "device dev-1 is not connected"⟩)] :=
      rfl
    rw [only] at sent
    cases List.mem_singleton.1 sent
  · by_cases one : call = 1
    · subst one
      cases flying
      rcases inHand with carries | ⟨session, reads, cmd, waits, -⟩
      · cases carries
      · cases reads
        have nothing : (runFleet (fun bytes => bytes) Toy.missed).state.dispatcher.due 0 = [] := by decide
        have waits : cmd ∈ (runFleet (fun bytes => bytes) Toy.missed).state.dispatcher.due 0 := waits
        rw [nothing] at waits
        cases waits
    · have none_ : (runFleet (fun bytes => bytes) Toy.missed).calls call = none := by
        by_cases zero : call = 0
        · subst zero
          rfl
        · simp [runFleet, Toy.missed, Machine.step, Function.update_of_ne, one, zero, World.init]
      rw [none_] at flying
      cases flying

/-- The next dispatch, now that `dev-1` is connected. -/
theorem wedged_device_missed :
    dispatchCreate ⟨"dev-1", "v3.0.0", none⟩ "job-2" "2025-01-02 00:00:00"
        (runFleet (fun bytes => bytes) (Toy.missed ++ [.call 1 .receive])).state.jobs =
      (.error ⟨.alreadyExists, "device already has an active job"⟩,
        (runFleet (fun bytes => bytes) (Toy.missed ++ [.call 1 .receive])).state.jobs) :=
  (wedged_device (fun bytes => bytes) Toy.missed [.call 1 .receive] Toy.missedJob Toy.missed_stored
    (by decide) Toy.missed_nowhere ⟨trivial, trivial⟩).2 _ _ _ rfl

end RobotFleet.Ota
