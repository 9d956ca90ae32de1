/-
# Ota.Applied -- a job that is settled was applied

Here the only acks are those that `run_stream` sent (`AcksFromAgents`); they may
be lost, delayed and repeated, and the loops may crash anywhere.  Then every
completed job was received by a robot that watches the job's device and that
applied exactly the job's artifact with success, and every failed job by one that
applied it with an error (`settled_was_applied`).

The invariant follows the command around: out of the job's row into the handler
of `dispatch_update`, through the channel of its device to a receiver, through
the loop that reads it, and back as an ack.
-/
import RobotFleet.Ota.Jobs

namespace RobotFleet.Ota

open RobotFleet.Theory
open RobotFleet.Theory.Run
open RobotFleet.Theory.Calls (World Action Outcome Holds holds_init holds_step)

set_option autoImplicit false

variable {digest : List UInt8 → List UInt8}

/-! ## What no step changes -/

/-- The same job, up to what an ack rewrites. -/
def SameJob (row row' : JobRow) : Prop :=
  row' = { row with status := row'.status, errorMessage := row'.errorMessage,
                    updatedAt := row'.updatedAt }

def JobsKept (jobs jobs' : Jobs) : Prop := ∀ row ∈ jobs.rows, ∃ row' ∈ jobs'.rows, SameJob row row'

theorem JobsKept.rfl {jobs : Jobs} : JobsKept jobs jobs := fun row stored => ⟨row, stored, Eq.refl _⟩

theorem JobsKept.of_added {jobs jobs' : Jobs} (added : JobAdded jobs jobs') : JobsKept jobs jobs' := by
  obtain ⟨job, id, now, -, inserted⟩ := added
  intro row stored
  refine ⟨row, ?_, Eq.refl _⟩
  rw [Table.insert_rows inserted]
  exact List.mem_append_left _ stored

theorem JobsKept.of_updateStatus (id : String) (status : JobStatus) (error : Option String)
    (now : String) (jobs : Jobs) : JobsKept jobs (updateStatus id status error now jobs).2 := by
  intro row stored
  rw [updateStatus_rows]
  refine ⟨_, List.mem_map_of_mem stored, ?_⟩
  split
  · exact Eq.refl _
  · exact Eq.refl _

/-- Receivers keep their number and their device for as long as they live. -/
def ReceiversKept (d d' : Dispatcher) : Prop :=
  d.nextReceiver ≤ d'.nextReceiver ∧ ∀ n < d.nextReceiver, ∀ r', d'.receivers.find? () n = some r' →
    ∃ r, d.receivers.find? () n = some r ∧ r.deviceId = r'.deviceId

theorem ReceiversKept.rfl {d : Dispatcher} : ReceiversKept d d :=
  ⟨Nat.le_refl _, fun _ _ r' found => ⟨r', found, Eq.refl _⟩⟩

namespace Dispatcher

variable (d : Dispatcher) (deviceId deviceId' : String) (receiver : Nat) (cmd : UpdateCommand)

/-- What each operation does to the readings of the two maps. -/
theorem receivers_subscribe (n : Nat) : (d.subscribe deviceId).2.receivers.find? () n =
    if d.nextReceiver = n then
      some ((d.receivers.find? () n).getD ⟨d.nextReceiver, deviceId, (d.sentTo deviceId).length⟩)
    else d.receivers.find? () n :=
  d.receivers.find?_insertOrIgnore ⟨d.nextReceiver, deviceId, (d.sentTo deviceId).length⟩ n

theorem receivers_advanceTo (next n : Nat) : (d.advanceTo receiver next).receivers.find? () n =
    if receiver = n then (d.receivers.find? () n).map (fun r => { r with next })
    else d.receivers.find? () n :=
  d.receivers.find?_update_key () receiver n (fun r => { r with next }) (fun _ _ => rfl)

theorem senders_subscribe : (d.subscribe deviceId).2.senders.find? () deviceId' =
    if deviceId = deviceId' then some ((d.senders.find? () deviceId').getD ⟨deviceId, []⟩)
    else d.senders.find? () deviceId' :=
  d.senders.find?_insertOrIgnore ⟨deviceId, []⟩ deviceId'

theorem senders_send : (d.send deviceId cmd).senders.find? () deviceId' =
    if deviceId = deviceId' then
      (d.senders.find? () deviceId').map (fun s => { s with sent := s.sent ++ [cmd] })
    else d.senders.find? () deviceId' :=
  d.senders.find?_update_key () deviceId deviceId' (fun s => { s with sent := s.sent ++ [cmd] })
    (fun _ _ => rfl)

theorem subscribe_receivers : ReceiversKept d (d.subscribe deviceId).2 := by
  refine ⟨Nat.le_succ _, fun n bound r' found => ⟨r', ?_, rfl⟩⟩
  rwa [receivers_subscribe, if_neg (by omega)] at found

/-- The new receiver stands at the end of its channel. -/
theorem find?_subscribe_new : (d.subscribe deviceId).2.receivers.find? () d.nextReceiver =
    some ⟨d.nextReceiver, deviceId, (d.sentTo deviceId).length⟩ := by
  have absent : d.receivers.find? () d.nextReceiver = none := by
    rw [Table.find?_eq_none_iff]
    intro r' stored same
    exact absurd (d.fresh r' stored) (by rw [show r'.id = d.nextReceiver from same]; omega)
  rw [receivers_subscribe, if_pos rfl, absent]
  rfl

theorem advanceTo_receivers (next : Nat) : ReceiversKept d (d.advanceTo receiver next) := by
  refine ⟨Nat.le_refl _, fun n _ r' found => ?_⟩
  rw [receivers_advanceTo] at found
  split at found
  · obtain ⟨r, found', rfl⟩ := Option.map_eq_some_iff.1 found
    exact ⟨r, found', rfl⟩
  · exact ⟨r', found, rfl⟩

theorem unsubscribe_receivers : ReceiversKept d (d.unsubscribe receiver) := by
  refine ⟨Nat.le_refl _, fun n _ r' found => ⟨r', ?_, rfl⟩⟩
  rw [Table.find?_eq_some_iff] at found ⊢
  exact ⟨List.mem_of_mem_filter found.1, found.2⟩

theorem restart_receivers : ReceiversKept d d.restart :=
  ⟨Nat.le_refl _, fun _ _ _ found => by cases found⟩

/-! ## What is sent where -/

@[simp] theorem sentTo_subscribe : (d.subscribe deviceId).2.sentTo deviceId' = d.sentTo deviceId' := by
  unfold sentTo
  rw [senders_subscribe]
  split
  · cases d.senders.find? () deviceId' <;> rfl
  · rfl

theorem mem_sentTo_send {cmd cmd' : UpdateCommand} {deviceId deviceId' : String}
    (sent : cmd' ∈ (d.send deviceId cmd).sentTo deviceId') :
    cmd' ∈ d.sentTo deviceId' ∨ (cmd' = cmd ∧ deviceId' = deviceId) := by
  unfold sentTo at sent ⊢
  rw [senders_send] at sent
  split at sent
  · rename_i here
    cases found : d.senders.find? () deviceId' with
    | none => simp [found] at sent
    | some sender =>
        simp only [found, Option.map_some, Option.getD_some, List.mem_append, List.mem_singleton] at sent ⊢
        rcases sent with old | new
        · exact Or.inl old
        · exact Or.inr ⟨new, here.symm⟩
  · exact Or.inl sent

/-- A stream yields what was sent to the device of its receiver. -/
theorem recv_some {d d' : Dispatcher} {receiver : Nat} {cmd : UpdateCommand}
    (got : d.recv receiver = (some cmd, d')) :
    ∃ r next, d.receivers.find? () receiver = some r ∧ cmd ∈ d.sentTo r.deviceId ∧
      d' = d.advanceTo receiver next := by
  unfold recv at got
  split at got
  · cases got
  · rename_i r found
    dsimp only at got
    split at got
    · cases got
    · rename_i cmd' read
      cases got
      exact ⟨r, _, found, List.mem_of_getElem? read, rfl⟩

end Dispatcher

/-- A dispatch sends its command on the channel of its device, or nothing. -/
theorem dispatchSend_cases (req : DispatchUpdateRequest) (job : JobRecord) (d : Dispatcher) :
    (dispatchSend req job d).2 = d ∨
      (dispatchSend req job d).2 = d.send req.deviceId (commandFor req job) := by
  unfold dispatchSend Dispatcher.dispatch
  cases d.senders.find? () req.deviceId with
  | none => exact Or.inl rfl
  | some sender =>
      by_cases alone : d.receiverCount req.deviceId = 0
      · simp [alone]
      · simp [alone]

theorem mem_sentTo_dispatchSend {req : DispatchUpdateRequest} {job : JobRecord} {d : Dispatcher}
    {deviceId : String} {cmd : UpdateCommand}
    (sent : cmd ∈ (dispatchSend req job d).2.sentTo deviceId) :
    cmd ∈ d.sentTo deviceId ∨ (cmd = commandFor req job ∧ deviceId = req.deviceId) := by
  rcases dispatchSend_cases req job d with same | enqueued
  · rw [same] at sent
    exact Or.inl sent
  · rw [enqueued] at sent
    exact d.mem_sentTo_send sent

/-- Sending touches no receiver. -/
theorem dispatchSend_receivers (req : DispatchUpdateRequest) (job : JobRecord) (d : Dispatcher) :
    (dispatchSend req job d).2.nextReceiver = d.nextReceiver ∧
      (dispatchSend req job d).2.receivers = d.receivers := by
  rcases dispatchSend_cases req job d with same | enqueued
  · rw [same]
    exact ⟨rfl, rfl⟩
  · rw [enqueued]
    exact ⟨rfl, rfl⟩

/-! ## Following a command -/

/-- The command was made from a job of the device. -/
def CommandOf (jobs : Jobs) (deviceId : String) (cmd : UpdateCommand) : Prop :=
  ∃ row ∈ jobs.rows, row.deviceId = deviceId ∧ cmd.updateJobId = row.id ∧
    cmd.targetVersion = row.targetVersion ∧ cmd.artifactUrl = row.artifactUrl ∧
    cmd.sha256 = row.sha256 ∧ cmd.sizeBytes = row.sizeBytes.toUInt64

theorem CommandOf.kept {jobs jobs' : Jobs} {deviceId : String} {cmd : UpdateCommand}
    (kept : JobsKept jobs jobs') (made : CommandOf jobs deviceId cmd) : CommandOf jobs' deviceId cmd := by
  obtain ⟨row, stored, fields⟩ := made
  obtain ⟨row', stored', same⟩ := kept row stored
  refine ⟨row', stored', ?_⟩
  rw [same]
  exact fields

/-- Ids are unique, so the job a command was made from is the job it names. -/
theorem CommandOf.of_row {jobs : Jobs} {deviceId : String} {cmd : UpdateCommand} {row : JobRow}
    (made : CommandOf jobs deviceId cmd) (stored : row ∈ jobs.rows) (named : cmd.updateJobId = row.id) :
    deviceId = row.deviceId ∧ cmd.artifactUrl = row.artifactUrl ∧ cmd.sha256 = row.sha256 := by
  obtain ⟨row', stored', device, job, -, url, sha, -⟩ := made
  have one : row' = row := jobs.eq_of_key () stored' stored (job.symm.trans named)
  subst one
  exact ⟨device.symm, url, sha⟩

theorem commandOf_created {req : DispatchUpdateRequest} {id now : String} {jobs jobs' : Jobs}
    {job : JobRecord} (created : createJob req.toJob id now jobs = (.ok job, jobs')) :
    CommandOf jobs' req.deviceId (commandFor req job) := by
  obtain ⟨-, rfl, inserted⟩ := createJob_ok created
  refine ⟨req.toJob.toRow id now, ?_, rfl, rfl, rfl, rfl, rfl, rfl⟩
  rw [Table.insert_rows inserted]
  exact List.mem_append_right _ (List.mem_singleton.2 rfl)

/-- The session reads a receiver of its own device, if the receiver still lives. -/
def Bound (d : Dispatcher) (session : Session) : Prop :=
  session.receiver < d.nextReceiver ∧
    ∀ r, d.receivers.find? () session.receiver = some r → r.deviceId = session.deviceId

theorem Bound.kept {d d' : Dispatcher} {session : Session} (kept : ReceiversKept d d')
    (bound : Bound d session) : Bound d' session := by
  refine ⟨Nat.lt_of_lt_of_le bound.1 kept.1, fun r' found' => ?_⟩
  obtain ⟨r, found, same⟩ := kept.2 session.receiver bound.1 r' found'
  rw [← same]
  exact bound.2 r found

theorem bound_subscribe (d : Dispatcher) (agent : Nat) (deviceId : String) :
    Bound (d.subscribe deviceId).2 ⟨agent, deviceId, (d.subscribe deviceId).1⟩ := by
  refine ⟨Nat.lt_succ_self _, fun r found => ?_⟩
  have same : some _ = some r := (d.find?_subscribe_new deviceId).symm.trans found
  cases same
  rfl

/-- A session received the command, for a job of its device, and applied its
artifact with this result. -/
def Reported (digest : List UInt8 → List UInt8) (s : State) (log : List Event) (session : Session)
    (cmd : UpdateCommand) (result : Except Agent.Error Unit) : Prop :=
  .received session cmd ∈ log ∧ CommandOf s.jobs session.deviceId cmd ∧
    ∃ env, .applied session cmd env result ∈ log ∧
      (applyUpdate digest cmd.artifactUrl cmd.sha256 env).result = result

/-- What every action guarantees. -/
def Later (s : State) (log : List Event) (s' : State) (log' : List Event) : Prop :=
  JobsKept s.jobs s'.jobs ∧ ReceiversKept s.dispatcher s'.dispatcher ∧ log <+: log'

theorem Later.of_log {s : State} {log log' : List Event} (longer : log <+: log') : Later s log s log' :=
  ⟨.rfl, .rfl, longer⟩

theorem Reported.later {s s' : State} {log log' : List Event} {session : Session} {cmd : UpdateCommand}
    {result : Except Agent.Error Unit} (later : Later s log s' log')
    (reported : Reported digest s log session cmd result) :
    Reported digest s' log' session cmd result := by
  obtain ⟨received, made, env, applied, ran⟩ := reported
  exact ⟨later.2.2.subset received, made.kept later.1, env, later.2.2.subset applied, ran⟩

/-- What a call in flight has behind it. -/
def Trail (digest : List UInt8 → List UInt8) (s : State) (log : List Event) : InFlight → Prop
  | .dispatching req job => CommandOf s.jobs req.deviceId (commandFor req job)
  | .watching session | .acking session => Bound s.dispatcher session
  | .received session cmd => Bound s.dispatcher session ∧ .received session cmd ∈ log ∧
      CommandOf s.jobs session.deviceId cmd
  | .applied session cmd result => Bound s.dispatcher session ∧ Reported digest s log session cmd result

theorem Trail.later {s s' : State} {log log' : List Event} {p : InFlight}
    (later : Later s log s' log') (trail : Trail digest s log p) : Trail digest s' log' p := by
  cases p with
  | dispatching req job => exact CommandOf.kept later.1 trail
  | watching | acking => exact Bound.kept later.2.1 trail
  | received session cmd =>
      obtain ⟨bound, received, made⟩ := trail
      exact ⟨bound.kept later.2.1, later.2.2.subset received, made.kept later.1⟩
  | applied session cmd result => exact ⟨trail.1.kept later.2.1, trail.2.later later⟩

/-- A settled row is backed by a session that reported that outcome. -/
def Backed (digest : List UInt8 → List UInt8) (s : State) (log : List Event) (row : JobRow) : Prop :=
  (row.status = "completed" → ∃ session cmd, cmd.updateJobId = row.id ∧
    Reported digest s log session cmd (.ok ())) ∧
  (row.status = "failed" → ∃ session cmd e, cmd.updateJobId = row.id ∧
    Reported digest s log session cmd (.error e))

theorem Backed.later {s s' : State} {log log' : List Event} {row : JobRow}
    (later : Later s log s' log') (backed : Backed digest s log row) : Backed digest s' log' row := by
  refine ⟨fun done => ?_, fun broke => ?_⟩
  · obtain ⟨session, cmd, same, reported⟩ := backed.1 done
    exact ⟨session, cmd, same, reported.later later⟩
  · obtain ⟨session, cmd, e, same, reported⟩ := backed.2 broke
    exact ⟨session, cmd, e, same, reported.later later⟩

/-- The channels carry commands of their device, acks report what a session did,
and settled jobs are backed by one. -/
structure Accounted (digest : List UInt8 → List UInt8) (s : State) (log : List Event) : Prop where
  sent : ∀ deviceId, ∀ cmd ∈ s.dispatcher.sentTo deviceId, CommandOf s.jobs deviceId cmd
  acks : ∀ session req, .ackSent session req ∈ log → ∃ cmd result,
    Reported digest s log session cmd result ∧ req = ackFor session.deviceId cmd result
  jobs : ∀ row ∈ s.jobs.rows, Backed digest s log row

/-- The parts of `Accounted` that an action does not touch. -/
theorem Accounted.later {s s' : State} {log log' : List Event} (accounted : Accounted digest s log)
    (later : Later s log s' log')
    (sent : ∀ deviceId, ∀ cmd ∈ s'.dispatcher.sentTo deviceId,
      cmd ∈ s.dispatcher.sentTo deviceId ∨ CommandOf s'.jobs deviceId cmd)
    (acks : ∀ session req, .ackSent session req ∈ log' → .ackSent session req ∈ log ∨ ∃ cmd result,
      Reported digest s' log' session cmd result ∧ req = ackFor session.deviceId cmd result)
    (jobs : ∀ row ∈ s'.jobs.rows, row ∈ s.jobs.rows ∨ Backed digest s' log' row) :
    Accounted digest s' log' where
  sent deviceId cmd member := by
    rcases sent deviceId cmd member with old | new
    · exact (accounted.sent deviceId cmd old).kept later.1
    · exact new
  acks session req member := by
    rcases acks session req member with old | new
    · obtain ⟨cmd, result, reported, same⟩ := accounted.acks session req old
      exact ⟨cmd, result, reported.later later, same⟩
    · exact new
  jobs row stored := by
    rcases jobs row stored with old | new
    · exact (accounted.jobs row old).later later
    · exact new

/-- An event other than an ack adds no ack. -/
theorem ackSent_of_silent {log : List Event} {event : Option Event}
    (silent : ∀ session req, event ≠ some (.ackSent session req)) {session : Session}
    {req : AckUpdateRequest} (member : .ackSent session req ∈ log ++ event.toList) :
    .ackSent session req ∈ log := by
  rcases List.mem_append.1 member with old | new
  · exact old
  · exact absurd (Option.mem_toList.1 new) (silent session req)

/-- An action that leaves the jobs and the channels alone, and sends no ack. -/
theorem Accounted.quiet {s s' : State} {log : List Event} {event : Option Event}
    (accounted : Accounted digest s log) (later : Later s log s' (log ++ event.toList))
    (jobs : s'.jobs = s.jobs)
    (sent : ∀ deviceId, ∀ cmd ∈ s'.dispatcher.sentTo deviceId, cmd ∈ s.dispatcher.sentTo deviceId)
    (silent : ∀ session req, event ≠ some (.ackSent session req)) :
    Accounted digest s' (log ++ event.toList) := by
  refine accounted.later later (fun deviceId cmd member => Or.inl (sent deviceId cmd member))
    (fun session req member => Or.inl (ackSent_of_silent silent member)) (fun row stored => Or.inl ?_)
  rwa [jobs] at stored

/-- An action that only logs something else than an ack. -/
theorem Accounted.logged {s : State} {log : List Event} {event : Option Event}
    (accounted : Accounted digest s log)
    (silent : ∀ session req, event ≠ some (.ackSent session req)) :
    Accounted digest s (log ++ event.toList) :=
  accounted.quiet (.of_log (List.prefix_append _ _)) rfl (fun _ _ old => old) silent

/-! ## One action -/

/-- `ack_update` requests are sent by `run_stream` only. -/
def AcksFromAgents (w : World State InFlight Event) : Action ServerOp Move → Prop
  | .direct (.ackUpdate req _) => ∃ session, .ackSent session req ∈ w.log
  | _ => True

/-- The row that an agent's ack settles is backed by that agent's report. -/
theorem backed_settle {s : State} {log : List Event} {row : JobRow} {session : Session}
    {cmd : UpdateCommand} {result : Except Agent.Error Unit} {req : AckUpdateRequest} {now : String}
    (reported : Reported digest s log session cmd result)
    (sent : req = ackFor session.deviceId cmd result) (named : row.id = req.updateJobId) :
    Backed digest s log (row.settle req.status req.error now) := by
  cases result with
  | ok =>
      subst sent
      refine ⟨fun _ => ⟨session, cmd, named.symm, reported⟩, fun broke => ?_⟩
      exact absurd (show "completed" = "failed" from broke) (by decide)
  | error e =>
      subst sent
      refine ⟨fun done => ?_, fun _ => ⟨session, cmd, e, named.symm, reported⟩⟩
      exact absurd (show "failed" = "completed" from done) (by decide)

theorem serverOp_accounted {s : State} {log : List Event} (accounted : Accounted digest s log)
    (op : ServerOp)
    (allowed : ∀ req now, op = .ackUpdate req now → ∃ session, .ackSent session req ∈ log) :
    Accounted digest (serverOp s op) log ∧ Later s log (serverOp s op) log := by
  cases op with
  | ackUpdate req now =>
      have rewritten := ackUpdate_jobs req now s.jobs
      have later : Later s log (serverOp s (.ackUpdate req now)) log := by
        refine ⟨?_, .rfl, List.prefix_refl _⟩
        show JobsKept s.jobs (ackUpdate req now s.jobs).2
        rw [rewritten]
        exact JobsKept.of_updateStatus _ _ _ _ _
      obtain ⟨session, arrived⟩ := allowed req now rfl
      obtain ⟨cmd, result, reported, sent⟩ := accounted.acks session req arrived
      refine ⟨accounted.later later (fun _ _ old => Or.inl old) (fun _ _ old => Or.inl old) ?_, later⟩
      intro row stored
      have stored' : row ∈ (ackUpdate req now s.jobs).2.rows := stored
      rw [rewritten, updateStatus_rows] at stored'
      obtain ⟨old, member, rfl⟩ := List.mem_map.1 stored'
      by_cases here : old.id = req.updateJobId
      · rw [if_pos here]
        exact Or.inr (backed_settle (reported.later later) sent here)
      · rw [if_neg here]
        exact Or.inl member
  | checkUpdate | listUpdateJobs => exact ⟨accounted, .rfl, .rfl, List.prefix_refl _⟩
  | unsubscribe receiver =>
      have later : Later s log (serverOp s (.unsubscribe receiver)) log :=
        ⟨.rfl, s.dispatcher.unsubscribe_receivers receiver, List.prefix_refl _⟩
      exact ⟨accounted.later later (fun _ _ old => Or.inl old) (fun _ _ old => Or.inl old)
        (fun _ old => Or.inl old), later⟩
  | restart =>
      have later : Later s log (serverOp s .restart) log :=
        ⟨.rfl, s.dispatcher.restart_receivers, List.prefix_refl _⟩
      exact ⟨accounted.later later (fun _ _ none_ => by cases none_) (fun _ _ old => Or.inl old)
        (fun _ old => Or.inl old), later⟩

/-- A job that `dispatch_update` creates is pending, and needs no backing yet. -/
theorem Accounted.created {s : State} {log : List Event} {req : DispatchUpdateRequest} {id now : String}
    {job : JobRecord} {jobs : Jobs} (accounted : Accounted digest s log)
    (created : createJob req.toJob id now s.jobs = (.ok job, jobs)) (event : Option Event)
    (silent : ∀ session req, event ≠ some (.ackSent session req)) :
    Accounted digest { s with jobs } (log ++ event.toList) ∧
      Later s log { s with jobs } (log ++ event.toList) := by
  obtain ⟨free, -, inserted⟩ := createJob_ok created
  have later : Later s log { s with jobs } (log ++ event.toList) :=
    ⟨.of_added ⟨req.toJob, id, now, free, inserted⟩, .rfl, List.prefix_append _ _⟩
  refine ⟨accounted.later later (fun _ _ old => Or.inl old)
    (fun _ _ member => Or.inl (ackSent_of_silent silent member)) ?_, later⟩
  intro row stored
  have stored' : row ∈ jobs.rows := stored
  rw [Table.insert_rows inserted, List.mem_append, List.mem_singleton] at stored'
  rcases stored' with old | rfl
  · exact Or.inl old
  · refine Or.inr ⟨fun done => ?_, fun broke => ?_⟩
    · exact absurd (show "pending" = "completed" from done) (by decide)
    · exact absurd (show "pending" = "failed" from broke) (by decide)

/-- `Dispatcher::dispatch` puts a command of the device on the device's channel. -/
theorem Accounted.dispatched {s : State} {log : List Event} {req : DispatchUpdateRequest}
    {job : JobRecord} (accounted : Accounted digest s log)
    (own : CommandOf s.jobs req.deviceId (commandFor req job)) (event : Option Event)
    (silent : ∀ session req, event ≠ some (.ackSent session req)) :
    Accounted digest { s with dispatcher := (dispatchSend req job s.dispatcher).2 } (log ++ event.toList) ∧
      Later s log { s with dispatcher := (dispatchSend req job s.dispatcher).2 }
        (log ++ event.toList) := by
  obtain ⟨numbers, receivers⟩ := dispatchSend_receivers req job s.dispatcher
  have kept : ReceiversKept s.dispatcher (dispatchSend req job s.dispatcher).2 := by
    refine ⟨Nat.le_of_eq numbers.symm, fun n _ r' found => ⟨r', ?_, rfl⟩⟩
    rwa [receivers] at found
  have later : Later s log { s with dispatcher := (dispatchSend req job s.dispatcher).2 }
      (log ++ event.toList) := ⟨.rfl, kept, List.prefix_append _ _⟩
  refine ⟨accounted.later later ?_ (fun _ _ member => Or.inl (ackSent_of_silent silent member))
    (fun _ old => Or.inl old), later⟩
  intro deviceId cmd member
  rcases mem_sentTo_dispatchSend member with old | ⟨rfl, rfl⟩
  · exact Or.inl old
  · exact Or.inr own

/-- A move keeps the account, and leaves its call with its trail. -/
theorem Advances.accounted {s : State} {log : List Event} {call : Option InFlight} {move : Move}
    {o : Outcome State InFlight Event} (moved : Advances digest s call move o)
    (trail : ∀ p, call = some p → Trail digest s log p) (accounted : Accounted digest s log) :
    Accounted digest o.state (log ++ o.event.toList) ∧ Later s log o.state (log ++ o.event.toList) ∧
      ∀ p, o.call = some p → Trail digest o.state (log ++ o.event.toList) p := by
  have longer := List.prefix_append log o.event.toList
  cases moved with
  | idle =>
      refine ⟨accounted.logged (by simp), .of_log longer, fun p flying => ?_⟩
      exact (trail p flying).later (.of_log longer)
  | ended => exact ⟨accounted.logged (by simp), .of_log longer, by simp⟩
  | dispatchRefused => exact ⟨accounted.logged (by simp), .of_log longer, by simp⟩
  | dispatchCreated req id now job jobs created =>
      obtain ⟨kept, later⟩ := accounted.created created none (by simp)
      refine ⟨kept, later, ?_⟩
      rintro p ⟨⟩
      exact commandOf_created created
  | dispatchSent req job result dispatcher sent =>
      have own : CommandOf s.jobs req.deviceId (commandFor req job) := trail (.dispatching req job) rfl
      have target : dispatcher = (dispatchSend req job s.dispatcher).2 := by rw [sent]
      obtain ⟨kept, later⟩ := accounted.dispatched own (some (.dispatched req result)) (by simp)
      rw [← target] at kept later
      exact ⟨kept, later, by simp⟩
  | watched agent deviceId receiver dispatcher subscribed =>
      have kept := s.dispatcher.subscribe_receivers deviceId
      have bound := bound_subscribe s.dispatcher agent deviceId
      have channels := s.dispatcher.sentTo_subscribe deviceId
      rw [subscribed] at kept bound channels
      refine ⟨accounted.quiet ⟨.rfl, kept, longer⟩ rfl ?_ (by simp), ⟨.rfl, kept, longer⟩, ?_⟩
      · intro deviceId' cmd member
        exact channels deviceId' ▸ member
      · rintro p ⟨⟩
        exact bound
  | messageReceived session cmd dispatcher got =>
      have bound : Bound s.dispatcher session := trail (.watching session) rfl
      obtain ⟨r, next, found, sent, rfl⟩ := Dispatcher.recv_some got
      have kept := s.dispatcher.advanceTo_receivers session.receiver next
      have made : CommandOf s.jobs session.deviceId cmd := by
        rw [← bound.2 r found]
        exact accounted.sent r.deviceId cmd sent
      refine ⟨accounted.quiet ⟨.rfl, kept, longer⟩ rfl (fun _ _ => id) (by simp),
        ⟨.rfl, kept, longer⟩, ?_⟩
      rintro p ⟨⟩
      exact ⟨bound.kept kept, List.mem_append_right _ (List.mem_singleton.2 rfl), made⟩
  | updateApplied session cmd env result ran =>
      obtain ⟨bound, received, made⟩ : Bound s.dispatcher session ∧
        Event.received session cmd ∈ log ∧ CommandOf s.jobs session.deviceId cmd := trail (.received session cmd) rfl
      refine ⟨accounted.logged (by simp), .of_log longer, ?_⟩
      rintro p ⟨⟩
      exact ⟨bound, longer.subset received, made, env,
        List.mem_append_right _ (List.mem_singleton.2 rfl), ran⟩
  | ackSent session cmd result =>
      obtain ⟨bound, reported⟩ : Bound s.dispatcher session ∧ Reported digest s log session cmd result :=
        trail (.applied session cmd result) rfl
      have later : Later s log s _ := .of_log longer
      refine ⟨accounted.later later (fun _ _ old => Or.inl old) ?_ (fun _ old => Or.inl old), later, ?_⟩
      · intro session' req member
        rcases List.mem_append.1 member with old | new
        · exact Or.inl old
        · cases List.mem_singleton.1 new
          exact Or.inr ⟨cmd, result, reported.later later, rfl⟩
      · rintro p ⟨⟩
        exact bound
  | ackReturned session =>
      have bound : Bound s.dispatcher session := trail (.acking session) rfl
      refine ⟨accounted.logged (by simp), .of_log longer, ?_⟩
      rintro p ⟨⟩
      exact bound

theorem accounted_step (w : World State InFlight Event) (a : Action ServerOp Move)
    (holds : Holds (Accounted digest) (Trail digest) w) (allowed : AcksFromAgents w a) :
    Holds (Accounted digest) (Trail digest) ((fleet digest).step w a) := by
  refine holds_step (P := Trail digest) (R := Later) _ Trail.later ?_ ?_ holds
  · rintro op rfl
    refine serverOp_accounted holds.shared op fun req now same => ?_
    subst same
    exact allowed
  · rintro id move o - rfl
    have moved := advance_spec digest (w.calls id) w.state move
    exact moved.accounted (fun p flying => holds.inFlight id p flying) holds.shared

/-- **A settled job was applied.**  In every state that the service and its robots
reach while acks come from `run_stream` only, a completed job was received by a
session of its device whose `apply_update` on the job's artifact returned `Ok`,
and a failed job by one whose `apply_update` returned an error. -/
theorem settled_was_applied (actions : List (Action ServerOp Move))
    (honest : Guarded (fleet digest).step AcksFromAgents (.init .empty) actions) :
    ∀ row ∈ (runFleet digest actions).state.jobs.rows,
      (row.status = "completed" → ∃ session cmd env, session.deviceId = row.deviceId ∧
        cmd.updateJobId = row.id ∧ cmd.artifactUrl = row.artifactUrl ∧ cmd.sha256 = row.sha256 ∧
        .received session cmd ∈ (runFleet digest actions).log ∧
        .applied session cmd env (.ok ()) ∈ (runFleet digest actions).log ∧
        (applyUpdate digest cmd.artifactUrl cmd.sha256 env).result = .ok ()) ∧
      (row.status = "failed" → ∃ session cmd env e, session.deviceId = row.deviceId ∧
        cmd.updateJobId = row.id ∧ cmd.artifactUrl = row.artifactUrl ∧ cmd.sha256 = row.sha256 ∧
        .received session cmd ∈ (runFleet digest actions).log ∧
        .applied session cmd env (.error e) ∈ (runFleet digest actions).log ∧
        (applyUpdate digest cmd.artifactUrl cmd.sha256 env).result = .error e) := by
  have initially : Accounted digest State.empty [] := by
    refine ⟨fun _ _ sent => ?_, fun _ _ sent => ?_, fun _ stored => ?_⟩
    · cases sent
    · cases sent
    · cases stored
  have holds : Holds (Accounted digest) (Trail digest) (runFleet digest actions) :=
    run_invariant _ accounted_step (holds_init initially) honest
  intro row stored
  have backed := holds.shared.jobs row stored
  refine ⟨fun done => ?_, fun broke => ?_⟩
  · obtain ⟨session, cmd, same, received, made, env, applied, ran⟩ := backed.1 done
    obtain ⟨device, url, sha⟩ := made.of_row stored same
    exact ⟨session, cmd, env, device, same, url, sha, received, applied, ran⟩
  · obtain ⟨session, cmd, e, same, received, made, env, applied, ran⟩ := backed.2 broke
    obtain ⟨device, url, sha⟩ := made.of_row stored same
    exact ⟨session, cmd, env, e, device, same, url, sha, received, applied, ran⟩

/-! ## A dispatch that fails on the robot -/

/-- A machine that cannot download: `dispatch_update` sends no URL. -/
def Env.offline : Env := { Env.working with download := fun _ => .error "builder error" }

/-- The ack of `dev-1` for it. -/
def Toy.failedAck : AckUpdateRequest :=
  ⟨"dev-1", "job-1", "", false, "install script failed: download failed: builder error"⟩

/-- `dev-1` watches, a job is dispatched to it, it cannot download the artifact
and says so. -/
def Toy.failedUpdate : List (Action ServerOp Move) :=
  [.call 0 (.watch 0 "dev-1"),
    .call 1 (.dispatchCreate ⟨"dev-1", "v2.0.0", none⟩ "job-1" "2025-01-01 00:00:00"),
    .call 1 .dispatchSend,
    .call 0 .receive,
    .call 0 (.apply .offline),
    .call 0 .sendAck,
    .direct (.ackUpdate Toy.failedAck "2025-01-01 00:01:00"),
    .call 0 (.ackReturned true)]

theorem settled_was_applied_failedUpdate :
    ((runFleet (fun bytes => bytes) Toy.failedUpdate).state.jobs.rows.map JobRow.status) = ["failed"] ∧
    ∀ row ∈ (runFleet (fun bytes => bytes) Toy.failedUpdate).state.jobs.rows,
      row.status = "failed" → ∃ session cmd env e, session.deviceId = row.deviceId ∧
        cmd.updateJobId = row.id ∧ cmd.artifactUrl = row.artifactUrl ∧ cmd.sha256 = row.sha256 ∧
        .received session cmd ∈ (runFleet (fun bytes => bytes) Toy.failedUpdate).log ∧
        .applied session cmd env (.error e) ∈ (runFleet (fun bytes => bytes) Toy.failedUpdate).log ∧
        (applyUpdate (fun bytes => bytes) cmd.artifactUrl cmd.sha256 env).result = .error e := by
  refine ⟨by decide, fun row stored => (settled_was_applied Toy.failedUpdate ?_ row stored).2⟩
  have sent : ∃ session, Event.ackSent session Toy.failedAck ∈
      (runFleet (fun bytes => bytes) (Toy.failedUpdate.take 6)).log :=
    ⟨⟨0, "dev-1", 0⟩, .tail _ (.tail _ (.tail _ (.head _)))⟩
  exact ⟨trivial, trivial, trivial, trivial, trivial, trivial, sent, trivial, trivial⟩

end RobotFleet.Ota
