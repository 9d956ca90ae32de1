/-
# Ota.Streams -- the service and its streams, one action at a time

The OTA service alone, with its streams read by anyone at any time:
`watch_updates`, reads of the streams it returned, the two steps of
`dispatch_update`, `ack_update`, streams that are dropped, requests that are
abandoned and restarts, in any order (`Service.step`).  Two histories are kept
beside the state: what was handed to `Dispatcher::dispatch`, and what each stream
yielded.

`Service.Steps` lists what an action can do, `Dispatcher.unread` is what a
receiver still has to read, and `recv_of_not_lags` is what it reads next.
-/
import RobotFleet.Ota.Applied

namespace RobotFleet.Ota

open RobotFleet.Theory
open RobotFleet.Theory.Run

set_option autoImplicit false

/-! ## What a receiver has not read -/

namespace Dispatcher

variable {d : Dispatcher} {deviceId deviceId' : String} {receiver : Nat} {r : Receiver}
  {cmd : UpdateCommand}

/-- Sent on the channel of a receiver, and not read by it. -/
def unread (d : Dispatcher) (receiver : Nat) : List UpdateCommand :=
  match d.receivers.find? () receiver with
  | none => []
  | some r => (d.sentTo r.deviceId).drop r.next

/-- The channel has overwritten a value that the receiver did not read: its next
`recv` returns `Lagged`, which the stream drops. -/
def lags (d : Dispatcher) (receiver : Nat) : Bool :=
  decide (channelCapacity < (d.unread receiver).length)

theorem unread_of_find? (found : d.receivers.find? () receiver = some r) :
    d.unread receiver = (d.sentTo r.deviceId).drop r.next := by
  unfold unread
  rw [found]

/-- A receiver that does not lag yields its first unread value. -/
theorem recv_of_not_lags (found : d.receivers.find? () receiver = some r)
    (keeps : d.lags receiver = false) :
    (d.recv receiver).1 = (d.unread receiver).head? ∧
      ∀ cmd, (d.recv receiver).1 = some cmd →
        (d.recv receiver).2 = d.advanceTo receiver (r.next + 1) := by
  have short : (d.sentTo r.deviceId).length - channelCapacity ≤ r.next := by
    rw [lags, unread_of_find? found, List.length_drop, decide_eq_false_iff_not] at keeps
    omega
  rw [unread_of_find? found, List.head?_drop]
  unfold recv
  simp only [found, Nat.max_eq_left short]
  cases read : (d.sentTo r.deviceId)[r.next]? with
  | none => exact ⟨rfl, fun _ none_ => by cases none_⟩
  | some cmd => exact ⟨rfl, fun _ _ => rfl⟩

theorem find?_subscribe (found : d.receivers.find? () receiver = some r) :
    (d.subscribe deviceId).2.receivers.find? () receiver = some r := by
  rw [receivers_subscribe, found]
  split
  · rfl
  · rfl

theorem find?_unsubscribe {receiver' : Nat} (other : receiver' ≠ receiver)
    (found : d.receivers.find? () receiver = some r) :
    (d.unsubscribe receiver').receivers.find? () receiver = some r := by
  rw [Table.find?_eq_some_iff] at found ⊢
  have own : r.id = receiver := found.2
  refine ⟨List.mem_filter.2 ⟨found.1, ?_⟩, found.2⟩
  simp [own, Ne.symm other]

/-- The device has a channel. -/
def Opened (d : Dispatcher) (deviceId : String) : Prop := (d.senders.find? () deviceId).isSome

theorem opened_subscribe : (d.subscribe deviceId).2.Opened deviceId := by
  unfold Opened
  rw [senders_subscribe, if_pos rfl]
  rfl

theorem Opened.subscribe (deviceId' : String) (opened : d.Opened deviceId) :
    (d.subscribe deviceId').2.Opened deviceId := by
  unfold Opened
  rw [senders_subscribe]
  split
  · rfl
  · exact opened

theorem Opened.send (deviceId' : String) (cmd : UpdateCommand) (opened : d.Opened deviceId) :
    (d.send deviceId' cmd).Opened deviceId := by
  unfold Opened
  rw [senders_send]
  split
  · rwa [Option.isSome_map]
  · exact opened

/-- On an open channel a value is sent at the end. -/
theorem sentTo_send (cmd : UpdateCommand) (opened : d.Opened deviceId) :
    (d.send deviceId cmd).sentTo deviceId = d.sentTo deviceId ++ [cmd] := by
  obtain ⟨sender, found⟩ := Option.isSome_iff_exists.1 opened
  unfold sentTo
  rw [senders_send, if_pos rfl, found]
  rfl

theorem sentTo_send_other (other : deviceId' ≠ deviceId) :
    (d.send deviceId' cmd).sentTo deviceId = d.sentTo deviceId := by
  unfold sentTo
  rw [senders_send, if_neg other]

end Dispatcher

/-- While a receiver lives, what is dispatched to its device is sent. -/
theorem dispatchSend_of_watched {d : Dispatcher} {req : DispatchUpdateRequest} {job : JobRecord}
    {receiver : Nat} {r : Receiver} (opened : d.Opened req.deviceId)
    (found : d.receivers.find? () receiver = some r) (own : r.deviceId = req.deviceId) :
    (dispatchSend req job d).2 = d.send req.deviceId (commandFor req job) := by
  obtain ⟨sender, channel⟩ := Option.isSome_iff_exists.1 opened
  have counted : d.receiverCount req.deviceId ≠ 0 := by
    unfold Dispatcher.receiverCount
    rw [Ne, List.countP_eq_zero]
    intro none_
    exact none_ r (Table.mem_of_find? found) (by simp [own])
  simp [dispatchSend, Dispatcher.dispatch, channel, counted]

/-! ## The service -/

/-- The entries of a tagged history under one tag. -/
def entriesOf {κ : Type} [DecidableEq κ] (tag : κ) (history : List (κ × UpdateCommand)) :
    List UpdateCommand :=
  history.filterMap fun entry => if entry.1 = tag then some entry.2 else none

section Histories

variable {κ : Type} [DecidableEq κ] {tag : κ} {history : List (κ × UpdateCommand)} {cmd : UpdateCommand}

theorem mem_entriesOf : cmd ∈ entriesOf tag history ↔ (tag, cmd) ∈ history := by
  unfold entriesOf
  rw [List.mem_filterMap]
  constructor
  · rintro ⟨⟨tag', cmd'⟩, member, taken⟩
    by_cases same : tag' = tag
    · simp only [same, if_true, Option.some.injEq] at taken
      rwa [← same, ← taken] at *
    · simp [same] at taken
  · intro member
    exact ⟨(tag, cmd), member, if_pos rfl⟩

theorem entriesOf_concat : entriesOf tag (history ++ [(tag, cmd)]) = entriesOf tag history ++ [cmd] := by
  simp [entriesOf]

theorem entriesOf_concat_other {tag' : κ} (other : tag' ≠ tag) :
    entriesOf tag (history ++ [(tag', cmd)]) = entriesOf tag history := by
  simp [entriesOf, other]

end Histories

structure Service where
  jobs : Jobs
  dispatcher : Dispatcher
  /-- Calls of `dispatch_update` that created their job and did not send it yet. -/
  dispatching : Nat → Option (DispatchUpdateRequest × JobRecord)
  /-- History: the calls of `Dispatcher::dispatch`, by device. -/
  dispatched : List (String × UpdateCommand)
  /-- History: the items of the streams, by receiver. -/
  yielded : List (Nat × UpdateCommand)

namespace Service

def empty : Service := ⟨.empty, .empty, fun _ => none, [], []⟩

inductive Action where
  | watchUpdates (deviceId : String)
  | readStream (receiver : Nat)
  | dropStream (receiver : Nat)
  | createJob (call : Nat) (req : DispatchUpdateRequest) (id now : String)
  | dispatch (call : Nat)
  | abandon (call : Nat)
  | ackUpdate (req : AckUpdateRequest) (now : String)
  | restart

def step (s : Service) : Action → Service
  | .watchUpdates deviceId => { s with dispatcher := (s.dispatcher.subscribe deviceId).2 }
  | .readStream receiver =>
    match s.dispatcher.recv receiver with
    | (none, _) => s
    | (some cmd, dispatcher) => { s with dispatcher, yielded := s.yielded ++ [(receiver, cmd)] }
  | .dropStream receiver => { s with dispatcher := s.dispatcher.unsubscribe receiver }
  | .createJob call req id now =>
    match s.dispatching call, dispatchCreate req id now s.jobs with
    | some _, _ => s
    | none, (.error _, jobs) => { s with jobs }
    | none, (.ok job, jobs) =>
      { s with jobs, dispatching := Function.update s.dispatching call (some (req, job)) }
  | .dispatch call =>
    match s.dispatching call with
    | none => s
    | some (req, job) =>
      { s with
        dispatcher := (dispatchSend req job s.dispatcher).2
        dispatching := Function.update s.dispatching call none
        dispatched := s.dispatched ++ [(req.deviceId, commandFor req job)] }
  | .abandon call => { s with dispatching := Function.update s.dispatching call none }
  | .ackUpdate req now => { s with jobs := (ackUpdate req now s.jobs).2 }
  | .restart => { s with dispatcher := s.dispatcher.restart, dispatching := fun _ => none }

/-- The service after a run from the empty job table. -/
def runService (actions : List Action) : Service := run step .empty actions

/-- What an action can do. -/
inductive Steps (s : Service) : Action → Service → Prop
  | idle (a : Action) : Steps s a s
  | watched (deviceId : String) :
      Steps s (.watchUpdates deviceId) { s with dispatcher := (s.dispatcher.subscribe deviceId).2 }
  | read (receiver : Nat) (cmd : UpdateCommand) (dispatcher : Dispatcher) :
      s.dispatcher.recv receiver = (some cmd, dispatcher) →
      Steps s (.readStream receiver)
        { s with dispatcher, yielded := s.yielded ++ [(receiver, cmd)] }
  | dropped (receiver : Nat) :
      Steps s (.dropStream receiver) { s with dispatcher := s.dispatcher.unsubscribe receiver }
  | created (call : Nat) (req : DispatchUpdateRequest) (id now : String) (job : JobRecord) (jobs : Jobs) :
      dispatchCreate req id now s.jobs = (.ok job, jobs) →
      Steps s (.createJob call req id now)
        { s with jobs, dispatching := Function.update s.dispatching call (some (req, job)) }
  | sent (call : Nat) (req : DispatchUpdateRequest) (job : JobRecord) :
      s.dispatching call = some (req, job) →
      Steps s (.dispatch call)
        { s with
          dispatcher := (dispatchSend req job s.dispatcher).2
          dispatching := Function.update s.dispatching call none
          dispatched := s.dispatched ++ [(req.deviceId, commandFor req job)] }
  | abandoned (call : Nat) :
      Steps s (.abandon call) { s with dispatching := Function.update s.dispatching call none }
  | acked (req : AckUpdateRequest) (now : String) :
      Steps s (.ackUpdate req now) { s with
        jobs := (updateStatus req.updateJobId req.status req.error now s.jobs).2 }
  | restarted :
      Steps s .restart { s with dispatcher := s.dispatcher.restart, dispatching := fun _ => none }

theorem step_spec (s : Service) (a : Action) : Steps s a (s.step a) := by
  cases a with
  | watchUpdates deviceId => exact .watched deviceId
  | readStream receiver =>
      unfold step
      dsimp only
      split
      · exact .idle _
      · rename_i got
        exact .read receiver _ _ got
  | dropStream receiver => exact .dropped receiver
  | createJob call req id now =>
      unfold step
      dsimp only
      split
      · exact .idle _
      · rename_i refused
        rw [dispatchCreate_error refused]
        exact .idle _
      · rename_i ran
        exact .created call req id now _ _ ran
  | dispatch call =>
      unfold step
      dsimp only
      split
      · exact .idle _
      · rename_i waiting
        exact .sent call _ _ waiting
  | abandon call => exact .abandoned call
  | ackUpdate req now =>
      have acked := Steps.acked (s := s) req now
      rwa [← ackUpdate_jobs] at acked
  | restart => exact .restarted

end Service

/-! ## Active jobs -/

/-- The device's active job has this id. -/
def ActiveJob (jobs : Jobs) (deviceId id : String) : Prop :=
  ∃ row ∈ jobs.rows, row.id = id ∧ row.activeFor deviceId = true

section ActiveJobs

variable {jobs jobs' : Jobs} {deviceId id id' : String}

theorem ActiveJob.unique (one : OneActive jobs) (active : ActiveJob jobs deviceId id)
    (active' : ActiveJob jobs deviceId id') : id = id' := by
  obtain ⟨row, stored, rfl, here⟩ := active
  obtain ⟨row', stored', rfl, here'⟩ := active'
  rw [one row stored row' stored' deviceId here here']

theorem ActiveJob.added {row : JobRow} (inserted : jobs.insert row = some jobs')
    (active : ActiveJob jobs deviceId id) : ActiveJob jobs' deviceId id := by
  obtain ⟨row', stored, fields⟩ := active
  refine ⟨row', ?_, fields⟩
  rw [Table.insert_rows inserted]
  exact List.mem_append_left _ stored

/-- A job stays active under the acks of others. -/
theorem ActiveJob.acked (req : AckUpdateRequest) (now : String) (other : id ≠ req.updateJobId)
    (active : ActiveJob jobs deviceId id) :
    ActiveJob (updateStatus req.updateJobId req.status req.error now jobs).2 deviceId id := by
  obtain ⟨row, stored, rfl, here⟩ := active
  refine ⟨row, ?_, rfl, here⟩
  rw [updateStatus_rows]
  exact List.mem_map.2 ⟨row, stored, if_neg other⟩

/-- What a successful `create_job` leaves: an active job, under an id that no job had. -/
theorem activeJob_created {req : DispatchUpdateRequest} {now : String} {job : JobRecord}
    (created : createJob req.toJob id now jobs = (.ok job, jobs')) :
    ActiveJob jobs' req.deviceId job.id ∧ ∀ row ∈ jobs.rows, row.id ≠ job.id := by
  obtain ⟨-, rfl, inserted⟩ := createJob_ok created
  constructor
  · refine ⟨req.toJob.toRow id now, ?_, rfl, ?_⟩
    · rw [Table.insert_rows inserted]
      exact List.mem_append_right _ (List.mem_singleton.2 rfl)
    · simp [JobRow.activeFor, NewJob.toRow, DispatchUpdateRequest.toJob]
  · intro row stored same
    have refused := (jobs.insert_eq_none_iff (req.toJob.toRow id now)).2 ⟨(), row, stored, same⟩
    rw [refused] at inserted
    cases inserted

end ActiveJobs

end RobotFleet.Ota
