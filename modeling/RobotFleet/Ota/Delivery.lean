/-
# Ota.Delivery -- commands reach a subscribed watcher without gaps

A broadcast channel drops what a slow receiver did not read, and the stream hides
that it did.  What prevents it is the job table: a job of a device is created only
while the device has no active one, and stays active until it is acked.  So if
jobs are acked only after the watcher saw them, the command that a watcher has not
read yet belongs to an active job (`Watching.active`), and there is at most one
(`gap_free_delivery`).
-/
import RobotFleet.Ota.Streams

namespace RobotFleet.Ota

open RobotFleet.Theory
open RobotFleet.Theory.Run

set_option autoImplicit false

namespace Service

/-! ## What acks wait for -/

/-- Jobs of the device are acked only after some stream yielded their command. -/
def AckedWhenYielded (deviceId : String) (s : Service) : Action → Prop
  | .ackUpdate req _ => ∀ row ∈ s.jobs.rows, row.id = req.updateJobId → row.deviceId = deviceId →
      ∃ entry ∈ s.yielded, entry.2.updateJobId = row.id
  | _ => True

/-- The stream of the receiver is not dropped, the service stays up, and jobs of
the device are acked only after that stream yielded their command. -/
def StaysSubscribed (deviceId : String) (receiver : Nat) (s : Service) : Action → Prop
  | .ackUpdate req _ => ∀ row ∈ s.jobs.rows, row.id = req.updateJobId → row.deviceId = deviceId →
      ∃ cmd ∈ entriesOf receiver s.yielded, cmd.updateJobId = row.id
  | .dropStream receiver' => receiver' ≠ receiver
  | .restart => False
  | _ => True

theorem StaysSubscribed.acked {deviceId : String} {receiver : Nat} {s : Service} {a : Action}
    (stays : StaysSubscribed deviceId receiver s a) : AckedWhenYielded deviceId s a := by
  cases a with
  | ackUpdate req now =>
      intro row stored named own
      obtain ⟨cmd, seen, same⟩ := stays row stored named own
      exact ⟨(receiver, cmd), mem_entriesOf.1 seen, same⟩
  | watchUpdates | readStream | dropStream | createJob | dispatch | abandon | restart => trivial

/-! ## Dispatches of one device come one at a time -/

/-- The commands of a device are sent one at a time: a call that is about to send
one holds the device's active job, which was not dispatched before. -/
structure Paced (deviceId : String) (s : Service) : Prop where
  one : OneActive s.jobs
  pending : ∀ call req job, s.dispatching call = some (req, job) →
    CommandOf s.jobs req.deviceId (commandFor req job)
  active : ∀ call req job, s.dispatching call = some (req, job) → req.deviceId = deviceId →
    ActiveJob s.jobs deviceId job.id ∧ ∀ cmd ∈ entriesOf deviceId s.dispatched, cmd.updateJobId ≠ job.id
  single : ∀ call call' p p', s.dispatching call = some p → s.dispatching call' = some p' →
    p.1.deviceId = deviceId → p'.1.deviceId = deviceId → call = call'
  made : ∀ entry ∈ s.dispatched, CommandOf s.jobs entry.1 entry.2
  channels : ∀ deviceId', ∀ cmd ∈ s.dispatcher.sentTo deviceId', (deviceId', cmd) ∈ s.dispatched
  seen : ∀ entry ∈ s.yielded, entry.1 < s.dispatcher.nextReceiver ∧
    ∃ deviceId', (deviceId', entry.2) ∈ s.dispatched
  once : ((entriesOf deviceId s.dispatched).map UpdateCommand.updateJobId).Nodup

variable {deviceId : String} {s s' : Service}

theorem paced_empty (deviceId : String) : Paced deviceId .empty where
  one := fun _ stored => nomatch stored
  pending := fun _ _ _ none_ => nomatch none_
  active := fun _ _ _ none_ => nomatch none_
  single := fun _ _ _ _ none_ => nomatch none_
  made := fun _ none_ => nomatch none_
  channels := fun _ _ none_ => nomatch none_
  seen := fun _ none_ => nomatch none_
  once := List.nodup_nil

/-- An action that creates no job, sends nothing and settles nothing. -/
theorem Paced.quiet (paced : Paced deviceId s) (jobs : s'.jobs = s.jobs)
    (dispatching : ∀ call p, s'.dispatching call = some p → s.dispatching call = some p)
    (dispatched : s'.dispatched = s.dispatched)
    (channels : ∀ deviceId', ∀ cmd ∈ s'.dispatcher.sentTo deviceId', cmd ∈ s.dispatcher.sentTo deviceId')
    (seen : ∀ entry ∈ s'.yielded, entry.1 < s'.dispatcher.nextReceiver ∧
      ∃ deviceId', (deviceId', entry.2) ∈ s.dispatched) : Paced deviceId s' where
  one := by rw [jobs]; exact paced.one
  pending call req job waiting := by
    rw [jobs]
    exact paced.pending call req job (dispatching call _ waiting)
  active call req job waiting own := by
    rw [jobs, dispatched]
    exact paced.active call req job (dispatching call _ waiting) own
  single call call' p p' waiting waiting' :=
    paced.single call call' p p' (dispatching call p waiting) (dispatching call' p' waiting')
  made := by rw [jobs, dispatched]; exact paced.made
  channels deviceId' cmd member := by
    rw [dispatched]
    exact paced.channels deviceId' cmd (channels deviceId' cmd member)
  seen := by rw [dispatched]; exact seen
  once := by rw [dispatched]; exact paced.once

/-- A call other than the one that moved was there before. -/
theorem dispatching_update {call call' : Nat} {p : DispatchUpdateRequest × JobRecord}
    {moved : Option (DispatchUpdateRequest × JobRecord)}
    (waiting : Function.update s.dispatching call moved call' = some p) :
    (call' = call ∧ moved = some p) ∨ (call' ≠ call ∧ s.dispatching call' = some p) := by
  by_cases here : call' = call
  · subst here
    rw [Function.update_self] at waiting
    exact Or.inl ⟨rfl, waiting⟩
  · rw [Function.update_of_ne here] at waiting
    exact Or.inr ⟨here, waiting⟩

/-- `create_job` goes through only when no call of the device is about to send. -/
theorem Paced.created (paced : Paced deviceId s) {call : Nat} {req : DispatchUpdateRequest}
    {id now : String} {job : JobRecord} {jobs : Jobs}
    (created : createJob req.toJob id now s.jobs = (.ok job, jobs)) :
    Paced deviceId
      { s with jobs, dispatching := Function.update s.dispatching call (some (req, job)) } := by
  obtain ⟨free, -, inserted⟩ := createJob_ok created
  obtain ⟨active, fresh⟩ := activeJob_created created
  have added : JobAdded s.jobs jobs := ⟨req.toJob, id, now, free, inserted⟩
  have kept := JobsKept.of_added added
  have alone : ∀ call' p, s.dispatching call' = some p → p.1.deviceId = deviceId →
      req.deviceId ≠ deviceId := by
    intro call' p waiting own same
    subst same
    obtain ⟨row, stored, -, here⟩ := (paced.active call' p.1 p.2 waiting own).1
    exact free ⟨row, stored, here⟩
  refine ⟨paced.one.added added, ?_, ?_, ?_, ?_, paced.channels, paced.seen, paced.once⟩
  · intro call' req' job' waiting
    rcases dispatching_update waiting with ⟨-, new⟩ | ⟨-, old⟩
    · cases new
      exact commandOf_created created
    · exact (paced.pending call' req' job' old).kept kept
  · intro call' req' job' waiting own
    rcases dispatching_update waiting with ⟨-, new⟩ | ⟨-, old⟩
    · cases new
      refine ⟨own ▸ active, fun cmd member same => ?_⟩
      obtain ⟨row, stored, -, named, -⟩ := paced.made (deviceId, cmd) (mem_entriesOf.1 member)
      exact fresh row stored (named.symm.trans same)
    · obtain ⟨active', new⟩ := paced.active call' req' job' old own
      exact ⟨active'.added inserted, new⟩
  · intro call₁ call₂ p₁ p₂ waiting₁ waiting₂ own₁ own₂
    rcases dispatching_update waiting₁ with ⟨here₁, new₁⟩ | ⟨-, old₁⟩
    · cases new₁
      rcases dispatching_update waiting₂ with ⟨here₂, -⟩ | ⟨-, old₂⟩
      · rw [here₁, here₂]
      · exact absurd own₁ (alone call₂ p₂ old₂ own₂)
    · rcases dispatching_update waiting₂ with ⟨-, new₂⟩ | ⟨-, old₂⟩
      · cases new₂
        exact absurd own₂ (alone call₁ p₁ old₁ own₁)
      · exact paced.single call₁ call₂ p₁ p₂ old₁ old₂ own₁ own₂
  · intro entry member
    exact (paced.made entry member).kept kept

/-- The call that sends is the only one of its device, so what it sends is new and
no call is left that would send it again. -/
theorem Paced.sent (paced : Paced deviceId s) {call : Nat} {req : DispatchUpdateRequest}
    {job : JobRecord} (waiting : s.dispatching call = some (req, job)) :
    Paced deviceId
      { s with
        dispatcher := (dispatchSend req job s.dispatcher).2
        dispatching := Function.update s.dispatching call none
        dispatched := s.dispatched ++ [(req.deviceId, commandFor req job)] } := by
  have before : ∀ call' p, Function.update s.dispatching call none call' = some p →
      call' ≠ call ∧ s.dispatching call' = some p := by
    intro call' p left
    rcases dispatching_update left with ⟨-, none_⟩ | old
    · cases none_
    · exact old
  have next := (dispatchSend_receivers req job s.dispatcher).1
  refine ⟨paced.one, ?_, ?_, ?_, ?_, ?_, ?_, ?_⟩
  · intro call' req' job' left
    exact paced.pending call' req' job' (before call' _ left).2
  · intro call' req' job' left own
    obtain ⟨other, old⟩ := before call' _ left
    have elsewhere : req.deviceId ≠ deviceId := by
      intro same
      exact other (paced.single call' call _ _ old waiting own same)
    show _ ∧ ∀ cmd ∈ entriesOf deviceId (s.dispatched ++ [(req.deviceId, commandFor req job)]), _
    rw [entriesOf_concat_other elsewhere]
    exact paced.active call' req' job' old own
  · intro call₁ call₂ p₁ p₂ left₁ left₂
    exact paced.single call₁ call₂ p₁ p₂ (before call₁ p₁ left₁).2 (before call₂ p₂ left₂).2
  · intro entry member
    rcases List.mem_append.1 member with old | new
    · exact paced.made entry old
    · rw [List.mem_singleton.1 new]
      exact paced.pending call req job waiting
  · intro deviceId' cmd member
    show _ ∈ s.dispatched ++ [(req.deviceId, commandFor req job)]
    rcases mem_sentTo_dispatchSend member with old | ⟨rfl, rfl⟩
    · exact List.mem_append_left _ (paced.channels deviceId' cmd old)
    · exact List.mem_append_right _ (List.mem_singleton.2 rfl)
  · intro entry member
    obtain ⟨bound, deviceId', sent⟩ := paced.seen entry member
    exact ⟨next ▸ bound, deviceId', List.mem_append_left _ sent⟩
  · show ((entriesOf deviceId (s.dispatched ++ [(req.deviceId, commandFor req job)])).map _).Nodup
    by_cases own : req.deviceId = deviceId
    · have new := (paced.active call req job waiting own).2
      rw [own, entriesOf_concat, List.map_append, List.nodup_append]
      refine ⟨paced.once, List.nodup_singleton _, ?_⟩
      intro id member id' last same
      obtain ⟨cmd, old, rfl⟩ := List.mem_map.1 member
      exact new cmd old (same.trans (List.mem_singleton.1 last))
    · rw [entriesOf_concat_other own]
      exact paced.once

/-- An ack does not settle a job that is still to be sent: its command would have
been yielded, so dispatched before. -/
theorem Paced.acked (paced : Paced deviceId s) {req : AckUpdateRequest} {now : String}
    (allowed : AckedWhenYielded deviceId s (.ackUpdate req now)) :
    Paced deviceId { s with
      jobs := (updateStatus req.updateJobId req.status req.error now s.jobs).2 } := by
  have kept := JobsKept.of_updateStatus req.updateJobId req.status req.error now s.jobs
  refine ⟨?_, ?_, ?_, paced.single, ?_, paced.channels, paced.seen, paced.once⟩
  · intro row stored row' stored' deviceId' active active'
    exact paced.one row (active_of_acked stored active) row' (active_of_acked stored' active')
      deviceId' active active'
  · intro call req' job waiting
    exact (paced.pending call req' job waiting).kept kept
  · intro call req' job waiting own
    obtain ⟨active, new⟩ := paced.active call req' job waiting own
    refine ⟨active.acked req now ?_, new⟩
    intro same
    obtain ⟨row, stored, named, here⟩ := active
    obtain ⟨entry, yielded, entry_job⟩ :=
      allowed row stored (named.trans same) (activeFor_deviceId here)
    obtain ⟨-, deviceId', sent⟩ := paced.seen entry yielded
    have ours : deviceId' = deviceId :=
      calc deviceId' = row.deviceId := ((paced.made _ sent).of_row stored entry_job).1
        _ = deviceId := activeFor_deviceId here
    exact new entry.2 (mem_entriesOf.2 (ours ▸ sent)) (entry_job.trans named)
  · intro entry member
    exact (paced.made entry member).kept kept

theorem paced_step (s : Service) (a : Action) (paced : Paced deviceId s)
    (allowed : AckedWhenYielded deviceId s a) : Paced deviceId (s.step a) := by
  have stepped := step_spec s a
  revert stepped
  generalize s.step a = s'
  intro stepped
  cases stepped with
  | idle => exact paced
  | watched deviceId' =>
      refine paced.quiet rfl (fun _ _ => id) rfl (fun deviceId'' cmd member => ?_) fun entry member => ?_
      · exact s.dispatcher.sentTo_subscribe deviceId' deviceId'' ▸ member
      · obtain ⟨bound, sent⟩ := paced.seen entry member
        exact ⟨Nat.lt_succ_of_lt bound, sent⟩
  | read receiver cmd dispatcher got =>
      obtain ⟨r, next, found, sent, rfl⟩ := Dispatcher.recv_some got
      refine paced.quiet rfl (fun _ _ => id) rfl (fun _ _ => id) fun entry member => ?_
      rcases List.mem_append.1 member with old | new
      · exact paced.seen entry old
      · rw [List.mem_singleton.1 new]
        have own : r.id = receiver := Table.key_of_find? found
        exact ⟨own ▸ s.dispatcher.fresh r (Table.mem_of_find? found), r.deviceId,
          paced.channels r.deviceId cmd sent⟩
  | dropped receiver => exact paced.quiet rfl (fun _ _ => id) rfl (fun _ _ => id) paced.seen
  | created call req id now job jobs ran => exact paced.created (dispatchCreate_ok ran)
  | sent call req job waiting => exact paced.sent waiting
  | abandoned call =>
      refine paced.quiet rfl (fun call' p left => ?_) rfl (fun _ _ => id) paced.seen
      rcases dispatching_update left with ⟨-, none_⟩ | ⟨-, old⟩
      · cases none_
      · exact old
  | acked req now => exact paced.acked allowed
  | restarted =>
      refine paced.quiet rfl (fun _ _ none_ => nomatch none_) rfl ?_ paced.seen
      intro _ _ none_
      exact nomatch none_

/-! ## A watcher that stays subscribed -/

/-- The receiver watches the device since `start` commands had been dispatched:
what its stream yielded and what it has not read make up the commands dispatched
to the device since then, and the jobs of those not read are active. -/
structure Watching (deviceId : String) (receiver start : Nat) (s : Service) : Prop where
  opened : s.dispatcher.Opened deviceId
  subscribed : ∃ r, s.dispatcher.receivers.find? () receiver = some r ∧ r.deviceId = deviceId ∧
    r.next ≤ (s.dispatcher.sentTo deviceId).length
  since : start ≤ s.dispatched.length
  account : entriesOf receiver s.yielded ++ s.dispatcher.unread receiver =
    entriesOf deviceId (s.dispatched.drop start)
  active : ∀ cmd ∈ s.dispatcher.unread receiver, ActiveJob s.jobs deviceId cmd.updateJobId

variable {receiver start : Nat}

/-- No job is dispatched twice to a watcher. -/
theorem Watching.once (watching : Watching deviceId receiver start s) (paced : Paced deviceId s) :
    ((entriesOf receiver s.yielded ++ s.dispatcher.unread receiver).map
      UpdateCommand.updateJobId).Nodup := by
  rw [watching.account]
  refine paced.once.sublist (List.Sublist.map _ ?_)
  exact (List.drop_sublist start s.dispatched).filterMap _

/-- **At most one unread command**: those unread are of active jobs, of which the
device has one, and no job is dispatched twice. -/
theorem Watching.unread_length (watching : Watching deviceId receiver start s)
    (paced : Paced deviceId s) : (s.dispatcher.unread receiver).length ≤ 1 := by
  have once := watching.once paced
  rw [List.map_append, List.nodup_append] at once
  have distinct := once.2.1
  have active := watching.active
  revert distinct active
  cases s.dispatcher.unread receiver with
  | nil => intro _ _; exact Nat.zero_le 1
  | cons first rest =>
      intro distinct active
      cases rest with
      | nil => exact Nat.le_refl 1
      | cons second rest =>
          have same : first.updateJobId = second.updateJobId :=
            ActiveJob.unique paced.one (active first (by simp)) (active second (by simp))
          simp [same] at distinct

theorem Watching.not_lags (watching : Watching deviceId receiver start s)
    (paced : Paced deviceId s) : s.dispatcher.lags receiver = false := by
  have short := watching.unread_length paced
  unfold Dispatcher.lags channelCapacity
  rw [decide_eq_false_iff_not]
  omega

/-- The watcher's receiver and its channel are left alone. -/
theorem Watching.frame (watching : Watching deviceId receiver start s)
    (opened : s'.dispatcher.Opened deviceId)
    (found : s'.dispatcher.receivers.find? () receiver = s.dispatcher.receivers.find? () receiver)
    (channel : s'.dispatcher.sentTo deviceId = s.dispatcher.sentTo deviceId)
    (since : start ≤ s'.dispatched.length)
    (dispatched : entriesOf deviceId (s'.dispatched.drop start) =
      entriesOf deviceId (s.dispatched.drop start))
    (yielded : entriesOf receiver s'.yielded = entriesOf receiver s.yielded)
    (active : ∀ cmd ∈ s.dispatcher.unread receiver, ActiveJob s'.jobs deviceId cmd.updateJobId) :
    Watching deviceId receiver start s' := by
  obtain ⟨r, read, own, bound⟩ := watching.subscribed
  have same : s'.dispatcher.unread receiver = s.dispatcher.unread receiver := by
    rw [Dispatcher.unread_of_find? read, Dispatcher.unread_of_find? (found.trans read), own, channel]
  refine ⟨opened, ⟨r, found.trans read, own, channel ▸ bound⟩, since, ?_, ?_⟩
  · rw [same, yielded, dispatched]
    exact watching.account
  · rw [same]
    exact active

/-- The stream yields the first unread command, since the receiver does not lag. -/
theorem Watching.read (watching : Watching deviceId receiver start s) (paced : Paced deviceId s)
    {cmd : UpdateCommand} {dispatcher : Dispatcher}
    (got : s.dispatcher.recv receiver = (some cmd, dispatcher)) :
    Watching deviceId receiver start
      { s with dispatcher, yielded := s.yielded ++ [(receiver, cmd)] } := by
  obtain ⟨r, found, own, bound⟩ := watching.subscribed
  have reads := Dispatcher.recv_of_not_lags found (watching.not_lags paced)
  rw [got] at reads
  have first : some cmd = (s.dispatcher.unread receiver).head? := reads.1
  have moved : dispatcher = s.dispatcher.advanceTo receiver (r.next + 1) := reads.2 cmd rfl
  subst moved
  have found' : (s.dispatcher.advanceTo receiver (r.next + 1)).receivers.find? () receiver =
      some { r with next := r.next + 1 } := by
    rw [Dispatcher.receivers_advanceTo, if_pos rfl, found]
    rfl
  have rest : (s.dispatcher.advanceTo receiver (r.next + 1)).unread receiver =
      (s.dispatcher.unread receiver).tail := by
    rw [Dispatcher.unread_of_find? found', Dispatcher.unread_of_find? found, List.tail_drop]
    rfl
  have split : s.dispatcher.unread receiver = cmd :: (s.dispatcher.unread receiver).tail :=
    (List.cons_head?_tail first.symm).symm
  refine ⟨watching.opened, ⟨_, found', own, ?_⟩, watching.since, ?_, ?_⟩
  · show r.next + 1 ≤ (s.dispatcher.sentTo deviceId).length
    rw [Dispatcher.unread_of_find? found, own] at split
    have nonempty := congrArg List.length split
    rw [List.length_drop, List.length_cons] at nonempty
    omega
  · show entriesOf receiver (s.yielded ++ [(receiver, cmd)]) ++
      (s.dispatcher.advanceTo receiver (r.next + 1)).unread receiver = _
    rw [entriesOf_concat, rest, List.append_assoc, List.singleton_append, ← split]
    exact watching.account
  · intro cmd' member
    have member' : cmd' ∈ (s.dispatcher.advanceTo receiver (r.next + 1)).unread receiver := member
    rw [rest] at member'
    exact watching.active cmd' (List.mem_of_mem_tail member')

/-- What is dispatched to the watcher's device is appended to what it has to read. -/
theorem Watching.sent (watching : Watching deviceId receiver start s) (paced : Paced deviceId s)
    {call : Nat} {req : DispatchUpdateRequest} {job : JobRecord}
    (waiting : s.dispatching call = some (req, job)) (ours : req.deviceId = deviceId) :
    Watching deviceId receiver start
      { s with
        dispatcher := (dispatchSend req job s.dispatcher).2
        dispatching := Function.update s.dispatching call none
        dispatched := s.dispatched ++ [(req.deviceId, commandFor req job)] } := by
  obtain ⟨r, found, own, bound⟩ := watching.subscribed
  subst ours
  have enqueued : (dispatchSend req job s.dispatcher).2 =
      s.dispatcher.send req.deviceId (commandFor req job) :=
    dispatchSend_of_watched watching.opened found own
  rw [enqueued]
  have channel := Dispatcher.sentTo_send (commandFor req job) watching.opened
  have found' : (s.dispatcher.send req.deviceId (commandFor req job)).receivers.find? () receiver =
      some r := found
  have longer : (s.dispatcher.send req.deviceId (commandFor req job)).unread receiver =
      s.dispatcher.unread receiver ++ [commandFor req job] := by
    rw [Dispatcher.unread_of_find? found', Dispatcher.unread_of_find? found, own, channel,
      List.drop_append_of_le_length bound]
  refine ⟨watching.opened.send _ _, ⟨r, found', own, ?_⟩, ?_, ?_, ?_⟩
  · rw [channel, List.length_append]
    omega
  · rw [List.length_append]
    exact Nat.le_add_right_of_le watching.since
  · show entriesOf receiver s.yielded ++ _ = entriesOf req.deviceId
      ((s.dispatched ++ [(req.deviceId, commandFor req job)]).drop start)
    rw [longer, List.drop_append_of_le_length watching.since, entriesOf_concat, ← watching.account,
      List.append_assoc]
  · intro cmd member
    have member' : cmd ∈ (s.dispatcher.send req.deviceId (commandFor req job)).unread receiver := member
    rw [longer] at member'
    rcases List.mem_append.1 member' with old | new
    · exact watching.active cmd old
    · rw [List.mem_singleton.1 new]
      exact (paced.active call req job waiting rfl).1

/-- An ack does not settle the job of an unread command: the watcher's stream
yielded the acked one, and would have to yield it twice. -/
theorem Watching.acked (watching : Watching deviceId receiver start s) (paced : Paced deviceId s)
    {req : AckUpdateRequest} {now : String}
    (stays : StaysSubscribed deviceId receiver s (.ackUpdate req now)) :
    ∀ cmd ∈ s.dispatcher.unread receiver,
      ActiveJob (updateStatus req.updateJobId req.status req.error now s.jobs).2 deviceId
        cmd.updateJobId := by
  intro cmd member
  have active := watching.active cmd member
  refine active.acked req now ?_
  intro same
  obtain ⟨row, stored, named, here⟩ := active
  obtain ⟨cmd', yielded, job⟩ := stays row stored (named.trans same) (activeFor_deviceId here)
  have once := watching.once paced
  rw [List.map_append, List.nodup_append] at once
  exact once.2.2 _ (List.mem_map_of_mem yielded) _ (List.mem_map_of_mem member) (job.trans named)

theorem watching_step (s : Service) (a : Action)
    (holds : Paced deviceId s ∧ Watching deviceId receiver start s)
    (stays : StaysSubscribed deviceId receiver s a) :
    Paced deviceId (s.step a) ∧ Watching deviceId receiver start (s.step a) := by
  obtain ⟨paced, watching⟩ := holds
  refine ⟨paced_step s a paced stays.acked, ?_⟩
  obtain ⟨r, found, own, bound⟩ := watching.subscribed
  have stepped := step_spec s a
  revert stepped
  generalize s.step a = s'
  intro stepped
  cases stepped with
  | idle => exact watching
  | watched deviceId' =>
      exact watching.frame (watching.opened.subscribe deviceId')
        ((Dispatcher.find?_subscribe found).trans found.symm)
        (s.dispatcher.sentTo_subscribe deviceId' deviceId) watching.since rfl rfl watching.active
  | read receiver' cmd dispatcher got =>
      by_cases here : receiver' = receiver
      · subst here
        exact watching.read paced got
      · obtain ⟨r', next, -, -, rfl⟩ := Dispatcher.recv_some got
        have kept : (s.dispatcher.advanceTo receiver' next).receivers.find? () receiver =
            s.dispatcher.receivers.find? () receiver := by
          rw [Dispatcher.receivers_advanceTo, if_neg here]
        exact watching.frame watching.opened kept rfl watching.since rfl (entriesOf_concat_other here)
          watching.active
  | dropped receiver' =>
      exact watching.frame watching.opened ((Dispatcher.find?_unsubscribe stays found).trans found.symm)
        rfl watching.since rfl rfl watching.active
  | created call req id now job jobs ran =>
      obtain ⟨-, -, inserted⟩ := createJob_ok (dispatchCreate_ok ran)
      exact watching.frame watching.opened rfl rfl watching.since rfl rfl
        fun cmd member => (watching.active cmd member).added inserted
  | sent call req job waiting =>
      by_cases ours : req.deviceId = deviceId
      · exact watching.sent paced waiting ours
      · have longer : start ≤ (s.dispatched ++ [(req.deviceId, commandFor req job)]).length := by
          rw [List.length_append]
          exact Nat.le_add_right_of_le watching.since
        have dispatched : entriesOf deviceId
            ((s.dispatched ++ [(req.deviceId, commandFor req job)]).drop start) =
              entriesOf deviceId (s.dispatched.drop start) := by
          rw [List.drop_append_of_le_length watching.since, entriesOf_concat_other ours]
        rcases dispatchSend_cases req job s.dispatcher with same | enqueued
        · rw [same]
          exact watching.frame watching.opened rfl rfl longer dispatched rfl watching.active
        · rw [enqueued]
          exact watching.frame (watching.opened.send _ _) rfl
            (Dispatcher.sentTo_send_other ours) longer dispatched rfl watching.active
  | abandoned call =>
      exact watching.frame watching.opened rfl rfl watching.since rfl rfl watching.active
  | acked req now =>
      exact watching.frame watching.opened rfl rfl watching.since rfl rfl (watching.acked paced stays)
  | restarted => exact stays.elim

/-- A new watcher has nothing to read, and its stream yielded nothing. -/
theorem Paced.watched (paced : Paced deviceId s) :
    Watching deviceId s.dispatcher.nextReceiver s.dispatched.length
      (s.step (.watchUpdates deviceId)) := by
  have found := s.dispatcher.find?_subscribe_new deviceId
  have channel := s.dispatcher.sentTo_subscribe deviceId deviceId
  have nothing : (s.dispatcher.subscribe deviceId).2.unread s.dispatcher.nextReceiver = [] := by
    rw [Dispatcher.unread_of_find? found, channel]
    exact List.drop_length
  have silent : entriesOf s.dispatcher.nextReceiver s.yielded = [] := by
    rw [List.eq_nil_iff_forall_not_mem]
    intro cmd member
    exact absurd (paced.seen _ (mem_entriesOf.1 member)).1 (Nat.lt_irrefl _)
  refine ⟨Dispatcher.opened_subscribe, ⟨_, found, rfl, ?_⟩, Nat.le_refl _, ?_, ?_⟩
  · exact Nat.le_of_eq (congrArg List.length channel.symm)
  · show entriesOf _ s.yielded ++ (s.dispatcher.subscribe deviceId).2.unread _ =
      entriesOf deviceId (s.dispatched.drop s.dispatched.length)
    rw [nothing, silent, List.drop_length]
    rfl
  · intro cmd member
    have member' : cmd ∈ (s.dispatcher.subscribe deviceId).2.unread s.dispatcher.nextReceiver := member
    rw [nothing] at member'
    cases member'

/-- **Gap-free delivery.**  A watcher of a device stays subscribed, and the
device's jobs are acked only after its stream yielded their command; before it
subscribed they may also be acked after another stream did.  Then at every point
of every interleaving its stream yielded a prefix of the commands dispatched to
the device since it subscribed, each job once; what is missing is the one command
it has not read, which its next read yields; it never lags; and whatever it
yielded was dispatched to its device, for a job of its device. -/
theorem gap_free_delivery (deviceId : String) (before after : List Action)
    (earlier : Guarded step (AckedWhenYielded deviceId) .empty before)
    (stays : Guarded step (StaysSubscribed deviceId (runService before).dispatcher.nextReceiver)
      (runService (before ++ [.watchUpdates deviceId])) after) :
    let watcher := (runService before).dispatcher.nextReceiver
    let s := runService (before ++ .watchUpdates deviceId :: after)
    let yielded := entriesOf watcher s.yielded
    let unread := s.dispatcher.unread watcher
    let dispatched := entriesOf deviceId (s.dispatched.drop (runService before).dispatched.length)
    yielded <+: dispatched ∧ (yielded.map UpdateCommand.updateJobId).Nodup ∧
      yielded ++ unread = dispatched ∧ unread.length ≤ 1 ∧ s.dispatcher.lags watcher = false ∧
      (s.dispatcher.recv watcher).1 = unread.head? ∧
      ∀ cmd ∈ yielded, CommandOf s.jobs deviceId cmd ∧
        ∀ deviceId', (deviceId', cmd) ∈ s.dispatched → deviceId' = deviceId := by
  intro watcher s yielded unread dispatched
  have paced : Paced deviceId (runService before) :=
    run_invariant step paced_step (paced_empty deviceId) earlier
  have subscribed : runService (before ++ [.watchUpdates deviceId]) =
      (runService before).step (.watchUpdates deviceId) := run_concat step _ before _
  have ends : s = run step (runService (before ++ [.watchUpdates deviceId])) after := by
    show run step _ (before ++ ([.watchUpdates deviceId] ++ after)) = _
    rw [← List.append_assoc, run_append]
    rfl
  obtain ⟨paced', watching⟩ : Paced deviceId s ∧
      Watching deviceId watcher (runService before).dispatched.length s := by
    rw [ends]
    refine run_invariant step watching_step ?_ stays
    rw [subscribed]
    exact ⟨paced_step _ _ paced trivial, paced.watched⟩
  obtain ⟨r, found, -⟩ := watching.subscribed
  have account : yielded ++ unread = dispatched := watching.account
  have once := watching.once paced'
  rw [List.map_append, List.nodup_append] at once
  refine ⟨⟨unread, account⟩, once.1, account, watching.unread_length paced',
    watching.not_lags paced', (Dispatcher.recv_of_not_lags found (watching.not_lags paced')).1, ?_⟩
  intro cmd member
  have counted : cmd ∈ dispatched := by
    rw [← account]
    exact List.mem_append_left _ member
  have made : CommandOf s.jobs deviceId cmd :=
    paced'.made (deviceId, cmd) (List.mem_of_mem_drop (mem_entriesOf.1 counted))
  refine ⟨made, fun deviceId' sent => ?_⟩
  obtain ⟨row, stored, device, named, -⟩ := made
  rw [← device]
  exact ((paced'.made (deviceId', cmd) sent).of_row stored named).1

end Service

/-- Two jobs for `dev-1`, which watches: the first is read and acked, the second
is dispatched and not read. -/
def Toy.twoUpdates : List Service.Action :=
  [.createJob 0 ⟨"dev-1", "v2.0.0", none⟩ "job-1" "2025-01-01 00:00:00",
    .dispatch 0,
    .readStream 0,
    .ackUpdate ⟨"dev-1", "job-1", "v2.0.0", true, ""⟩ "2025-01-01 00:01:00",
    .createJob 1 ⟨"dev-1", "v3.0.0", none⟩ "job-2" "2025-01-01 00:02:00",
    .dispatch 1]

theorem gap_free_delivery_twoUpdates :
    let s := Service.runService (.watchUpdates "dev-1" :: Toy.twoUpdates)
    (s.dispatched.map (·.2.updateJobId) = ["job-1", "job-2"] ∧
      (entriesOf 0 s.yielded).map UpdateCommand.updateJobId = ["job-1"]) ∧
    entriesOf 0 s.yielded ++ s.dispatcher.unread 0 = entriesOf "dev-1" s.dispatched ∧
    s.dispatcher.lags 0 = false := by
  refine ⟨by decide, ?_⟩
  have acked : ∀ row ∈ (Service.runService (.watchUpdates "dev-1" :: Toy.twoUpdates.take 3)).jobs.rows,
      row.id = "job-1" → row.deviceId = "dev-1" →
      ∃ cmd ∈ entriesOf 0 (Service.runService (.watchUpdates "dev-1" :: Toy.twoUpdates.take 3)).yielded,
        cmd.updateJobId = row.id := by decide
  have delivered := Service.gap_free_delivery "dev-1" [] Toy.twoUpdates trivial
    ⟨trivial, trivial, trivial, acked, trivial, trivial, trivial⟩
  exact ⟨delivered.2.2.1, delivered.2.2.2.2.1⟩

end RobotFleet.Ota
