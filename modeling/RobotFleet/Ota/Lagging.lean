/-
# Ota.Lagging -- what a stream of `watch_updates` yields, however slow its reader

`Ota.Delivery` says when a watcher misses nothing.  Here nothing is asked of anyone:
readers lag, streams are dropped, jobs are acked by whoever likes, and the service
restarts.  `streams_in_order`: a stream yields only commands that were dispatched to
its device after it was opened, each at most once and in their order; and a reader
that catches up gets exactly the last `channelCapacity` of those it has not read.
-/
import RobotFleet.Ota.Wedged

namespace RobotFleet.Ota

open RobotFleet.Theory
open RobotFleet.Theory.Run

set_option autoImplicit false

theorem Dispatcher.find?_of_unsubscribe {d : Dispatcher} {receiver receiver' : Nat} {r : Receiver}
    (found : (d.unsubscribe receiver').receivers.find? () receiver = some r) :
    d.receivers.find? () receiver = some r := by
  rw [Table.find?_eq_some_iff] at found ⊢
  exact ⟨List.mem_of_mem_filter found.1, found.2⟩

theorem entriesOf_append {κ : Type} [DecidableEq κ] (tag : κ) (first second : List (κ × UpdateCommand)) :
    entriesOf tag (first ++ second) = entriesOf tag first ++ entriesOf tag second :=
  List.filterMap_append

theorem entriesOf_tagged {κ : Type} [DecidableEq κ] (tag : κ) (cmds : List UpdateCommand) :
    entriesOf tag (cmds.map (Prod.mk tag)) = cmds := by
  simp [entriesOf, List.filterMap_map]

namespace Service

variable {s : Service} {n k : Nat} {deviceId : String}

/-! ## What a stream has yielded -/

/-- The stream of receiver `n`, opened for the device after `k` dispatches to it. -/
structure Stream (n : Nat) (deviceId : String) (k : Nat) (s : Service) : Prop where
  numbered : n < s.dispatcher.nextReceiver
  opened : k ≤ (entriesOf deviceId s.dispatched).length
  order : (entriesOf n s.yielded).Sublist ((entriesOf deviceId s.dispatched).drop k)
  live : ∀ r, s.dispatcher.receivers.find? () n = some r → r.deviceId = deviceId ∧ ∃ start,
    Broadcast.Seen (s.dispatcher.sentTo deviceId) start r.next (entriesOf n s.yielded) ∧
      ((s.dispatcher.sentTo deviceId).drop start).Sublist ((entriesOf deviceId s.dispatched).drop k)

/-- Receivers are numbered before they yield. -/
def Numbered (s : Service) : Prop := ∀ entry ∈ s.yielded, entry.1 < s.dispatcher.nextReceiver

theorem numbered_step (s : Service) (a : Action) (numbered : Numbered s) : Numbered (s.step a) := by
  have moved := step_spec s a
  generalize s.step a = after at moved
  cases moved with
  | idle | created | abandoned | acked | dropped | restarted => exact numbered
  | watched => exact fun entry member => Nat.lt_succ_of_lt (numbered entry member)
  | sent call req job =>
      intro entry member
      have bound := numbered entry member
      rwa [← (dispatchSend_receivers req job s.dispatcher).1] at bound
  | read receiver cmd dispatcher got =>
      obtain ⟨r, found, -, rfl⟩ := Dispatcher.recv_position got
      intro entry member
      rcases List.mem_append.1 member with old | new
      · exact numbered entry old
      · cases List.mem_singleton.1 new
        have own : r.id = receiver := Table.key_of_find? found
        have bound := s.dispatcher.fresh r (Table.mem_of_find? found)
        rwa [own] at bound

/-- The next receiver has yielded nothing. -/
theorem Numbered.silent (numbered : Numbered s) : entriesOf s.dispatcher.nextReceiver s.yielded = [] := by
  rw [List.eq_nil_iff_forall_not_mem]
  intro cmd member
  exact Nat.lt_irrefl _ (numbered _ (mem_entriesOf.1 member))

theorem stream_opened (numbered : Numbered s) (deviceId : String) :
    Stream s.dispatcher.nextReceiver deviceId (entriesOf deviceId s.dispatched).length
      (s.step (.watchUpdates deviceId)) where
  numbered := Nat.lt_succ_self _
  opened := Nat.le_refl _
  order := by
    show (entriesOf s.dispatcher.nextReceiver s.yielded).Sublist _
    rw [numbered.silent]
    exact List.nil_sublist _
  live r found := by
    have same : some _ = some r := (s.dispatcher.find?_subscribe_new deviceId).symm.trans found
    cases same
    refine ⟨rfl, (s.dispatcher.sentTo deviceId).length, ?_, ?_⟩
    · show Broadcast.Seen ((s.dispatcher.subscribe deviceId).2.sentTo deviceId) _ _
        (entriesOf s.dispatcher.nextReceiver s.yielded)
      rw [numbered.silent, Dispatcher.sentTo_subscribe]
      exact Broadcast.Seen.new
    · show (((s.dispatcher.subscribe deviceId).2.sentTo deviceId).drop _).Sublist _
      rw [Dispatcher.sentTo_subscribe, List.drop_length]
      exact List.nil_sublist _

/-- A dispatch adds at most its command to the channel, and always to the history. -/
theorem Stream.dispatched (stream : Stream n deviceId k s) (req : DispatchUpdateRequest)
    (job : JobRecord) (dispatching : Nat → Option (DispatchUpdateRequest × JobRecord)) :
    Stream n deviceId k { s with
      dispatcher := (dispatchSend req job s.dispatcher).2
      dispatching
      dispatched := s.dispatched ++ [(req.deviceId, commandFor req job)] } := by
  obtain ⟨numbers, receivers⟩ := dispatchSend_receivers req job s.dispatcher
  have history : ∃ more, entriesOf deviceId (s.dispatched ++ [(req.deviceId, commandFor req job)]) =
      entriesOf deviceId s.dispatched ++ more ∧
      ((dispatchSend req job s.dispatcher).2.sentTo deviceId = s.dispatcher.sentTo deviceId ∨
        (dispatchSend req job s.dispatcher).2.sentTo deviceId = s.dispatcher.sentTo deviceId ++ more) := by
    by_cases same : req.deviceId = deviceId
    · subst same
      refine ⟨[commandFor req job], entriesOf_concat, ?_⟩
      rcases dispatchSend_cases req job s.dispatcher with unchanged | enqueued
      · exact Or.inl (by rw [unchanged])
      · rw [enqueued]
        exact Dispatcher.sentTo_send_cases req.deviceId
    · refine ⟨[], by rw [entriesOf_concat_other same, List.append_nil], Or.inl ?_⟩
      rcases dispatchSend_cases req job s.dispatcher with unchanged | enqueued
      · rw [unchanged]
      · rw [enqueued]
        exact Dispatcher.sentTo_send_other same
  obtain ⟨more, longer, channel⟩ := history
  have opened := stream.opened
  have later : ((entriesOf deviceId s.dispatched).drop k).Sublist
      ((entriesOf deviceId s.dispatched ++ more).drop k) := by
    rw [List.drop_append_of_le_length opened]
    exact List.sublist_append_left _ _
  refine ⟨?_, ?_, ?_, ?_⟩
  · show n < (dispatchSend req job s.dispatcher).2.nextReceiver
    rw [numbers]
    exact stream.numbered
  · show k ≤ (entriesOf deviceId (s.dispatched ++ _)).length
    rw [longer, List.length_append]
    omega
  · show (entriesOf n s.yielded).Sublist ((entriesOf deviceId (s.dispatched ++ _)).drop k)
    rw [longer]
    exact stream.order.trans later
  · intro r found
    have found : (dispatchSend req job s.dispatcher).2.receivers.find? () n = some r := found
    rw [receivers] at found
    obtain ⟨own, start, seen, sent⟩ := stream.live r found
    refine ⟨own, start, ?_, ?_⟩
    · show Broadcast.Seen ((dispatchSend req job s.dispatcher).2.sentTo deviceId) start r.next _
      rcases channel with same | grown
      · rw [same]
        exact seen
      · rw [grown]
        exact seen.send more
    · show (((dispatchSend req job s.dispatcher).2.sentTo deviceId).drop start).Sublist
        ((entriesOf deviceId (s.dispatched ++ _)).drop k)
      rw [longer]
      rcases channel with same | grown
      · rw [same]
        exact sent.trans later
      · rw [grown, List.drop_append_of_le_length seen.started, List.drop_append_of_le_length opened]
        exact sent.append (List.Sublist.refl more)

/-- A read takes a value at or behind the position of its receiver. -/
theorem Stream.read (stream : Stream n deviceId k s) {receiver : Nat} {cmd : UpdateCommand}
    {dispatcher : Dispatcher} (got : s.dispatcher.recv receiver = (some cmd, dispatcher)) :
    Stream n deviceId k { s with dispatcher, yielded := s.yielded ++ [(receiver, cmd)] } := by
  obtain ⟨r', found', here, rfl⟩ := Dispatcher.recv_position got
  by_cases own : receiver = n
  · subst own
    obtain ⟨device, start, seen, sent⟩ := stream.live r' found'
    subst device
    have more := seen.read (Nat.le_max_left _ _) here
    rw [← entriesOf_concat] at more
    refine ⟨stream.numbered, stream.opened, more.sublist.trans sent, fun r found => ?_⟩
    have same : some _ = some r := (Dispatcher.find?_advanceTo found' _).symm.trans found
    cases same
    exact ⟨rfl, start, more, sent⟩
  · have others : entriesOf n (s.yielded ++ [(receiver, cmd)]) = entriesOf n s.yielded :=
      entriesOf_concat_other own
    refine ⟨stream.numbered, stream.opened, ?_, fun r found => ?_⟩
    · show (entriesOf n (s.yielded ++ _)).Sublist _
      rw [others]
      exact stream.order
    · show _ ∧ ∃ start, Broadcast.Seen _ start r.next (entriesOf n (s.yielded ++ _)) ∧ _
      rw [others]
      refine stream.live r ?_
      have found : (s.dispatcher.advanceTo receiver _).receivers.find? () n = some r := found
      rwa [Dispatcher.receivers_advanceTo, if_neg own] at found

theorem stream_step (s : Service) (a : Action) (stream : Stream n deviceId k s) :
    Stream n deviceId k (s.step a) := by
  have moved := step_spec s a
  generalize s.step a = after at moved
  cases moved with
  | idle | created | abandoned | acked => exact ⟨stream.numbered, stream.opened, stream.order, stream.live⟩
  | watched deviceId' =>
      refine ⟨Nat.lt_succ_of_lt stream.numbered, stream.opened, stream.order, fun r found => ?_⟩
      have bound := stream.numbered
      have found : (s.dispatcher.subscribe deviceId').2.receivers.find? () n = some r := found
      rw [Dispatcher.receivers_subscribe, if_neg (by omega)] at found
      show _ ∧ ∃ start, Broadcast.Seen ((s.dispatcher.subscribe deviceId').2.sentTo deviceId) start r.next _ ∧
        (((s.dispatcher.subscribe deviceId').2.sentTo deviceId).drop start).Sublist _
      rw [Dispatcher.sentTo_subscribe]
      exact stream.live r found
  | read receiver cmd dispatcher got => exact stream.read got
  | dropped receiver =>
      exact ⟨stream.numbered, stream.opened, stream.order,
        fun r found => stream.live r (Dispatcher.find?_of_unsubscribe found)⟩
  | sent call req job => exact stream.dispatched req job _
  | restarted =>
      exact ⟨stream.numbered, stream.opened, stream.order, fun r found => by cases found⟩

/-! ## A reader that catches up -/

theorem drain (s : Service) (n m : Nat) :
    (run step s (List.replicate m (.readStream n))).yielded =
      s.yielded ++ ((s.dispatcher.due n).take m).map (Prod.mk n) := by
  induction m generalizing s with
  | zero => simp
  | succ m ih =>
      rw [List.replicate_succ, run_cons, ih]
      cases waits : s.dispatcher.due n with
      | nil =>
          have idle : s.step (.readStream n) = s := by
            unfold step
            dsimp only
            split
            · rfl
            · rename_i got
              rw [Dispatcher.due_recv got] at waits
              cases waits
          simp [idle, waits]
      | cons cmd rest =>
          obtain ⟨dispatcher, got, left⟩ := Dispatcher.recv_of_due waits
          have reads : s.step (.readStream n) =
              { s with dispatcher, yielded := s.yielded ++ [(n, cmd)] } := by
            simp only [step, got]
          rw [reads]
          simp [left]

theorem due_eq_last_unread (d : Dispatcher) (n : Nat) :
    d.due n = (d.unread n).drop ((d.unread n).length - channelCapacity) := by
  unfold Dispatcher.due Dispatcher.unread
  cases d.receivers.find? () n with
  | none => rfl
  | some r => exact Broadcast.due_eq_last

/-- **Streams are in order, whatever happens.**  In every run, the stream that
`watch_updates` opens yields a subsequence of the commands dispatched to its device
since; and from any point, reading on and on yields the last `channelCapacity` of the
commands it has not read. -/
theorem streams_in_order (before after : List Action) (deviceId : String) :
    (entriesOf (runService before).dispatcher.nextReceiver
        (runService (before ++ .watchUpdates deviceId :: after)).yielded).Sublist
      ((entriesOf deviceId (runService (before ++ .watchUpdates deviceId :: after)).dispatched).drop
        (entriesOf deviceId (runService before).dispatched).length) ∧
    ∀ actions n m, entriesOf n (runService (actions ++ List.replicate m (.readStream n))).yielded =
      entriesOf n (runService actions).yielded ++
        (((runService actions).dispatcher.unread n).drop
          (((runService actions).dispatcher.unread n).length - channelCapacity)).take m := by
  constructor
  · have numbered : Numbered (runService before) :=
      run_invariant_free step numbered_step (fun entry member => by cases member) before
    have split : runService (before ++ .watchUpdates deviceId :: after) =
        run step ((runService before).step (.watchUpdates deviceId)) after := run_append _ _ before _
    rw [split]
    exact (run_invariant_free step stream_step (stream_opened numbered deviceId) after).order
  · intro actions n m
    have split : runService (actions ++ List.replicate m (.readStream n)) =
        run step (runService actions) (List.replicate m (.readStream n)) := run_append _ _ actions _
    rw [split, drain, entriesOf_append, entriesOf_tagged, due_eq_last_unread]

end Service

end RobotFleet.Ota
