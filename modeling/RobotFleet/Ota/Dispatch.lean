/-
# Ota.Dispatch -- `Dispatcher::dispatch`, between its count and its send

`dispatch` takes the read lock of the senders map, reads `receiver_count`, and
sends; it answers with the count and discards the result of the send.  A
`subscribe` waits for the write lock, so no receiver appears in between; but a
receiver is dropped without any lock.  Here the two halves are separate steps,
and subscriptions, drops, reads of the streams and the halves of other dispatches
come in any order (`Locked.step`).

What a receiver got is read off its queue: `cmd` was enqueued in it when its
unread values grew by `cmd`.  The answer is truthful exactly when no receiver of
the device is dropped between the two halves (`dispatch_count_truthful_iff`).
-/
import RobotFleet.Ota.Streams

namespace RobotFleet.Ota

open RobotFleet.Theory
open RobotFleet.Theory.Run

set_option autoImplicit false

/-! ## What holds of every dispatcher -/

/-- A live receiver has a sender in the map, and stands within what was sent. -/
structure Wired (d : Dispatcher) : Prop where
  opened : ∀ r ∈ d.receivers.rows, d.Opened r.deviceId
  placed : ∀ r ∈ d.receivers.rows, r.next ≤ (d.sentTo r.deviceId).length

section Wiring

variable {d : Dispatcher}

theorem wired_restart (d : Dispatcher) : Wired d.restart where
  opened _ stored := by cases stored
  placed _ stored := by cases stored

theorem Wired.subscribe (wired : Wired d) (deviceId : String) : Wired (d.subscribe deviceId).2 := by
  refine ⟨fun r stored => ?_, fun r stored => ?_⟩
  · rcases Table.mem_insertOrIgnore stored with old | rfl
    · exact (wired.opened r old).subscribe deviceId
    · exact Dispatcher.opened_subscribe
  · rw [Dispatcher.sentTo_subscribe]
    rcases Table.mem_insertOrIgnore stored with old | rfl
    · exact wired.placed r old
    · exact Nat.le_refl _

theorem Wired.send (wired : Wired d) {deviceId : String} (opened : d.Opened deviceId)
    (cmd : UpdateCommand) : Wired (d.send deviceId cmd) := by
  refine ⟨fun r stored => (wired.opened r stored).send deviceId cmd, fun r stored => ?_⟩
  have before := wired.placed r stored
  by_cases own : deviceId = r.deviceId
  · subst own
    rw [Dispatcher.sentTo_send cmd opened, List.length_append]
    omega
  · rw [Dispatcher.sentTo_send_other own]
    exact before

theorem Wired.unsubscribe (wired : Wired d) (receiver : Nat) : Wired (d.unsubscribe receiver) where
  opened r stored := wired.opened r (List.mem_of_mem_filter stored)
  placed r stored := wired.placed r (List.mem_of_mem_filter stored)

/-- A read moves one receiver, or nothing. -/
theorem Dispatcher.recv_cases (d : Dispatcher) (receiver : Nat) :
    (d.recv receiver).2 = d ∨ ∃ next, (d.recv receiver).2 = d.advanceTo receiver next := by
  cases got : d.recv receiver with
  | mk item d' =>
    cases item with
    | none =>
        refine Or.inl ?_
        unfold Dispatcher.recv at got
        split at got
        · cases got
          rfl
        · dsimp only at got
          split at got
          · cases got
            rfl
          · cases got
    | some cmd =>
        obtain ⟨r, next, -, -, moved⟩ := Dispatcher.recv_some got
        exact Or.inr ⟨next, moved⟩

theorem Wired.recv (wired : Wired d) (receiver : Nat) : Wired (d.recv receiver).2 := by
  unfold Dispatcher.recv
  split
  · exact wired
  · rename_i r found
    dsimp only
    split
    · exact wired
    · rename_i cmd read
      obtain ⟨bound, -⟩ := List.getElem?_eq_some_iff.1 read
      refine ⟨fun r' stored => ?_, fun r' stored => ?_⟩
      · obtain ⟨old, member, rfl⟩ := List.mem_map.1 stored
        have opened := wired.opened old member
        dsimp only
        split
        · exact opened
        · exact opened
      · obtain ⟨old, member, rfl⟩ := List.mem_map.1 stored
        have placed := wired.placed old member
        dsimp only
        split
        · -- the receiver that read is the one found under its number
          rename_i here
          have same : old = r := d.receivers.eq_of_key () member (Table.mem_of_find? found)
            ((of_decide_eq_true here).trans (Table.key_of_find? found).symm)
          subst same
          exact bound
        · exact placed

/-- Without a sender there is nobody to count. -/
theorem Wired.receiverCount_eq_zero (wired : Wired d) {deviceId : String}
    (absent : d.senders.find? () deviceId = none) : d.receiverCount deviceId = 0 := by
  unfold Dispatcher.receiverCount
  rw [List.countP_eq_zero]
  intro r stored own
  have opened := wired.opened r stored
  unfold Dispatcher.Opened at opened
  rw [of_decide_eq_true own, absent] at opened
  cases opened

end Wiring

/-! ## Enqueuing -/

namespace Dispatcher

variable {d : Dispatcher} {deviceId : String} {cmd : UpdateCommand} {r : Receiver}

/-- `Sender::send`: fails, and enqueues nothing, when no receiver is left. -/
def trySend (deviceId : String) (cmd : UpdateCommand) (d : Dispatcher) : Dispatcher :=
  if d.receiverCount deviceId = 0 then d else d.send deviceId cmd

/-- The receivers of the device that got `cmd` between two states. -/
def enqueuedIn (d d' : Dispatcher) (deviceId : String) (cmd : UpdateCommand) : Nat :=
  d'.receivers.rows.countP fun r =>
    decide (r.deviceId = deviceId) && decide (d'.unread r.id = d.unread r.id ++ [cmd])

theorem unread_of_mem (stored : r ∈ d.receivers.rows) :
    d.unread r.id = (d.sentTo r.deviceId).drop r.next :=
  unread_of_find? (d.receivers.find?_self () stored)

theorem unread_send (wired : Wired d) (opened : d.Opened deviceId) (stored : r ∈ d.receivers.rows)
    (own : r.deviceId = deviceId) : (d.send deviceId cmd).unread r.id = d.unread r.id ++ [cmd] := by
  have stored' : r ∈ (d.send deviceId cmd).receivers.rows := stored
  subst own
  rw [unread_of_mem stored, unread_of_mem stored', sentTo_send cmd opened]
  exact List.drop_append_of_le_length (wired.placed r stored)

theorem unread_send_other (stored : r ∈ d.receivers.rows) (other : r.deviceId ≠ deviceId) :
    (d.send deviceId cmd).unread r.id = d.unread r.id := by
  have stored' : r ∈ (d.send deviceId cmd).receivers.rows := stored
  rw [unread_of_mem stored, unread_of_mem stored', sentTo_send_other (Ne.symm other)]

/-- A send reaches the receivers that are there, and no other device's. -/
theorem enqueuedIn_trySend (wired : Wired d) (opened : d.Opened deviceId) (cmd : UpdateCommand) :
    d.enqueuedIn (d.trySend deviceId cmd) deviceId cmd = d.receiverCount deviceId := by
  unfold trySend
  split
  · rename_i alone
    rw [alone]
    have nobody := List.countP_eq_zero.1 alone
    unfold enqueuedIn
    rw [List.countP_eq_zero]
    intro r stored both
    rw [Bool.and_eq_true] at both
    exact nobody r stored both.1
  · unfold enqueuedIn receiverCount
    refine List.countP_congr fun r stored => ?_
    have queue : r.deviceId = deviceId →
        (d.send deviceId cmd).unread r.id = d.unread r.id ++ [cmd] := unread_send wired opened stored
    simp only [Bool.and_eq_true, decide_eq_true_eq, and_iff_left_iff_imp]
    exact queue

theorem unread_trySend_other (stored : r ∈ d.receivers.rows) (other : r.deviceId ≠ deviceId) :
    (d.trySend deviceId cmd).unread r.id = d.unread r.id := by
  unfold trySend
  split
  · rfl
  · exact unread_send_other stored other

theorem receiverCount_advanceTo (d : Dispatcher) (receiver next : Nat) (deviceId : String) :
    (d.advanceTo receiver next).receiverCount deviceId = d.receiverCount deviceId := by
  have rows : (d.advanceTo receiver next).receivers.rows =
      d.receivers.rows.map fun r => if decide (r.id = receiver) then { r with next } else r := rfl
  unfold receiverCount
  rw [rows, List.countP_map]
  refine List.countP_congr fun r _ => ?_
  simp only [Function.comp_apply]
  split
  · exact Iff.rfl
  · exact Iff.rfl

/-- A drop lowers the count by the receivers of the device that it drops. -/
theorem receiverCount_unsubscribe (d : Dispatcher) (receiver : Nat) (deviceId : String) :
    d.receiverCount deviceId =
    (d.unsubscribe receiver).receiverCount deviceId +
      (d.receivers.rows.filter fun r => decide (r.id = receiver)).countP
        fun r => decide (r.deviceId = deviceId) := by
  have split := List.countP_eq_countP_filter_add d.receivers.rows
    (fun r => decide (r.deviceId = deviceId)) (fun r => decide (r.id = receiver))
  rw [Nat.add_comm] at split
  simpa [receiverCount, unsubscribe, Table.delete] using split

end Dispatcher

/-! ## The dispatcher and its lock -/

/-- A call of `dispatch` that has counted and not sent yet. -/
structure Held where
  call : Nat
  deviceId : String
  cmd : UpdateCommand
  count : Nat
  deriving DecidableEq

def Held.key (_ : Unit) (h : Held) : Nat := h.call

/-- The dispatcher, the calls that hold the read lock, and what calls answered. -/
structure Locked where
  dispatcher : Dispatcher
  holding : Table Held.key
  answers : List (Nat × Except Error Nat)

namespace Locked

def empty : Locked := ⟨.empty, .empty, []⟩

inductive Action where
  | subscribe (deviceId : String)
  | count (call : Nat) (deviceId : String) (cmd : UpdateCommand)
  | send (call : Nat)
  | dropReceiver (receiver : Nat)
  | read (receiver : Nat)

def step (s : Locked) : Action → Locked
  -- waits while a reader holds the lock
  | .subscribe deviceId =>
    if s.holding.rows.isEmpty then { s with dispatcher := (s.dispatcher.subscribe deviceId).2 } else s
  | .count call deviceId cmd =>
    match s.holding.find? () call with
    | some _ => s
    | none =>
      match s.dispatcher.senders.find? () deviceId with
      | none => { s with answers := s.answers ++ [(call, .error (.noActiveSubscribers deviceId))] }
      | some _ =>
        let count := s.dispatcher.receiverCount deviceId
        if count = 0 then
          { s with answers := s.answers ++ [(call, .error (.noActiveSubscribers deviceId))] }
        else { s with holding := s.holding.insertOrIgnore ⟨call, deviceId, cmd, count⟩ }
  | .send call =>
    match s.holding.find? () call with
    | none => s
    | some held =>
      { dispatcher := s.dispatcher.trySend held.deviceId held.cmd
        holding := s.holding.delete fun h => decide (h.call = call)
        answers := s.answers ++ [(call, .ok held.count)] }
  | .dropReceiver receiver => { s with dispatcher := s.dispatcher.unsubscribe receiver }
  | .read receiver => { s with dispatcher := (s.dispatcher.recv receiver).2 }

def runLocked (actions : List Action) : Locked := run step .empty actions

variable {s : Locked} {call : Nat} {deviceId : String} {cmd : UpdateCommand}

/-! ## One step -/

/-- The three ways a count can go for a call that is not under way. -/
theorem step_count (wired : Wired s.dispatcher) (idle : s.holding.find? () call = none)
    (deviceId : String) (cmd : UpdateCommand) :
    (s.dispatcher.receiverCount deviceId = 0 ∧ s.step (.count call deviceId cmd) =
      { s with answers := s.answers ++ [(call, .error (.noActiveSubscribers deviceId))] }) ∨
    (s.dispatcher.receiverCount deviceId ≠ 0 ∧ s.dispatcher.Opened deviceId ∧
      s.step (.count call deviceId cmd) =
        { s with
          holding := s.holding.insertOrIgnore
            ⟨call, deviceId, cmd, s.dispatcher.receiverCount deviceId⟩ }) := by
  cases found : s.dispatcher.senders.find? () deviceId with
  | none =>
      refine Or.inl ⟨wired.receiverCount_eq_zero found, ?_⟩
      simp [step, idle, found]
  | some sender =>
      by_cases alone : s.dispatcher.receiverCount deviceId = 0
      · refine Or.inl ⟨alone, ?_⟩
        simp [step, idle, found, alone]
      · refine Or.inr ⟨alone, by simp [Dispatcher.Opened, found], ?_⟩
        simp [step, idle, found, alone]

theorem find?_hold (idle : s.holding.find? () call = none) (deviceId : String) (cmd : UpdateCommand)
    (count : Nat) :
    (s.holding.insertOrIgnore ⟨call, deviceId, cmd, count⟩).find? () call =
      some ⟨call, deviceId, cmd, count⟩ := by
  simp [Table.find?_insertOrIgnore, Held.key, idle]

/-- A call that holds the lock sends to its device and answers what it had counted. -/
theorem step_send {held : Held} (holds : s.holding.find? () call = some held) :
    s.step (.send call) =
      { dispatcher := s.dispatcher.trySend held.deviceId held.cmd
        holding := s.holding.delete fun h => decide (h.call = call)
        answers := s.answers ++ [(call, .ok held.count)] } := by
  simp only [step, holds]

theorem step_send_idle (idle : s.holding.find? () call = none) : s.step (.send call) = s := by
  simp only [step, idle]

/-- A call appends one answer; it is the one that was appended. -/
theorem appended_answer {answers : List (Nat × Except Error Nat)} {given answer : Except Error Nat}
    (same : answers ++ [(call, given)] = answers ++ [(call, answer)]) : given = answer := by
  simpa using same

/-- What a call that holds the lock relies on: its device has a channel. -/
structure Sound (s : Locked) : Prop where
  wired : Wired s.dispatcher
  held : ∀ h ∈ s.holding.rows, s.dispatcher.Opened h.deviceId

theorem sound_empty : Sound .empty where
  wired := wired_restart .empty
  held _ stored := by cases stored

theorem Sound.step (sound : Sound s) (a : Action) : Sound (s.step a) := by
  cases a with
  | subscribe deviceId =>
      unfold Locked.step
      dsimp only
      split
      · exact ⟨sound.wired.subscribe deviceId, fun h stored => (sound.held h stored).subscribe deviceId⟩
      · exact sound
  | count call deviceId cmd =>
      cases busy : s.holding.find? () call with
      | some h => simpa [Locked.step, busy] using sound
      | none =>
          rcases step_count sound.wired busy deviceId cmd with
            ⟨-, ran⟩ | ⟨-, opened, ran⟩
          · rw [ran]
            exact ⟨sound.wired, sound.held⟩
          · rw [ran]
            refine ⟨sound.wired, fun h stored => ?_⟩
            rcases Table.mem_insertOrIgnore stored with old | rfl
            · exact sound.held h old
            · exact opened
  | send call =>
      cases found : s.holding.find? () call with
      | none => simpa [Locked.step, found] using sound
      | some held =>
          have opened := sound.held held (Table.mem_of_find? found)
          simp only [Locked.step, found]
          unfold Dispatcher.trySend
          split
          · exact ⟨sound.wired, fun h stored => sound.held h (List.mem_of_mem_filter stored)⟩
          · exact ⟨sound.wired.send opened held.cmd, fun h stored =>
              (sound.held h (List.mem_of_mem_filter stored)).send held.deviceId held.cmd⟩
  | dropReceiver receiver => exact ⟨sound.wired.unsubscribe receiver, sound.held⟩
  | read receiver =>
      refine ⟨sound.wired.recv receiver, fun h stored => ?_⟩
      have opened := sound.held h stored
      simp only [Locked.step]
      rcases Dispatcher.recv_cases s.dispatcher receiver with same | ⟨next, moved⟩
      · rwa [same]
      · rwa [moved]

theorem sound_run (actions : List Action) : Sound (runLocked actions) :=
  run_invariant_free step (I := Sound) (fun _ a sound => sound.step a) sound_empty actions

/-! ## What others do between the two halves -/

/-- Not an action of this call. -/
def Apart (call : Nat) : Action → Prop
  | .count other _ _ | .send other => other ≠ call
  | .subscribe _ | .dropReceiver _ | .read _ => True

/-- Does not drop a receiver of the device. -/
def KeepsReceivers (deviceId : String) (s : Locked) : Action → Prop
  | .dropReceiver receiver =>
    ∀ r ∈ s.dispatcher.receivers.rows, r.id = receiver → r.deviceId ≠ deviceId
  | _ => True

/-- The other calls leave this one where it is. -/
theorem find?_step {a : Action} (apart : Apart call a) :
    (s.step a).holding.find? () call = s.holding.find? () call := by
  cases a with
  | subscribe deviceId =>
      unfold step
      dsimp only
      split
      · rfl
      · rfl
  | count other deviceId cmd =>
      unfold step
      dsimp only
      split
      · rfl
      · split
        · rfl
        · split
          · rfl
          · exact (Table.find?_insertOrIgnore _ _ _).trans (if_neg apart)
  | send other =>
      unfold step
      dsimp only
      split
      · rfl
      · -- the deleted entry is the other call's
        ext held
        simp only [Table.find?_eq_some_iff, Table.delete, List.mem_filter]
        constructor
        · rintro ⟨⟨stored, -⟩, own⟩
          exact ⟨stored, own⟩
        · rintro ⟨stored, own⟩
          have different : held.call ≠ other := fun same => apart (same.symm.trans own)
          exact ⟨⟨stored, by simp [different]⟩, own⟩
  | dropReceiver receiver => rfl
  | read receiver => rfl

theorem find?_run {actions : List Action} (apart : ∀ a ∈ actions, Apart call a) :
    (run step s actions).holding.find? () call = s.holding.find? () call :=
  run_invariant_of_forall step (A := Apart call)
    (I := fun t => t.holding.find? () call = s.holding.find? () call)
    (fun _ _ same other => (find?_step other).trans same) rfl apart

/-- While a call holds the lock, only a drop changes the count. -/
theorem receiverCount_step {held : Held} (holds : s.holding.find? () call = some held) {a : Action}
    (notDrop : ∀ receiver, a ≠ .dropReceiver receiver) :
    (s.step a).dispatcher.receiverCount deviceId = s.dispatcher.receiverCount deviceId := by
  cases a with
  | subscribe other =>
      have locked : s.holding.rows ≠ [] := List.ne_nil_of_mem (Table.mem_of_find? holds)
      simp [step, locked]
  | count other deviceId' cmd =>
      unfold step
      dsimp only
      split
      · rfl
      · split
        · rfl
        · split
          · rfl
          · rfl
  | send other =>
      unfold step
      dsimp only
      split
      · rfl
      · unfold Dispatcher.trySend
        dsimp only
        split
        · rfl
        · rfl
  | dropReceiver receiver => exact absurd rfl (notDrop receiver)
  | read receiver =>
      show ((s.dispatcher.recv receiver).2).receiverCount deviceId = _
      rcases Dispatcher.recv_cases s.dispatcher receiver with same | ⟨next, moved⟩
      · rw [same]
      · rw [moved]
        exact Dispatcher.receiverCount_advanceTo s.dispatcher receiver next deviceId

/-- From the count on, the receivers of the device are all still there exactly
when none was dropped. -/
theorem receiverCount_run (deviceId : String) {held : Held}
    (holds : s.holding.find? () call = some held) {actions : List Action}
    (apart : ∀ a ∈ actions, Apart call a) :
    (run step s actions).dispatcher.receiverCount deviceId = s.dispatcher.receiverCount deviceId ↔
      Guarded step (KeepsReceivers deviceId) s actions := by
  refine run_measure_eq_iff step (A := Apart call) (I := fun t => t.holding.find? () call = some held)
    (m := fun t => t.dispatcher.receiverCount deviceId) ?_ ?_ ?_ holds apart
  · intro t a inv other
    exact (find?_step other).trans inv
  · intro t a inv other keeps
    by_cases drops : ∃ receiver, a = .dropReceiver receiver
    · obtain ⟨receiver, rfl⟩ := drops
      have counted := t.dispatcher.receiverCount_unsubscribe receiver deviceId
      have none_ : (t.dispatcher.receivers.rows.filter fun r => decide (r.id = receiver)).countP
          (fun r => decide (r.deviceId = deviceId)) = 0 := by
        rw [List.countP_eq_zero]
        intro r member own
        obtain ⟨stored, here⟩ := List.mem_filter.1 member
        exact keeps r stored (of_decide_eq_true here) (of_decide_eq_true own)
      rw [none_, Nat.add_zero] at counted
      exact counted.symm
    · exact receiverCount_step inv fun receiver same => drops ⟨receiver, same⟩
  · intro t a inv other breaks
    cases a with
    | dropReceiver receiver =>
        have counted := t.dispatcher.receiverCount_unsubscribe receiver deviceId
        have some_ : 0 < (t.dispatcher.receivers.rows.filter fun r => decide (r.id = receiver)).countP
            (fun r => decide (r.deviceId = deviceId)) := by
          rw [List.countP_pos_iff]
          simp only [KeepsReceivers, not_forall, not_not] at breaks
          obtain ⟨r, stored, here, own⟩ := breaks
          exact ⟨r, List.mem_filter.2 ⟨stored, by simp [here]⟩, by simp [own]⟩
        show (t.dispatcher.unsubscribe receiver).receiverCount deviceId < _
        omega
    | subscribe | count | send | read => exact absurd trivial breaks

/-! ## The answer -/

/-- What an answer says, of the states before and after the step that gave it. -/
def Reports (deviceId : String) (cmd : UpdateCommand) (before after : Locked) : Except Error Nat → Prop
  | .ok n => 1 ≤ n ∧ before.dispatcher.enqueuedIn after.dispatcher deviceId cmd = n ∧
      ∀ r ∈ after.dispatcher.receivers.rows, r.deviceId ≠ deviceId →
        after.dispatcher.unread r.id = before.dispatcher.unread r.id
  | .error e => e = .noActiveSubscribers deviceId ∧
      ∀ receiver, after.dispatcher.unread receiver = before.dispatcher.unread receiver

/-- Whatever this call of `dispatch` answers, after its count or after its send,
is what happened. -/
def Truthful (s : Locked) (call : Nat) (deviceId : String) (cmd : UpdateCommand)
    (between : List Action) : Prop :=
  let counted := s.step (.count call deviceId cmd)
  let ready := run step counted between
  ∀ answer, (counted.answers = s.answers ++ [(call, answer)] → Reports deviceId cmd s counted answer) ∧
    ((ready.step (.send call)).answers = ready.answers ++ [(call, answer)] →
      Reports deviceId cmd ready (ready.step (.send call)) answer)

/-- The count that a call announces is what its send reaches, if it is what is left. -/
theorem reports_send_iff (sound : Sound s) {held : Held} (holds : s.holding.find? () call = some held)
    (counted : held.count ≠ 0) :
    Reports held.deviceId held.cmd s (s.step (.send call)) (.ok held.count) ↔
      s.dispatcher.receiverCount held.deviceId = held.count := by
  have opened := sound.held held (Table.mem_of_find? holds)
  have sent : (s.step (.send call)).dispatcher = s.dispatcher.trySend held.deviceId held.cmd := by
    rw [step_send holds]
  have reached := Dispatcher.enqueuedIn_trySend sound.wired opened held.cmd
  unfold Reports
  rw [sent, reached]
  constructor
  · rintro ⟨-, same, -⟩
    exact same
  · intro same
    refine ⟨Nat.one_le_iff_ne_zero.2 counted, same, fun r stored other => ?_⟩
    refine Dispatcher.unread_trySend_other ?_ other
    unfold Dispatcher.trySend at stored
    split at stored
    · exact stored
    · exact stored

/-- **The count is truthful exactly when** nobody listens (and the answer is
`NoActiveSubscribers`), or no receiver of the device is dropped between the count
and the send. -/
theorem dispatch_count_truthful_iff (before between : List Action) (call : Nat) (deviceId : String)
    (cmd : UpdateCommand) (idle : (runLocked before).holding.find? () call = none)
    (apart : ∀ a ∈ between, Apart call a) :
    Truthful (runLocked before) call deviceId cmd between ↔
      (runLocked before).dispatcher.receiverCount deviceId = 0 ∨
      Guarded step (KeepsReceivers deviceId) ((runLocked before).step (.count call deviceId cmd))
        between := by
  have sound := sound_run before
  generalize runLocked before = s at idle sound ⊢
  rcases step_count sound.wired idle deviceId cmd with
    ⟨alone, ran⟩ | ⟨counted, -, ran⟩
  · refine ⟨fun _ => Or.inl alone, fun _ answer => ⟨fun answered => ?_, fun answered => ?_⟩⟩
    · rw [ran] at answered ⊢
      cases appended_answer answered
      exact ⟨rfl, fun _ => rfl⟩
    · -- the call is over: a send does nothing
      have finished : (run step (s.step (.count call deviceId cmd)) between).holding.find? () call =
          none := by
        rw [find?_run apart, ran]
        exact idle
      rw [step_send_idle finished] at answered
      simp at answered
  · have holds : (s.step (.count call deviceId cmd)).holding.find? () call =
        some ⟨call, deviceId, cmd, s.dispatcher.receiverCount deviceId⟩ := by
      rw [ran]
      exact find?_hold idle deviceId cmd _
    have same : (s.step (.count call deviceId cmd)).dispatcher = s.dispatcher := by rw [ran]
    have silent : (s.step (.count call deviceId cmd)).answers = s.answers := by rw [ran]
    have kept := receiverCount_run deviceId holds apart
    rw [same] at kept
    have ready : Sound (run step (s.step (.count call deviceId cmd)) between) :=
      run_invariant_free step (I := Sound) (fun _ a sound => sound.step a) (sound.step _) between
    have holds' := (find?_run apart).trans holds
    rw [← kept, ← reports_send_iff ready holds' counted]
    have answers := congrArg Locked.answers (step_send holds')
    constructor
    · intro truthful
      exact Or.inr ((truthful _).2 answers)
    · rintro (alone | said) answer
      · exact absurd alone counted
      · refine ⟨fun answered => ?_, fun answered => ?_⟩
        · rw [silent] at answered
          simp at answered
        · rw [answers] at answered
          cases appended_answer answered
          exact said

/-- A command for `dev-1`. -/
def Toy.command : UpdateCommand := ⟨"job-1", "v2.0.0", "", "", 0, none⟩

/-- `dev-1` is watched twice and `dev-2` once; while the dispatch to `dev-1` is on
its way, the stream of `dev-2` is dropped and another dispatch counts. -/
theorem dispatch_count_truthful_iff_watched :
    Truthful (runLocked [.subscribe "dev-1", .subscribe "dev-1", .subscribe "dev-2"]) 0 "dev-1"
      Toy.command [.dropReceiver 2, .count 1 "dev-1" Toy.command, .read 0] :=
  (dispatch_count_truthful_iff [.subscribe "dev-1", .subscribe "dev-1", .subscribe "dev-2"]
    [.dropReceiver 2, .count 1 "dev-1" Toy.command, .read 0] 0 "dev-1" Toy.command rfl
    (by simp [Apart])).2 (Or.inr ⟨by simp only [KeepsReceivers]; decide, trivial, trivial, trivial⟩)

/-- The only receiver of `dev-1` is dropped after it was counted: the dispatch
answers `Ok(1)`, and the command is in no queue. -/
theorem dropped_receiver_counted :
    ¬ Truthful (runLocked [.subscribe "dev-1"]) 0 "dev-1" Toy.command [.dropReceiver 0] ∧
    (runLocked [.subscribe "dev-1", .count 0 "dev-1" Toy.command, .dropReceiver 0, .send 0]).answers =
      [(0, .ok 1)] ∧
    (runLocked [.subscribe "dev-1", .count 0 "dev-1" Toy.command, .dropReceiver 0,
      .send 0]).dispatcher.sentTo "dev-1" = [] := by
  refine ⟨fun truthful => ?_, by decide, by decide⟩
  obtain ⟨-, reached, -⟩ := (truthful (.ok 1)).2 (by decide)
  revert reached
  decide

/-- The two halves with nothing in between are `Dispatcher.dispatch`. -/
theorem run_dispatch (wired : Wired s.dispatcher) (idle : s.holding.find? () call = none) :
    (run step s [.count call deviceId cmd, .send call]).dispatcher =
      (s.dispatcher.dispatch deviceId cmd).2 ∧
    (run step s [.count call deviceId cmd, .send call]).answers =
      s.answers ++ [(call, (s.dispatcher.dispatch deviceId cmd).1)] := by
  simp only [run_cons, run_nil]
  rcases step_count wired idle deviceId cmd with ⟨alone, ran⟩ | ⟨counted, opened, ran⟩
  · rw [ran]
    have refused : s.dispatcher.dispatch deviceId cmd =
        (.error (.noActiveSubscribers deviceId), s.dispatcher) := by
      unfold Dispatcher.dispatch
      cases s.dispatcher.senders.find? () deviceId with
      | none => rfl
      | some sender => simp [alone]
    simp [step, idle, refused]
  · rw [ran]
    obtain ⟨sender, found⟩ := Option.isSome_iff_exists.1 opened
    have holds := find?_hold idle deviceId cmd (s.dispatcher.receiverCount deviceId)
    simp [step, holds, Dispatcher.dispatch, found, counted, Dispatcher.trySend]

end Locked

end RobotFleet.Ota
