/-
# Device.LastSeen -- whether `last_seen_at` can go backwards

`touch_last_seen` and `create_device` read the clock and then wait for the lock of
the store.  Here the two are separate steps of any number of concurrent calls, on
a clock that never goes back, among any other store calls (`Clocked.step`).

Readings are in order, writes need not be: a touch that read earlier may write
later, and takes `last_seen_at` back.  `last_seen_never_back_iff`: over a run,
`last_seen_at` never decreases exactly when no touch writes after a later reading
of its device was written (`InOrder`).  `Written` is the invariant behind it: the
readings written for a device are bounded by its `last_seen_at`, which is one of
them.
-/
import RobotFleet.Device.Heartbeat

namespace RobotFleet.Device

open RobotFleet.Theory
open RobotFleet.Theory.Run

set_option autoImplicit false

/-! ## Calls that read the clock first -/

/-- The methods that write `last_seen_at`. -/
inductive Timed where
  | touch (deviceId : String)
  | create (d : NewDevice) (id : String)

structure Clocked where
  db : Db
  clock : Int
  /-- Calls that have read the clock and not taken the lock yet. -/
  pending : Nat → Option (Timed × Int)
  /-- History: the readings written, by device. -/
  written : List (String × Int)

namespace Clocked

def init (clock : Int) : Clocked := ⟨.empty, clock, fun _ => none, []⟩

inductive Action where
  | readClock (call : Nat) (method : Timed) (elapsed : Nat)
  | write (call : Nat)
  | store (op : StoreOp)

/-- The update or insert of a call, under the lock. -/
def finish (s : Clocked) : Timed × Int → Clocked
  | (.touch deviceId, now) =>
    match touchLastSeen deviceId now s.db with
    | (.ok (), db) => { s with db, written := s.written ++ [(deviceId, now)] }
    | (.error _, db) => { s with db }
  | (.create d id, now) =>
    match createDevice d id now s.db with
    | (.ok _, db) => { s with db, written := s.written ++ [(id, now)] }
    | (.error _, db) => { s with db }

def step (s : Clocked) : Action → Clocked
  | .readClock call method elapsed =>
    match s.pending call with
    | some _ => s
    | none =>
      { s with
        clock := s.clock + elapsed
        pending := Function.update s.pending call (some (method, s.clock + elapsed)) }
  | .write call =>
    match s.pending call with
    | none => s
    | some timed => { s.finish timed with pending := Function.update s.pending call none }
  -- the two timed methods run as calls
  | .store (.createDevice ..) | .store (.touchLastSeen ..) => s
  | .store op => { s with db := (exec s.db op).2 }

def runClocked (clock : Int) (actions : List Action) : Clocked := run step (init clock) actions

end Clocked

def Db.lastSeen (db : Db) (id : String) : Option Int := (db.deviceById? id).map (·.lastSeenAt)

/-- No device was seen earlier than before. -/
def NotBack (db db' : Db) : Prop :=
  ∀ id seen, db.lastSeen id = some seen → ∃ seen', db'.lastSeen id = some seen' ∧ seen ≤ seen'

/-! ## What each write does to `last_seen_at` -/

section Writes

variable {db : Db} {id : String}

theorem NotBack.of_eq {db db' : Db} (same : ∀ id, db'.lastSeen id = db.lastSeen id) : NotBack db db' := by
  intro id seen found
  exact ⟨seen, (same id).trans found, Int.le_refl _⟩

theorem lastSeen_isSome : (db.lastSeen id).isSome = true ↔ Present db id := by
  unfold Db.lastSeen
  rw [Option.isSome_map, Option.isSome_iff_exists]
  constructor
  · rintro ⟨r, found⟩
    exact ⟨r, Table.mem_of_find? found, Table.key_of_find? found⟩
  · rintro ⟨r, stored, named⟩
    exact ⟨r, (db.devices.find?_eq_some_iff .id id r).2 ⟨stored, named⟩⟩

/-- An update by id is read through at that id alone. -/
theorem deviceById?_updateDevice (change : DeviceRecord → DeviceRecord)
    (keeps : ∀ column r, DeviceRecord.key column (change r) = DeviceRecord.key column r) (id' : String) :
    (updateDevice id change keeps db).2.deviceById? id' =
      if id = id' then (db.deviceById? id').map change else db.deviceById? id' := by
  rw [updateDevice_cases]
  exact db.devices.find?_update_key .id id id' change keeps

theorem lastSeen_touchLastSeen (now : Int) (id' : String) :
    (touchLastSeen id now db).2.lastSeen id' =
      if id = id' then (db.lastSeen id').map (fun _ => now) else db.lastSeen id' := by
  unfold Db.lastSeen touchLastSeen
  rw [deviceById?_updateDevice]
  split
  · rw [Option.map_map, Option.map_map]
    rfl
  · rfl

theorem lastSeen_createDevice {d : NewDevice} {now : Int} {record : DeviceRecord} {db' : Db}
    (created : createDevice d id now db = (.ok record, db')) (id' : String) :
    db.lastSeen id = none ∧ db'.lastSeen id' = if id = id' then some now else db.lastSeen id' := by
  obtain ⟨devices, rfl, inserted, rfl⟩ := createDevice_ok created
  constructor
  · have free : ¬ db.devices.Conflicts (d.toRecord id now) := by
      rw [← Table.insert_eq_none_iff, inserted]
      simp
    have absent : db.deviceById? id = none := by
      refine (db.devices.find?_eq_none_iff .id id).2 fun r stored same => ?_
      exact free ⟨.id, r, stored, same⟩
    unfold Db.lastSeen
    rw [absent]
    rfl
  · unfold Db.lastSeen Db.deviceById?
    rw [Table.find?_insert inserted .id id']
    show Option.map _ (if id = id' then _ else _) = _
    split
    · rfl
    · rfl

/-- The other methods leave every `last_seen_at` alone. -/
theorem lastSeen_exec {op : StoreOp} (untimed : ∀ d id now, op ≠ .createDevice d id now)
    (untouched : ∀ id now, op ≠ .touchLastSeen id now) (id' : String) :
    (exec db op).2.lastSeen id' = db.lastSeen id' := by
  by_cases status : ∃ id status reason, op = .updateStatus id status reason
  · obtain ⟨id, status, reason, rfl⟩ := status
    show (updateStatus id status reason db).2.lastSeen id' = _
    unfold Db.lastSeen updateStatus
    rw [deviceById?_updateDevice]
    split
    · rw [Option.map_map]
      rfl
    · rfl
  · have stepped := exec_devices db op
    generalize (exec db op).2 = db' at stepped
    cases stepped with
    | kept _ _ same =>
        unfold Db.lastSeen Db.deviceById?
        rw [same]
    | created d id now _ _ => exact absurd rfl (untimed d id now)
    | statusSet id text reason _ _ => exact absurd ⟨id, text, reason, rfl⟩ status
    | touched id now _ _ => exact absurd rfl (untouched id now)

end Writes

namespace Clocked

variable {s : Clocked}

/-! ## The readings that were written -/

/-- `last_seen_at` is the largest of the readings written for a device. -/
structure Written (s : Clocked) : Prop where
  bounded : ∀ id now, (id, now) ∈ s.written → ∃ seen, s.db.lastSeen id = some seen ∧ now ≤ seen
  last : ∀ id seen, s.db.lastSeen id = some seen → (id, seen) ∈ s.written

theorem written_init (clock : Int) : Written (init clock) where
  bounded _ _ member := by cases member
  last _ _ found := by cases found

/-- A touch that writes has a reading not older than those written for its device. -/
def InOrder (s : Clocked) : Action → Prop
  | .write call => ∀ deviceId now, s.pending call = some (.touch deviceId, now) →
      ∀ now', (deviceId, now') ∈ s.written → now' ≤ now
  | _ => True

/-- What an action can do to the table and to the history. -/
inductive Steps (s : Clocked) : Action → Db → List (String × Int) → Prop
  | quiet (a : Action) (db : Db) : (∀ id, db.lastSeen id = s.db.lastSeen id) →
      (∀ call deviceId now, a = .write call → s.pending call = some (.touch deviceId, now) →
        s.db.lastSeen deviceId = none) →
      Steps s a db s.written
  | touched (call : Nat) (deviceId : String) (now seen : Int) (db : Db) :
      s.pending call = some (.touch deviceId, now) → s.db.lastSeen deviceId = some seen →
      (∀ id, db.lastSeen id = if deviceId = id then some now else s.db.lastSeen id) →
      Steps s (.write call) db (s.written ++ [(deviceId, now)])
  | created (call : Nat) (d : NewDevice) (id : String) (now : Int) (db : Db) :
      s.pending call = some (.create d id, now) → s.db.lastSeen id = none →
      (∀ id', db.lastSeen id' = if id = id' then some now else s.db.lastSeen id') →
      Steps s (.write call) db (s.written ++ [(id, now)])

/-- A write that changes no reading: a touch among these found no row. -/
theorem Steps.quiet_write {call : Nat} {timed : Timed × Int} {db : Db}
    (waits : s.pending call = some timed) (same : ∀ id, db.lastSeen id = s.db.lastSeen id)
    (absent : ∀ deviceId now, timed = (.touch deviceId, now) → s.db.lastSeen deviceId = none) :
    Steps s (.write call) db s.written := by
  refine .quiet _ _ same fun call' deviceId now taken waits' => ?_
  cases taken
  rw [waits] at waits'
  exact absent deviceId now (Option.some.inj waits')

theorem finish_touch {call : Nat} {deviceId : String} {now : Int}
    (waits : s.pending call = some (.touch deviceId, now)) :
    Steps s (.write call) (s.finish (.touch deviceId, now)).db
      (s.finish (.touch deviceId, now)).written := by
  cases before : s.db.lastSeen deviceId with
  | none =>
      have absent : ¬ Present s.db deviceId := by
        rw [← lastSeen_isSome, before]
        simp
      simp only [finish, touchLastSeen_of_absent absent now]
      refine .quiet_write waits (fun _ => rfl) fun deviceId' now' same => ?_
      cases same
      exact before
  | some seen =>
      have present : Present s.db deviceId := by
        rw [← lastSeen_isSome, before]
        rfl
      have touched := touchLastSeen_of_present present now
      have reads : ∀ id, (touchLastSeen deviceId now s.db).2.lastSeen id =
          if deviceId = id then some now else s.db.lastSeen id := by
        intro id
        rw [lastSeen_touchLastSeen]
        split
        · rename_i here
          rw [← here, before]
          rfl
        · rfl
      simp only [finish]
      rw [touched]
      exact .touched call deviceId now seen _ waits before reads

theorem finish_create {call : Nat} {d : NewDevice} {id : String} {now : Int}
    (waits : s.pending call = some (.create d id, now)) :
    Steps s (.write call) (s.finish (.create d id, now)).db (s.finish (.create d id, now)).written := by
  simp only [finish]
  cases ran : createDevice d id now s.db with
  | mk result db =>
    cases result with
    | error e =>
        refine .quiet_write waits (fun id' => by rw [createDevice_error ran]) ?_
        intro deviceId' now' same
        cases same
    | ok record =>
        exact .created call d id now _ waits (lastSeen_createDevice ran id).1
          fun id' => (lastSeen_createDevice ran id').2

theorem step_spec (s : Clocked) (a : Action) : Steps s a (s.step a).db (s.step a).written := by
  cases a with
  | readClock call method elapsed =>
      have idle : Steps s (.readClock call method elapsed) s.db s.written :=
        .quiet _ _ (fun _ => rfl) fun _ _ _ same => by cases same
      unfold step
      dsimp only
      split
      · exact idle
      · exact idle
  | write call =>
      cases waits : s.pending call with
      | none =>
          simp only [step, waits]
          refine .quiet _ _ (fun _ => rfl) fun call' _ _ same waits' => ?_
          cases same
          rw [waits] at waits'
          cases waits'
      | some timed =>
          obtain ⟨method, now⟩ := timed
          simp only [step, waits]
          cases method with
          | touch deviceId => exact finish_touch waits
          | create d id => exact finish_create waits
  | store op =>
      have quiet : ∀ db : Db, (∀ id, db.lastSeen id = s.db.lastSeen id) →
          Steps s (.store op) db s.written := by
        intro db same
        exact .quiet _ db same fun _ _ _ taken => by cases taken
      cases op with
      | createDevice | touchLastSeen => exact quiet _ fun _ => rfl
      | getDevice | getBySerial | updateStatus | listDevices | registerSerial | lookupAndClaim
      | countDevices | seedManifest | claimManifestEntry | reopen =>
          refine quiet _ (lastSeen_exec ?_ ?_)
          · intro _ _ _ same
            cases same
          · intro _ _ same
            cases same

/-- Where `Written` holds, an action takes no device back exactly when it is in order. -/
theorem notBack_iff (written : Written s) (a : Action) :
    NotBack s.db (s.step a).db ↔ InOrder s a := by
  have stepped := step_spec s a
  generalize (s.step a).db = db, (s.step a).written = history at stepped
  cases stepped with
  | quiet _ _ same absent =>
      refine ⟨fun _ => ?_, fun _ => NotBack.of_eq same⟩
      cases a with
      | write call =>
          intro deviceId now waits now' member
          obtain ⟨seen, found, -⟩ := written.bounded deviceId now' member
          rw [absent call deviceId now rfl waits] at found
          cases found
      | readClock | store => trivial
  | touched call deviceId now seen _ waits before reads =>
      constructor
      · intro notBack deviceId' now' waits' earlier member
        rw [waits] at waits'
        cases waits'
        obtain ⟨seen', found, bound⟩ := written.bounded deviceId earlier member
        obtain ⟨seen'', found', forward⟩ := notBack deviceId seen' found
        rw [reads, if_pos rfl] at found'
        cases found'
        exact le_trans bound forward
      · intro inOrder id old found
        rw [reads]
        split
        · rename_i here
          subst here
          exact ⟨now, rfl, inOrder deviceId now waits old (written.last deviceId old found)⟩
        · exact ⟨old, found, le_refl old⟩
  | created call d id now _ waits fresh reads =>
      constructor
      · intro _ deviceId now' waits'
        rw [waits] at waits'
        cases waits'
      · intro _ id' old found
        rw [reads]
        split
        · rename_i here
          subst here
          rw [fresh] at found
          cases found
        · exact ⟨old, found, le_refl old⟩

/-- A reading that is not older than `last_seen_at` is the largest once it is written. -/
theorem Written.wrote (written : Written s) {id : String} {now : Int} {s' : Clocked}
    (history : s'.written = s.written ++ [(id, now)])
    (reads : ∀ id', s'.db.lastSeen id' = if id = id' then some now else s.db.lastSeen id')
    (forward : ∀ seen, s.db.lastSeen id = some seen → seen ≤ now) : Written s' := by
  refine ⟨fun id' now' member => ?_, fun id' seen found => ?_⟩
  · rw [history, List.mem_append, List.mem_singleton, Prod.mk.injEq] at member
    rw [reads]
    rcases member with old | ⟨rfl, rfl⟩
    · obtain ⟨seen, found, bound⟩ := written.bounded id' now' old
      split
      · rename_i here
        subst here
        exact ⟨now, rfl, le_trans bound (forward seen found)⟩
      · exact ⟨seen, found, bound⟩
    · rw [if_pos rfl]
      exact ⟨now', rfl, le_refl now'⟩
  · rw [history, List.mem_append, List.mem_singleton, Prod.mk.injEq]
    rw [reads] at found
    split at found
    · rename_i here
      exact Or.inr ⟨here.symm, (Option.some.inj found).symm⟩
    · exact Or.inl (written.last id' seen found)

theorem Written.step (written : Written s) {a : Action} (notBack : NotBack s.db (s.step a).db) :
    Written (s.step a) := by
  have stepped := step_spec s a
  generalize s.step a = s' at stepped notBack ⊢
  obtain ⟨db, clock, pending, history⟩ := s'
  cases stepped with
  | quiet _ _ same _ =>
      refine ⟨fun id now member => ?_, fun id seen found => ?_⟩
      · rw [same]
        exact written.bounded id now member
      · rw [same] at found
        exact written.last id seen found
  | touched call deviceId now seen _ _ before reads =>
      refine written.wrote rfl reads fun old found => ?_
      obtain ⟨seen', found', forward⟩ := notBack deviceId old found
      rw [reads, if_pos rfl] at found'
      cases found'
      exact forward
  | created call d id now _ _ fresh reads =>
      refine written.wrote rfl reads fun old found => ?_
      rw [fresh] at found
      cases found

/-! ## Runs -/

/-- **`last_seen_at` never goes back exactly when** the touches of a device write in
the order of their readings. -/
theorem last_seen_never_back_iff (clock : Int) (actions : List Action) :
    (∀ before a after, actions = before ++ a :: after →
      NotBack (runClocked clock before).db ((runClocked clock before).step a).db) ↔
    Guarded step InOrder (init clock) actions := by
  have stepwise : Guarded step (fun s a => NotBack s.db (s.step a).db) (init clock) actions ↔
      ∀ before a after, actions = before ++ a :: after →
        NotBack (run step (init clock) before).db ((run step (init clock) before).step a).db :=
    guarded_iff step
  have agree := guarded_congr step (I := Written) (G := fun s a => NotBack s.db (s.step a).db)
    (H := InOrder) (fun s a written => notBack_iff written a)
    (fun s a written notBack => written.step notBack) (written_init clock) actions
  exact stepwise.symm.trans agree

/-- `id-1` is enrolled at 100 and two of its streams are touched: the first reads 100
and writes after the second, which reads 101. -/
def Toy.overtaken : List Action :=
  [.readClock 0 (.create ⟨"SN-1", "arm", "v1", "pem-1"⟩ "id-1") 0, .write 0,
   .readClock 1 (.touch "id-1") 0, .readClock 2 (.touch "id-1") 1, .write 2]

theorem touch_goes_back :
    (runClocked 100 Toy.overtaken).db.lastSeen "id-1" = some 101 ∧
    (runClocked 100 (Toy.overtaken ++ [.write 1])).db.lastSeen "id-1" = some 100 ∧
    ¬ NotBack (runClocked 100 Toy.overtaken).db ((runClocked 100 Toy.overtaken).step (.write 1)).db := by
  refine ⟨by decide, by decide, fun notBack => ?_⟩
  obtain ⟨seen, found, forward⟩ := notBack "id-1" 101 (by decide)
  have earlier : ((runClocked 100 Toy.overtaken).step (.write 1)).db.lastSeen "id-1" = some 100 := by
    decide
  rw [earlier] at found
  cases found
  revert forward
  decide

end Clocked

end RobotFleet.Device
