/-
# Onboarding.Annotations -- what is written about a device reaches no robot

`update_status` and `touch_last_seen` write the two columns of a `devices` row that are
not part of its identity.  Of all that the service does for a robot on its way to Phase 3,
only `renew_cert` reads one of them, and no robot calls it.

`annotations_reach_no_robot`: leave every such write out of a run of `Onboarding.Fleet`,
and every robot has the same files, stands at the same step and waits for the same call;
the tables differ in these columns at most.  A robot that was suspended while its calls
were in flight, or before it was ever started again, is onboarded all the same.

The relation of the two runs is `Alike`.  Calls of others to `renew_cert` may be in flight
in one run and refused in the other, so their slots (`Renewal`) are left open.
-/
import RobotFleet.Onboarding.Enrolled
import RobotFleet.Theory.Isolation

namespace RobotFleet.Onboarding

open RobotFleet.Theory
open RobotFleet.Theory.Run
open RobotFleet.Theory.Calls (World Machine Outcome)
open RobotFleet.Theory.Isolation (run_filter)
open RobotFleet.Pki (Crypto)
open RobotFleet.Device
open RobotFleet.Robot (Agent Keys Process)

set_option autoImplicit false

/-! ## Tables that differ in what is written about the devices -/

/-- The same tables, up to `status` and `last_seen_at`. -/
structure SameDevices (db db' : Db) : Prop where
  factoryManifest : db'.factoryManifest = db.factoryManifest
  preEnrollment : db'.preEnrollment = db.preEnrollment
  identities : db'.identities = db.identities

/-- The same answer, with tables that are the same in this sense. -/
def SameAnswer {β : Type} (x x' : β × Db) : Prop :=
  ∃ answer after after', x = (answer, after) ∧ x' = (answer, after') ∧ SameDevices after after'

section Tables

variable {db db' : Db}

theorem SameDevices.rfl : SameDevices db db := ⟨Eq.refl _, Eq.refl _, Eq.refl _⟩

theorem SameDevices.trans {db'' : Db} (first : SameDevices db db') (second : SameDevices db' db'') :
    SameDevices db db'' :=
  ⟨second.1.trans first.1, second.2.trans first.2, second.3.trans first.3⟩

theorem SameDevices.symm (same : SameDevices db db') : SameDevices db' db :=
  ⟨same.1.symm, same.2.symm, same.3.symm⟩

theorem SameAnswer.tables {β : Type} {x x' : β × Db} (alike : SameAnswer x x') :
    SameDevices x.2 x'.2 := by
  obtain ⟨answer, after, after', rfl, rfl, same⟩ := alike
  exact same

/-- The other database, as this one with another `devices` table. -/
theorem SameDevices.eq_with (same : SameDevices db db') : db' = { db with devices := db'.devices } := by
  obtain ⟨manifest, devices, pre⟩ := db
  obtain ⟨manifest', devices', pre'⟩ := db'
  obtain ⟨rfl, rfl, -⟩ := same
  rfl

theorem updateDevice_same (id : String) (change : DeviceRecord → DeviceRecord)
    (keeps : ∀ column r, DeviceRecord.key column (change r) = DeviceRecord.key column r)
    (identity : ∀ r, (change r).identity = r.identity) :
    SameDevices db (updateDevice id change keeps db).2 where
  factoryManifest := by rw [updateDevice_cases]
  preEnrollment := by rw [updateDevice_cases]
  identities := updateDevice_identities id change keeps db identity

/-- Whether a device may be inserted is a question about identities. -/
theorem insert_devices_eq_none_iff (r : DeviceRecord) :
    db.devices.insert r = none ↔
      ∃ device ∈ db.identities, device.id = r.id ∨ device.serial = r.serial := by
  rw [Table.insert_eq_none_iff]
  constructor
  · rintro ⟨column, row, stored, clash⟩
    refine ⟨row.identity, List.mem_map_of_mem stored, ?_⟩
    cases column with
    | id => exact .inl clash
    | serial => exact .inr clash
  · rintro ⟨device, stored, clash⟩
    obtain ⟨row, present, rfl⟩ := List.mem_map.1 stored
    rcases clash with clash | clash
    · exact ⟨.id, row, present, clash⟩
    · exact ⟨.serial, row, present, clash⟩

theorem deviceBySerial?_eq_none_iff (serial : String) :
    db.deviceBySerial? serial = none ↔ ∀ device ∈ db.identities, device.serial ≠ serial := by
  unfold Db.deviceBySerial? Db.identities
  rw [Table.find?_eq_none_iff]
  simp [DeviceRecord.key, DeviceRecord.identity]

/-! ## The store methods that do not look there -/

/-- A method that neither reads nor writes `devices`. -/
def Overlooks {β : Type} (f : Db → β × Db) : Prop :=
  ∀ db devices, f { db with devices } = ((f db).1, { (f db).2 with devices }) ∧
    (f db).2.devices = db.devices

theorem Overlooks.same {β : Type} {f : Db → β × Db} (overlooks : Overlooks f)
    (same : SameDevices db db') : SameAnswer (f db) (f db') := by
  obtain ⟨other, kept⟩ := overlooks db db'.devices
  rw [same.eq_with, other]
  refine ⟨_, _, _, Eq.refl _, Eq.refl _, Eq.refl _, Eq.refl _, ?_⟩
  calc db'.devices.rows.map DeviceRecord.identity
      _ = db.identities := same.identities
      _ = (f db).2.identities := by unfold Db.identities; rw [kept]

theorem overlooks_claimManifestEntry (serial token : String) (now : Int) :
    Overlooks (claimManifestEntry serial token now) := by
  intro db devices
  simp only [claimManifestEntry, Db.manifest?]
  split
  · exact ⟨rfl, rfl⟩
  · split
    · exact ⟨rfl, rfl⟩
    · split
      · exact ⟨rfl, rfl⟩
      · exact ⟨rfl, rfl⟩

theorem overlooks_lookupAndClaim (serial : String) : Overlooks (lookupAndClaim serial) := by
  intro db devices
  simp only [lookupAndClaim, Db.preEnrolled?]
  split
  · exact ⟨rfl, rfl⟩
  · split
    · exact ⟨rfl, rfl⟩
    · exact ⟨rfl, rfl⟩

theorem overlooks_seedManifest (serial model token : String) :
    Overlooks (seedManifest serial model token) := fun _ _ => ⟨rfl, rfl⟩

/-! ## The store methods that do -/

theorem registerSerial_same (same : SameDevices db db') (serial model : String) :
    SameAnswer (registerSerial serial model db) (registerSerial serial model db') := by
  have asked : db'.deviceBySerial? serial = none ↔ db.deviceBySerial? serial = none := by
    rw [deviceBySerial?_eq_none_iff, deviceBySerial?_eq_none_iff, same.identities]
  simp only [registerSerial, same.preEnrollment]
  cases db.preEnrollment.insert { serial, model, claimed := 0 } with
  | some preEnrollment =>
      exact ⟨_, _, _, rfl, rfl, same.factoryManifest, Eq.refl _, same.identities⟩
  | none =>
      cases found : db.deviceBySerial? serial with
      | some device =>
          cases found' : db'.deviceBySerial? serial with
          | some device' => exact ⟨_, _, _, rfl, rfl, same⟩
          | none => simp [asked.1 found'] at found
      | none =>
          simp only [asked.2 found]
          refine ⟨_, _, _, rfl, rfl, same.factoryManifest, ?_, same.identities⟩
          simp only [setClaimed, same.preEnrollment]

theorem createDevice_same (same : SameDevices db db') (d : NewDevice) (id : String) (now : Int) :
    SameAnswer (createDevice d id now db) (createDevice d id now db') := by
  have fits : db'.devices.insert (d.toRecord id now) = none ↔
      db.devices.insert (d.toRecord id now) = none := by
    rw [insert_devices_eq_none_iff, insert_devices_eq_none_iff, same.identities]
  simp only [createDevice]
  cases inserted : db.devices.insert (d.toRecord id now) with
  | none =>
      rw [fits.2 inserted]
      exact ⟨_, _, _, rfl, rfl, same⟩
  | some devices =>
      cases inserted' : db'.devices.insert (d.toRecord id now) with
      | none => simp [fits.1 inserted'] at inserted
      | some devices' =>
          refine ⟨_, _, _, rfl, rfl, same.factoryManifest, same.preEnrollment, ?_⟩
          have before := same.identities
          unfold Db.identities at before ⊢
          rw [Table.insert_rows inserted, Table.insert_rows inserted', List.map_append, before,
            List.map_append]

/-- Writes `status` or `last_seen_at`. -/
def annotates : StoreOp → Bool
  | .updateStatus .. | .touchLastSeen .. => true
  | _ => false

theorem exec_annotates {op : StoreOp} (written : annotates op = true) : SameDevices db (exec db op).2 := by
  cases op with
  | updateStatus id status reason => exact updateDevice_same id _ _ fun _ => Eq.refl _
  | touchLastSeen id now => exact updateDevice_same id _ _ fun _ => Eq.refl _
  | _ => cases written

theorem exec_same (same : SameDevices db db') (op : StoreOp) (direct : op.isDirect = true) :
    SameDevices (exec db op).2 (exec db' op).2 := by
  cases op with
  | createDevice | lookupAndClaim => cases direct
  | updateStatus | touchLastSeen =>
      exact ((exec_annotates rfl).symm.trans same).trans (exec_annotates rfl)
  | registerSerial serial model => exact (registerSerial_same same serial model).tables
  | seedManifest serial model token => exact ((overlooks_seedManifest serial model token).same same).tables
  | claimManifestEntry serial token now =>
      exact ((overlooks_claimManifestEntry serial token now).same same).tables
  | getDevice | getBySerial | listDevices | countDevices | reopen => exact same

end Tables

/-! ## Calls -/

section Calls

variable {C : Crypto} (cfg : Config) {db db' : Db}

/-- Two outcomes that look the same to the call. -/
structure SameOutcome (o o' : Outcome Db (InFlight C) (Event C)) : Prop where
  call : o'.call = o.call
  event : o'.event = o.event
  state : SameDevices o.state o'.state

/-- Nobody's call, or one of `renew_cert`. -/
def Renewal (slot : Option (InFlight C)) : Prop :=
  ∀ p, slot = some p → ∃ req device readAt, p = .renewing req device readAt

theorem renewal_none : Renewal (none : Option (InFlight C)) := by
  intro p flying
  cases flying

theorem renewal_some (req : RenewCertRequest) (device : DeviceRecord) (readAt : Db) :
    Renewal (C := C) (some (.renewing req device readAt)) := by
  intro p flying
  cases flying
  exact ⟨req, device, readAt, rfl⟩

/-- The move opens a call of `renew_cert`. -/
def renews : Move C → Bool
  | .renewCheck _ => true
  | _ => false

theorem provisionClaim_same (same : SameDevices db db') (req : ProvisionDeviceRequest) (now : Int) :
    SameAnswer (provisionClaim req now db) (provisionClaim req now db') := by
  simp only [provisionClaim]
  split
  · exact ⟨_, _, _, rfl, rfl, same⟩
  · obtain ⟨answer, after, after', ran, ran', same'⟩ :=
      (overlooks_claimManifestEntry req.serial req.provisionToken now).same same
    rw [ran, ran']
    cases answer with
    | error e => exact ⟨_, _, _, rfl, rfl, same'⟩
    | ok model => exact ⟨_, _, _, rfl, rfl, same'⟩

theorem enrollClaim_same (same : SameDevices db db') (req : EnrollRequest C) :
    SameAnswer (enrollClaim C cfg req db) (enrollClaim C cfg req db') := by
  simp only [enrollClaim]
  cases checkPeer C cfg req with
  | error e => exact ⟨_, _, _, rfl, rfl, same⟩
  | ok certSerial =>
      obtain ⟨answer, after, after', ran, ran', same'⟩ := (overlooks_lookupAndClaim certSerial).same same
      simp only [ran, ran']
      cases answer with
      | error e => exact ⟨_, _, _, rfl, rfl, same'⟩
      | ok pre => exact ⟨_, _, _, rfl, rfl, same'⟩

theorem enrollCreate_same (same : SameDevices db db') (req : EnrollRequest C) (certSerial : String)
    (pre : PreEnrollmentRecord) (cert : String) (expiresAt : Int) (id : String) (now : Int) :
    SameAnswer (enrollCreate C cfg req certSerial pre cert expiresAt id now db)
      (enrollCreate C cfg req certSerial pre cert expiresAt id now db') := by
  obtain ⟨answer, after, after', ran, ran', same'⟩ :=
    createDevice_same same ⟨certSerial, pre.model, req.firmware, cert⟩ id now
  simp only [enrollCreate, ran, ran']
  cases answer with
  | error e => exact ⟨_, _, _, rfl, rfl, same'⟩
  | ok record => exact ⟨_, _, _, rfl, rfl, same'⟩

/-- A call goes the same way over both tables, unless it asks for a renewal. -/
theorem advance_same (same : SameDevices db db') (slot : Option (InFlight C)) (move : Move C)
    (other : slot = none → renews move = false) :
    SameOutcome (advance C cfg slot db move) (advance C cfg slot db' move) := by
  cases slot with
  | none =>
      cases move with
      | renewCheck req => cases other rfl
      | provisionClaim req now =>
          obtain ⟨answer, after, after', ran, ran', same'⟩ := provisionClaim_same same req now
          simp only [advance, ran, ran']
          cases answer with
          | error status => exact ⟨rfl, rfl, same'⟩
          | ok model => exact ⟨rfl, rfl, same'⟩
      | enrollClaim req =>
          obtain ⟨answer, after, after', ran, ran', same'⟩ := enrollClaim_same cfg same req
          simp only [advance, ran, ran']
          cases answer with
          | error e => exact ⟨rfl, rfl, same'⟩
          | ok found => exact ⟨rfl, rfl, same'⟩
      | provisionSign | enrollSign | enrollCreate | renewSign | abandon => exact ⟨rfl, rfl, same⟩
  | some p =>
      cases p with
      | provisioning req model => cases move <;> exact ⟨rfl, rfl, same⟩
      | renewing req device readAt => cases move <;> exact ⟨rfl, rfl, same⟩
      | claimed req certSerial pre =>
          cases move with
          | enrollSign now later entropy =>
              simp only [advance]
              cases issueOperational C cfg req.csrPem now later entropy with
              | error e => exact ⟨rfl, rfl, same⟩
              | ok issued => exact ⟨rfl, rfl, same⟩
          | _ => exact ⟨rfl, rfl, same⟩
      | signed req certSerial pre cert expiresAt =>
          cases move with
          | enrollCreate id now =>
              obtain ⟨answer, after, after', ran, ran', same'⟩ :=
                enrollCreate_same cfg same req certSerial pre cert expiresAt id now
              simp only [advance, ran, ran']
              exact ⟨rfl, rfl, same'⟩
          | _ => exact ⟨rfl, rfl, same⟩

/-- A renewal writes nothing, and its slot stays a renewal's. -/
theorem advance_renewal (db : Db) {slot : Option (InFlight C)} (renewal : Renewal slot) {move : Move C}
    (opens : slot = none → renews move = true) :
    Renewal (advance C cfg slot db move).call ∧ (advance C cfg slot db move).state = db := by
  cases slot with
  | none =>
      cases move with
      | renewCheck req =>
          simp only [advance]
          cases renewCheck req db with
          | error e => exact ⟨renewal_none, rfl⟩
          | ok device => exact ⟨renewal_some req device db, rfl⟩
      | _ => cases opens rfl
  | some p =>
      obtain ⟨req, device, readAt, rfl⟩ := renewal p rfl
      cases move with
      | renewSign | abandon => exact ⟨renewal_none, rfl⟩
      | _ => exact ⟨renewal, rfl⟩

end Calls

/-! ## The service -/

section Service

variable {C : Crypto} (cfg : Config) {w w' : World Db (InFlight C) (Event C)}

/-- The same tables, and the same calls in flight but for renewals. -/
structure SameWorld (w w' : World Db (InFlight C) (Event C)) : Prop where
  tables : SameDevices w.state w'.state
  calls : ∀ call, w'.calls call = w.calls call ∨ Renewal (w.calls call) ∧ Renewal (w'.calls call)

theorem SameWorld.symm (same : SameWorld w w') : SameWorld w' w where
  tables := same.tables.symm
  calls call := (same.calls call).imp Eq.symm And.symm

theorem SameWorld.call (same : SameWorld w w') {call : Nat} (move : Move C)
    (slot : w'.calls call = w.calls call) (other : w.calls call = none → renews move = false) :
    SameWorld ((service C cfg).step w (.call call move)) ((service C cfg).step w' (.call call move)) ∧
      eventOf cfg w' call move = eventOf cfg w call move := by
  have outcome := advance_same cfg same.tables (w.calls call) move other
  rw [← slot] at outcome
  refine ⟨⟨?_, fun number => ?_⟩, ?_⟩
  · rw [service_state, service_state, ← slot]
    exact outcome.state
  · by_cases own : number = call
    · subst own
      rw [service_calls_self, service_calls_self, ← slot]
      exact .inl outcome.call
    · rw [service_calls_other w move own, service_calls_other w' move own]
      exact same.calls number
  · unfold eventOf
    rw [← slot]
    exact outcome.event

theorem SameWorld.renewal (same : SameWorld w w') {call : Nat} (move : Move C)
    (mine : Renewal (w.calls call)) (theirs : Renewal (w'.calls call))
    (opens : w.calls call = none → renews move = true) :
    SameWorld ((service C cfg).step w (.call call move)) w' := by
  obtain ⟨still, unwritten⟩ := advance_renewal cfg w.state mine opens
  refine ⟨?_, fun number => ?_⟩
  · rw [service_state, unwritten]
    exact same.tables
  · by_cases own : number = call
    · subst own
      rw [service_calls_self]
      exact .inr ⟨still, theirs⟩
    · rw [service_calls_other w move own]
      exact same.calls number

end Service

/-! ## The fleet -/

section Fleet

variable {C : Crypto} (keys : Keys C) (cfg : Config) (setups : Nat → Setup)

structure Alike (s t : State C) : Prop where
  sound : Sound keys cfg setups s
  sound' : Sound keys cfg setups t
  world : SameWorld s.world t.world
  clients : t.clients = s.clients
  next : t.next = s.next

variable {keys cfg setups} {s t : State C}

theorem request_renews {setup : Setup} {agent : Agent} {now : Int} {move : Move C}
    (wants : request setup agent now = some move) : renews move = false := by
  unfold request at wants
  split at wants
  · cases wants
    rfl
  · split at wants
    · cases wants
      rfl
    · cases wants
  · cases wants

/-- A renewal moves on, and no robot waits for it. -/
theorem step_renewal (sound : Sound keys cfg setups s) {w' : World Db (InFlight C) (Event C)}
    (same : SameWorld s.world w') {call : Nat} (mine : Renewal (s.world.calls call))
    (theirs : Renewal (w'.calls call)) (move : Move C) (answered : Option Nat) :
    SameWorld (step keys cfg setups s (.advance call move answered)).world w' ∧
      Renewal ((step keys cfg setups s (.advance call move answered)).world.calls call) ∧
      (step keys cfg setups s (.advance call move answered)).clients = s.clients ∧
      (step keys cfg setups s (.advance call move answered)).next = s.next := by
  have moved := step_spec keys cfg setups s (.advance call move answered)
  generalize step keys cfg setups s (.advance call move answered) = after at moved
  cases moved with
  | idle => exact ⟨same, mine, rfl, rfl⟩
  | advanced _ _ _ p flying =>
      have busy : s.world.calls call = none → renews move = true := by
        intro none_
        rw [flying] at none_
        cases none_
      refine ⟨same.renewal cfg move mine theirs busy, ?_, rfl, rfl⟩
      rw [service_calls_self]
      exact (advance_renewal cfg s.world.state mine busy).1
  | answered robot _ _ p event flying returned waits =>
      have awaits := ((sound.clients robot).waiting call waits).2 p flying
      obtain ⟨req, device, readAt, rfl⟩ := mine p flying
      unfold Awaits at awaits
      split at awaits
      · rename_i renewing
        cases renewing
      · rename_i renewing
        cases renewing
      · rename_i renewing
        cases renewing
      · cases awaits

/-- A new call.  The slot is free in both runs. -/
theorem Alike.opens (alike : Alike keys cfg setups s t) (move : Move C) :
    SameWorld ((service C cfg).step s.world (.call s.next move))
      ((service C cfg).step t.world (.call s.next move)) ∧
    (renews move = false → eventOf cfg t.world s.next move = eventOf cfg s.world s.next move) := by
  have free : s.world.calls s.next = none := alike.sound.unused s.next (Nat.le_refl _)
  have free' : t.world.calls s.next = none := alike.sound'.unused s.next (alike.next ▸ Nat.le_refl _)
  by_cases other : renews move = false
  · obtain ⟨world, event⟩ := alike.world.call cfg move (free'.trans free.symm) fun _ => other
    exact ⟨world, fun _ => event⟩
  · have asks : renews move = true := by simpa using other
    refine ⟨?_, fun none_ => absurd none_ other⟩
    have first := alike.world.renewal cfg move (free ▸ renewal_none) (free' ▸ renewal_none) fun _ => asks
    have still : Renewal (((service C cfg).step s.world (.call s.next move)).calls s.next) := by
      rw [service_calls_self, free]
      exact (advance_renewal cfg s.world.state renewal_none fun _ => asks).1
    exact (first.symm.renewal cfg move (free' ▸ renewal_none) still fun _ => asks).symm

theorem deliver_congr {clients clients' : Nat → Client} {call : Nat} {event event' : Option (Event C)}
    (told : Option Nat) (same : clients' = clients) (answer : event' = event) :
    deliver keys setups clients' call event' told = deliver keys setups clients call event told := by
  rw [same, answer]

/-- **A step that is taken in both runs.** -/
theorem alike_step (s t : State C) (a : Action C) (alike : Alike keys cfg setups s t) :
    Alike keys cfg setups (step keys cfg setups s a) (step keys cfg setups t a) := by
  have sound := sound_step s a alike.sound
  have sound' := sound_step t a alike.sound'
  have clients := alike.clients
  have next := alike.next
  cases a with
  | direct op =>
      exact ⟨sound, sound', ⟨exec_same alike.world.tables op.1 op.2, alike.world.calls⟩, clients, next⟩
  | restart => exact ⟨sound, sound', ⟨alike.world.tables, fun _ => .inl rfl⟩, clients, next⟩
  | other move =>
      refine ⟨sound, sound', ?_, clients, congrArg (· + 1) next⟩
      simp only [step, next]
      exact (alike.opens move).1
  | own robot a =>
      refine ⟨sound, sound', alike.world, ?_, next⟩
      simp only [step, clients]
  | send robot now answered =>
      simp only [step, clients, next] at sound sound' ⊢
      cases idle : (s.clients robot).waiting with
      | some call =>
          simp only [idle] at sound sound' ⊢
          exact ⟨sound, sound', alike.world, clients, next⟩
      | none =>
          cases wants : request (C := C) (setups robot) (s.clients robot).agent now with
          | none =>
              simp only [idle, wants] at sound sound' ⊢
              exact ⟨sound, sound', alike.world, clients, next⟩
          | some move =>
              obtain ⟨world, event⟩ := alike.opens move
              simp only [idle, wants] at sound sound' ⊢
              exact ⟨sound, sound', world,
                deliver_congr _ rfl (event (request_renews wants)), rfl⟩
  | advance call move answered =>
      rcases alike.world.calls call with slot | ⟨mine, theirs⟩
      · -- the call is the same in both runs
        simp only [step, slot] at sound sound' ⊢
        by_cases flying : (s.world.calls call).isSome = true
        · simp only [if_pos flying] at sound sound' ⊢
          obtain ⟨world, event⟩ := alike.world.call cfg move slot
            (fun none_ => by simp [none_] at flying)
          exact ⟨sound, sound', world, deliver_congr _ clients event, next⟩
        · simp only [if_neg flying] at sound sound' ⊢
          exact ⟨sound, sound', alike.world, clients, next⟩
      · -- a renewal moves on in one run, in the other, in both or in neither
        obtain ⟨world, still, left, number⟩ := step_renewal alike.sound alike.world mine theirs move answered
        obtain ⟨world', -, right, number'⟩ := step_renewal alike.sound' world.symm theirs still move answered
        exact ⟨sound, sound', world'.symm, by rw [left, right, clients], by rw [number, number', next]⟩

/-- A write that is made in one of them only. -/
theorem alike_annotation (s t : State C) (op : DirectOp) (written : annotates op.1 = true)
    (alike : Alike keys cfg setups s t) :
    Alike keys cfg setups (step keys cfg setups s (.direct op)) t where
  sound := sound_step s (.direct op) alike.sound
  sound' := alike.sound'
  world := ⟨(exec_annotates written).symm.trans alike.world.tables, alike.world.calls⟩
  clients := alike.clients
  next := alike.next

/-- Not a write of `status` or `last_seen_at`. -/
def concerns : Action C → Bool
  | .direct op => !annotates op.1
  | _ => true

variable (keys cfg setups)

/-- **What is written about a device reaches no robot.**  Without the calls of
`update_status` and `touch_last_seen`, every robot ends a run with the same files, at the
same step of its start-up and waiting for the same call, and the service has the same
manifest, the same pre-enrollments and the same devices but for these two columns. -/
theorem annotations_reach_no_robot (actions : List (Action C)) :
    (operate keys cfg setups actions).clients =
        (operate keys cfg setups (actions.filter concerns)).clients ∧
      SameDevices (operate keys cfg setups (actions.filter concerns)).world.state
        (operate keys cfg setups actions).world.state := by
  have alike : Alike keys cfg setups (operate keys cfg setups actions)
      (operate keys cfg setups (actions.filter concerns)) := by
    refine run_filter (fun s t a alike _ => alike_step s t a alike) (fun s t a alike unseen => ?_)
      ⟨sound_init, sound_init, ⟨.rfl, fun _ => .inl rfl⟩, rfl, rfl⟩ actions
    cases a with
    | direct op => exact alike_annotation s t op (by simpa [concerns] using unseen) alike
    | _ => cases unseen
  exact ⟨alike.clients.symm, alike.world.tables.symm⟩

end Fleet

/-- A robot that is suspended while it is switched off comes online again. -/
example : ((operate Toy.keys Device.Toy.config Toy.clones (Toy.onboarding ++
      [Toy.own 0 .crash rfl, .direct ⟨.updateStatus "id-1" "suspended" "stolen", rfl⟩,
        Toy.own 0 .start rfl, Toy.proceed 0, Toy.proceed 0, Toy.proceed 0])).clients 0).agent.process =
    .online "fleet-ca|SN-1" "k2" "id-1" := by decide

end RobotFleet.Onboarding
