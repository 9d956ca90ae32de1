/-
# Onboarding.Enrolled -- what the robots hold is what the service recorded

Over every run of `Onboarding.Fleet`, with crashes, lost answers, restarts of either
side and other clients in between:

* `online_robots_agree`: a robot that is online uses the id and the certificate of
  a `devices` row that carries its own serial and firmware.
* `one_robot_per_serial`: of the robots that share a serial at most one ever gets an
  operational certificate, and no two robots are ever online under one id.
* `credentials_for_life`: a robot that has been online keeps what it went online with.

The invariant is `Sound`.  `Awaits` ties a call in flight to the robot that waits for
it, and is what turns an answer into a fact about the tables (`awaits_told`).  The
serial of the row is the robot's because `bootstrap_enroll` compares the two whenever
the request names a serial, and a robot without one is refused in Phase 1.
-/
import RobotFleet.Onboarding.Fleet

namespace RobotFleet.Onboarding

open RobotFleet.Theory
open RobotFleet.Theory.Run
open RobotFleet.Theory.Calls (World Machine Outcome ok_of_bind mapError_ok)
open RobotFleet.Pki (Crypto certsFromPem signCsr)
open RobotFleet.Device
open RobotFleet.Robot (Agent Keys Process Disk EnrollResponse Told Staged Requested DeviceBacked Backed)

set_option autoImplicit false

/-! ## What the handlers check -/

section Checks

variable {C : Crypto} {cfg : Config}

/-- A request that names a serial enrolls under that serial. -/
theorem checkPeer_serial {req : EnrollRequest C} {certSerial : String}
    (passed : checkPeer C cfg req = .ok certSerial) (named : req.serial ≠ "") :
    certSerial = req.serial := by
  unfold checkPeer at passed
  obtain ⟨read, -, passed⟩ := ok_of_bind passed
  split at passed
  · cases passed
  · rename_i same
    obtain ⟨⟨⟩, -, passed⟩ := ok_of_bind passed
    cases passed
    have given : req.serial.isEmpty = false := by simpa using named
    simpa [given] using Eq.symm (by simpa [given] using same)

/-- A claim that succeeds was for a serial, and leaves it pre-enrolled. -/
theorem provisionClaim_leaves {req : ProvisionDeviceRequest} {now : Int} {db db' : Db} {model : String}
    (claimed : provisionClaim req now db = (.ok model, db')) :
    req.serial ≠ "" ∧ (db'.preEnrolled? req.serial).isSome = true := by
  obtain ⟨entry, -, -, -, -, rfl⟩ := claimManifestEntry_ok (provisionClaim_ok claimed)
  constructor
  · intro empty
    simp [provisionClaim, empty] at claimed
  · rw [seedPreEnrollment_preEnrolled?, if_pos rfl]
    rfl

/-- A device is created only for a serial that has none. -/
theorem createDevice_new {d : NewDevice} {id : String} {now : Int} {db db' : Db} {record : DeviceRecord}
    (created : createDevice d id now db = (.ok record, db')) :
    ∀ device ∈ db.identities, device.serial ≠ d.serial := by
  obtain ⟨devices, rfl, inserted, -⟩ := createDevice_ok created
  intro device stored same
  obtain ⟨row, present, rfl⟩ := List.mem_map.1 stored
  have conflict := (db.devices.insert_eq_none_iff (d.toRecord id now)).2 ⟨.serial, row, present, same⟩
  rw [conflict] at inserted
  cases inserted

end Checks

/-! ## Facts about the tables that no call withdraws -/

section Facts

variable {C : Crypto} (keys : Keys C) (cfg : Config) (setup : Setup)

/-- The service has the device under this id, with this certificate. -/
def Registered (db : Db) (cert id : String) : Prop :=
  ∃ device ∈ db.identities, device.id = id ∧ device.serial = setup.serial ∧
    device.firmware = setup.firmware ∧ device.operationalCertPem = cert

/-- The certificate was issued by the Device CA for a request of this robot, and
its serial is pre-enrolled. -/
def Provisioned (db : Db) (cert : String) : Prop :=
  setup.serial ≠ "" ∧ (db.preEnrolled? setup.serial).isSome = true ∧
    ∃ key csrPem now entropy, keys.requestPem setup.serial key = .ok csrPem ∧
      signCsr C csrPem cfg.deviceCaCertPem cfg.deviceCaKeyPem 365 now entropy = .ok cert

variable {keys cfg setup}

theorem preEnrolled_of_grows {db db' : Db} (grows : db.Grows db') {serial : String}
    (present : (db.preEnrolled? serial).isSome = true) : (db'.preEnrolled? serial).isSome = true := by
  obtain ⟨row, found⟩ := Option.isSome_iff_exists.1 present
  obtain ⟨row', found', -⟩ := grows.preEnrolled serial row found
  rw [found']
  rfl

theorem Registered.of_grows {db db' : Db} (grows : db.Grows db') {cert id : String}
    (known : Registered setup db cert id) : Registered setup db' cert id := by
  obtain ⟨device, stored, fields⟩ := known
  exact ⟨device, grows.identities.subset stored, fields⟩

theorem Provisioned.of_grows {db db' : Db} (grows : db.Grows db') {cert : String}
    (known : Provisioned keys cfg setup db cert) : Provisioned keys cfg setup db' cert :=
  ⟨known.1, preEnrolled_of_grows grows known.2.1, known.2.2⟩

end Facts

/-! ## Calls of the robots -/

section Calls

variable {C : Crypto} {keys : Keys C} {cfg : Config} {setup : Setup}

/-- The call in flight is the one that the agent waits for. -/
def Awaits (setup : Setup) (db : Db) (agent : Agent) (p : InFlight C) : Prop :=
  match agent.process, p with
  | .provisionCall csrPem, .provisioning req _ =>
    req.csrPem = csrPem ∧ setup.serial ≠ "" ∧ (db.preEnrolled? setup.serial).isSome = true
  | .enrollCall _, .claimed req certSerial _ | .enrollCall _, .signed req certSerial _ _ _ =>
    certSerial = setup.serial ∧ req.firmware = setup.firmware
  | _, _ => False

theorem Awaits.of_grows {db db' : Db} (grows : db.Grows db') {agent : Agent} {p : InFlight C}
    (awaits : Awaits setup db agent p) : Awaits setup db' agent p := by
  unfold Awaits at awaits ⊢
  split at awaits
  · exact ⟨awaits.1, awaits.2.1, preEnrolled_of_grows grows awaits.2.2⟩
  · exact awaits
  · exact awaits
  · cases awaits

/-- It stays so until the call returns. -/
theorem Awaits.advance {db : Db} {agent : Agent} {p p' : InFlight C} {move : Move C}
    {o : Outcome Db (InFlight C) (Event C)} (moved : Advances C cfg db (some p) move o)
    (awaits : Awaits setup db agent p) (goesOn : o.call = some p') : Awaits setup o.state agent p' := by
  cases moved with
  | idle =>
      cases goesOn
      exact awaits
  | enrollSigned req certSerial pre now later entropy cert expiresAt issued =>
      cases goesOn
      unfold Awaits at awaits ⊢
      cases stands : agent.process <;> simp only [stands] at awaits ⊢
      exact awaits
  | abandoned | provisionSigned | enrollUnsigned | enrollConflict | enrollCreated | renewSigned =>
      cases goesOn

/-- An answer to the call is what the agent was promised. -/
theorem awaits_told {db : Db} {agent : Agent} {p : InFlight C} {move : Move C}
    {o : Outcome Db (InFlight C) (Event C)} {event : Event C}
    (moved : Advances C cfg db (some p) move o) (returned : o.event = some event)
    (awaits : Awaits setup db agent p) (requested : Requested keys setup.serial agent) :
    Told (Provisioned keys cfg setup o.state) (Registered setup o.state) agent (reply event) := by
  cases moved with
  | idle | abandoned | enrollSigned => cases returned
  | provisionSigned req model now entropy =>
      cases returned
      unfold Awaits at awaits
      split at awaits
      · rename_i csrPem _ _ stands same
        cases same
        obtain ⟨rfl, serial, present⟩ := awaits
        obtain ⟨key, made⟩ := requested req.csrPem (by rw [stands]; rfl)
        cases signed : provisionSign C cfg req now entropy with
        | error status => simp only [Told, reply, stands]
        | ok cert =>
            simp only [Told, reply, stands]
            exact ⟨serial, present, key, req.csrPem, now, entropy, made, mapError_ok.1 signed⟩
      · rename_i same
        cases same
      · rename_i same
        cases same
      · cases awaits
  | enrollUnsigned | enrollConflict | renewSigned =>
      cases returned
      unfold Told reply
      split <;> simp_all
  | enrollCreated req certSerial pre cert expiresAt id now result db' created =>
      cases returned
      obtain ⟨record, ran, rfl⟩ := enrollCreate_ok created
      have recorded : record.id = id := by
        obtain ⟨devices, rfl, -, -⟩ := createDevice_ok ran
        rfl
      unfold Awaits at awaits
      cases stands : agent.process <;> simp only [stands] at awaits
      simp only [Told, reply, stands]
      refine ⟨⟨id, certSerial, pre.model, req.firmware, cert, now⟩, ?_, recorded.symm, awaits.1,
        awaits.2, rfl⟩
      rw [createDevice_identities ran]
      exact List.mem_append_right _ (List.mem_singleton.2 rfl)

/-- The first move of a robot's own call: the call is in flight for it, or it was
refused. -/
theorem request_opens {db : Db} {agent : Agent} {now : Int} {move : Move C}
    {o : Outcome Db (InFlight C) (Event C)} (wants : request setup agent now = some move)
    (device : DeviceBacked (Provisioned keys cfg setup db) agent)
    (moved : Advances C cfg db none move o) :
    (∀ p, o.call = some p → Awaits setup o.state agent p) ∧
      ∀ event, o.event = some event → reply event = .fail := by
  unfold request at wants
  cases stands : agent.process <;> simp only [stands] at wants <;> try cases wants
  case provisionCall csrPem =>
      cases moved with
      | idle => exact ⟨nofun, nofun⟩
      | provisionRefused => exact ⟨nofun, by rintro event ⟨⟩; rfl⟩
      | provisionClaimed req now model db' claimed =>
          obtain ⟨named, present⟩ := provisionClaim_leaves claimed
          refine ⟨?_, nofun⟩
          rintro p ⟨⟩
          simp only [Awaits, stands]
          exact ⟨trivial, named, present⟩
  case enrollCall csrPem =>
      split at wants
      · rename_i certs read
        cases wants
        obtain ⟨cert, stored⟩ : ∃ cert, agent.disk .devicePem = some cert := by
          cases found : agent.disk .devicePem with
          | none => simp [found] at read
          | some cert => exact ⟨cert, rfl⟩
        cases moved with
        | idle => exact ⟨nofun, nofun⟩
        | enrollRefused => exact ⟨nofun, by rintro event ⟨⟩; rfl⟩
        | enrollClaimed req certSerial pre db' claimed =>
            have named := checkPeer_serial (enrollClaim_ok claimed).1 (device.stored cert stored).1
            refine ⟨?_, nofun⟩
            rintro p ⟨⟩
            simp only [Awaits, stands]
            exact ⟨named, trivial⟩
      · cases wants

end Calls

/-! ## The invariant -/

section Invariant

variable {C : Crypto} (keys : Keys C) (cfg : Config) (setups : Nat → Setup)

/-- A robot's directory is backed by the tables, and so is what it waits for. -/
structure SoundClient (setup : Setup) (w : World Db (InFlight C) (Event C)) (next : Nat)
    (client : Client) : Prop where
  staged : Staged client.agent
  requested : Requested keys setup.serial client.agent
  device : DeviceBacked (Provisioned keys cfg setup w.state) client.agent
  operational : Backed (Registered setup w.state) client.agent
  waiting : ∀ call, client.waiting = some call → call < next ∧
    ∀ p, w.calls call = some p → Awaits setup w.state client.agent p

structure Sound (s : State C) : Prop where
  unused : ∀ call, s.next ≤ call → s.world.calls call = none
  clients : ∀ robot, SoundClient keys cfg (setups robot) s.world s.next (s.clients robot)

variable {keys cfg setups}

theorem sound_init : Sound keys cfg setups (.init : State C) where
  unused _ _ := rfl
  clients _ := ⟨Robot.staged_fresh, nofun, Robot.deviceBacked_fresh, Robot.backed_fresh, nofun⟩

section Moves

variable {setup : Setup} {w : World Db (InFlight C) (Event C)} {next : Nat} {client : Client}

/-- What an action of the service does to the calls and the tables. -/
theorem service_grows (w : World Db (InFlight C) (Event C))
    (a : Theory.Calls.Action DirectOp (Move C)) : w.state.Grows ((service C cfg).step w a).state := by
  cases a with
  | direct op => exact exec_grows w.state op.1
  | call id move => exact (advance_spec C cfg (w.calls id) w.state move).grows
  | restart => exact Db.Grows.rfl

theorem service_calls_other (w : World Db (InFlight C) (Event C)) {call other : Nat} (move : Move C)
    (apart : other ≠ call) : ((service C cfg).step w (.call call move)).calls other = w.calls other :=
  Function.update_of_ne apart ..

theorem service_calls_self (w : World Db (InFlight C) (Event C)) (call : Nat) (move : Move C) :
    ((service C cfg).step w (.call call move)).calls call =
      (advance C cfg (w.calls call) w.state move).call :=
  Function.update_self ..

theorem service_state (w : World Db (InFlight C) (Event C)) (call : Nat) (move : Move C) :
    ((service C cfg).step w (.call call move)).state =
      (advance C cfg (w.calls call) w.state move).state := rfl

/-- The service moves on and the robot stands still. -/
theorem SoundClient.of_service (sound : SoundClient keys cfg setup w next client)
    {w' : World Db (InFlight C) (Event C)} {next' : Nat} (grows : w.state.Grows w'.state)
    (later : next ≤ next')
    (calls : ∀ call p, client.waiting = some call → w'.calls call = some p →
      Awaits setup w'.state client.agent p) : SoundClient keys cfg setup w' next' client where
  staged := sound.staged
  requested := sound.requested
  device := sound.device.mono fun _ => Provisioned.of_grows grows
  operational := sound.operational.mono fun _ _ => Registered.of_grows grows
  waiting call waits :=
    ⟨Nat.lt_of_lt_of_le (sound.waiting call waits).1 later, fun p flying => calls call p waits flying⟩

/-- A move of one call, seen by a robot that does not get its answer. -/
theorem SoundClient.of_call (sound : SoundClient keys cfg setup w next client) (call : Nat) (move : Move C)
    {next' : Nat} (later : next ≤ next')
    (fresh : w.calls call = none → client.waiting ≠ some call) :
    SoundClient keys cfg setup ((service C cfg).step w (.call call move)) next' client := by
  have grows : w.state.Grows ((service C cfg).step w (.call call move)).state := service_grows w _
  refine sound.of_service grows later fun other p waits flying => ?_
  by_cases same : other = call
  · subst same
    cases before : w.calls other with
    | none => exact absurd waits (fresh before)
    | some q =>
        have moved := advance_spec C cfg (w.calls other) w.state move
        rw [service_calls_self, before] at flying
        rw [before] at moved
        have own := Awaits.advance moved ((sound.waiting other waits).2 q before) flying
        rwa [service_state, before]
  · rw [service_calls_other w move same] at flying
    exact ((sound.waiting other waits).2 p flying).of_grows grows

/-- The robot acts on an answer that it was promised, or on its own. -/
theorem SoundClient.of_agent (sound : SoundClient keys cfg setup w next client) (a : Robot.Action C)
    (told : Told (Provisioned keys cfg setup w.state) (Registered setup w.state) client.agent a)
    {waiting : Option Nat}
    (waits : ∀ call, waiting = some call → call < next ∧ ∀ p, w.calls call = some p →
      Awaits setup w.state (Robot.step keys setup.serial client.agent a) p) :
    SoundClient keys cfg setup w next ⟨Robot.step keys setup.serial client.agent a, waiting⟩ where
  staged := Robot.staged_step _ a sound.staged
  requested := Robot.requested_step _ a sound.requested
  device := Robot.deviceBacked_step (R := Registered setup w.state) _ a sound.device told
  operational := Robot.backed_step (D := Provisioned keys cfg setup w.state) _ a sound.staged
    sound.operational told
  waiting := waits

theorem told_own {D : String → Prop} {R : String → String → Prop} (agent : Agent) {a : Robot.Action C}
    (own : isOwn a = true) : Told D R agent a := by
  unfold Told
  split
  · cases own
  · cases own
  · trivial

theorem Awaits.calls {db : Db} {agent : Agent} {p : InFlight C} (awaits : Awaits setup db agent p) :
    ∃ csrPem, agent.process.csrPem? = some csrPem := by
  unfold Awaits at awaits
  cases stands : agent.process <;> simp only [stands] at awaits
  · exact ⟨_, rfl⟩
  · exact ⟨_, rfl⟩

/-- A process that waits for an answer does nothing else, or it ends. -/
theorem own_while_waiting (keys : Keys C) (serial : String) {agent : Agent} {csrPem : String}
    (waits : agent.process.csrPem? = some csrPem) {a : Robot.Action C} (own : isOwn a = true) :
    Robot.step keys serial agent a = agent ∨ (Robot.step keys serial agent a).process = .stopped := by
  obtain ⟨disk, p⟩ := agent
  cases p with
  | provisionCall | enrollCall =>
      cases a with
      | fail | crash => exact Or.inr rfl
      | start | proceed | generate => exact Or.inl rfl
      | provisioned | enrolled => cases own
  | _ => cases waits

theorem SoundClient.of_own (sound : SoundClient keys cfg setup w next client) {a : Robot.Action C}
    (own : isOwn a = true) : SoundClient keys cfg setup w next (client.act keys setup.serial a) := by
  refine sound.of_agent a (told_own _ own) fun call waits => ?_
  split at waits
  · cases waits
  · rename_i lives
    obtain ⟨below, awaits⟩ := sound.waiting call waits
    refine ⟨below, fun p flying => ?_⟩
    obtain ⟨csrPem, standing⟩ := (awaits p flying).calls
    rcases own_while_waiting keys setup.serial standing own with same | ended
    · rw [same]
      exact awaits p flying
    · exact absurd ended lives

end Moves

/-- One robot moves: the others are as sound as they were. -/
theorem Sound.of_update {w : World Db (InFlight C) (Event C)} {clients : Nat → Client} {next robot : Nat}
    {client : Client} (unused : ∀ call, next ≤ call → w.calls call = none)
    (others : ∀ other, other ≠ robot → SoundClient keys cfg (setups other) w next (clients other))
    (own : SoundClient keys cfg (setups robot) w next client) :
    Sound keys cfg setups ⟨w, Function.update clients robot client, next⟩ := by
  refine ⟨unused, fun other => ?_⟩
  by_cases same : other = robot
  · subst same
    simpa using own
  · simpa [same] using others other same

/-- **Every action keeps it.** -/
theorem sound_step (s : State C) (a : Action C) (sound : Sound keys cfg setups s) :
    Sound keys cfg setups (step keys cfg setups s a) := by
  have moved := step_spec keys cfg setups s a
  generalize step keys cfg setups s a = after at moved
  -- a number that was never used is free, and nobody waits for it
  have free : s.world.calls s.next = none := sound.unused s.next (Nat.le_refl _)
  have nobody : ∀ robot, (s.clients robot).waiting ≠ some s.next := by
    intro robot waits
    have below := ((sound.clients robot).waiting s.next waits).1
    omega
  have opened : ∀ (move : Move C) (call : Nat), s.next + 1 ≤ call →
      ((service C cfg).step s.world (.call s.next move)).calls call = none := by
    intro move call above
    rw [service_calls_other s.world move (by omega)]
    exact sound.unused call (by omega)
  have stillOpen : ∀ (move : Move C) (robot : Nat), SoundClient keys cfg (setups robot)
      ((service C cfg).step s.world (.call s.next move)) (s.next + 1) (s.clients robot) :=
    fun move robot => (sound.clients robot).of_call s.next move (Nat.le_succ _) fun _ => nobody robot
  -- a call in flight has a number that was used
  have advanced : ∀ (call : Nat) (move : Move C) (p : InFlight C), s.world.calls call = some p →
      ∀ other, s.next ≤ other →
        ((service C cfg).step s.world (.call call move)).calls other = none := by
    intro call move p flying other above
    have apart : other ≠ call := by
      rintro rfl
      rw [sound.unused other above] at flying
      cases flying
    rw [service_calls_other s.world move apart]
    exact sound.unused other above
  have stillFlying : ∀ (call : Nat) (move : Move C) (p : InFlight C), s.world.calls call = some p →
      ∀ robot, SoundClient keys cfg (setups robot) ((service C cfg).step s.world (.call call move)) s.next
        (s.clients robot) := by
    intro call move p flying robot
    refine (sound.clients robot).of_call call move (Nat.le_refl _) fun none_ => ?_
    rw [flying] at none_
    cases none_
  cases moved with
  | idle => exact sound
  | direct op =>
      refine ⟨sound.unused, fun robot => (sound.clients robot).of_service (service_grows _ _)
        (Nat.le_refl _) fun call p waits flying => ?_⟩
      exact (((sound.clients robot).waiting call waits).2 p flying).of_grows (service_grows _ (.direct op))
  | restarted =>
      exact ⟨fun _ _ => rfl, fun robot => (sound.clients robot).of_service Db.Grows.rfl
        (Nat.le_refl _) fun call p waits flying => by cases flying⟩
  | opened move => exact ⟨opened move, stillOpen move⟩
  | own robot a =>
      exact .of_update sound.unused (fun other _ => sound.clients other) ((sound.clients robot).of_own a.2)
  | sent robot now told move idle wants =>
      have moved := advance_spec C cfg (s.world.calls s.next) s.world.state move
      rw [free] at moved
      obtain ⟨awaits, -⟩ := request_opens wants (sound.clients robot).device moved
      have here := stillOpen move robot
      refine .of_update (opened move) (fun other _ => stillOpen move other)
        ⟨here.staged, here.requested, here.device, here.operational, ?_⟩
      rintro call ⟨⟩
      refine ⟨Nat.lt_succ_self _, fun p flying => ?_⟩
      rw [service_calls_self, free] at flying
      rw [service_state, free]
      exact awaits p flying
  | refused robot now told move event idle wants returned =>
      have moved := advance_spec C cfg (s.world.calls s.next) s.world.state move
      have fails := (request_opens wants (sound.clients robot).device (free ▸ moved)).2 event
        (by rw [← returned, eventOf, free]; rfl)
      refine .of_update (opened move) (fun other _ => stillOpen move other) ?_
      unfold Client.receive
      rw [fails]
      exact (stillOpen move robot).of_agent .fail (told_own _ rfl) nofun
  | advanced call move told p flying => exact ⟨advanced call move p flying, stillFlying call move p flying⟩
  | answered robot call move p event flying returned waits =>
      have moved := advance_spec C cfg (s.world.calls call) s.world.state move
      have awaits := ((sound.clients robot).waiting call waits).2 p flying
      have told := awaits_told (flying ▸ moved) (by rw [← returned, eventOf, flying]; rfl) awaits
        (sound.clients robot).requested
      rw [← flying, ← service_state] at told
      refine .of_update (advanced call move p flying)
        (fun other _ => stillFlying call move p flying other) ?_
      exact (stillFlying call move p flying robot).of_agent (reply event) told nofun

variable (keys cfg setups)

theorem sound_operate (actions : List (Action C)) : Sound keys cfg setups (operate keys cfg setups actions) :=
  run_invariant_free _ sound_step sound_init actions

/-- **An online robot and the service agree.**  It uses the id and the certificate
of a device that the service has under the robot's serial and firmware. -/
theorem online_robots_agree (actions : List (Action C)) (robot : Nat) {cert key id : String}
    (online : ((operate keys cfg setups actions).clients robot).agent.process = .online cert key id) :
    ∃ device ∈ (operate keys cfg setups actions).world.state.devices.rows,
      device.id = id ∧ device.serial = (setups robot).serial ∧
        device.firmware = (setups robot).firmware ∧ device.operationalCertPem = cert := by
  have sound := (sound_operate keys cfg setups actions).clients robot
  obtain ⟨stored, -, named⟩ := sound.operational.online cert key id online
  obtain ⟨id', known, only⟩ := sound.operational.stored cert stored
  obtain rfl := only id named
  obtain ⟨device, recorded, fields⟩ := known
  obtain ⟨row, present, rfl⟩ := List.mem_map.1 recorded
  exact ⟨row, present, fields⟩

theorem frozen_operate (before after : List (Action C)) (robot : Nat) {cert key id : String}
    (online : ((operate keys cfg setups before).clients robot).agent.process = .online cert key id) :
    Robot.Frozen ((operate keys cfg setups before).clients robot).agent.disk
      ((operate keys cfg setups (before ++ after)).clients robot).agent := by
  have sound := (sound_operate keys cfg setups before).clients robot
  obtain ⟨stored, -, -⟩ := sound.operational.online cert key id online
  have operational := Option.isSome_iff_exists.2 ⟨cert, stored⟩
  have device := sound.device.provisioned (Or.inr operational)
  rw [operate_append]
  refine run_invariant_free (step keys cfg setups)
    (I := fun s => Robot.Frozen _ (s.clients robot).agent) ?_ ?_ after
  · intro s a frozen
    rcases agent_step keys cfg setups s a robot with same | ⟨b, moved⟩
    · rwa [same]
    · rw [moved]
      exact Robot.frozen_step device operational frozen b
  · exact ⟨rfl, by rw [online]; rfl, by rw [online]; rfl⟩

/-- **Credentials are for life.**  Once a robot has been online, whatever happens later
(crashes, restarts, calls of anybody, renewals of its certificate among them): its files
stay as they are, it never goes online with another certificate, key or id, and the
service keeps that certificate in the row of that id. -/
theorem credentials_for_life (before after : List (Action C)) (robot : Nat) {cert key id : String}
    (online : ((operate keys cfg setups before).clients robot).agent.process = .online cert key id) :
    ((operate keys cfg setups (before ++ after)).clients robot).agent.disk =
        ((operate keys cfg setups before).clients robot).agent.disk ∧
      (∀ cert' key' id', ((operate keys cfg setups (before ++ after)).clients robot).agent.process =
          .online cert' key' id' → cert' = cert ∧ key' = key ∧ id' = id) ∧
      ∃ device ∈ (operate keys cfg setups (before ++ after)).world.state.devices.rows,
        device.id = id ∧ device.operationalCertPem = cert := by
  have kept := (frozen_operate keys cfg setups before after robot online).files
  have sound := (sound_operate keys cfg setups before).clients robot
  have sound' := (sound_operate keys cfg setups (before ++ after)).clients robot
  obtain ⟨stored, held, named⟩ := sound.operational.online cert key id online
  refine ⟨kept, ?_, ?_⟩
  · intro cert' key' id' online'
    obtain ⟨stored', held', named'⟩ := sound'.operational.online cert' key' id' online'
    rw [kept] at stored' held' named'
    exact ⟨Option.some.inj (stored'.symm.trans stored), Option.some.inj (held'.symm.trans held),
      Option.some.inj (named'.symm.trans named)⟩
  · obtain ⟨_, ⟨device, recorded, here, -, -, issued⟩, only⟩ :=
      sound'.operational.stored cert (by rw [kept]; exact stored)
    obtain ⟨row, present, rfl⟩ := List.mem_map.1 recorded
    exact ⟨row, present, here.trans (only id (by rw [kept]; exact named)).symm, issued⟩

/-! ## One robot of a serial -/

variable {keys cfg setups}

/-- The agent has been given an operational certificate. -/
def HoldsCert (agent : Agent) : Prop :=
  agent.process.response?.isSome = true ∨ (agent.disk .operationalPem).isSome = true

theorem holdsCert_step {serial : String} (agent : Agent) (a : Robot.Action C)
    (holds : HoldsCert (Robot.step keys serial agent a)) :
    HoldsCert agent ∨ ∃ r, a = .enrolled r := by
  obtain ⟨disk, p⟩ := agent
  have moved := Robot.step_spec keys serial ⟨disk, p⟩ a
  generalize Robot.step keys serial ⟨disk, p⟩ a = after at moved holds
  unfold HoldsCert at holds ⊢
  cases moved with
  | idle => exact Or.inl holds
  | enrolled csrPem r => exact Or.inr ⟨r, rfl⟩
  | operationalCert | chain | deviceId => exact Or.inl (Or.inl rfl)
  | ended | gaveUp | start | skipProvisioning | needsProvisioning | provisioned | skipEnrollment
  | needsEnrollment | online =>
      refine Or.inl (Or.inr ?_)
      simpa [Process.response?] using holds
  | deviceKeyOnly | deviceKey | deviceCert | operationalKeyOnly | operationalKey =>
      refine Or.inl (Or.inr ?_)
      simpa [Process.response?] using holds

theorem SoundClient.registered {setup : Setup} {w : World Db (InFlight C) (Event C)} {next : Nat}
    {client : Client} (sound : SoundClient keys cfg setup w next client)
    (holds : HoldsCert client.agent) : ∃ cert id, Registered setup w.state cert id := by
  rcases holds with storing | stored
  · obtain ⟨r, here⟩ := Option.isSome_iff_exists.1 storing
    exact ⟨_, _, sound.operational.response r here⟩
  · obtain ⟨cert, here⟩ := Option.isSome_iff_exists.1 stored
    obtain ⟨id, known, -⟩ := sound.operational.stored cert here
    exact ⟨cert, id, known⟩

/-- An enrollment that is answered `Ok` was the first of its serial. -/
theorem Awaits.first {setup : Setup} {db : Db} {agent : Agent} {p : InFlight C} {move : Move C}
    {o : Outcome Db (InFlight C) (Event C)} {event : Event C} {r : EnrollResponse}
    (moved : Advances C cfg db (some p) move o) (returned : o.event = some event)
    (awaits : Awaits setup db agent p) (enrolled : reply event = .enrolled r) :
    ∀ device ∈ db.identities, device.serial ≠ setup.serial := by
  cases moved with
  | idle | abandoned | enrollSigned => cases returned
  | provisionSigned req model now entropy =>
      cases returned
      cases signed : provisionSign C cfg req now entropy <;> simp [reply, signed] at enrolled
  | enrollUnsigned | enrollConflict | renewSigned =>
      cases returned
      cases enrolled
  | enrollCreated req certSerial pre cert expiresAt id now result db' created =>
      obtain ⟨record, ran, -⟩ := enrollCreate_ok created
      have new := createDevice_new ran
      unfold Awaits at awaits
      cases stands : agent.process <;> simp only [stands] at awaits
      rwa [← awaits.1]

/-- **A certificate is gained only while the serial has no device.** -/
theorem gains_cert {s : State C} (sound : Sound keys cfg setups s) (a : Action C) (robot : Nat)
    (holds : HoldsCert ((step keys cfg setups s a).clients robot).agent) :
    HoldsCert (s.clients robot).agent ∨
      ∀ device ∈ s.world.state.identities, device.serial ≠ (setups robot).serial := by
  have moved := step_spec keys cfg setups s a
  generalize step keys cfg setups s a = after at moved holds
  -- a robot that stands still has what it had
  have elsewhere : ∀ (other : Nat) (client : Client),
      HoldsCert (Function.update s.clients other client robot).agent →
      (robot = other → HoldsCert client.agent → HoldsCert (s.clients robot).agent ∨
        ∀ device ∈ s.world.state.identities, device.serial ≠ (setups robot).serial) →
      HoldsCert (s.clients robot).agent ∨
        ∀ device ∈ s.world.state.identities, device.serial ≠ (setups robot).serial := by
    intro other client holds here
    by_cases same : robot = other
    · subst same
      rw [Function.update_self] at holds
      exact here rfl holds
    · rw [Function.update_of_ne same] at holds
      exact Or.inl holds
  cases moved with
  | idle | direct | restarted | opened | advanced => exact Or.inl holds
  | own other a =>
      refine elsewhere other _ holds fun same holds => ?_
      subst same
      rcases holdsCert_step _ a.1 holds with before | ⟨r, enrolled⟩
      · exact Or.inl before
      · have own := a.2
        rw [enrolled] at own
        cases own
  | sent other =>
      refine elsewhere other _ holds fun same holds => ?_
      subst same
      exact Or.inl holds
  | refused other now told move event idle wants returned =>
      refine elsewhere other _ holds fun same holds => ?_
      subst same
      have free : s.world.calls s.next = none := sound.unused s.next (Nat.le_refl _)
      have moved := advance_spec C cfg (s.world.calls s.next) s.world.state move
      have fails := (request_opens wants (sound.clients robot).device (free ▸ moved)).2 event
        (by rw [← returned, eventOf, free]; rfl)
      rcases holdsCert_step _ (reply event) holds with before | ⟨r, enrolled⟩
      · exact Or.inl before
      · rw [fails] at enrolled
        cases enrolled
  | answered other call move p event flying returned waits =>
      refine elsewhere other _ holds fun same holds => ?_
      subst same
      have moved := advance_spec C cfg (s.world.calls call) s.world.state move
      have awaits := ((sound.clients robot).waiting call waits).2 p flying
      rcases holdsCert_step _ (reply event) holds with before | ⟨r, enrolled⟩
      · exact Or.inl before
      · exact Or.inr (awaits.first (flying ▸ moved) (by rw [← returned, eventOf, flying]; rfl) enrolled)

/-- Of two robots at least one stands still. -/
theorem one_moves (keys : Keys C) (cfg : Config) (setups : Nat → Setup) (s : State C) (a : Action C)
    {robot robot' : Nat} (apart : robot ≠ robot') :
    (step keys cfg setups s a).clients robot = s.clients robot ∨
      (step keys cfg setups s a).clients robot' = s.clients robot' := by
  have moved := step_spec keys cfg setups s a
  generalize step keys cfg setups s a = after at moved
  cases moved with
  | idle | direct | restarted | opened | advanced => exact Or.inl rfl
  | own other | sent other | refused other | answered other =>
      by_cases here : robot = other
      · subst here
        exact Or.inr (Function.update_of_ne apart.symm ..)
      · exact Or.inl (Function.update_of_ne here ..)

/-- No two robots of one serial hold a certificate. -/
def Sole (setups : Nat → Setup) (s : State C) : Prop :=
  ∀ robot robot', (setups robot).serial = (setups robot').serial →
    HoldsCert (s.clients robot).agent → HoldsCert (s.clients robot').agent → robot = robot'

theorem sole_step (s : State C) (a : Action C) (sound : Sound keys cfg setups s) (sole : Sole setups s) :
    Sole setups (step keys cfg setups s a) := by
  -- one of the two had its certificate before, so the other one cannot have gained its own
  have settled : ∀ robot robot', (setups robot).serial = (setups robot').serial →
      HoldsCert (s.clients robot).agent → HoldsCert ((step keys cfg setups s a).clients robot').agent →
      robot = robot' := by
    intro robot robot' serial holds holds'
    rcases gains_cert sound a robot' holds' with before | none_
    · exact sole robot robot' serial holds before
    · obtain ⟨cert, id, device, stored, -, own, -⟩ := (sound.clients robot).registered holds
      exact absurd (own.trans serial) (none_ device stored)
  intro robot robot' serial holds holds'
  by_contra apart
  rcases one_moves keys cfg setups s a apart with still | still
  · exact apart (settled robot robot' serial (still ▸ holds) holds')
  · exact apart (settled robot' robot serial.symm (still ▸ holds') holds).symm

variable (keys cfg setups)

theorem sole_operate (actions : List (Action C)) : Sole setups (operate keys cfg setups actions) := by
  have both : Sound keys cfg setups (operate keys cfg setups actions) ∧
      Sole setups (operate keys cfg setups actions) := by
    refine run_invariant_free (step keys cfg setups)
      (I := fun s => Sound keys cfg setups s ∧ Sole setups s) ?_ ⟨sound_init, ?_⟩ actions
    · intro s a holds
      exact ⟨sound_step s a holds.1, sole_step s a holds.1 holds.2⟩
    · rintro robot robot' - (storing | stored)
      · cases storing
      · cases stored
  exact both.2

theorem grows_step (s : State C) (a : Action C) :
    s.world.state.Grows (step keys cfg setups s a).world.state := by
  rcases world_step keys cfg setups s a with same | ⟨b, moved, -⟩
  · rw [same]
    exact Db.Grows.rfl
  · rw [moved]
    exact service_grows s.world b

/-- A robot whose serial another one has enrolled never gets a certificate. -/
theorem never_holdsCert (before after : List (Action C)) {robot robot' : Nat} (apart : robot ≠ robot')
    (serial : (setups robot).serial = (setups robot').serial)
    (holds : HoldsCert ((operate keys cfg setups before).clients robot).agent) :
    ¬ HoldsCert ((operate keys cfg setups (before ++ after)).clients robot').agent := by
  rw [operate_append]
  refine (run_invariant_free (step keys cfg setups)
    (I := fun s => Sound keys cfg setups s ∧
      (∃ device ∈ s.world.state.identities, device.serial = (setups robot').serial) ∧
      ¬ HoldsCert (s.clients robot').agent) ?_ ⟨sound_operate keys cfg setups before, ?_, ?_⟩ after).2.2
  · rintro s a ⟨sound, ⟨device, stored, own⟩, none_⟩
    refine ⟨sound_step s a sound, ⟨device, ?_, own⟩, fun gained => ?_⟩
    · exact (grows_step keys cfg setups s a).identities.subset stored
    · rcases gains_cert sound a robot' gained with already | free
      · exact none_ already
      · exact free device stored own
  · obtain ⟨cert, id, device, stored, -, own, -⟩ :=
      ((sound_operate keys cfg setups before).clients robot).registered holds
    exact ⟨device, stored, own.trans serial⟩
  · exact fun holds' => apart (sole_operate keys cfg setups before robot robot' serial holds holds')

theorem grows_operate (before after : List (Action C)) :
    (operate keys cfg setups before).world.state.Grows
      (operate keys cfg setups (before ++ after)).world.state := by
  rw [operate_append]
  refine run_invariant_free (step keys cfg setups)
    (I := fun s => (operate keys cfg setups before).world.state.Grows s.world.state) ?_ Db.Grows.rfl after
  exact fun s a grows => grows.trans (grows_step keys cfg setups s a)

/-- An online robot is in the tables under its own id. -/
theorem registered_online (actions : List (Action C)) {robot : Nat} {cert key id : String}
    (online : ((operate keys cfg setups actions).clients robot).agent.process = .online cert key id) :
    Registered (setups robot) (operate keys cfg setups actions).world.state cert id ∧
      HoldsCert ((operate keys cfg setups actions).clients robot).agent := by
  have sound := (sound_operate keys cfg setups actions).clients robot
  obtain ⟨stored, -, named⟩ := sound.operational.online cert key id online
  obtain ⟨_, known, only⟩ := sound.operational.stored cert stored
  obtain rfl := only id named
  exact ⟨known, Or.inr (by simp [stored])⟩

/-- **One robot of a serial, for good.**  Of two robots set up with one serial, a clone of
a robot say: once one of them has an operational certificate, the other never gets any.
And no two robots are ever online under one device id, at the same time or one after the
other. -/
theorem one_robot_per_serial (before after : List (Action C)) (robot robot' : Nat)
    (apart : robot ≠ robot') :
    ((setups robot).serial = (setups robot').serial →
      HoldsCert ((operate keys cfg setups before).clients robot).agent →
      ¬ HoldsCert ((operate keys cfg setups (before ++ after)).clients robot').agent) ∧
    ∀ cert key id cert' key' id',
      ((operate keys cfg setups before).clients robot).agent.process = .online cert key id →
      ((operate keys cfg setups (before ++ after)).clients robot').agent.process =
        .online cert' key' id' →
      id ≠ id' := by
  refine ⟨fun serial holds => never_holdsCert keys cfg setups before after apart serial holds, ?_⟩
  intro cert key id cert' key' id' online online' same
  obtain ⟨known, holds⟩ := registered_online keys cfg setups before online
  obtain ⟨device', recorded', here', serial', -⟩ :=
    (registered_online keys cfg setups (before ++ after) online').1
  have holds' := (registered_online keys cfg setups (before ++ after) online').2
  obtain ⟨device, recorded, here, serial, -⟩ := known.of_grows (grows_operate keys cfg setups before after)
  -- one id is one row, so the two robots would have one serial
  have ids : device.id = device'.id := by rw [here, here', same]
  obtain ⟨row, present, rfl⟩ := List.mem_map.1 recorded
  obtain ⟨row', present', rfl⟩ := List.mem_map.1 recorded'
  have one : row = row' := Table.eq_of_key _ DeviceKey.id present present' ids
  subst one
  exact never_holdsCert keys cfg setups before after apart (serial.symm.trans serial') holds holds'

end Invariant

/-! ## A robot and its clone -/

namespace Toy

def keys : Keys Pki.Toy.crypto where
  serializePem := id
  requestPem := fun cn _ => .ok cn
  keyPublic := id

/-- Every robot is set up as `SN-1`. -/
def clones (_ : Nat) : Setup := ⟨"SN-1", "token-1", "1.0.0"⟩

def own (robot : Nat) (a : Robot.Action Pki.Toy.crypto) (own : isOwn a = true) : Action Pki.Toy.crypto :=
  .own robot ⟨a, own⟩

def proceed (robot : Nat) : Action Pki.Toy.crypto := own robot .proceed rfl

/-- Robot 0 goes online; then robot 1 asks with the same serial and token. -/
def onboarding : List (Action Pki.Toy.crypto) :=
  [.direct (Device.Toy.seed "SN-1" "token-1"),
   own 0 .start rfl, proceed 0, own 0 (.generate "k1") rfl, .send 0 100 true,
   .advance 0 (.provisionSign 100 0) (some 0), proceed 0, proceed 0, own 0 (.generate "k2") rfl,
   .send 0 200 true, .advance 1 (.enrollSign 200 200 0) none,
   .advance 1 (.enrollCreate "id-1" 200) (some 0), proceed 0, proceed 0, proceed 0, proceed 0,
   own 1 .start rfl, proceed 1, own 1 (.generate "k3") rfl, .send 1 300 true]

end Toy

theorem online_robots_agree_onboarding :
    ∃ device ∈ (operate Toy.keys Device.Toy.config Toy.clones Toy.onboarding).world.state.devices.rows,
      device.id = "id-1" ∧ device.serial = "SN-1" ∧ device.firmware = "1.0.0" ∧
        device.operationalCertPem = "fleet-ca|SN-1" :=
  online_robots_agree Toy.keys Device.Toy.config Toy.clones Toy.onboarding 0
    (show _ = Process.online "fleet-ca|SN-1" "k2" "id-1" by decide)

/-- The robot is killed and started again, and its serial is registered anew. -/
theorem credentials_for_life_onboarding :
    ∃ device ∈ (operate Toy.keys Device.Toy.config Toy.clones (Toy.onboarding ++
        [Toy.own 0 .crash rfl, .direct ⟨.registerSerial "SN-1" "humanoid-v2", rfl⟩,
          Toy.own 0 .start rfl])).world.state.devices.rows,
      device.id = "id-1" ∧ device.operationalCertPem = "fleet-ca|SN-1" :=
  (credentials_for_life Toy.keys Device.Toy.config Toy.clones Toy.onboarding
    [Toy.own 0 .crash rfl, .direct ⟨.registerSerial "SN-1" "humanoid-v2", rfl⟩, Toy.own 0 .start rfl] 0
    (show _ = Process.online "fleet-ca|SN-1" "k2" "id-1" by decide)).2.2

/-- The robot is killed, and its clone is started again. -/
theorem one_robot_per_serial_onboarding :
    HoldsCert ((operate Toy.keys Device.Toy.config Toy.clones Toy.onboarding).clients 0).agent ∧
      ¬ HoldsCert ((operate Toy.keys Device.Toy.config Toy.clones (Toy.onboarding ++
        [Toy.own 0 .crash rfl, Toy.own 1 .crash rfl, Toy.own 1 .start rfl])).clients 1).agent := by
  have holds : HoldsCert ((operate Toy.keys Device.Toy.config Toy.clones Toy.onboarding).clients 0).agent :=
    Or.inr (by decide)
  exact ⟨holds, (one_robot_per_serial Toy.keys Device.Toy.config Toy.clones Toy.onboarding
    [Toy.own 0 .crash rfl, Toy.own 1 .crash rfl, Toy.own 1 .start rfl] 0 1 (by decide)).1 rfl holds⟩

end RobotFleet.Onboarding
