/-
# Device.Admission -- who gets a row in `devices`

Two invariants of the running service, over every interleaving of its calls.

* `enrolled_at_most_once`: the rows of `devices` and the `Ok` results of
  `bootstrap_enroll` correspond one to one, in order, each row with the serial of
  that call's peer certificate and the id and certificate its caller was given.
  Two calls can hold a claim on one serial (`register_serial` resets it), but
  only one of them gets past the `UNIQUE` constraint.
* `admission_chain`: while nobody calls `register_serial`, a `devices` row has a
  claimed `pre_enrollment` row with its model, and that one a provisioned
  `factory_manifest` row with its model.
-/
import RobotFleet.Device.Service

namespace RobotFleet.Device

open RobotFleet.Theory
open RobotFleet.Theory.Run
open RobotFleet.Theory.Calls (World Action Outcome Machine Holds holds_init holds_step)
open RobotFleet.Pki (Crypto extractSerial)

set_option autoImplicit false

variable {C : Crypto} {cfg : Config}

/-! ## What the calls write -/

@[simp] theorem claimManifestEntry_identities (serial token : String) (now : Int) (db : Db) :
    (claimManifestEntry serial token now db).2.identities = db.identities := by
  unfold claimManifestEntry
  repeat' split
  all_goals rfl

@[simp] theorem lookupAndClaim_identities (serial : String) (db : Db) :
    (lookupAndClaim serial db).2.identities = db.identities := by
  unfold lookupAndClaim
  repeat' split
  all_goals rfl

/-- Only `bootstrap_enroll` adds devices. -/
theorem exec_direct_identities (db : Db) {op : StoreOp} (direct : op.isDirect = true) :
    (exec db op).2.identities = db.identities := by
  cases op with
  | createDevice | lookupAndClaim => cases direct
  | registerSerial serial model => simp [exec, Db.identities]
  | seedManifest | getDevice | getBySerial | listDevices | countDevices | reopen => rfl
  | updateStatus | touchLastSeen | claimManifestEntry => simp [exec]

/-- A device that is created is added at the end, with the serial, the model
and the certificate of the call. -/
theorem createDevice_identities {d : NewDevice} {id : String} {now : Int} {db db' : Db}
    {record : DeviceRecord} (created : createDevice d id now db = (.ok record, db')) :
    db'.identities =
      db.identities ++ [⟨id, d.serial, d.model, d.firmware, d.operationalCertPem, now⟩] := by
  obtain ⟨devices, rfl, inserted, rfl⟩ := createDevice_ok created
  unfold Db.identities
  rw [Table.insert_rows inserted, List.map_append]
  rfl

/-! ## Enrollment at most once, with agreement -/

/-- The `Ok` results of `bootstrap_enroll`, oldest first, each with its request. -/
def okEnrollments (log : List (Event C)) : List (EnrollRequest C × EnrollResult) :=
  log.filterMap fun
    | .enrolled req (.ok result) => some (req, result)
    | _ => none

/-- The device is the one the caller was told about, under the serial of the
caller's certificate. -/
def Agrees (device : Identity) (told : EnrollRequest C × EnrollResult) : Prop :=
  extractSerial C told.1.peerCerts = .ok device.serial ∧ told.2.deviceId = device.id ∧
    told.2.operationalCertPem = device.operationalCertPem

/-- A call in flight carries the serial of its peer certificate. -/
def NamedByPeer : InFlight C → Prop
  | .claimed req certSerial _ | .signed req certSerial _ _ _ =>
    extractSerial C req.peerCerts = .ok certSerial
  | .provisioning .. | .renewing .. => True

/-- The devices, in order, against the results, in order. -/
def Ledger (db : Db) (log : List (Event C)) : Prop :=
  List.Forall₂ Agrees db.identities (okEnrollments log)

theorem okEnrollments_append (log : List (Event C)) (event : Option (Event C)) :
    okEnrollments (log ++ event.toList) = okEnrollments log ++ okEnrollments event.toList :=
  List.filterMap_append

theorem Ledger.of_silent {db db' : Db} {log : List (Event C)} {event : Option (Event C)}
    (ledger : Ledger db log) (same : db'.identities = db.identities)
    (silent : okEnrollments event.toList = []) : Ledger db' (log ++ event.toList) := by
  unfold Ledger
  rw [same, okEnrollments_append, silent, List.append_nil]
  exact ledger

/-- A move keeps the ledger: it returns `Ok` to an enrollment exactly when it
adds the device. -/
theorem Advances.ledger {db : Db} {log : List (Event C)} {call : Option (InFlight C)} {move : Move C}
    {o : Outcome Db (InFlight C) (Event C)} (moved : Advances C cfg db call move o)
    (named : ∀ p, call = some p → NamedByPeer p) (ledger : Ledger db log) :
    Ledger o.state (log ++ o.event.toList) ∧ ∀ p, o.call = some p → NamedByPeer p := by
  cases moved with
  | idle => exact ⟨ledger.of_silent rfl rfl, named⟩
  | abandoned | provisionRefused | enrollRefused | enrollUnsigned | enrollConflict | renewRefused
  | renewSigned | provisionSigned => exact ⟨ledger.of_silent rfl rfl, by simp⟩
  | provisionClaimed req now model db' claimed =>
      have same := claimManifestEntry_identities req.serial req.provisionToken now db
      rw [provisionClaim_ok claimed] at same
      refine ⟨ledger.of_silent same rfl, ?_⟩
      rintro p ⟨⟩
      trivial
  | enrollClaimed req certSerial pre db' claimed =>
      obtain ⟨passed, ran⟩ := enrollClaim_ok claimed
      have same := lookupAndClaim_identities certSerial db
      rw [ran] at same
      refine ⟨ledger.of_silent same rfl, ?_⟩
      rintro p ⟨⟩
      exact (checkPeer_ok passed).1
  | enrollSigned req certSerial pre now later entropy cert expiresAt issued =>
      have own : extractSerial C req.peerCerts = .ok certSerial :=
        named (.claimed req certSerial pre) rfl
      refine ⟨ledger.of_silent rfl rfl, ?_⟩
      rintro p ⟨⟩
      exact own
  | enrollCreated req certSerial pre cert expiresAt id now result db' created =>
      obtain ⟨record, ran, rfl⟩ := enrollCreate_ok created
      have recorded : record.id = id := by
        obtain ⟨devices, rfl, -, -⟩ := createDevice_ok ran
        rfl
      have told : Agrees ⟨id, certSerial, pre.model, req.firmware, cert, now⟩
          (req, ⟨record.id, cert, cfg.fleetCaCertPem, expiresAt⟩) :=
        ⟨named _ rfl, recorded, rfl⟩
      refine ⟨?_, by simp⟩
      unfold Ledger
      rw [okEnrollments_append, createDevice_identities ran]
      exact List.rel_append ledger (.cons told .nil)
  | renewChecked req device passed =>
      refine ⟨ledger.of_silent rfl rfl, ?_⟩
      rintro p ⟨⟩
      trivial

theorem ledger_step (w : World Db (InFlight C) (Event C)) (a : Action DirectOp (Move C))
    (holds : Holds Ledger (fun _ _ => NamedByPeer) w) :
    Holds Ledger (fun _ _ => NamedByPeer) ((service C cfg).step w a) := by
  refine holds_step (R := fun _ _ _ _ => True) _ (fun _ named => named) ?_ ?_ holds
  · intro op _
    have same := exec_direct_identities w.state op.2
    have ledger : Ledger (exec w.state op.1).2 (w.log ++ (none : Option (Event C)).toList) :=
      holds.shared.of_silent same rfl
    rw [Option.toList_none, List.append_nil] at ledger
    exact ⟨ledger, trivial⟩
  · rintro id move o - rfl
    have moved := advance_spec C cfg (w.calls id) w.state move
    obtain ⟨ledger, named⟩ := moved.ledger (fun p flying => holds.inFlight id p flying) holds.shared
    exact ⟨ledger, trivial, named⟩

/-- **Enrollment at most once, with agreement.**  After any interleaving, the
`devices` rows and the `Ok` results of `bootstrap_enroll` agree one to one, and no
two of those results are for one peer serial. -/
theorem enrolled_at_most_once (actions : List (Action DirectOp (Move C))) :
    List.Forall₂ (fun (row : DeviceRecord) told => Agrees row.identity told)
        (serve C cfg actions).state.devices.rows (okEnrollments (serve C cfg actions).log) ∧
      ((okEnrollments (serve C cfg actions).log).map
        fun told => extractSerial C told.1.peerCerts).Nodup := by
  have holds : Holds Ledger (fun _ _ => NamedByPeer) (serve C cfg actions) :=
    run_invariant_free _ ledger_step (holds_init (show Ledger .empty [] from .nil)) actions
  have agree := List.forall₂_map_left_iff.1 (show List.Forall₂ Agrees (List.map _ _) _ from holds.shared)
  refine ⟨agree, ?_⟩
  -- the serials of the results are those of the rows, which are unique
  have serials : (okEnrollments (serve C cfg actions).log).map
        (fun told => extractSerial C told.1.peerCerts) =
      ((serve C cfg actions).state.devices.rows.map (DeviceRecord.key .serial)).map .ok := by
    have same : List.Forall₂ (· = ·) ((okEnrollments (serve C cfg actions).log).map
          fun told => extractSerial C told.1.peerCerts)
        ((serve C cfg actions).state.devices.rows.map fun row => .ok (DeviceRecord.key .serial row)) := by
      rw [List.forall₂_map_left_iff, List.forall₂_map_right_iff]
      exact (agree.imp fun _ _ told => told.1).flip
    rw [List.map_map]
    exact List.forall₂_eq_eq_eq ▸ same
  rw [serials]
  exact ((serve C cfg actions).state.devices.unique .serial).map fun _ _ same => Except.ok.inj same

/-- Two enrollments of one serial.  `register_serial` resets the claim of the
first before it has created its device, so both hold a claim. -/
def Toy.race : List (Action DirectOp (Move Pki.Toy.crypto)) :=
  Toy.lifecycle.take 4 ++
    [.direct ⟨.registerSerial "SN-1" "humanoid-v2", rfl⟩,
     .call 2 (.enrollClaim ⟨"", "SN-1", "1.0.0", ["device-ca|SN-1"]⟩),
     .call 1 (.enrollSign 200 200 0), .call 2 (.enrollSign 200 200 0),
     .call 2 (.enrollCreate "id-2" 200), .call 1 (.enrollCreate "id-1" 200)]

example : (okEnrollments (serve Pki.Toy.crypto Toy.config Toy.race).log).map (·.2.deviceId) = ["id-2"] ∧
    (serve Pki.Toy.crypto Toy.config Toy.race).log.length = 3 := by
  decide

/-! ## The three-phase admission chain -/

/-- Devices are pre-enrolled and claimed, pre-enrolled serials are provisioned,
and the model is the manifest's all along. -/
structure Chain (db : Db) : Prop where
  devices : ∀ device ∈ db.identities, ∃ row, db.preEnrolled? device.serial = some row ∧
    row.claimed = 1 ∧ row.model = device.model
  preEnrolled : ∀ serial row, db.preEnrolled? serial = some row → ∃ entry t,
    db.manifest? serial = some entry ∧ entry.model = row.model ∧ entry.provisionedAt = some t

/-- A claim that is held stays held, for the same model. -/
def ClaimsKept (db db' : Db) : Prop :=
  ∀ serial row, db.preEnrolled? serial = some row → row.claimed = 1 →
    ∃ row', db'.preEnrolled? serial = some row' ∧ row'.claimed = 1 ∧ row'.model = row.model

/-- The serial is claimed, for the model. -/
def Held (db : Db) (serial model : String) : Prop :=
  ∃ row, db.preEnrolled? serial = some row ∧ row.claimed = 1 ∧ row.model = model

theorem Held.of_kept {db db' : Db} {serial model : String} (kept : ClaimsKept db db')
    (held : Held db serial model) : Held db' serial model := by
  obtain ⟨row, found, claimed, named⟩ := held
  obtain ⟨row', found', claimed', named'⟩ := kept serial row found claimed
  exact ⟨row', found', claimed', named'.trans named⟩

/-- An enrollment paused between claim and insert holds its claim. -/
def HoldsClaim (db : Db) : InFlight C → Prop
  | .claimed _ certSerial pre | .signed _ certSerial pre _ _ => Held db certSerial pre.model
  | .provisioning .. | .renewing .. => True

theorem HoldsClaim.of_kept {db db' : Db} {p : InFlight C} (kept : ClaimsKept db db')
    (holds : HoldsClaim db p) : HoldsClaim db' p := by
  cases p with
  | claimed | signed => exact Held.of_kept kept holds
  | provisioning | renewing => trivial

theorem claimsKept_of_preEnrolled? {db db' : Db}
    (same : ∀ serial, db'.preEnrolled? serial = db.preEnrolled? serial) : ClaimsKept db db' :=
  fun serial row found claimed => ⟨row, by rw [same, found], claimed, rfl⟩

/-- The chain survives every call that leaves the devices and `pre_enrollment` alone. -/
theorem Chain.of_grows {db db' : Db} (chain : Chain db) (grows : db.Grows db')
    (devices : db'.identities = db.identities)
    (preEnrolled : ∀ serial, db'.preEnrolled? serial = db.preEnrolled? serial) : Chain db' where
  devices device stored := by
    rw [devices] at stored
    rw [preEnrolled]
    exact chain.devices device stored
  preEnrolled serial row found := by
    rw [preEnrolled] at found
    obtain ⟨entry, t, listed, model, spent⟩ := chain.preEnrolled serial row found
    obtain ⟨entry', listed', model', -, spent'⟩ := grows.manifest serial entry listed
    exact ⟨entry', t, listed', model'.trans model, spent' t spent⟩

/-- Provisioning adds a `pre_enrollment` row under the model of the entry it
spends.  There is none yet: it would have the entry spent already. -/
theorem claimManifestEntry_chain {serial token model : String} {now : Int} {db db' : Db}
    (chain : Chain db) (claimed : claimManifestEntry serial token now db = (.ok model, db')) :
    Chain db' ∧ ClaimsKept db db' := by
  have same := claimManifestEntry_identities serial token now db
  have grows := claimManifestEntry_grows serial token now db
  rw [claimed] at same grows
  obtain ⟨entry, listed, -, unspent, -, rfl⟩ := claimManifestEntry_ok claimed
  have absent : db.preEnrolled? serial = none := by
    rw [Option.eq_none_iff_forall_ne_some]
    intro row found
    obtain ⟨entry', t, listed', -, spent⟩ := chain.preEnrolled serial row found
    rw [listed] at listed'
    cases listed'
    rw [unspent] at spent
    cases spent
  have read : ∀ serial', (seedPreEnrollment serial entry.model (setProvisioned serial now db)).preEnrolled?
      serial' = if serial = serial' then some ⟨serial, entry.model, 0⟩ else db.preEnrolled? serial' := by
    intro serial'
    rw [seedPreEnrollment_preEnrolled?]
    split
    · rename_i here
      subst here
      rw [setProvisioned_preEnrolled?, absent]
      rfl
    · rfl
  have kept : ∀ serial' row, db.preEnrolled? serial' = some row →
      (seedPreEnrollment serial entry.model (setProvisioned serial now db)).preEnrolled? serial' =
        some row := by
    intro serial' row found
    rw [read, if_neg, found]
    rintro rfl
    rw [absent] at found
    cases found
  refine ⟨⟨?_, ?_⟩, fun serial' row found held => ⟨row, kept serial' row found, held, rfl⟩⟩
  · intro device stored
    rw [same] at stored
    obtain ⟨row, found, held, named⟩ := chain.devices device stored
    exact ⟨row, kept _ row found, held, named⟩
  · intro serial' row found
    rw [read] at found
    by_cases here : serial = serial'
    · subst here
      rw [if_pos rfl, Option.some.injEq] at found
      refine ⟨{ entry with provisionedAt := some now }, now, ?_, ?_, rfl⟩
      · rw [seedPreEnrollment_manifest?, setProvisioned_manifest?, if_pos rfl, listed]
        rfl
      · rw [← found]
    · rw [if_neg here] at found
      obtain ⟨entry', t, listed', model', spent⟩ := chain.preEnrolled serial' row found
      obtain ⟨entry'', listed'', model'', -, spent'⟩ := grows.manifest serial' entry' listed'
      exact ⟨entry'', t, listed'', model''.trans model', spent' t spent⟩

/-- The claim itself only sets the flag. -/
theorem lookupAndClaim_chain {serial : String} {pre : PreEnrollmentRecord} {db db' : Db}
    (chain : Chain db) (claimed : lookupAndClaim serial db = (.ok pre, db')) :
    Chain db' ∧ ClaimsKept db db' ∧ Held db' serial pre.model := by
  obtain ⟨row, found, -, rfl, rfl⟩ := lookupAndClaim_ok claimed
  have kept : ClaimsKept db (setClaimed serial 1 db) := by
    intro serial' row' found' held
    rw [setClaimed_preEnrolled?, found']
    split
    · exact ⟨_, rfl, rfl, rfl⟩
    · exact ⟨row', rfl, held, rfl⟩
  refine ⟨⟨?_, ?_⟩, kept, ?_⟩
  · intro device stored
    exact Held.of_kept kept (chain.devices device stored)
  · intro serial' row' found'
    rw [setClaimed_preEnrolled?] at found'
    split at found'
    · rename_i here
      subst here
      rw [found] at found'
      cases found'
      exact chain.preEnrolled serial row found
    · exact chain.preEnrolled serial' row' found'
  · exact ⟨{ row with claimed := 1 }, by rw [setClaimed_preEnrolled?, if_pos rfl, found]; rfl, rfl, rfl⟩

/-- A device is created under a claim that is held. -/
theorem createDevice_chain {d : NewDevice} {id : String} {now : Int} {db db' : Db}
    {record : DeviceRecord} (chain : Chain db) (held : Held db d.serial d.model)
    (created : createDevice d id now db = (.ok record, db')) : Chain db' ∧ ClaimsKept db db' := by
  have identities := createDevice_identities created
  have preEnrolled : ∀ serial, db'.preEnrolled? serial = db.preEnrolled? serial := by
    obtain ⟨devices, -, -, rfl⟩ := createDevice_ok created
    exact fun _ => rfl
  have manifest : ∀ serial, db'.manifest? serial = db.manifest? serial := by
    obtain ⟨devices, -, -, rfl⟩ := createDevice_ok created
    exact fun _ => rfl
  refine ⟨⟨?_, ?_⟩, claimsKept_of_preEnrolled? preEnrolled⟩
  · intro device stored
    rw [identities] at stored
    rw [preEnrolled]
    rcases List.mem_append.1 stored with old | new
    · exact chain.devices device old
    · rw [List.mem_singleton] at new
      subst new
      exact held
  · intro serial row found
    rw [preEnrolled] at found
    rw [manifest]
    exact chain.preEnrolled serial row found

/-- Every direct call but `register_serial`. -/
theorem exec_chain {db : Db} (chain : Chain db) {op : StoreOp} (direct : op.isDirect = true)
    (others : ∀ serial model, op ≠ .registerSerial serial model) :
    Chain (exec db op).2 ∧ ClaimsKept db (exec db op).2 := by
  have untouched : (∀ serial, (exec db op).2.preEnrolled? serial = db.preEnrolled? serial) →
      Chain (exec db op).2 ∧ ClaimsKept db (exec db op).2 := fun same =>
    ⟨chain.of_grows (exec_grows db op) (exec_direct_identities db direct) same,
      claimsKept_of_preEnrolled? same⟩
  cases op with
  | createDevice | lookupAndClaim => cases direct
  | registerSerial serial model => exact absurd rfl (others serial model)
  | claimManifestEntry serial token now =>
      cases ran : claimManifestEntry serial token now db with
      | mk result db' =>
        cases result with
        | error e =>
            have unchanged : (exec db (.claimManifestEntry serial token now)).2 = db := by
              simp only [exec, ran, claimManifestEntry_error ran, Prod.map]
            exact untouched fun _ => by rw [unchanged]
        | ok model =>
            have done : (exec db (.claimManifestEntry serial token now)).2 = db' := by
              simp only [exec, ran, Prod.map]
            rw [done]
            exact claimManifestEntry_chain chain ran
  | updateStatus | touchLastSeen => exact untouched (by simp [exec])
  | seedManifest | getDevice | getBySerial | listDevices | countDevices | reopen =>
      exact untouched fun _ => rfl

/-- A move of a call keeps the chain, every claim, and its own claim. -/
theorem Advances.chain {db : Db} {call : Option (InFlight C)} {move : Move C}
    {o : Outcome Db (InFlight C) (Event C)} (moved : Advances C cfg db call move o)
    (holds : ∀ p, call = some p → HoldsClaim db p) (chain : Chain db) :
    Chain o.state ∧ ClaimsKept db o.state ∧ ∀ p, o.call = some p → HoldsClaim o.state p := by
  have still : ClaimsKept db db := claimsKept_of_preEnrolled? fun _ => rfl
  cases moved with
  | idle => exact ⟨chain, still, holds⟩
  | abandoned | provisionRefused | enrollRefused | enrollUnsigned | enrollConflict | renewRefused
  | renewSigned | provisionSigned => exact ⟨chain, still, by simp⟩
  | provisionClaimed req now model db' claimed =>
      obtain ⟨chain', kept⟩ := claimManifestEntry_chain chain (provisionClaim_ok claimed)
      refine ⟨chain', kept, ?_⟩
      rintro p ⟨⟩
      trivial
  | enrollClaimed req certSerial pre db' claimed =>
      obtain ⟨chain', kept, held⟩ := lookupAndClaim_chain chain (enrollClaim_ok claimed).2
      refine ⟨chain', kept, ?_⟩
      rintro p ⟨⟩
      exact held
  | enrollSigned req certSerial pre now later entropy cert expiresAt issued =>
      have own : Held db certSerial pre.model := holds (.claimed req certSerial pre) rfl
      refine ⟨chain, still, ?_⟩
      rintro p ⟨⟩
      exact own
  | enrollCreated req certSerial pre cert expiresAt id now result db' created =>
      obtain ⟨record, ran, -⟩ := enrollCreate_ok created
      have own : Held db certSerial pre.model := holds (.signed req certSerial pre cert expiresAt) rfl
      obtain ⟨chain', kept⟩ := createDevice_chain chain own ran
      exact ⟨chain', kept, by simp⟩
  | renewChecked req device passed =>
      refine ⟨chain, still, ?_⟩
      rintro p ⟨⟩
      trivial

/-- The action is a call of `register_serial`. -/
def registersSerial : Action DirectOp (Move C) → Bool
  | .direct ⟨.registerSerial .., _⟩ => true
  | _ => false

theorem chain_step (w : World Db (InFlight C) (Event C)) (a : Action DirectOp (Move C))
    (holds : Holds (fun db _ => Chain db) (fun db _ => HoldsClaim db) w)
    (allowed : registersSerial a = false) :
    Holds (fun db _ => Chain db) (fun db _ => HoldsClaim db) ((service C cfg).step w a) := by
  refine holds_step (P := fun db _ => HoldsClaim db) (R := fun db _ db' _ => ClaimsKept db db') _
    HoldsClaim.of_kept ?_ ?_ holds
  · rintro ⟨op, direct⟩ rfl
    refine exec_chain holds.shared direct fun serial model same => ?_
    subst same
    cases allowed
  · rintro id move o - rfl
    have moved := advance_spec C cfg (w.calls id) w.state move
    exact moved.chain (fun p flying => holds.inFlight id p flying) holds.shared

/-- **The three-phase admission chain**, in every state the service reaches
without `register_serial`. -/
theorem admission_chain (actions : List (Action DirectOp (Move C)))
    (unused : ∀ a ∈ actions, registersSerial a = false) :
    (∀ device ∈ (serve C cfg actions).state.devices.rows,
        ∃ row ∈ (serve C cfg actions).state.preEnrollment.rows, row.serial = device.serial ∧
          row.claimed = 1 ∧ row.model = device.model) ∧
      ∀ row ∈ (serve C cfg actions).state.preEnrollment.rows,
        ∃ entry ∈ (serve C cfg actions).state.factoryManifest.rows, entry.serial = row.serial ∧
          entry.model = row.model ∧ entry.provisionedAt.isSome := by
  have initially : Chain Db.empty := ⟨by simp [Db.identities, Db.empty], by simp⟩
  have chain : Chain (serve C cfg actions).state :=
    (run_invariant_of_forall _ chain_step (holds_init initially) unused).shared
  constructor
  · intro device stored
    obtain ⟨row, found, claimed, model⟩ :=
      chain.devices device.identity (List.mem_map_of_mem stored)
    exact ⟨row, Table.mem_of_find? found, serial_of_preEnrolled? _ found, claimed, model⟩
  · intro row stored
    have found := (serve C cfg actions).state.preEnrollment.find?_self () stored
    obtain ⟨entry, t, listed, model, spent⟩ := chain.preEnrolled row.serial row found
    exact ⟨entry, Table.mem_of_find? listed, serial_of_manifest? _ listed, model, by simp [spent]⟩

/-- The chain of the device of `Toy.lifecycle`. -/
theorem admission_chain_lifecycle :
    (serve Pki.Toy.crypto Toy.config Toy.lifecycle).state.devices.rows.map (·.serial) = ["SN-1"] ∧
      ∀ device ∈ (serve Pki.Toy.crypto Toy.config Toy.lifecycle).state.devices.rows,
        ∃ row ∈ (serve Pki.Toy.crypto Toy.config Toy.lifecycle).state.preEnrollment.rows,
          row.serial = device.serial ∧ row.claimed = 1 ∧ row.model = device.model :=
  ⟨by decide, (admission_chain Toy.lifecycle (by decide)).1⟩

end RobotFleet.Device
