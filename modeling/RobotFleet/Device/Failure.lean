/-
# Device.Failure -- what a refused call leaves behind

`provision_device` commits the manifest claim before it signs: when the signing
fails, the token is spent and no certificate was issued.  The other ways to fail
leave the tables alone, so the call is all-or-nothing exactly when it does not
get to an unsignable CSR with a good token (`provisioning_all_or_nothing_iff`).

`bootstrap_enroll` commits the claim of the serial before it signs and before it
inserts the device: an error of either leaves the serial claimed, and every later
attempt is refused as a replay (`enrollment_all_or_nothing_iff`).

The statements inside `claim_manifest_entry` and `lookup_and_claim` are taken to run here.
A database that fails between their `BEGIN IMMEDIATE` and `COMMIT`, or at either, is the
subject of `Device.Connection`.
-/
import RobotFleet.Device.Identity

namespace RobotFleet.Device

open RobotFleet.Theory
open RobotFleet.Theory.Calls (Status Action mapError_ok)
open RobotFleet.Theory.Transaction (SqlError)
open RobotFleet.Pki (Crypto signCsr)

set_option autoImplicit false

variable (C : Crypto) (cfg : Config)

/-! ## `provision_device` -/

/-- No field that `provision_device` requires is empty. -/
def ProvisionDeviceRequest.complete (req : ProvisionDeviceRequest) : Bool :=
  !(req.serial.isEmpty || req.csrPem.isEmpty || req.provisionToken.isEmpty)

/-- An error leaves `factory_manifest` and `pre_enrollment` as they were, and a
token that was good stays good for a request that can be signed. -/
def ProvisioningAtomic (db : Db) (req : ProvisionDeviceRequest) (now later : Int) (entropy : Nat) :
    Prop :=
  ∀ status, (provisionDevice C cfg req now later entropy db).1 = .error status →
    (provisionDevice C cfg req now later entropy db).2.factoryManifest = db.factoryManifest ∧
    (provisionDevice C cfg req now later entropy db).2.preEnrollment = db.preEnrollment ∧
    ∀ csrPem now' later' entropy' cert, { req with csrPem }.complete = true → Claimable db req →
      provisionSign C cfg { req with csrPem } later' entropy' = .ok cert →
      (provisionDevice C cfg { req with csrPem } now' later' entropy'
        (provisionDevice C cfg req now later entropy db).2).1 = .ok cert

/-- A complete request with a good token spends it. -/
theorem provisionClaim_of_claimable (now : Int) {db : Db} {req : ProvisionDeviceRequest}
    (complete : req.complete = true) (good : Claimable db req) :
    ∃ model, provisionClaim req now db =
      (.ok model, seedPreEnrollment req.serial model (setProvisioned req.serial now db)) := by
  obtain ⟨entry, listed, token, unspent⟩ := good
  have given : (req.serial.isEmpty || req.csrPem.isEmpty || req.provisionToken.isEmpty) = false := by
    simpa [ProvisionDeviceRequest.complete] using complete
  refine ⟨entry.model, ?_⟩
  simp [provisionClaim, given, claimManifestEntry, listed, token, unspent]

/-- The three ways `provision_device` can go: it refuses and writes nothing, or
it spends the token and its result is that of the signing. -/
theorem provisionDevice_cases (db : Db) (req : ProvisionDeviceRequest) (now later : Int)
    (entropy : Nat) :
    (¬ (req.complete = true ∧ Claimable db req) ∧
      ∃ status, provisionDevice C cfg req now later entropy db = (.error status, db)) ∨
    (req.complete = true ∧ Claimable db req ∧ ∃ model,
      provisionDevice C cfg req now later entropy db = (provisionSign C cfg req later entropy,
        seedPreEnrollment req.serial model (setProvisioned req.serial now db))) := by
  by_cases accepted : req.complete = true ∧ Claimable db req
  · obtain ⟨model, ran⟩ := provisionClaim_of_claimable now accepted.1 accepted.2
    refine Or.inr ⟨accepted.1, accepted.2, model, ?_⟩
    simp only [provisionDevice, ran]
  · refine Or.inl ⟨accepted, ?_⟩
    cases ran : provisionClaim req now db with
    | mk result db' =>
      cases result with
      | error status =>
          have same := provisionClaim_error ran
          subst same
          exact ⟨status, by simp only [provisionDevice, ran]⟩
      | ok model =>
          obtain ⟨entry, listed, token, unspent, -, -⟩ := claimManifestEntry_ok (provisionClaim_ok ran)
          refine absurd ⟨?_, entry, listed, token, unspent⟩ accepted
          by_contra incomplete
          rw [ProvisionDeviceRequest.complete, Bool.not_eq_true', Bool.not_eq_false] at incomplete
          simp [provisionClaim, incomplete] at ran

/-- The spent token shows: the entry of the serial is another one. -/
theorem setProvisioned_factoryManifest_ne {db : Db} {serial : String} {entry : ManifestRow} (now : Int)
    (listed : db.manifest? serial = some entry) (unspent : entry.provisionedAt = none) :
    (setProvisioned serial now db).factoryManifest ≠ db.factoryManifest := by
  refine Table.update_key_ne db.factoryManifest (fun r => { r with provisionedAt := some now })
    (fun _ _ => rfl) listed fun same => ?_
  have clash := congrArg ManifestRow.provisionedAt same
  rw [unspent] at clash
  cases clash

/-- **Provisioning is all-or-nothing exactly when** it is not a complete request
with a good token whose CSR cannot be signed. -/
theorem provisioning_all_or_nothing_iff (actions : List (Action DirectOp (Move C)))
    (req : ProvisionDeviceRequest) (now later : Int) (entropy : Nat) :
    ProvisioningAtomic C cfg (serve C cfg actions).state req now later entropy ↔
      ¬ (req.complete = true ∧ Claimable (serve C cfg actions).state req ∧
        ∃ e, signCsr C req.csrPem cfg.deviceCaCertPem cfg.deviceCaKeyPem 365 later entropy =
          .error e) := by
  generalize (serve C cfg actions).state = db
  constructor
  · intro atomic defect
    obtain ⟨complete, good, e, unsigned⟩ := defect
    rcases provisionDevice_cases C cfg db req now later entropy with
      ⟨refused, -⟩ | ⟨-, -, model, ran⟩
    · exact refused ⟨complete, good⟩
    · -- the entry was unspent and is spent now
      have failed : (provisionDevice C cfg req now later entropy db).1 =
          .error ⟨.internal, "CSR signing failed: " ++ e.toString⟩ := by
        rw [ran]
        simp only [provisionSign, unsigned]
        rfl
      obtain ⟨same, -⟩ := atomic _ failed
      rw [ran] at same
      obtain ⟨entry, listed, -, unspent⟩ := good
      exact setProvisioned_factoryManifest_ne now listed unspent same
  · intro sound status failed
    rcases provisionDevice_cases C cfg db req now later entropy with
      ⟨-, status', ran⟩ | ⟨complete, good, model, ran⟩
    · rw [ran]
      refine ⟨rfl, rfl, ?_⟩
      intro csrPem now' later' entropy' cert complete good signed
      rcases provisionDevice_cases C cfg db { req with csrPem } now' later' entropy' with
        ⟨refused, -⟩ | ⟨-, -, model, ran'⟩
      · exact absurd ⟨complete, good⟩ refused
      · rw [ran']
        exact signed
    · refine absurd ⟨complete, good, ?_⟩ sound
      rw [ran] at failed
      cases signing : signCsr C req.csrPem cfg.deviceCaCertPem cfg.deviceCaKeyPem 365 later entropy with
      | error e => exact ⟨e, rfl⟩
      | ok cert =>
          have issued : provisionSign C cfg req later entropy = .ok cert := mapError_ok.2 signing
          rw [issued] at failed
          cases failed

/-- The symbolic library, with a text that no CSR parser accepts. -/
def Toy.strict : Crypto :=
  { Pki.Toy.crypto with
    csrFromPem := fun pem => if pem = "garbage" then .error "missing CSR" else .ok pem }

def Toy.seeded : List (Action DirectOp (Move Toy.strict)) := [.direct (Toy.seed "SN-1" "token-1")]

/-- A request with the right token and a CSR that does not parse spends the token:
the manifest has changed, and the repaired request is refused. -/
theorem unsigned_csr_spends_token :
    (provisionDevice Toy.strict Toy.config ⟨"SN-1", "garbage", "token-1"⟩ 100 100 0
      (serve Toy.strict Toy.config Toy.seeded).state).1 =
        .error ⟨.internal, "CSR signing failed: PEM parse error: missing CSR"⟩ ∧
    (provisionDevice Toy.strict Toy.config ⟨"SN-1", "garbage", "token-1"⟩ 100 100 0
      (serve Toy.strict Toy.config Toy.seeded).state).2.factoryManifest.rows ≠
        (serve Toy.strict Toy.config Toy.seeded).state.factoryManifest.rows ∧
    (provisionDevice Toy.strict Toy.config ⟨"SN-1", "SN-1", "token-1"⟩ 101 101 0
      (provisionDevice Toy.strict Toy.config ⟨"SN-1", "garbage", "token-1"⟩ 100 100 0
        (serve Toy.strict Toy.config Toy.seeded).state).2).1 = .error ⟨.alreadyExists, "SN-1"⟩ := by
  decide

/-! ## `bootstrap_enroll` -/

section Enrollment

variable (C : Crypto) (cfg : Config)

/-- The `map_err` of `create_device`. -/
def createError (serial : String) : SqlError → Error
  | .constraintViolation _ => .alreadyEnrolled serial
  | e => .db e

/-- `bootstrap_enroll` where the `INSERT` of `create_device` may also fail in the
database. -/
def bootstrapEnrollUnder (fault : Option SqlError) (req : EnrollRequest C) (now later created : Int)
    (entropy : Nat) (id : String) (db : Db) : Except Error EnrollResult × Db :=
  match enrollClaim C cfg req db with
  | (.error e, db') => (.error e, db')
  | (.ok (certSerial, pre), db') =>
    match issueOperational C cfg req.csrPem now later entropy with
    | .error e => (.error e, db')
    | .ok (signed, expiresAt) =>
      match fault with
      | some e => (.error (createError certSerial e), db')
      | none => enrollCreate C cfg req certSerial pre signed expiresAt id created db'

theorem bootstrapEnrollUnder_none (req : EnrollRequest C) (now later created : Int) (entropy : Nat)
    (id : String) (db : Db) :
    bootstrapEnrollUnder C cfg none req now later created entropy id db =
      bootstrapEnroll C cfg req now later created entropy id db := rfl

/-- The peer certificate passes and its serial is registered and unclaimed. -/
def Enrollable (db : Db) (req : EnrollRequest C) (certSerial : String) : Prop :=
  checkPeer C cfg req = .ok certSerial ∧
    ∃ row, db.preEnrolled? certSerial = some row ∧ row.claimed = 0

/-- A `devices` row has the serial or the id. -/
def Enrolled (db : Db) (serial id : String) : Prop :=
  (db.deviceBySerial? serial).isSome = true ∨ (db.deviceById? id).isSome = true

/-- An error leaves `pre_enrollment` and `devices` as they were, and a device that
could enroll still can, with a CSR that can be signed. -/
def EnrollmentAtomic (fault : Option SqlError) (db : Db) (req : EnrollRequest C)
    (now later created : Int) (entropy : Nat) (id : String) : Prop :=
  ∀ e, (bootstrapEnrollUnder C cfg fault req now later created entropy id db).1 = .error e →
    (bootstrapEnrollUnder C cfg fault req now later created entropy id db).2.preEnrollment =
      db.preEnrollment ∧
    (bootstrapEnrollUnder C cfg fault req now later created entropy id db).2.devices = db.devices ∧
    ∀ csrPem now' later' created' entropy' id' certSerial issued,
      Enrollable C cfg db req certSerial → ¬ Enrolled db certSerial id' →
      issueOperational C cfg csrPem now' later' entropy' = .ok issued →
      ∃ result, (bootstrapEnroll C cfg { req with csrPem } now' later' created' entropy' id'
        (bootstrapEnrollUnder C cfg fault req now later created entropy id db).2).1 = .ok result

variable {C cfg}

/-- `create_device` is refused exactly for a serial or an id that is taken. -/
theorem createDevice_refused_iff (d : NewDevice) (id : String) (now : Int) (db : Db) :
    (∃ e, (createDevice d id now db).1 = .error e) ↔ Enrolled db d.serial id := by
  have taken : db.devices.Conflicts (d.toRecord id now) ↔ Enrolled db d.serial id := by
    constructor
    · intro conflict
      obtain ⟨column, r, stored, same⟩ := conflict
      cases column with
      | id =>
          have found : db.deviceById? id = some r :=
            (db.devices.find?_eq_some_iff .id id r).2 ⟨stored, same⟩
          exact Or.inr (by rw [found]; rfl)
      | serial =>
          have found : db.deviceBySerial? d.serial = some r :=
            (db.devices.find?_eq_some_iff .serial d.serial r).2 ⟨stored, same⟩
          exact Or.inl (by rw [found]; rfl)
    · intro enrolled
      rcases enrolled with serial | id'
      · obtain ⟨r, found⟩ := Option.isSome_iff_exists.1 serial
        exact ⟨.serial, r, Table.mem_of_find? found, Table.key_of_find? found⟩
      · obtain ⟨r, found⟩ := Option.isSome_iff_exists.1 id'
        exact ⟨.id, r, Table.mem_of_find? found, Table.key_of_find? found⟩
  rw [← taken, ← db.devices.insert_eq_none_iff]
  unfold createDevice
  cases db.devices.insert (d.toRecord id now) with
  | none => simp
  | some devices => simp

theorem enrollClaim_of_enrollable {db : Db} {req : EnrollRequest C} {certSerial : String}
    (good : Enrollable C cfg db req certSerial) :
    ∃ pre, enrollClaim C cfg req db = (.ok (certSerial, pre), setClaimed certSerial 1 db) := by
  obtain ⟨passed, row, found, free⟩ := good
  exact ⟨⟨certSerial, row.model⟩, by simp [enrollClaim, passed, lookupAndClaim, found, free]⟩

/-- The last step fails exactly when `create_device` does, and touches no claim. -/
theorem enrollCreate_spec (req : EnrollRequest C) (certSerial : String) (pre : PreEnrollmentRecord)
    (signed : String) (expiresAt : Int) (id : String) (now : Int) (db : Db) :
    ((∃ e, (enrollCreate C cfg req certSerial pre signed expiresAt id now db).1 = .error e) ↔
      Enrolled db certSerial id) ∧
    (enrollCreate C cfg req certSerial pre signed expiresAt id now db).2.preEnrollment =
      db.preEnrollment := by
  have refused := createDevice_refused_iff ⟨certSerial, pre.model, req.firmware, signed⟩ id now db
  unfold enrollCreate
  cases ran : createDevice ⟨certSerial, pre.model, req.firmware, signed⟩ id now db with
  | mk result db' =>
    rw [ran] at refused
    cases result with
    | error e =>
        have same := createDevice_error ran
        subst same
        refine ⟨?_, rfl⟩
        simpa using refused
    | ok record =>
        obtain ⟨devices, -, -, rfl⟩ := createDevice_ok ran
        refine ⟨?_, rfl⟩
        simpa using refused

/-- What `bootstrap_enroll` does to a serial that it may claim: it answers with
what comes after the claim, and the claim stays. -/
theorem bootstrapEnrollUnder_of_enrollable (fault : Option SqlError) {db : Db} {req : EnrollRequest C}
    {certSerial : String} (good : Enrollable C cfg db req certSerial) (now later created : Int)
    (entropy : Nat) (id : String) :
    ((∃ e, (bootstrapEnrollUnder C cfg fault req now later created entropy id db).1 = .error e) ↔
      (∃ e, issueOperational C cfg req.csrPem now later entropy = .error e) ∨ fault.isSome = true ∨
        Enrolled db certSerial id) ∧
    (bootstrapEnrollUnder C cfg fault req now later created entropy id db).2.preEnrollment =
      (setClaimed certSerial 1 db).preEnrollment := by
  obtain ⟨pre, claimed⟩ := enrollClaim_of_enrollable good
  unfold bootstrapEnrollUnder
  rw [claimed]
  cases signing : issueOperational C cfg req.csrPem now later entropy with
  | error e => exact ⟨⟨fun _ => Or.inl ⟨e, rfl⟩, fun _ => ⟨e, rfl⟩⟩, rfl⟩
  | ok issued =>
      cases fault with
      | some e => exact ⟨⟨fun _ => Or.inr (Or.inl rfl), fun _ => ⟨_, rfl⟩⟩, rfl⟩
      | none =>
          obtain ⟨answer, kept⟩ := @enrollCreate_spec C cfg req certSerial pre issued.1
            issued.2 id created (setClaimed certSerial 1 db)
          refine ⟨?_, kept⟩
          have same : Enrolled (setClaimed certSerial 1 db) certSerial id ↔ Enrolled db certSerial id :=
            Iff.rfl
          show (∃ e, (enrollCreate C cfg req certSerial pre issued.1 issued.2 id created
            (setClaimed certSerial 1 db)).1 = .error e) ↔ _
          rw [answer, same]
          simp

/-- A call that finds nothing to claim is refused and writes nothing. -/
theorem bootstrapEnrollUnder_of_not_enrollable (fault : Option SqlError) {db : Db}
    {req : EnrollRequest C} (bad : ∀ certSerial, ¬ Enrollable C cfg db req certSerial)
    (now later created : Int) (entropy : Nat) (id : String) :
    (bootstrapEnrollUnder C cfg fault req now later created entropy id db).2 = db := by
  cases ran : enrollClaim C cfg req db with
  | mk result db' =>
    cases result with
    | error e =>
        have same := enrollClaim_error ran
        subst same
        simp only [bootstrapEnrollUnder, ran]
    | ok claimed =>
        obtain ⟨certSerial, pre⟩ := claimed
        obtain ⟨passed, taken⟩ := enrollClaim_ok ran
        obtain ⟨row, found, free, -, -⟩ := lookupAndClaim_ok taken
        exact absurd ⟨passed, row, found, free⟩ (bad certSerial)

/-- The claim shows: the row under the serial is another one. -/
theorem setClaimed_preEnrollment_ne {db : Db} {serial : String} {row : PreEnrollmentRow}
    (found : db.preEnrolled? serial = some row) (free : row.claimed = 0) :
    (setClaimed serial 1 db).preEnrollment ≠ db.preEnrollment := by
  refine Table.update_key_ne db.preEnrollment (fun r => { r with claimed := 1 }) (fun _ _ => rfl)
    found fun same => ?_
  have clash := congrArg PreEnrollmentRow.claimed same
  rw [free] at clash
  cases clash

variable (C cfg)

/-- **Bootstrap enrollment is all-or-nothing exactly when** it is not a peer whose
serial it may claim and whose CSR cannot be signed or whose row cannot be
inserted. -/
theorem enrollment_all_or_nothing_iff (fault : Option SqlError) (actions : List (Action DirectOp (Move C)))
    (req : EnrollRequest C) (now later created : Int) (entropy : Nat) (id : String) :
    EnrollmentAtomic C cfg fault (serve C cfg actions).state req now later created entropy id ↔
      ¬ ∃ certSerial, Enrollable C cfg (serve C cfg actions).state req certSerial ∧
        ((∃ e, signCsr C req.csrPem cfg.fleetCaCertPem cfg.fleetCaKeyPem cfg.certValidityDays now
            entropy = .error e) ∨ fault.isSome = true ∨
          Enrolled (serve C cfg actions).state certSerial id) := by
  generalize (serve C cfg actions).state = db
  have signing : (∃ e, issueOperational C cfg req.csrPem now later entropy = .error e) ↔
      ∃ e, signCsr C req.csrPem cfg.fleetCaCertPem cfg.fleetCaKeyPem cfg.certValidityDays now
        entropy = .error e := by
    unfold issueOperational
    cases signCsr C req.csrPem cfg.fleetCaCertPem cfg.fleetCaKeyPem cfg.certValidityDays now entropy with
    | error e => exact ⟨fun _ => ⟨e, rfl⟩, fun _ => ⟨.pki e, rfl⟩⟩
    | ok cert =>
        constructor
        · rintro ⟨e, failed⟩
          cases failed
        · rintro ⟨e, failed⟩
          cases failed
  rw [← signing]
  constructor
  · rintro atomic ⟨certSerial, good, defect⟩
    obtain ⟨fails, left⟩ :=
      bootstrapEnrollUnder_of_enrollable fault good now later created entropy id
    obtain ⟨e, failed⟩ := fails.2 defect
    obtain ⟨same, -⟩ := atomic e failed
    obtain ⟨-, row, found, free⟩ := good
    exact setClaimed_preEnrollment_ne found free (left.symm.trans same)
  · intro sound e failed
    have bad : ∀ certSerial, ¬ Enrollable C cfg db req certSerial := by
      intro certSerial good
      obtain ⟨fails, -⟩ := bootstrapEnrollUnder_of_enrollable fault good now later created entropy id
      exact sound ⟨certSerial, good, fails.1 ⟨e, failed⟩⟩
    rw [bootstrapEnrollUnder_of_not_enrollable fault bad]
    refine ⟨rfl, rfl, ?_⟩
    intro csrPem now' later' created' entropy' id' certSerial issued good
    exact absurd good (bad certSerial)

end Enrollment

/-- `SN-1` is provisioned, and has a device certificate. -/
def Toy.provisioned : List (Action DirectOp (Move Toy.strict)) :=
  Toy.seeded ++ [.call 0 (.provisionClaim ⟨"SN-1", "SN-1", "token-1"⟩ 100), .call 0 (.provisionSign 100 0)]

/-- It enrolls with a CSR that does not parse: the call fails and the serial stays
claimed, so the repaired request is refused as a replay. -/
theorem unsigned_csr_spends_claim :
    (bootstrapEnroll Toy.strict Toy.config ⟨"SN-1", "garbage", "v1", ["device-ca|SN-1"]⟩ 200 200 200 0
      "id-1" (serve Toy.strict Toy.config Toy.provisioned).state).1 =
        .error (.pki (.pem "missing CSR")) ∧
    (bootstrapEnroll Toy.strict Toy.config ⟨"SN-1", "garbage", "v1", ["device-ca|SN-1"]⟩ 200 200 200 0
      "id-1" (serve Toy.strict Toy.config Toy.provisioned).state).2.preEnrollment.rows ≠
        (serve Toy.strict Toy.config Toy.provisioned).state.preEnrollment.rows ∧
    (bootstrapEnroll Toy.strict Toy.config ⟨"SN-1", "SN-1", "v1", ["device-ca|SN-1"]⟩ 201 201 201 0
      "id-2" (bootstrapEnroll Toy.strict Toy.config ⟨"SN-1", "garbage", "v1", ["device-ca|SN-1"]⟩ 200 200
        200 0 "id-1" (serve Toy.strict Toy.config Toy.provisioned).state).2).1 =
          .error (.serialAlreadyClaimed "SN-1") := by
  decide

end RobotFleet.Device
