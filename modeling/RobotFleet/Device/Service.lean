/-
# Device.Service -- the three handlers that issue certificates, and their interleavings

`provisioning/mod.rs` (`provision_device`) and `enrollment/mod.rs`
(`bootstrap_enroll`, `renew_cert`).  A handler is cut where it awaits the store:
between two store calls other handlers run.  `provisionDevice`,
`bootstrapEnroll` and `renewCert` put the pieces together for a call that runs
alone.

`advance` is the handlers as moves of the machine of `Theory.Calls`, next to the
store methods the rest of the service calls directly.  `Advances` lists
everything a move can do, so that invariants are proved by one case per line of
that list (`advance_spec`).
-/
import RobotFleet.Device.Growth
import RobotFleet.Theory.Calls

namespace RobotFleet.Device

open RobotFleet.Theory
open RobotFleet.Theory.Run
open RobotFleet.Theory.Calls (World Action Outcome Machine Status mapError_ok ok_of_bind)
open RobotFleet.Pki (Crypto signCsr extractSerial verifySignedBy)

set_option autoImplicit false

/-! ## Requests, results, configuration -/

/-- What `main` hands to the servers. -/
structure Config where
  fleetCaCertPem : String
  fleetCaKeyPem : String
  deviceCaCertPem : String
  deviceCaKeyPem : String
  certValidityDays : Nat

structure ProvisionDeviceRequest where
  serial : String
  csrPem : String
  provisionToken : String
  deriving DecidableEq

/-- The arguments of `bootstrap_enroll`; the peer certificates come from the
TLS connection. -/
structure EnrollRequest (C : Crypto) where
  serial : String
  csrPem : String
  firmware : String
  peerCerts : List C.CertificateDer

structure EnrollResult where
  deviceId : String
  operationalCertPem : String
  fleetCaChainPem : String
  expiresAt : Int
  deriving DecidableEq

structure RenewCertRequest where
  deviceId : String
  csrPem : String
  deriving DecidableEq

variable (C : Crypto) (cfg : Config)

/-! ## `provision_device` -/

/-- `provisioning/mod.rs`, `map_err`. -/
def provisioningMapErr : Error → Status
  | .notInManifest m => ⟨.failedPrecondition, m⟩
  | .invalidProvisionToken m => ⟨.permissionDenied, m⟩
  | .alreadyProvisioned m => ⟨.alreadyExists, m⟩
  | e => ⟨.internal, e.toString⟩

/-- The field check and the manifest claim. -/
def provisionClaim (req : ProvisionDeviceRequest) (now : Int) (db : Db) : Except Status String × Db :=
  if req.serial.isEmpty || req.csrPem.isEmpty || req.provisionToken.isEmpty then
    (.error ⟨.invalidArgument, "serial, csr_pem, and provision_token are required"⟩, db)
  else
    match claimManifestEntry req.serial req.provisionToken now db with
    | (.error e, db') => (.error (provisioningMapErr e), db')
    | (.ok model, db') => (.ok model, db')

/-- Signing with the Device CA.  The subject is whatever the CSR says. -/
def provisionSign (req : ProvisionDeviceRequest) (now : Int) (entropy : Nat) : Except Status String :=
  (signCsr C req.csrPem cfg.deviceCaCertPem cfg.deviceCaKeyPem 365 now entropy).mapError
    fun e => ⟨.internal, "CSR signing failed: " ++ e.toString⟩

def provisionDevice (req : ProvisionDeviceRequest) (now later : Int) (entropy : Nat) (db : Db) :
    Except Status String × Db :=
  match provisionClaim req now db with
  | (.error status, db') => (.error status, db')
  | (.ok _, db') => (provisionSign C cfg req later entropy, db')

/-! ## `bootstrap_enroll` -/

/-- Steps 1 to 3: the serial of the peer certificate, cross-validated with the
request, and the Device CA's signature on it. -/
def checkPeer (req : EnrollRequest C) : Except Error String := do
  let certSerial ← (extractSerial C req.peerCerts).mapError .pki
  if !req.serial.isEmpty && req.serial != certSerial then
    throw (.serialMismatch certSerial req.serial)
  (verifySignedBy C req.peerCerts cfg.deviceCaCertPem).mapError fun e => .certVerification e.toString
  return certSerial

/-- Steps 1 to 4, up to the atomic claim. -/
def enrollClaim (req : EnrollRequest C) (db : Db) :
    Except Error (String × PreEnrollmentRecord) × Db :=
  match checkPeer C cfg req with
  | .error e => (.error e, db)
  | .ok certSerial =>
    match lookupAndClaim certSerial db with
    | (.error e, db') => (.error e, db')
    | (.ok pre, db') => (.ok (certSerial, pre), db')

/-- Step 5, and the whole of `renew_cert` after its check: sign with the Fleet
CA, then read the clock again for the expiry that is reported. -/
def issueOperational (csrPem : String) (now later : Int) (entropy : Nat) :
    Except Error (String × Int) := do
  let signed ← (signCsr C csrPem cfg.fleetCaCertPem cfg.fleetCaKeyPem cfg.certValidityDays now
    entropy).mapError .pki
  return (signed, later + cfg.certValidityDays * 86400)

/-- Step 6. -/
def enrollCreate (req : EnrollRequest C) (certSerial : String) (pre : PreEnrollmentRecord)
    (signed : String) (expiresAt : Int) (id : String) (now : Int) (db : Db) :
    Except Error EnrollResult × Db :=
  match createDevice ⟨certSerial, pre.model, req.firmware, signed⟩ id now db with
  | (.error e, db') => (.error e, db')
  | (.ok record, db') =>
    (.ok { deviceId := record.id, operationalCertPem := signed,
           fleetCaChainPem := cfg.fleetCaCertPem, expiresAt }, db')

def bootstrapEnroll (req : EnrollRequest C) (now later created : Int) (entropy : Nat) (id : String)
    (db : Db) : Except Error EnrollResult × Db :=
  match enrollClaim C cfg req db with
  | (.error e, db') => (.error e, db')
  | (.ok (certSerial, pre), db') =>
    match issueOperational C cfg req.csrPem now later entropy with
    | .error e => (.error e, db')
    | .ok (signed, expiresAt) => enrollCreate C cfg req certSerial pre signed expiresAt id created db'

/-! ## `renew_cert` -/

/-- The status check. -/
def renewCheck (req : RenewCertRequest) (db : Db) : Except Error DeviceRecord := do
  let device ← getDevice req.deviceId db
  if device.status != "active" then throw (.deviceNotActive device.status)
  return device

def renewCert (req : RenewCertRequest) (now later : Int) (entropy : Nat) (db : Db) :
    Except Error (String × Int) := do
  let _ ← renewCheck req db
  issueOperational C cfg req.csrPem now later entropy

/-! ## What the pieces say when they succeed, and when they refuse -/

section Pieces

variable {C cfg}

theorem provisionClaim_ok {req : ProvisionDeviceRequest} {now : Int} {db db' : Db} {model : String}
    (claimed : provisionClaim req now db = (.ok model, db')) :
    claimManifestEntry req.serial req.provisionToken now db = (.ok model, db') := by
  unfold provisionClaim at claimed
  split at claimed
  · cases claimed
  · split at claimed
    · cases claimed
    · rename_i model' db'' ran
      cases claimed
      exact ran

theorem provisionClaim_error {req : ProvisionDeviceRequest} {now : Int} {db db' : Db} {status : Status}
    (refused : provisionClaim req now db = (.error status, db')) : db' = db := by
  unfold provisionClaim at refused
  split at refused
  · cases refused; rfl
  · split at refused
    · rename_i e db'' ran
      cases refused
      exact claimManifestEntry_error ran
    · cases refused

/-- A peer that passes steps 1 to 3. -/
theorem checkPeer_ok {req : EnrollRequest C} {certSerial : String}
    (passed : checkPeer C cfg req = .ok certSerial) :
    extractSerial C req.peerCerts = .ok certSerial ∧
      verifySignedBy C req.peerCerts cfg.deviceCaCertPem = .ok () := by
  unfold checkPeer at passed
  obtain ⟨named, read, passed⟩ := ok_of_bind passed
  rw [mapError_ok] at read
  split at passed
  · cases passed
  · obtain ⟨⟨⟩, verified, passed⟩ := ok_of_bind passed
    rw [mapError_ok] at verified
    cases passed
    exact ⟨read, verified⟩

theorem enrollClaim_ok {req : EnrollRequest C} {db db' : Db} {certSerial : String}
    {pre : PreEnrollmentRecord} (claimed : enrollClaim C cfg req db = (.ok (certSerial, pre), db')) :
    checkPeer C cfg req = .ok certSerial ∧ lookupAndClaim certSerial db = (.ok pre, db') := by
  unfold enrollClaim at claimed
  split at claimed
  · cases claimed
  · rename_i named passed
    split at claimed
    · cases claimed
    · rename_i pre' db'' ran
      cases claimed
      exact ⟨passed, ran⟩

theorem enrollClaim_error {req : EnrollRequest C} {db db' : Db} {e : Error}
    (refused : enrollClaim C cfg req db = (.error e, db')) : db' = db := by
  unfold enrollClaim at refused
  split at refused
  · cases refused; rfl
  · split at refused
    · rename_i e' db'' ran
      cases refused
      exact lookupAndClaim_error ran
    · cases refused

theorem issueOperational_ok {csrPem : String} {now later : Int} {entropy : Nat} {cert : String}
    {expiresAt : Int} (issued : issueOperational C cfg csrPem now later entropy = .ok (cert, expiresAt)) :
    signCsr C csrPem cfg.fleetCaCertPem cfg.fleetCaKeyPem cfg.certValidityDays now entropy = .ok cert := by
  obtain ⟨signed, signing, returned⟩ := ok_of_bind issued
  cases returned
  exact mapError_ok.1 signing

theorem enrollCreate_ok {req : EnrollRequest C} {certSerial : String} {pre : PreEnrollmentRecord}
    {signed : String} {expiresAt : Int} {id : String} {now : Int} {db db' : Db} {result : EnrollResult}
    (created : enrollCreate C cfg req certSerial pre signed expiresAt id now db = (.ok result, db')) :
    ∃ record, createDevice ⟨certSerial, pre.model, req.firmware, signed⟩ id now db = (.ok record, db') ∧
      result = ⟨record.id, signed, cfg.fleetCaCertPem, expiresAt⟩ := by
  unfold enrollCreate at created
  split at created
  · cases created
  · rename_i record db'' ran
    cases created
    exact ⟨record, ran, rfl⟩

theorem enrollCreate_error {req : EnrollRequest C} {certSerial : String} {pre : PreEnrollmentRecord}
    {signed : String} {expiresAt : Int} {id : String} {now : Int} {db db' : Db} {e : Error}
    (refused : enrollCreate C cfg req certSerial pre signed expiresAt id now db = (.error e, db')) :
    db' = db := by
  unfold enrollCreate at refused
  split at refused
  · rename_i e' db'' ran
    cases refused
    exact createDevice_error ran
  · cases refused

/-- The device that passed the check is the row of the id, and was active. -/
theorem renewCheck_ok {req : RenewCertRequest} {db : Db} {device : DeviceRecord}
    (passed : renewCheck req db = .ok device) :
    db.deviceById? req.deviceId = some device ∧ device.status = "active" := by
  obtain ⟨row, read, checked⟩ := ok_of_bind passed
  unfold getDevice getBy at read
  split at read
  · cases read
  · rename_i found
    cases read
    split at checked
    · cases checked
    · rename_i active
      cases checked
      exact ⟨found, by simpa using active⟩

end Pieces

/-! ## The handlers as interleaved calls -/

/-- The methods the rest of the service calls; `lookup_and_claim` and
`create_device` are called by `bootstrap_enroll` only. -/
def StoreOp.isDirect : StoreOp → Bool
  | .createDevice .. | .lookupAndClaim .. => false
  | _ => true

abbrev DirectOp := { op : StoreOp // op.isDirect = true }

/-- What a handler keeps across an await.  `readAt` is a ghost: the tables that
the status check read. -/
inductive InFlight where
  | provisioning (req : ProvisionDeviceRequest) (model : String)
  | claimed (req : EnrollRequest C) (certSerial : String) (pre : PreEnrollmentRecord)
  | signed (req : EnrollRequest C) (certSerial : String) (pre : PreEnrollmentRecord) (cert : String)
      (expiresAt : Int)
  | renewing (req : RenewCertRequest) (device : DeviceRecord) (readAt : Db)

/-- What a handler returned, with the request it answers. -/
inductive Event where
  | provisioned (req : ProvisionDeviceRequest) (result : Except Status String)
  | enrolled (req : EnrollRequest C) (result : Except Error EnrollResult)
  | renewed (req : RenewCertRequest) (readAt : Db) (result : Except Error (String × Int))

/-- `abandon` ends a call without a result: its client went away, its task
panicked, or the statement it was waiting for failed and was undone. -/
inductive Move where
  | provisionClaim (req : ProvisionDeviceRequest) (now : Int)
  | provisionSign (now : Int) (entropy : Nat)
  | enrollClaim (req : EnrollRequest C)
  | enrollSign (now later : Int) (entropy : Nat)
  | enrollCreate (id : String) (now : Int)
  | renewCheck (req : RenewCertRequest)
  | renewSign (now later : Int) (entropy : Nat)
  | abandon

/-- One move of one call; a move that the call is not waiting for does nothing. -/
def advance (call : Option (InFlight C)) (db : Db) (move : Move C) :
    Outcome Db (InFlight C) (Event C) :=
  match call, move with
  | none, .provisionClaim req now =>
    match provisionClaim req now db with
    | (.error status, db') => ⟨none, some (.provisioned req (.error status)), db'⟩
    | (.ok model, db') => ⟨some (.provisioning req model), none, db'⟩
  | some (.provisioning req _), .provisionSign now entropy =>
    ⟨none, some (.provisioned req (provisionSign C cfg req now entropy)), db⟩
  | none, .enrollClaim req =>
    match enrollClaim C cfg req db with
    | (.error e, db') => ⟨none, some (.enrolled req (.error e)), db'⟩
    | (.ok (certSerial, pre), db') => ⟨some (.claimed req certSerial pre), none, db'⟩
  | some (.claimed req certSerial pre), .enrollSign now later entropy =>
    match issueOperational C cfg req.csrPem now later entropy with
    | .error e => ⟨none, some (.enrolled req (.error e)), db⟩
    | .ok (cert, expiresAt) => ⟨some (.signed req certSerial pre cert expiresAt), none, db⟩
  | some (.signed req certSerial pre cert expiresAt), .enrollCreate id now =>
    match enrollCreate C cfg req certSerial pre cert expiresAt id now db with
    | (result, db') => ⟨none, some (.enrolled req result), db'⟩
  | none, .renewCheck req =>
    match renewCheck req db with
    | .error e => ⟨none, some (.renewed req db (.error e)), db⟩
    | .ok device => ⟨some (.renewing req device db), none, db⟩
  | some (.renewing req _ readAt), .renewSign now later entropy =>
    ⟨none, some (.renewed req readAt (issueOperational C cfg req.csrPem now later entropy)), db⟩
  | some _, .abandon => ⟨none, none, db⟩
  | call, _ => ⟨call, none, db⟩

/-- The running service. -/
def service : Machine Db DirectOp (Move C) (InFlight C) (Event C) where
  direct db op := (exec db op.1).2
  advance := advance C cfg

/-- The service after a run from the empty database. -/
def serve (actions : List (Action DirectOp (Move C))) : World Db (InFlight C) (Event C) :=
  run (service C cfg).step (.init .empty) actions

/-- Everything a move can do. -/
inductive Advances (db : Db) :
    Option (InFlight C) → Move C → Outcome Db (InFlight C) (Event C) → Prop
  | idle (call : Option (InFlight C)) (move : Move C) : Advances db call move ⟨call, none, db⟩
  | abandoned (call : InFlight C) : Advances db (some call) .abandon ⟨none, none, db⟩
  | provisionRefused (req : ProvisionDeviceRequest) (now : Int) (status : Status) :
      Advances db none (.provisionClaim req now) ⟨none, some (.provisioned req (.error status)), db⟩
  | provisionClaimed (req : ProvisionDeviceRequest) (now : Int) (model : String) (db' : Db) :
      provisionClaim req now db = (.ok model, db') →
      Advances db none (.provisionClaim req now) ⟨some (.provisioning req model), none, db'⟩
  | provisionSigned (req : ProvisionDeviceRequest) (model : String) (now : Int) (entropy : Nat) :
      Advances db (some (.provisioning req model)) (.provisionSign now entropy)
        ⟨none, some (.provisioned req (provisionSign C cfg req now entropy)), db⟩
  | enrollRefused (req : EnrollRequest C) (e : Error) :
      Advances db none (.enrollClaim req) ⟨none, some (.enrolled req (.error e)), db⟩
  | enrollClaimed (req : EnrollRequest C) (certSerial : String) (pre : PreEnrollmentRecord) (db' : Db) :
      enrollClaim C cfg req db = (.ok (certSerial, pre), db') →
      Advances db none (.enrollClaim req) ⟨some (.claimed req certSerial pre), none, db'⟩
  | enrollUnsigned (req : EnrollRequest C) (certSerial : String) (pre : PreEnrollmentRecord)
      (now later : Int) (entropy : Nat) (e : Error) :
      Advances db (some (.claimed req certSerial pre)) (.enrollSign now later entropy)
        ⟨none, some (.enrolled req (.error e)), db⟩
  | enrollSigned (req : EnrollRequest C) (certSerial : String) (pre : PreEnrollmentRecord)
      (now later : Int) (entropy : Nat) (cert : String) (expiresAt : Int) :
      issueOperational C cfg req.csrPem now later entropy = .ok (cert, expiresAt) →
      Advances db (some (.claimed req certSerial pre)) (.enrollSign now later entropy)
        ⟨some (.signed req certSerial pre cert expiresAt), none, db⟩
  | enrollConflict (req : EnrollRequest C) (certSerial : String) (pre : PreEnrollmentRecord)
      (cert : String) (expiresAt : Int) (id : String) (now : Int) (e : Error) :
      Advances db (some (.signed req certSerial pre cert expiresAt)) (.enrollCreate id now)
        ⟨none, some (.enrolled req (.error e)), db⟩
  | enrollCreated (req : EnrollRequest C) (certSerial : String) (pre : PreEnrollmentRecord)
      (cert : String) (expiresAt : Int) (id : String) (now : Int) (result : EnrollResult) (db' : Db) :
      enrollCreate C cfg req certSerial pre cert expiresAt id now db = (.ok result, db') →
      Advances db (some (.signed req certSerial pre cert expiresAt)) (.enrollCreate id now)
        ⟨none, some (.enrolled req (.ok result)), db'⟩
  | renewRefused (req : RenewCertRequest) (e : Error) :
      Advances db none (.renewCheck req) ⟨none, some (.renewed req db (.error e)), db⟩
  | renewChecked (req : RenewCertRequest) (device : DeviceRecord) :
      renewCheck req db = .ok device →
      Advances db none (.renewCheck req) ⟨some (.renewing req device db), none, db⟩
  | renewSigned (req : RenewCertRequest) (device : DeviceRecord) (readAt : Db) (now later : Int)
      (entropy : Nat) :
      Advances db (some (.renewing req device readAt)) (.renewSign now later entropy)
        ⟨none, some (.renewed req readAt (issueOperational C cfg req.csrPem now later entropy)), db⟩

theorem advance_spec (call : Option (InFlight C)) (db : Db) (move : Move C) :
    Advances C cfg db call move (advance C cfg call db move) := by
  unfold advance
  split
  · split
    · rename_i refused
      rw [provisionClaim_error refused]
      exact .provisionRefused ..
    · exact .provisionClaimed _ _ _ _ ‹_›
  · exact .provisionSigned ..
  · split
    · rename_i refused
      rw [enrollClaim_error refused]
      exact .enrollRefused ..
    · exact .enrollClaimed _ _ _ _ ‹_›
  · split
    · exact .enrollUnsigned ..
    · exact .enrollSigned _ _ _ _ _ _ _ _ ‹_›
  · split
    rename_i result db' ran
    cases result with
    | error e =>
        rw [enrollCreate_error ran]
        exact .enrollConflict ..
    | ok result => exact .enrollCreated _ _ _ _ _ _ _ _ _ ran
  · split
    · exact .renewRefused ..
    · exact .renewChecked _ _ ‹_›
  · exact .renewSigned ..
  · exact .abandoned _
  · exact .idle ..

section Moves

variable {C cfg}

/-- No move withdraws or renames a record. -/
theorem Advances.grows {db : Db} {call : Option (InFlight C)} {move : Move C}
    {o : Outcome Db (InFlight C) (Event C)} (moved : Advances C cfg db call move o) :
    db.Grows o.state := by
  cases moved with
  | provisionClaimed req now model db' claimed =>
      have grown := claimManifestEntry_grows req.serial req.provisionToken now db
      rwa [provisionClaim_ok claimed] at grown
  | enrollClaimed req certSerial pre db' claimed =>
      have grown := lookupAndClaim_grows certSerial db
      rwa [(enrollClaim_ok claimed).2] at grown
  | enrollCreated req certSerial pre cert expiresAt id now result db' created =>
      obtain ⟨record, ran, -⟩ := enrollCreate_ok created
      have grown := createDevice_grows ⟨certSerial, pre.model, req.firmware, cert⟩ id now db
      rwa [ran] at grown
  | idle | abandoned | provisionRefused | provisionSigned | enrollRefused | enrollUnsigned
  | enrollSigned | enrollConflict | renewRefused | renewChecked | renewSigned => exact Db.Grows.rfl

end Moves

/-! ## A call that runs alone -/

section Alone

variable (w : World Db (InFlight C) (Event C)) {call : Nat} (free : w.calls call = none)
include free

/-- A call that ends leaves its slot as it found it. -/
theorem calls_restored (left : Option (InFlight C)) :
    Function.update (Function.update w.calls call left) call none = w.calls := by
  rw [Function.update_idem, ← free, Function.update_eq_self]

/-- The two moves of `provision_device` with nothing in between are `provisionDevice`. -/
theorem run_provisionDevice (req : ProvisionDeviceRequest) (now later : Int) (entropy : Nat) :
    run (service C cfg).step w
        [.call call (.provisionClaim req now), .call call (.provisionSign later entropy)] =
      ⟨(provisionDevice C cfg req now later entropy w.state).2, w.calls,
        w.log ++ [.provisioned req (provisionDevice C cfg req now later entropy w.state).1]⟩ := by
  have ended := calls_restored C w free
  have kept : Function.update w.calls call none = w.calls := by rw [← free, Function.update_eq_self]
  cases ran : provisionClaim req now w.state with
  | mk result db' =>
    cases result <;>
      simp [Machine.step, service, advance, provisionDevice, free, ran, ended, kept]

/-- The three moves of `bootstrap_enroll` with nothing in between are `bootstrapEnroll`. -/
theorem run_bootstrapEnroll (req : EnrollRequest C) (now later created : Int) (entropy : Nat)
    (id : String) :
    run (service C cfg).step w
        [.call call (.enrollClaim req), .call call (.enrollSign now later entropy),
          .call call (.enrollCreate id created)] =
      ⟨(bootstrapEnroll C cfg req now later created entropy id w.state).2, w.calls,
        w.log ++ [.enrolled req (bootstrapEnroll C cfg req now later created entropy id w.state).1]⟩ := by
  have ended := calls_restored C w free
  have kept : Function.update w.calls call none = w.calls := by rw [← free, Function.update_eq_self]
  cases claim : enrollClaim C cfg req w.state with
  | mk result db' =>
    cases result with
    | error e => simp [Machine.step, service, advance, bootstrapEnroll, free, claim, kept]
    | ok claimed =>
        cases issue : issueOperational C cfg req.csrPem now later entropy <;>
          simp [Machine.step, service, advance, bootstrapEnroll, free, claim, issue, ended]

/-- The two moves of `renew_cert` with nothing in between are `renewCert`. -/
theorem run_renewCert (req : RenewCertRequest) (now later : Int) (entropy : Nat) :
    run (service C cfg).step w
        [.call call (.renewCheck req), .call call (.renewSign now later entropy)] =
      ⟨w.state, w.calls,
        w.log ++ [.renewed req w.state (renewCert C cfg req now later entropy w.state)]⟩ := by
  have ended := calls_restored C w free
  have kept : Function.update w.calls call none = w.calls := by rw [← free, Function.update_eq_self]
  cases check : renewCheck req w.state <;>
    simp [Machine.step, service, advance, renewCert, free, check, ended, kept, bind, Except.bind]

end Alone

/-! ## The service over the symbolic library -/

namespace Toy

def config : Config := ⟨"fleet-ca|fleet-ca", "fleet-ca", "device-ca|device-ca", "device-ca", 30⟩

def seed (serial token : String) : DirectOp := ⟨.seedManifest serial "humanoid-v2" token, rfl⟩

/-- A device that goes through its three phases: seeded, provisioned, enrolled. -/
def lifecycle : List (Action DirectOp (Move Pki.Toy.crypto)) :=
  [.direct (seed "SN-1" "token-1"),
   .call 0 (.provisionClaim ⟨"SN-1", "SN-1", "token-1"⟩ 100),
   .call 0 (.provisionSign 100 0),
   .call 1 (.enrollClaim ⟨"SN-1", "SN-1", "1.0.0", ["device-ca|SN-1"]⟩),
   .call 1 (.enrollSign 200 200 0),
   .call 1 (.enrollCreate "id-1" 200)]

end Toy

end RobotFleet.Device
