/-
# Device.Identity -- whose name is in a certificate

`provision_device` checks a serial and its token, `bootstrap_enroll` the serial of
a peer certificate, `renew_cert` the status of a device id; and then each of them
signs a CSR whose subject nobody has compared with what was checked.

* `device_cert_binding`: a Device CA certificate names the serial it was issued
  for exactly when the CSR does.  In runs where accepted CSRs name their own
  serial, every peer certificate that enrolls was issued to a call that presented
  that serial and its token.  `swapped_csrs_impersonate` is a run without that.
* `operational_cert_binding`: the same for the Fleet CA, with the row that
  `bootstrap_enroll` creates or that `renew_cert` found active.
  `suspended_serial_is_renewed` is a run that names a suspended device.
-/
import RobotFleet.Device.Admission

namespace RobotFleet.Device

open RobotFleet.Theory
open RobotFleet.Theory.Run
open RobotFleet.Theory.Calls
open RobotFleet.Pki (Crypto extractSerial verifySignedBy certCn csrCn PresentsCert)

set_option autoImplicit false

variable {C : Crypto} {cfg : Config}

/-! ## Certificates that were handed out -/

/-- The certificates `provision_device` returned, each with its request. -/
def okProvisions (log : List (Event C)) : List (ProvisionDeviceRequest × String) :=
  log.filterMap fun
    | .provisioned req (.ok cert) => some (req, cert)
    | _ => none

/-- The certificates `renew_cert` returned, each with its request and the tables
its status check read. -/
def okRenewals (log : List (Event C)) : List (RenewCertRequest × Db × String) :=
  log.filterMap fun
    | .renewed req readAt (.ok (cert, _)) => some (req, readAt, cert)
    | _ => none

theorem mem_okProvisions {log : List (Event C)} {req : ProvisionDeviceRequest} {cert : String} :
    (req, cert) ∈ okProvisions log ↔ .provisioned req (.ok cert) ∈ log := by
  unfold okProvisions
  rw [List.mem_filterMap]
  constructor
  · rintro ⟨ev, member, shown⟩
    split at shown
    · cases shown; exact member
    · cases shown
  · intro member
    exact ⟨_, member, rfl⟩

theorem mem_okEnrollments {log : List (Event C)} {req : EnrollRequest C} {result : EnrollResult} :
    (req, result) ∈ okEnrollments log ↔ .enrolled req (.ok result) ∈ log := by
  unfold okEnrollments
  rw [List.mem_filterMap]
  constructor
  · rintro ⟨ev, member, shown⟩
    split at shown
    · cases shown; exact member
    · cases shown
  · intro member
    exact ⟨_, member, rfl⟩

theorem mem_okRenewals {log : List (Event C)} {req : RenewCertRequest} {readAt : Db} {cert : String} :
    (req, readAt, cert) ∈ okRenewals log ↔
      ∃ expiresAt, .renewed req readAt (.ok (cert, expiresAt)) ∈ log := by
  unfold okRenewals
  rw [List.mem_filterMap]
  constructor
  · rintro ⟨ev, member, shown⟩
    split at shown
    · cases shown; exact ⟨_, member⟩
    · cases shown
  · rintro ⟨expiresAt, member⟩
    exact ⟨_, member, rfl⟩

/-! ## Invariants over what was returned -/

/-- What every action of the service guarantees. -/
def Later (db : Db) (log : List (Event C)) (db' : Db) (log' : List (Event C)) : Prop :=
  db.Grows db' ∧ log <+: log'

/-- The rule for an invariant of the returned events: of the calls in flight
only the one that moves is looked at, of the log only what it returns. -/
theorem records_step {P : Db → List (Event C) → InFlight C → Prop}
    {Q : Db → List (Event C) → Event C → Prop}
    (stable : ∀ {db log db' log' p}, Later db log db' log' → P db log p → P db' log' p)
    (kept : ∀ {db log db' log' ev}, Later db log db' log' → Q db log ev → Q db' log' ev)
    {w : World Db (InFlight C) (Event C)} {a : Action DirectOp (Move C)}
    (own : ∀ id move call o, a = .call id move → Advances C cfg w.state call move o →
      (∀ p, call = some p → P w.state w.log p) →
      (∀ ev, o.event = some ev → Q o.state (w.log ++ o.event.toList) ev) ∧
        ∀ p, o.call = some p → P o.state (w.log ++ o.event.toList) p)
    (holds : Holds (Recorded Q) P w) : Holds (Recorded Q) P ((service C cfg).step w a) := by
  refine holds_step (P := P) (R := Later) _ stable ?_ ?_ holds
  · rintro op rfl
    have later : Later w.state w.log (exec w.state op.1).2 w.log :=
      ⟨exec_grows w.state op.1, List.prefix_refl _⟩
    exact ⟨recorded_mono (Q := Q) kept later holds.shared, later⟩
  · intro id move o taken ran
    have moved : Advances C cfg w.state (w.calls id) move o := ran ▸ advance_spec C cfg _ _ _
    have later : Later w.state w.log o.state (w.log ++ o.event.toList) :=
      ⟨moved.grows, List.prefix_append _ _⟩
    obtain ⟨new, calls⟩ := own id move _ o taken moved (holds.inFlight id)
    exact ⟨recorded_append (Q := Q) kept later holds.shared new, later, calls⟩

/-! ## Phase 1: the Device CA -/

theorem provisionSign_cn (laws : C.SigningLaws) {req : ProvisionDeviceRequest} {now : Int}
    {entropy : Nat} {cert : String} (signed : provisionSign C cfg req now entropy = .ok cert) :
    certCn C cert = csrCn C req.csrPem :=
  Pki.signCsr_cn laws (mapError_ok.1 signed)

/-- The request's token is the one stored for its serial. -/
def Presented (db : Db) (req : ProvisionDeviceRequest) : Prop :=
  ∃ entry, db.manifest? req.serial = some entry ∧ entry.token = req.provisionToken

theorem Presented.of_grows {db db' : Db} {req : ProvisionDeviceRequest} (grows : db.Grows db')
    (presented : Presented db req) : Presented db' req := by
  obtain ⟨entry, listed, same⟩ := presented
  obtain ⟨entry', listed', -, same', -⟩ := grows.manifest req.serial entry listed
  exact ⟨entry', listed', same'.trans same⟩

/-- The peer certificate is one that `provision_device` returned. -/
def PeerIssued (cfg : Config) (log : List (Event C)) (req : EnrollRequest C) : Prop :=
  ∃ serial, extractSerial C req.peerCerts = .ok serial ∧
    verifySignedBy C req.peerCerts cfg.deviceCaCertPem = .ok () ∧
    ∃ issued ∈ okProvisions log, PresentsCert C issued.2 req.peerCerts

theorem okProvisions_prefix {log log' : List (Event C)} (longer : log <+: log')
    {issued : ProvisionDeviceRequest × String} (member : issued ∈ okProvisions log) :
    issued ∈ okProvisions log' := by
  obtain ⟨rest, rfl⟩ := longer
  unfold okProvisions
  rw [List.filterMap_append]
  exact List.mem_append_left _ member

theorem PeerIssued.of_prefix {log log' : List (Event C)} {req : EnrollRequest C}
    (longer : log <+: log') (peer : PeerIssued cfg log req) : PeerIssued cfg log' req := by
  obtain ⟨serial, named, verified, issued, member, presents⟩ := peer
  exact ⟨serial, named, verified, issued, okProvisions_prefix longer member, presents⟩

def Phase1InFlight (cfg : Config) (db : Db) (log : List (Event C)) : InFlight C → Prop
  | .provisioning req _ => Presented db req
  | .claimed req _ _ | .signed req _ _ _ _ => PeerIssued cfg log req
  | .renewing .. => True

def Phase1Event (cfg : Config) (db : Db) (log : List (Event C)) : Event C → Prop
  | .provisioned req (.ok cert) => Presented db req ∧ certCn C cert = csrCn C req.csrPem
  | .enrolled req (.ok _) => PeerIssued cfg log req
  | _ => True

theorem Phase1InFlight.later {db db' : Db} {log log' : List (Event C)} {p : InFlight C}
    (later : Later db log db' log') (holds : Phase1InFlight cfg db log p) :
    Phase1InFlight cfg db' log' p := by
  cases p with
  | provisioning => exact Presented.of_grows later.1 holds
  | claimed | signed => exact PeerIssued.of_prefix later.2 holds
  | renewing => trivial

theorem Phase1Event.later {db db' : Db} {log log' : List (Event C)} {ev : Event C}
    (later : Later db log db' log') (holds : Phase1Event cfg db log ev) :
    Phase1Event cfg db' log' ev := by
  cases ev with
  | provisioned req result =>
      cases result with
      | error => trivial
      | ok cert => exact ⟨Presented.of_grows later.1 holds.1, holds.2⟩
  | enrolled req result =>
      cases result with
      | error => trivial
      | ok result => exact PeerIssued.of_prefix later.2 holds
  | renewed => trivial

/-- The Device CA's signature cannot be forged and its key is used by
`provision_device` only: a peer certificate that verifies under it is one that
was returned before. -/
def Unforgeable (cfg : Config) (w : World Db (InFlight C) (Event C)) :
    Action DirectOp (Move C) → Prop
  | .call _ (.enrollClaim req) => verifySignedBy C req.peerCerts cfg.deviceCaCertPem = .ok () →
      ∃ issued ∈ okProvisions w.log, PresentsCert C issued.2 req.peerCerts
  | _ => True

theorem phase1_step (laws : C.SigningLaws) (w : World Db (InFlight C) (Event C))
    (a : Action DirectOp (Move C))
    (holds : Holds (Recorded (Phase1Event cfg)) (Phase1InFlight cfg) w) (allowed : Unforgeable cfg w a) :
    Holds (Recorded (Phase1Event cfg)) (Phase1InFlight cfg) ((service C cfg).step w a) := by
  refine records_step (P := Phase1InFlight cfg) (Q := Phase1Event cfg) Phase1InFlight.later
    Phase1Event.later ?_ holds
  rintro id move call o rfl moved inFlight
  cases moved with
  | idle =>
      refine ⟨by simp, fun p flying => ?_⟩
      simpa using inFlight p flying
  | abandoned => exact ⟨by simp, by simp⟩
  | provisionRefused | enrollRefused | enrollUnsigned | enrollConflict | renewRefused =>
      refine ⟨?_, by simp⟩
      rintro ev ⟨⟩
      trivial
  | provisionClaimed req now model db' claimed =>
      refine ⟨by simp, ?_⟩
      rintro p ⟨⟩
      have ran := provisionClaim_ok claimed
      obtain ⟨entry, listed, token, -⟩ := claimManifestEntry_ok ran
      have grows := claimManifestEntry_grows req.serial req.provisionToken now w.state
      rw [ran] at grows
      exact Presented.of_grows grows ⟨entry, listed, token⟩
  | provisionSigned req model now entropy =>
      have presented : Presented w.state req := inFlight (.provisioning req model) rfl
      refine ⟨?_, by simp⟩
      rintro ev ⟨⟩
      cases signed : provisionSign C cfg req now entropy with
      | error => trivial
      | ok cert => exact ⟨presented, provisionSign_cn laws signed⟩
  | enrollClaimed req certSerial pre db' claimed =>
      obtain ⟨named, verified⟩ := checkPeer_ok (enrollClaim_ok claimed).1
      have peer : PeerIssued cfg w.log req := ⟨certSerial, named, verified, allowed verified⟩
      refine ⟨by simp, ?_⟩
      rintro p ⟨⟩
      exact peer.of_prefix (List.prefix_append _ _)
  | enrollSigned req certSerial pre now later entropy cert expiresAt issued =>
      have peer : PeerIssued cfg w.log req := inFlight (.claimed req certSerial pre) rfl
      refine ⟨by simp, ?_⟩
      rintro p ⟨⟩
      exact peer.of_prefix (List.prefix_append _ _)
  | enrollCreated req certSerial pre cert expiresAt newId now result db' created =>
      have peer : PeerIssued cfg w.log req := inFlight (.signed req certSerial pre cert expiresAt) rfl
      refine ⟨?_, by simp⟩
      rintro ev ⟨⟩
      exact peer.of_prefix (List.prefix_append _ _)
  | renewChecked req device passed =>
      refine ⟨by simp, ?_⟩
      rintro p ⟨⟩
      trivial
  | renewSigned req device readAt now later entropy =>
      refine ⟨?_, by simp⟩
      rintro ev ⟨⟩
      trivial

/-- The manifest would accept the request: it has the token of an unspent entry. -/
def Claimable (db : Db) (req : ProvisionDeviceRequest) : Prop :=
  ∃ entry, db.manifest? req.serial = some entry ∧ entry.token = req.provisionToken ∧
    entry.provisionedAt = none

/-- A `provision_device` request that the manifest accepts asks, in its CSR, for
the serial it presents. -/
def NamesOwnSerial (w : World Db (InFlight C) (Event C)) : Action DirectOp (Move C) → Prop
  | .call _ (.provisionClaim req _) => Claimable w.state req → csrCn C req.csrPem = some req.serial
  | _ => True

def OwnSerialInFlight : InFlight C → Prop
  | .provisioning req _ => csrCn C req.csrPem = some req.serial
  | _ => True

def OwnSerialEvent : Event C → Prop
  | .provisioned req (.ok _) => csrCn C req.csrPem = some req.serial
  | _ => True

theorem ownSerial_step (w : World Db (InFlight C) (Event C)) (a : Action DirectOp (Move C))
    (holds : Holds (Recorded fun _ _ => OwnSerialEvent) (fun _ _ => OwnSerialInFlight) w)
    (allowed : NamesOwnSerial w a) :
    Holds (Recorded fun _ _ => OwnSerialEvent) (fun _ _ => OwnSerialInFlight)
      ((service C cfg).step w a) := by
  refine records_step (P := fun _ _ => OwnSerialInFlight) (Q := fun _ _ => OwnSerialEvent)
    (fun _ same => same) (fun _ same => same) ?_ holds
  rintro id move call o rfl moved inFlight
  cases moved with
  | idle => exact ⟨by simp, inFlight⟩
  | abandoned => exact ⟨by simp, by simp⟩
  | provisionRefused | enrollRefused | enrollUnsigned | enrollConflict | renewRefused
  | enrollCreated | renewSigned =>
      refine ⟨?_, by simp⟩
      rintro ev ⟨⟩
      trivial
  | provisionClaimed req now model db' claimed =>
      obtain ⟨entry, listed, token, unspent, -⟩ := claimManifestEntry_ok (provisionClaim_ok claimed)
      refine ⟨by simp, ?_⟩
      rintro p ⟨⟩
      exact allowed ⟨entry, listed, token, unspent⟩
  | provisionSigned req model now entropy =>
      have own : csrCn C req.csrPem = some req.serial := inFlight (.provisioning req model) rfl
      refine ⟨?_, by simp⟩
      rintro ev ⟨⟩
      cases provisionSign C cfg req now entropy with
      | error => trivial
      | ok cert => exact own
  | enrollClaimed | enrollSigned | renewChecked =>
      refine ⟨by simp, ?_⟩
      rintro p ⟨⟩
      trivial

/-- **Device certificates.**  A certificate of `provision_device` names the serial
of its request exactly when the CSR does; and if every accepted request's CSR
does, each peer certificate that `bootstrap_enroll` accepts for a serial was issued
to a call that presented this serial and the token stored for it. -/
theorem device_cert_binding (laws : C.SigningLaws) (actions : List (Action DirectOp (Move C)))
    (unforgeable : Guarded (service C cfg).step (Unforgeable cfg) (.init .empty) actions) :
    (∀ issued ∈ okProvisions (serve C cfg actions).log,
      (certCn C issued.2 = some issued.1.serial ↔ csrCn C issued.1.csrPem = some issued.1.serial)) ∧
    (Guarded (service C cfg).step NamesOwnSerial (.init .empty) actions →
      (∀ issued ∈ okProvisions (serve C cfg actions).log,
        certCn C issued.2 = some issued.1.serial) ∧
      ∀ enrolled ∈ okEnrollments (serve C cfg actions).log, ∃ serial,
        extractSerial C enrolled.1.peerCerts = .ok serial ∧
        verifySignedBy C enrolled.1.peerCerts cfg.deviceCaCertPem = .ok () ∧
        ∃ issued ∈ okProvisions (serve C cfg actions).log,
          PresentsCert C issued.2 enrolled.1.peerCerts ∧ issued.1.serial = serial ∧
          ∃ entry, (serve C cfg actions).state.manifest? serial = some entry ∧
            entry.token = issued.1.provisionToken) := by
  have holds : Holds (Recorded (Phase1Event cfg)) (Phase1InFlight cfg) (serve C cfg actions) :=
    run_invariant _ (phase1_step laws) (holds_init (by simp [Recorded])) unforgeable
  have named : ∀ issued ∈ okProvisions (serve C cfg actions).log,
      certCn C issued.2 = csrCn C issued.1.csrPem :=
    fun issued member => (holds.shared _ (mem_okProvisions.1 member)).2
  refine ⟨fun issued member => by rw [named issued member], fun own => ?_⟩
  have ownHolds : Holds (Recorded fun _ _ => OwnSerialEvent) (fun _ _ => OwnSerialInFlight)
      (serve C cfg actions) :=
    run_invariant _ ownSerial_step (holds_init (by simp [Recorded])) own
  have bound : ∀ issued ∈ okProvisions (serve C cfg actions).log,
      certCn C issued.2 = some issued.1.serial := by
    intro issued member
    have self := ownHolds.shared _ (mem_okProvisions.1 member)
    exact (named issued member).trans self
  refine ⟨bound, fun enrolled member => ?_⟩
  obtain ⟨serial, read, verified, issued, returned, presents⟩ :=
    holds.shared _ (mem_okEnrollments.1 member)
  -- the name read from the peer certificate is the one it was issued with
  have same : issued.1.serial = serial := by
    have shown := presents.extractSerial_eq read
    rw [bound issued returned] at shown
    exact Option.some.inj shown
  obtain ⟨entry, listed, token⟩ := (holds.shared _ (mem_okProvisions.1 returned)).1
  exact ⟨serial, read, verified, issued, returned, presents, same, entry, same ▸ listed, token⟩

theorem Toy.presents (cert : String) : PresentsCert Pki.Toy.crypto cert [cert] :=
  ⟨cert, [], [], rfl, rfl⟩

theorem Toy.unforgeable_lifecycle :
    Guarded (service Pki.Toy.crypto Toy.config).step (Unforgeable Toy.config) (.init .empty)
      Toy.lifecycle :=
  ⟨trivial, trivial, trivial,
    fun _ => ⟨(⟨"SN-1", "SN-1", "token-1"⟩, "device-ca|SN-1"), by decide, Toy.presents _⟩,
    trivial, trivial, trivial⟩

/-- The device of `Toy.lifecycle` enrolls with the certificate it was given. -/
theorem device_cert_binding_lifecycle :
    (okEnrollments (serve Pki.Toy.crypto Toy.config Toy.lifecycle).log).length = 1 ∧
      ∀ issued ∈ okProvisions (serve Pki.Toy.crypto Toy.config Toy.lifecycle).log,
        certCn Pki.Toy.crypto issued.2 = some issued.1.serial :=
  ⟨by decide,
    ((device_cert_binding Pki.Toy.laws Toy.lifecycle Toy.unforgeable_lifecycle).2
      ⟨trivial, fun _ => rfl, trivial, trivial, trivial, trivial, trivial⟩).1⟩

/-- Each of two devices presents its own token, with a CSR that names the other;
then the certificate that was issued to `SN-1` enrolls `SN-2`. -/
def Toy.swapped : List (Action DirectOp (Move Pki.Toy.crypto)) :=
  [.direct (Toy.seed "SN-1" "token-1"),
   .direct (Toy.seed "SN-2" "token-2"),
   .call 0 (.provisionClaim ⟨"SN-1", "SN-2", "token-1"⟩ 100), .call 0 (.provisionSign 100 0),
   .call 1 (.provisionClaim ⟨"SN-2", "SN-1", "token-2"⟩ 100), .call 1 (.provisionSign 100 0),
   .call 2 (.enrollClaim ⟨"SN-2", "SN-2", "1.0.0", ["device-ca|SN-2"]⟩),
   .call 2 (.enrollSign 200 200 0), .call 2 (.enrollCreate "id-2" 200)]

/-- With a library that signs what the CSR says and no forged certificate, a
returned certificate does not name its request's serial, and `SN-2` is enrolled
with a certificate that no call presenting `SN-2` was given. -/
theorem swapped_csrs_impersonate :
    Pki.Toy.crypto.SigningLaws ∧
    Guarded (service Pki.Toy.crypto Toy.config).step (Unforgeable Toy.config) (.init .empty)
      Toy.swapped ∧
    ¬ (∀ issued ∈ okProvisions (serve Pki.Toy.crypto Toy.config Toy.swapped).log,
        certCn Pki.Toy.crypto issued.2 = some issued.1.serial) ∧
    ¬ (∀ enrolled ∈ okEnrollments (serve Pki.Toy.crypto Toy.config Toy.swapped).log,
        ∀ serial, extractSerial Pki.Toy.crypto enrolled.1.peerCerts = .ok serial →
        ∃ issued ∈ okProvisions (serve Pki.Toy.crypto Toy.config Toy.swapped).log,
          PresentsCert Pki.Toy.crypto issued.2 enrolled.1.peerCerts ∧ issued.1.serial = serial) := by
  refine ⟨Pki.Toy.laws, ⟨trivial, trivial, trivial, trivial, trivial, trivial, fun _ => ?_, trivial,
    trivial, trivial⟩, by decide, fun claim => ?_⟩
  · exact ⟨(⟨"SN-1", "SN-2", "token-1"⟩, "device-ca|SN-2"), by decide, Toy.presents _⟩
  · have enrolled := claim
      (⟨"SN-2", "SN-2", "1.0.0", ["device-ca|SN-2"]⟩, ⟨"id-2", "fleet-ca|SN-2", "fleet-ca|fleet-ca", 2592200⟩)
      (List.mem_singleton.2 rfl) "SN-2" (by decide)
    obtain ⟨issued, member, ⟨der, rest, others, block, peer⟩, same⟩ := enrolled
    have given : issued ∈ [((⟨"SN-1", "SN-2", "token-1"⟩ : ProvisionDeviceRequest), "device-ca|SN-2"),
      (⟨"SN-2", "SN-1", "token-2"⟩, "device-ca|SN-1")] := member
    simp only [List.mem_cons, List.not_mem_nil, or_false] at given
    rcases given with rfl | rfl
    · exact absurd same (by decide)
    · cases peer
      have clash : "device-ca|SN-1" = "device-ca|SN-2" := (List.cons.inj (Except.ok.inj block)).1
      exact absurd clash (by decide)

/-! ## Phases 2 and 3: the Fleet CA -/

theorem issueOperational_cn (laws : C.SigningLaws) {csrPem : String} {now later : Int} {entropy : Nat}
    {cert : String} {expiresAt : Int}
    (issued : issueOperational C cfg csrPem now later entropy = .ok (cert, expiresAt)) :
    certCn C cert = csrCn C csrPem :=
  Pki.signCsr_cn laws (issueOperational_ok issued)

/-- A call on its way to a Fleet CA certificate knows whom it is for. -/
def FleetInFlight : InFlight C → Prop
  | .provisioning .. => True
  | .claimed req certSerial _ => extractSerial C req.peerCerts = .ok certSerial
  | .signed req certSerial _ cert _ =>
    extractSerial C req.peerCerts = .ok certSerial ∧ certCn C cert = csrCn C req.csrPem
  | .renewing req device readAt =>
    readAt.deviceById? req.deviceId = some device ∧ device.status = "active"

/-- A Fleet CA certificate carries the CSR's name, and was issued for a row. -/
def FleetEvent (db : Db) : Event C → Prop
  | .enrolled req (.ok result) => certCn C result.operationalCertPem = csrCn C req.csrPem ∧
      ∃ device ∈ db.identities, device.id = result.deviceId ∧
        extractSerial C req.peerCerts = .ok device.serial
  | .renewed req readAt (.ok (cert, _)) => certCn C cert = csrCn C req.csrPem ∧
      ∃ device, readAt.deviceById? req.deviceId = some device ∧ device.status = "active"
  | _ => True

theorem FleetEvent.later {db db' : Db} {log log' : List (Event C)} {ev : Event C}
    (later : Later db log db' log') (holds : FleetEvent db ev) : FleetEvent db' ev := by
  cases ev with
  | provisioned => trivial
  | enrolled req result =>
      cases result with
      | error => trivial
      | ok result =>
          obtain ⟨named, device, stored, told⟩ := holds
          exact ⟨named, device, later.1.identities.subset stored, told⟩
  | renewed req readAt result =>
      cases result with
      | error => trivial
      | ok => exact holds

theorem fleet_step (laws : C.SigningLaws) (w : World Db (InFlight C) (Event C))
    (a : Action DirectOp (Move C))
    (holds : Holds (Recorded fun db _ => FleetEvent db) (fun _ _ => FleetInFlight) w) :
    Holds (Recorded fun db _ => FleetEvent db) (fun _ _ => FleetInFlight)
      ((service C cfg).step w a) := by
  refine records_step (P := fun _ _ => FleetInFlight) (Q := fun db _ => FleetEvent db)
    (fun _ same => same) FleetEvent.later ?_ holds
  rintro id move call o rfl moved inFlight
  cases moved with
  | idle => exact ⟨by simp, inFlight⟩
  | abandoned => exact ⟨by simp, by simp⟩
  | provisionRefused | provisionSigned | enrollRefused | enrollUnsigned | enrollConflict
  | renewRefused =>
      refine ⟨?_, by simp⟩
      rintro ev ⟨⟩
      trivial
  | provisionClaimed =>
      refine ⟨by simp, ?_⟩
      rintro p ⟨⟩
      trivial
  | enrollClaimed req certSerial pre db' claimed =>
      refine ⟨by simp, ?_⟩
      rintro p ⟨⟩
      exact (checkPeer_ok (enrollClaim_ok claimed).1).1
  | enrollSigned req certSerial pre now later entropy cert expiresAt issued =>
      have named : extractSerial C req.peerCerts = .ok certSerial :=
        inFlight (.claimed req certSerial pre) rfl
      refine ⟨by simp, ?_⟩
      rintro p ⟨⟩
      exact ⟨named, issueOperational_cn laws issued⟩
  | enrollCreated req certSerial pre cert expiresAt newId now result db' created =>
      have own : extractSerial C req.peerCerts = .ok certSerial ∧ certCn C cert = csrCn C req.csrPem :=
        inFlight (.signed req certSerial pre cert expiresAt) rfl
      obtain ⟨record, ran, rfl⟩ := enrollCreate_ok created
      have added := createDevice_identities ran
      obtain ⟨devices, rfl, -, -⟩ := createDevice_ok ran
      refine ⟨?_, by simp⟩
      rintro ev ⟨⟩
      refine ⟨own.2, ⟨newId, certSerial, pre.model, req.firmware, cert, now⟩, ?_, rfl, own.1⟩
      rw [added]
      exact List.mem_append_right _ (List.mem_singleton.2 rfl)
  | renewChecked req device passed =>
      refine ⟨by simp, ?_⟩
      rintro p ⟨⟩
      exact renewCheck_ok passed
  | renewSigned req device readAt now later entropy =>
      have checked : readAt.deviceById? req.deviceId = some device ∧ device.status = "active" :=
        inFlight (.renewing req device readAt) rfl
      refine ⟨?_, by simp⟩
      rintro ev ⟨⟩
      cases issued : issueOperational C cfg req.csrPem now later entropy with
      | error => trivial
      | ok result =>
          obtain ⟨cert, expiresAt⟩ := result
          exact ⟨issueOperational_cn laws issued, device, checked⟩

/-- The status check of a renewal of the request read these tables, at some
point of the run. -/
def ReadIn (cfg : Config) (actions : List (Action DirectOp (Move C))) (req : RenewCertRequest)
    (readAt : Db) : Prop :=
  ∃ before id after, actions = before ++ .call id (.renewCheck req) :: after ∧
    readAt = (serve C cfg before).state

theorem ReadIn.concat {actions : List (Action DirectOp (Move C))} {req : RenewCertRequest} {readAt : Db}
    (read : ReadIn cfg actions req readAt) (a : Action DirectOp (Move C)) :
    ReadIn cfg (actions ++ [a]) req readAt := by
  obtain ⟨before, id, after, rfl, same⟩ := read
  exact ⟨before, id, after ++ [a], by simp, same⟩

def ReadInFlight (cfg : Config) (actions : List (Action DirectOp (Move C))) : InFlight C → Prop
  | .renewing req _ readAt => ReadIn cfg actions req readAt
  | _ => True

def ReadEvent (cfg : Config) (actions : List (Action DirectOp (Move C))) : Event C → Prop
  | .renewed req readAt _ => ReadIn cfg actions req readAt
  | _ => True

/-- The ghost `readAt` is what it says. -/
theorem read_of_run (actions : List (Action DirectOp (Move C))) :
    Holds (Recorded fun _ _ => ReadEvent cfg actions) (fun _ _ => ReadInFlight cfg actions)
      (serve C cfg actions) := by
  induction actions using List.reverseRecOn with
  | nil => exact holds_init (by simp [Recorded])
  | append_singleton actions a ih =>
      have last : serve C cfg (actions ++ [a]) = (service C cfg).step (serve C cfg actions) a :=
        run_concat _ _ actions a
      have earlier : Holds (Recorded fun _ _ => ReadEvent cfg (actions ++ [a]))
          (fun _ _ => ReadInFlight cfg (actions ++ [a])) (serve C cfg actions) := by
        constructor
        · intro ev member
          have read := ih.shared ev member
          cases ev with
          | renewed => exact ReadIn.concat read a
          | provisioned | enrolled => trivial
        · intro id p flying
          have read := ih.inFlight id p flying
          cases p with
          | renewing => exact ReadIn.concat read a
          | provisioning | claimed | signed => trivial
      rw [last]
      refine records_step (P := fun _ _ => ReadInFlight cfg (actions ++ [a]))
        (Q := fun _ _ => ReadEvent cfg (actions ++ [a])) (fun _ same => same) (fun _ same => same) ?_ earlier
      rintro id move call o rfl moved inFlight
      have now : ∀ req, move = .renewCheck req →
          ReadIn cfg (actions ++ [.call id move]) req (serve C cfg actions).state := by
        rintro req rfl
        exact ⟨actions, id, [], rfl, rfl⟩
      cases moved with
      | idle => exact ⟨by simp, inFlight⟩
      | abandoned => exact ⟨by simp, by simp⟩
      | provisionRefused | provisionSigned | enrollRefused | enrollUnsigned | enrollConflict
      | enrollCreated =>
          refine ⟨?_, by simp⟩
          rintro ev ⟨⟩
          trivial
      | renewRefused req e =>
          refine ⟨?_, by simp⟩
          rintro ev ⟨⟩
          exact now req rfl
      | provisionClaimed | enrollClaimed | enrollSigned =>
          refine ⟨by simp, ?_⟩
          rintro p ⟨⟩
          trivial
      | renewChecked req device passed =>
          refine ⟨by simp, ?_⟩
          rintro p ⟨⟩
          exact now req rfl
      | renewSigned req device readAt =>
          have read : ReadIn cfg _ req readAt := inFlight (.renewing req device readAt) rfl
          refine ⟨?_, by simp⟩
          rintro ev ⟨⟩
          exact read

/-- An enrollment that is admitted asks, in its CSR, for the serial of its peer
certificate; a renewal that is admitted, for the serial of its device. -/
def NamesDevice (cfg : Config) (w : World Db (InFlight C) (Event C)) : Action DirectOp (Move C) → Prop
  | .call _ (.enrollClaim req) => ∀ serial row, checkPeer C cfg req = .ok serial →
      w.state.preEnrolled? serial = some row → row.claimed = 0 → csrCn C req.csrPem = some serial
  | .call _ (.renewCheck req) => ∀ device, w.state.deviceById? req.deviceId = some device →
      device.status = "active" → csrCn C req.csrPem = some device.serial
  | _ => True

def NamedInFlight : InFlight C → Prop
  | .provisioning .. => True
  | .claimed req certSerial _ | .signed req certSerial _ _ _ =>
    extractSerial C req.peerCerts = .ok certSerial ∧ csrCn C req.csrPem = some certSerial
  | .renewing req device readAt =>
    readAt.deviceById? req.deviceId = some device ∧ csrCn C req.csrPem = some device.serial

def NamedEvent : Event C → Prop
  | .enrolled req (.ok _) => ∃ serial, extractSerial C req.peerCerts = .ok serial ∧
      csrCn C req.csrPem = some serial
  | .renewed req readAt (.ok _) => ∃ device, readAt.deviceById? req.deviceId = some device ∧
      csrCn C req.csrPem = some device.serial
  | _ => True

theorem named_step (w : World Db (InFlight C) (Event C)) (a : Action DirectOp (Move C))
    (holds : Holds (Recorded fun _ _ => NamedEvent) (fun _ _ => NamedInFlight) w)
    (allowed : NamesDevice cfg w a) :
    Holds (Recorded fun _ _ => NamedEvent) (fun _ _ => NamedInFlight) ((service C cfg).step w a) := by
  refine records_step (P := fun _ _ => NamedInFlight) (Q := fun _ _ => NamedEvent)
    (fun _ same => same) (fun _ same => same) ?_ holds
  rintro id move call o rfl moved inFlight
  cases moved with
  | idle => exact ⟨by simp, inFlight⟩
  | abandoned => exact ⟨by simp, by simp⟩
  | provisionRefused | provisionSigned | enrollRefused | enrollUnsigned | enrollConflict
  | renewRefused =>
      refine ⟨?_, by simp⟩
      rintro ev ⟨⟩
      trivial
  | provisionClaimed =>
      refine ⟨by simp, ?_⟩
      rintro p ⟨⟩
      trivial
  | enrollClaimed req certSerial pre db' claimed =>
      obtain ⟨passed, ran⟩ := enrollClaim_ok claimed
      obtain ⟨row, found, free, -, -⟩ := lookupAndClaim_ok ran
      refine ⟨by simp, ?_⟩
      rintro p ⟨⟩
      exact ⟨(checkPeer_ok passed).1, allowed certSerial row passed found free⟩
  | enrollSigned req certSerial pre now later entropy cert expiresAt issued =>
      have own : NamedInFlight (.claimed req certSerial pre) := inFlight _ rfl
      refine ⟨by simp, ?_⟩
      rintro p ⟨⟩
      exact own
  | enrollCreated req certSerial pre cert expiresAt newId now result db' created =>
      have own : NamedInFlight (.signed req certSerial pre cert expiresAt) := inFlight _ rfl
      refine ⟨?_, by simp⟩
      rintro ev ⟨⟩
      exact ⟨certSerial, own⟩
  | renewChecked req device passed =>
      obtain ⟨found, active⟩ := renewCheck_ok passed
      refine ⟨by simp, ?_⟩
      rintro p ⟨⟩
      exact ⟨found, allowed device found active⟩
  | renewSigned req device readAt now later entropy =>
      have own : NamedInFlight (.renewing (C := C) req device readAt) := inFlight _ rfl
      refine ⟨?_, by simp⟩
      rintro ev ⟨⟩
      cases issueOperational C cfg req.csrPem now later entropy with
      | error => trivial
      | ok result => exact ⟨device, own⟩

/-- The row of an enrolled device, by the id its caller was given. -/
theorem deviceById?_of_identity {db : Db} {device : Identity} (stored : device ∈ db.identities) :
    ∃ row, db.deviceById? device.id = some row ∧ row.serial = device.serial := by
  obtain ⟨row, member, rfl⟩ := List.mem_map.1 stored
  exact ⟨row, db.devices.find?_self .id member, rfl⟩

/-- **Operational certificates.**  A Fleet CA certificate names the serial of the
row it was issued for (the row just created, or the row that `renew_cert` read as
active) exactly when the CSR does.  If every admitted CSR does, no renewal names a
device that was not active in the tables its status check read. -/
theorem operational_cert_binding (laws : C.SigningLaws) (actions : List (Action DirectOp (Move C))) :
    (∀ enrolled ∈ okEnrollments (serve C cfg actions).log, ∃ row,
      (serve C cfg actions).state.deviceById? enrolled.2.deviceId = some row ∧
      (certCn C enrolled.2.operationalCertPem = some row.serial ↔
        csrCn C enrolled.1.csrPem = some row.serial)) ∧
    (∀ renewal ∈ okRenewals (serve C cfg actions).log,
      ReadIn cfg actions renewal.1 renewal.2.1 ∧ ∃ row,
      renewal.2.1.deviceById? renewal.1.deviceId = some row ∧ row.status = "active" ∧
      (certCn C renewal.2.2 = some row.serial ↔ csrCn C renewal.1.csrPem = some row.serial)) ∧
    (Guarded (service C cfg).step (NamesDevice cfg) (.init .empty) actions →
      (∀ enrolled ∈ okEnrollments (serve C cfg actions).log, ∃ row,
        (serve C cfg actions).state.deviceById? enrolled.2.deviceId = some row ∧
        certCn C enrolled.2.operationalCertPem = some row.serial) ∧
      ∀ renewal ∈ okRenewals (serve C cfg actions).log,
        (∃ row, renewal.2.1.deviceById? renewal.1.deviceId = some row ∧ row.status = "active" ∧
          certCn C renewal.2.2 = some row.serial) ∧
        ∀ other ∈ renewal.2.1.devices.rows, certCn C renewal.2.2 = some other.serial →
          other.status = "active") := by
  have holds : Holds (Recorded fun db _ => FleetEvent db) (fun _ _ => FleetInFlight)
      (serve C cfg actions) :=
    run_invariant_free _ (fleet_step laws) (holds_init (by simp [Recorded])) actions
  have enrollment : ∀ enrolled ∈ okEnrollments (serve C cfg actions).log,
      certCn C enrolled.2.operationalCertPem = csrCn C enrolled.1.csrPem ∧ ∃ row,
        (serve C cfg actions).state.deviceById? enrolled.2.deviceId = some row ∧
        extractSerial C enrolled.1.peerCerts = .ok row.serial := by
    intro enrolled member
    obtain ⟨named, device, stored, same, peer⟩ := holds.shared _ (mem_okEnrollments.1 member)
    obtain ⟨row, found, serial⟩ := deviceById?_of_identity stored
    exact ⟨named, row, same ▸ found, serial ▸ peer⟩
  have renewal_ : ∀ renewal ∈ okRenewals (serve C cfg actions).log,
      certCn C renewal.2.2 = csrCn C renewal.1.csrPem ∧ ∃ row,
        renewal.2.1.deviceById? renewal.1.deviceId = some row ∧ row.status = "active" := by
    intro renewal member
    obtain ⟨expiresAt, returned⟩ := mem_okRenewals.1 member
    exact holds.shared _ returned
  refine ⟨fun enrolled member => ?_, fun renewal member => ?_, fun allowed => ?_⟩
  · obtain ⟨named, row, found, -⟩ := enrollment enrolled member
    exact ⟨row, found, by rw [named]⟩
  · obtain ⟨named, row, found, active⟩ := renewal_ renewal member
    obtain ⟨expiresAt, returned⟩ := mem_okRenewals.1 member
    exact ⟨(read_of_run actions).shared _ returned, row, found, active, by rw [named]⟩
  · have own : Holds (Recorded fun _ _ => NamedEvent) (fun _ _ => NamedInFlight)
        (serve C cfg actions) :=
      run_invariant _ named_step (holds_init (by simp [Recorded])) allowed
    refine ⟨fun enrolled member => ?_, fun renewal member => ?_⟩
    · obtain ⟨named, row, found, peer⟩ := enrollment enrolled member
      obtain ⟨serial, peer', asked⟩ := own.shared _ (mem_okEnrollments.1 member)
      rw [peer] at peer'
      cases peer'
      exact ⟨row, found, named.trans asked⟩
    · obtain ⟨named, row, found, active⟩ := renewal_ renewal member
      obtain ⟨expiresAt, returned⟩ := mem_okRenewals.1 member
      obtain ⟨device, found', asked⟩ := own.shared _ returned
      rw [found] at found'
      cases found'
      refine ⟨⟨row, found, active, named.trans asked⟩, fun other stored names => ?_⟩
      have serial : row.serial = other.serial := by
        rw [named, asked] at names
        exact Option.some.inj names
      rw [← renewal.2.1.devices.eq_of_key .serial (Table.mem_of_find? found) stored serial]
      exact active

/-- `Toy.lifecycle`, and then the device renews its certificate. -/
def Toy.renewed : List (Action DirectOp (Move Pki.Toy.crypto)) :=
  Toy.lifecycle ++ [.call 2 (.renewCheck ⟨"id-1", "SN-1"⟩), .call 2 (.renewSign 300 300 0)]

theorem Toy.namesDevice_renewed :
    Guarded (service Pki.Toy.crypto Toy.config).step (NamesDevice Toy.config) (.init .empty)
      Toy.renewed := by
  refine ⟨trivial, trivial, trivial, ?_, trivial, trivial, ?_, trivial, trivial⟩
  · intro serial row passed _ _
    have named : (Except.ok "SN-1" : Except Error String) = .ok serial := passed
    cases named
    rfl
  · intro device found _
    have read : some (NewDevice.toRecord ⟨"SN-1", "humanoid-v2", "1.0.0", "fleet-ca|SN-1"⟩ "id-1" 200) =
      some device := found
    cases read
    rfl

/-- The renewal of `Toy.renewed` names its device. -/
theorem operational_cert_binding_renewed :
    (okRenewals (serve Pki.Toy.crypto Toy.config Toy.renewed).log).length = 1 ∧
      ∀ renewal ∈ okRenewals (serve Pki.Toy.crypto Toy.config Toy.renewed).log,
        ∃ row, renewal.2.1.deviceById? renewal.1.deviceId = some row ∧ row.status = "active" ∧
          certCn Pki.Toy.crypto renewal.2.2 = some row.serial :=
  ⟨by decide, fun renewal member =>
    ((((operational_cert_binding Pki.Toy.laws Toy.renewed).2.2 Toy.namesDevice_renewed).2
      renewal member).1)⟩

/-- `SN-2` is suspended.  `SN-1` enrolls, and later renews, with CSRs that name `SN-2`. -/
def Toy.suspended : List (Action DirectOp (Move Pki.Toy.crypto)) :=
  [.direct (Toy.seed "SN-1" "token-1"),
   .direct (Toy.seed "SN-2" "token-2"),
   .call 0 (.provisionClaim ⟨"SN-1", "SN-1", "token-1"⟩ 100), .call 0 (.provisionSign 100 0),
   .call 1 (.provisionClaim ⟨"SN-2", "SN-2", "token-2"⟩ 100), .call 1 (.provisionSign 100 0),
   .call 2 (.enrollClaim ⟨"SN-2", "SN-2", "1.0.0", ["device-ca|SN-2"]⟩),
   .call 2 (.enrollSign 200 200 0), .call 2 (.enrollCreate "id-2" 200),
   .direct ⟨.updateStatus "id-2" "suspended" "lost", rfl⟩,
   .call 3 (.enrollClaim ⟨"SN-1", "SN-2", "1.0.0", ["device-ca|SN-1"]⟩),
   .call 3 (.enrollSign 300 300 0), .call 3 (.enrollCreate "id-1" 300),
   .call 4 (.renewCheck ⟨"id-1", "SN-2"⟩), .call 4 (.renewSign 400 400 0)]

/-- With a library that signs what the CSR says, an enrollment and a renewal
return certificates that do not name their row, and the renewal's names a device
that its own status check could see was suspended. -/
theorem suspended_serial_is_renewed :
    Pki.Toy.crypto.SigningLaws ∧
    ¬ (∀ enrolled ∈ okEnrollments (serve Pki.Toy.crypto Toy.config Toy.suspended).log,
        ∀ row ∈ (serve Pki.Toy.crypto Toy.config Toy.suspended).state.devices.rows,
          row.id = enrolled.2.deviceId →
          certCn Pki.Toy.crypto enrolled.2.operationalCertPem = some row.serial) ∧
    ¬ (∀ renewal ∈ okRenewals (serve Pki.Toy.crypto Toy.config Toy.suspended).log,
        ∀ row ∈ renewal.2.1.devices.rows, row.id = renewal.1.deviceId →
          certCn Pki.Toy.crypto renewal.2.2 = some row.serial) ∧
    ¬ (∀ renewal ∈ okRenewals (serve Pki.Toy.crypto Toy.config Toy.suspended).log,
        ∀ other ∈ renewal.2.1.devices.rows,
          certCn Pki.Toy.crypto renewal.2.2 = some other.serial → other.status = "active") :=
  ⟨Pki.Toy.laws, by decide, by decide, by decide⟩

end RobotFleet.Device
