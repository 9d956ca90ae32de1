/-
# Robot.Startup -- the agent's start-up over its data directory

`main.rs`, `provisioning.rs` and `enrollment.rs` of `robot-agent`, with
`generate_csr` of `pki/src/csr.rs`.  The directory is six files that are absent
or hold a text; a write is one step.  `main` is a program counter (`Process`)
with what the process keeps in memory at each point; the files are all that
survives it.

An `Action` starts the process, lets it take its next step with what that step
gets from outside (a generated key, the answer of an RPC), lets the step fail, or
kills the process.  `fail` is any `?` on the way: a write the file system refuses,
an RPC or a connection that fails, a missing variable.  `Steps` lists everything a
step can do (`step_spec`).
-/
import RobotFleet.Pki.Certificates
import RobotFleet.Theory.Run

namespace RobotFleet.Robot

open RobotFleet.Theory.Run
open RobotFleet.Pki (Crypto)

set_option autoImplicit false

/-! ## The data directory -/

inductive File where
  | deviceKey
  | devicePem
  | operationalKey
  | operationalPem
  | fleetCaChain
  | deviceId
  deriving DecidableEq, Repr

abbrev Disk := File → Option String

namespace Disk

def empty : Disk := fun _ => none

/-- `std::fs::write`, and the truncating write of `generate_csr`. -/
def write (disk : Disk) (file : File) (text : String) : Disk := Function.update disk file (some text)

@[simp] theorem write_self (disk : Disk) (file : File) (text : String) :
    disk.write file text file = some text := Function.update_self ..

@[simp] theorem write_of_ne (disk : Disk) {file other : File} (text : String) (ne : other ≠ file) :
    disk.write file text other = disk other := Function.update_of_ne ne ..

/-- `std::fs::read_to_string`. -/
def readToString (disk : Disk) (file : File) : Except String String :=
  match disk file with
  | none => .error "IO error: No such file or directory (os error 2)"
  | some text => .ok text

theorem readToString_ok {disk : Disk} {file : File} :
    (∃ text, disk.readToString file = .ok text) ↔ (disk file).isSome = true := by
  unfold readToString
  cases disk file <;> simp

end Disk

/-! ## `EnrollmentManager` -/

def isEnrolled (disk : Disk) : Bool := (disk .operationalPem).isSome

def isProvisioned (disk : Disk) : Bool := (disk .devicePem).isSome

def loadDeviceCert (disk : Disk) : Except String (String × String) := do
  return (← disk.readToString .devicePem, ← disk.readToString .deviceKey)

def loadOperationalCreds (disk : Disk) : Except String (String × String) := do
  return (← disk.readToString .operationalPem, ← disk.readToString .operationalKey)

def loadDeviceId (disk : Disk) : Except String String := disk.readToString .deviceId

/-- Both files are needed, and are enough. -/
theorem loadOperationalCreds_ok {disk : Disk} :
    (∃ creds, loadOperationalCreds disk = .ok creds) ↔
      (disk .operationalPem).isSome = true ∧ (disk .operationalKey).isSome = true := by
  unfold loadOperationalCreds Disk.readToString
  cases disk .operationalPem <;> cases disk .operationalKey <;>
    simp [bind, Except.bind, pure, Except.pure]

/-- The fields of `BootstrapEnrollResponse` that `enroll` stores. -/
structure EnrollResponse where
  operationalCertPem : String
  fleetCaChainPem : String
  deviceId : String
  deriving DecidableEq

/-! ## `main` -/

section Main

variable (C : Crypto)

/-- What `generate_csr` uses of `rcgen`. -/
structure Keys where
  /-- `KeyPair::serialize_pem` -/
  serializePem : C.KeyPair → String
  /-- `CertificateParams::serialize_request` for a common name, and its `pem` -/
  requestPem : String → C.KeyPair → Except String String
  keyPublic : C.KeyPair → C.PublicKey

/-- Where `main` is, with what it still needs.  `stopped` is no process at all. -/
inductive Process where
  | stopped
  | started
  | provisioning
  | provisionCall (csrPem : String)
  | provisionStore (deviceCertPem : String)
  | phase2
  | enrolling (deviceCertPem deviceKeyPem : String)
  | enrollCall (csrPem : String)
  | storeCert (response : EnrollResponse)
  | storeChain (response : EnrollResponse)
  | storeId (response : EnrollResponse)
  | phase3
  | online (operationalCertPem operationalKeyPem deviceId : String)
  deriving DecidableEq

inductive Action where
  | start
  | proceed
  | generate (key : C.KeyPair)
  | provisioned (deviceCertPem : String)
  | enrolled (response : EnrollResponse)
  | fail
  | crash

structure Agent where
  disk : Disk
  process : Process

variable {C} (keys : Keys C) (serial : String)

/-- `generate_csr`: the key is on disk before the request is built from it. -/
def generateCsr (key : C.KeyPair) (keyPath : File) (disk : Disk) : Except String String × Disk :=
  (keys.requestPem serial key, disk.write keyPath (keys.serializePem key))

/-- The agent goes on to an RPC with its CSR, or `?` ends it. -/
def callWith (next : String → Process) (generated : Except String String × Disk) : Agent :=
  match generated with
  | (.ok csrPem, disk) => ⟨disk, next csrPem⟩
  | (.error _, disk) => ⟨disk, .stopped⟩

def step (agent : Agent) (action : Action C) : Agent :=
  match agent.process, action with
  | .stopped, .start => { agent with process := .started }
  | .started, .proceed =>
    { agent with process := if isProvisioned agent.disk then .phase2 else .provisioning }
  | .provisioning, .generate key =>
    callWith .provisionCall (generateCsr keys serial key .deviceKey agent.disk)
  | .provisionCall _, .provisioned deviceCertPem =>
    { agent with process := .provisionStore deviceCertPem }
  | .provisionStore deviceCertPem, .proceed => ⟨agent.disk.write .devicePem deviceCertPem, .phase2⟩
  | .phase2, .proceed =>
    if isEnrolled agent.disk then { agent with process := .phase3 }
    else
      match loadDeviceCert agent.disk with
      | .error _ => { agent with process := .stopped }
      | .ok (cert, key) => { agent with process := .enrolling cert key }
  | .enrolling _ _, .generate key =>
    callWith .enrollCall (generateCsr keys serial key .operationalKey agent.disk)
  | .enrollCall _, .enrolled response => { agent with process := .storeCert response }
  | .storeCert r, .proceed => ⟨agent.disk.write .operationalPem r.operationalCertPem, .storeChain r⟩
  | .storeChain r, .proceed => ⟨agent.disk.write .fleetCaChain r.fleetCaChainPem, .storeId r⟩
  | .storeId r, .proceed => ⟨agent.disk.write .deviceId r.deviceId, .phase3⟩
  | .phase3, .proceed =>
    match loadOperationalCreds agent.disk, loadDeviceId agent.disk with
    | .ok (cert, key), .ok id => { agent with process := .online cert key id }
    | _, _ => { agent with process := .stopped }
  | .stopped, _ => agent
  | _, .fail => { agent with process := .stopped }
  | _, .crash => { agent with process := .stopped }
  | _, _ => agent

/-- The agent after a run from a factory-fresh directory. -/
def boot (actions : List (Action C)) : Agent := run (step keys serial) ⟨.empty, .stopped⟩ actions

/-! ## Everything a step can do -/

/-- The files are read and written only as the constructors say. -/
inductive Steps (disk : Disk) : Process → Action C → Agent → Prop
  | idle (p : Process) (a : Action C) : (a ≠ .crash ∧ a ≠ .fail ∨ p = .stopped) → Steps disk p a ⟨disk, p⟩
  | ended (p : Process) (a : Action C) : a = .crash ∨ a = .fail → Steps disk p a ⟨disk, .stopped⟩
  | gaveUp (p : Process) : p = .phase2 ∨ p = .phase3 → Steps disk p .proceed ⟨disk, .stopped⟩
  | start : Steps disk .stopped .start ⟨disk, .started⟩
  | skipProvisioning : Steps disk .started .proceed ⟨disk, .phase2⟩
  | needsProvisioning : disk .devicePem = none → Steps disk .started .proceed ⟨disk, .provisioning⟩
  | deviceKeyOnly (key : C.KeyPair) :
      Steps disk .provisioning (.generate key) ⟨disk.write .deviceKey (keys.serializePem key), .stopped⟩
  | deviceKey (key : C.KeyPair) (csrPem : String) : keys.requestPem serial key = .ok csrPem →
      Steps disk .provisioning (.generate key)
        ⟨disk.write .deviceKey (keys.serializePem key), .provisionCall csrPem⟩
  | provisioned (csrPem cert : String) :
      Steps disk (.provisionCall csrPem) (.provisioned cert) ⟨disk, .provisionStore cert⟩
  | deviceCert (cert : String) :
      Steps disk (.provisionStore cert) .proceed ⟨disk.write .devicePem cert, .phase2⟩
  | skipEnrollment : Steps disk .phase2 .proceed ⟨disk, .phase3⟩
  | needsEnrollment (cert key : String) : disk .operationalPem = none →
      Steps disk .phase2 .proceed ⟨disk, .enrolling cert key⟩
  | operationalKeyOnly (cert pem : String) (key : C.KeyPair) :
      Steps disk (.enrolling cert pem) (.generate key)
        ⟨disk.write .operationalKey (keys.serializePem key), .stopped⟩
  | operationalKey (cert pem : String) (key : C.KeyPair) (csrPem : String) :
      keys.requestPem serial key = .ok csrPem →
      Steps disk (.enrolling cert pem) (.generate key)
        ⟨disk.write .operationalKey (keys.serializePem key), .enrollCall csrPem⟩
  | enrolled (csrPem : String) (r : EnrollResponse) :
      Steps disk (.enrollCall csrPem) (.enrolled r) ⟨disk, .storeCert r⟩
  | operationalCert (r : EnrollResponse) :
      Steps disk (.storeCert r) .proceed
        ⟨disk.write .operationalPem r.operationalCertPem, .storeChain r⟩
  | chain (r : EnrollResponse) :
      Steps disk (.storeChain r) .proceed ⟨disk.write .fleetCaChain r.fleetCaChainPem, .storeId r⟩
  | deviceId (r : EnrollResponse) :
      Steps disk (.storeId r) .proceed ⟨disk.write .deviceId r.deviceId, .phase3⟩
  | online (cert key id : String) : Steps disk .phase3 .proceed ⟨disk, .online cert key id⟩

/-- `generate_csr` leaves the key behind whether or not the request was built. -/
theorem callWith_generateCsr (key : C.KeyPair) (keyPath : File) (disk : Disk)
    (next : String → Process) :
    (∃ csrPem, keys.requestPem serial key = .ok csrPem ∧
      callWith next (generateCsr keys serial key keyPath disk) =
        ⟨disk.write keyPath (keys.serializePem key), next csrPem⟩) ∨
    callWith next (generateCsr keys serial key keyPath disk) =
      ⟨disk.write keyPath (keys.serializePem key), .stopped⟩ := by
  unfold generateCsr callWith
  cases requested : keys.requestPem serial key with
  | ok csrPem => exact Or.inl ⟨csrPem, rfl, rfl⟩
  | error e => exact Or.inr rfl

theorem step_spec (agent : Agent) (action : Action C) :
    Steps keys serial agent.disk agent.process action (step keys serial agent action) := by
  obtain ⟨disk, process⟩ := agent
  unfold step
  dsimp only
  split
  · exact .start
  · by_cases present : isProvisioned disk = true
    · simp only [present, if_true]
      exact .skipProvisioning
    · simp only [present, if_false, Bool.false_eq_true]
      exact .needsProvisioning (by simpa [isProvisioned] using present)
  · rename_i key
    rcases callWith_generateCsr keys serial key .deviceKey disk .provisionCall with
      ⟨csrPem, requested, same⟩ | same
    · rw [same]
      exact .deviceKey key csrPem requested
    · rw [same]
      exact .deviceKeyOnly key
  · exact .provisioned _ _
  · exact .deviceCert _
  · by_cases present : isEnrolled disk = true
    · simp only [present, if_true]
      exact .skipEnrollment
    · simp only [present, if_false, Bool.false_eq_true]
      split
      · exact .gaveUp _ (Or.inl rfl)
      · exact .needsEnrollment _ _ (by simpa [isEnrolled] using present)
  · rename_i cert pem key
    rcases callWith_generateCsr keys serial key .operationalKey disk .enrollCall with
      ⟨csrPem, requested, same⟩ | same
    · rw [same]
      exact .operationalKey cert pem key csrPem requested
    · rw [same]
      exact .operationalKeyOnly cert pem key
  · exact .enrolled _ _
  · exact .operationalCert _
  · exact .chain _
  · exact .deviceId _
  · split
    · exact .online _ _ _
    · exact .gaveUp _ (Or.inr rfl)
  · exact .idle _ _ (Or.inr rfl)
  · exact .ended _ _ (Or.inr rfl)
  · exact .ended _ _ (Or.inl rfl)
  · refine .idle _ _ (Or.inl ⟨?_, ?_⟩)
    · intro crashed
      simp_all
    · intro failed
      simp_all

end Main

end RobotFleet.Robot
