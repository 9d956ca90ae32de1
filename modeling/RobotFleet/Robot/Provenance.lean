/-
# Robot.Provenance -- where the agent has its credentials from

Everything in the data directory besides the keys was once the answer of an RPC.
`DeviceBacked D` says that of `device.pem`: whatever the process holds or the file
contains satisfies `D`.  `Backed R` says it of `operational.pem` and `device-id`:
the two came in one response, a pair that satisfies `R`, and an agent that is
online uses exactly what the files hold.  Both survive every step whose answer, if
it is one, satisfies `D` or `R` (`Told`): crashes, failures and restarts included.

`Robot.Startup.Steps` does not say what a start read before it went on; the three
`step_proceed` lemmas do.
-/
import RobotFleet.Robot.Restart

namespace RobotFleet.Robot

open RobotFleet.Theory.Run
open RobotFleet.Pki (Crypto)

set_option autoImplicit false

/-! ## What a start reads -/

section Reads

variable {C : Crypto} {keys : Keys C} {serial : String} {disk : Disk}

theorem step_proceed_started : step keys serial ⟨disk, .started⟩ .proceed =
    ⟨disk, if isProvisioned disk then .phase2 else .provisioning⟩ := rfl

/-- An agent that goes online has read the three files. -/
theorem online_reads {cert key id : String}
    (went : step keys serial ⟨disk, .phase3⟩ .proceed = ⟨disk, .online cert key id⟩) :
    disk .operationalPem = some cert ∧ disk .operationalKey = some key ∧ disk .deviceId = some id := by
  unfold step loadOperationalCreds loadDeviceId Disk.readToString at went
  dsimp only at went
  cases pem : disk .operationalPem with
  | none => simp [pem, bind, Except.bind] at went
  | some cert' =>
      cases held : disk .operationalKey with
      | none => simp [pem, held, bind, Except.bind] at went
      | some key' =>
          cases named : disk .deviceId with
          | none => simp [pem, held, named, bind, Except.bind, pure, Except.pure] at went
          | some id' =>
              simp only [pem, held, named, bind, Except.bind, pure, Except.pure, Agent.mk.injEq,
                Process.online.injEq, true_and] at went
              obtain ⟨rfl, rfl, rfl⟩ := went
              exact ⟨rfl, rfl, rfl⟩

end Reads

/-! ## Answers -/

/-- The request that the process waits to have answered. -/
def Process.csrPem? : Process → Option String
  | .provisionCall csrPem | .enrollCall csrPem => some csrPem
  | _ => none

/-- The response that the process is storing. -/
def Process.response? : Process → Option EnrollResponse
  | .storeCert r | .storeChain r | .storeId r => some r
  | _ => none

/-- `provision` has generated the device key and not stored the certificate yet. -/
def Process.keyedDevice : Process → Bool
  | .provisionCall _ | .provisionStore _ => true
  | _ => false

/-- Phase 1 is over. -/
def Process.pastPhase1 : Process → Bool
  | .stopped | .started | .provisioning | .provisionCall _ | .provisionStore _ => false
  | _ => true

/-- What the RPCs answer satisfies `D` and `R`. -/
def Told {C : Crypto} (D : String → Prop) (R : String → String → Prop) (agent : Agent) (a : Action C) :
    Prop :=
  match agent.process, a with
  | .provisionCall _, .provisioned cert => D cert
  | .enrollCall _, .enrolled r => R r.operationalCertPem r.deviceId
  | _, _ => True

section Requests

variable {C : Crypto} {keys : Keys C} {serial : String}

/-- A request under way was made for the agent's own serial. -/
def Requested (keys : Keys C) (serial : String) (agent : Agent) : Prop :=
  ∀ csrPem, agent.process.csrPem? = some csrPem → ∃ key, keys.requestPem serial key = .ok csrPem

theorem requested_step (agent : Agent) (a : Action C) (requested : Requested keys serial agent) :
    Requested keys serial (step keys serial agent a) := by
  obtain ⟨disk, p⟩ := agent
  have moved := step_spec keys serial ⟨disk, p⟩ a
  generalize step keys serial ⟨disk, p⟩ a = after at moved
  cases moved with
  | idle => exact requested
  | deviceKey key csrPem made | operationalKey cert pem key csrPem made =>
      rintro csrPem' ⟨⟩
      exact ⟨key, made⟩
  | ended | gaveUp | start | skipProvisioning | needsProvisioning | deviceKeyOnly | provisioned
  | deviceCert | skipEnrollment | needsEnrollment | operationalKeyOnly | enrolled | operationalCert
  | chain | deviceId | online => nofun

end Requests

/-! ## The device certificate -/

/-- `device.pem` satisfies `D`, has its key beside it, and is there once Phase 1 is
over. -/
structure DeviceBacked (D : String → Prop) (agent : Agent) : Prop where
  stored : ∀ cert, agent.disk .devicePem = some cert → D cert
  storing : ∀ cert, agent.process = .provisionStore cert → D cert
  keyed : agent.process.keyedDevice = true ∨ (agent.disk .devicePem).isSome = true →
    (agent.disk .deviceKey).isSome = true
  provisioned : agent.process.pastPhase1 = true ∨ (agent.disk .operationalPem).isSome = true →
    (agent.disk .devicePem).isSome = true

section Device

variable {C : Crypto} {keys : Keys C} {serial : String} {D D' : String → Prop}

theorem DeviceBacked.mono {agent : Agent} (wider : ∀ cert, D cert → D' cert)
    (backed : DeviceBacked D agent) : DeviceBacked D' agent where
  stored cert found := wider cert (backed.stored cert found)
  storing cert here := wider cert (backed.storing cert here)
  keyed := backed.keyed
  provisioned := backed.provisioned

theorem deviceBacked_fresh : DeviceBacked D ⟨.empty, .stopped⟩ where
  stored := nofun
  storing := nofun
  keyed := by simp [Process.keyedDevice, Disk.empty]
  provisioned := by simp [Process.pastPhase1, Disk.empty]

/-- A move between two points of Phase 2 and 3, or back to the start, that leaves
the files of Phase 1 as they are. -/
theorem DeviceBacked.of_same {disk disk' : Disk} {p p' : Process} (backed : DeviceBacked D ⟨disk, p⟩)
    (pem : disk' .devicePem = disk .devicePem) (key : disk' .deviceKey = disk .deviceKey)
    (storing : ∀ cert, p' ≠ .provisionStore cert) (unkeyed : p'.keyedDevice = false)
    (past : p'.pastPhase1 = true ∨ (disk' .operationalPem).isSome = true →
      (disk .devicePem).isSome = true) : DeviceBacked D ⟨disk', p'⟩ where
  stored cert found := backed.stored cert (pem.symm.trans found)
  storing cert here := absurd here (storing cert)
  keyed which := by
    show (disk' .deviceKey).isSome = true
    rw [key]
    rcases which with keyed | present
    · rw [show p'.keyedDevice = false from unkeyed] at keyed
      cases keyed
    · have before : (disk .devicePem).isSome = true := by rwa [← pem]
      exact backed.keyed (Or.inr before)
  provisioned which := by
    show (disk' .devicePem).isSome = true
    rw [pem]
    exact past which

theorem deviceBacked_step {R : String → String → Prop} (agent : Agent) (a : Action C)
    (backed : DeviceBacked D agent) (told : Told D R agent a) :
    DeviceBacked D (step keys serial agent a) := by
  obtain ⟨disk, p⟩ := agent
  have moved := step_spec keys serial ⟨disk, p⟩ a
  generalize went : step keys serial ⟨disk, p⟩ a = after at moved
  have past := backed.provisioned
  cases moved with
  | idle => exact backed
  | ended | gaveUp | start | needsProvisioning =>
      exact backed.of_same rfl rfl nofun rfl fun which =>
        past (Or.inr (by simpa [Process.pastPhase1] using which))
  | skipProvisioning =>
      refine backed.of_same rfl rfl nofun rfl fun _ => ?_
      rw [step_proceed_started] at went
      by_cases present : isProvisioned disk = true
      · exact present
      · simp [present] at went
  | deviceKeyOnly key | deviceKey key csrPem made =>
      refine ⟨fun cert found => backed.stored cert (by simpa using found), nofun,
        fun _ => by simp, fun which => ?_⟩
      simpa using past (Or.inr (by simpa [Process.pastPhase1] using which))
  | provisioned csrPem cert =>
      refine ⟨backed.stored, ?_, fun _ => backed.keyed (Or.inl rfl), fun which => ?_⟩
      · rintro cert' ⟨⟩
        exact told
      · exact past (Or.inr (by simpa [Process.pastPhase1] using which))
  | deviceCert cert =>
      refine ⟨?_, nofun, fun _ => by simpa using backed.keyed (Or.inl rfl), fun _ => by simp⟩
      intro cert' found
      have same : cert' = cert := by simpa using found.symm
      subst same
      exact backed.storing cert' rfl
  | skipEnrollment | needsEnrollment | enrolled | online =>
      exact backed.of_same rfl rfl nofun rfl fun _ => past (Or.inl rfl)
  | operationalKeyOnly | operationalKey | operationalCert | chain | deviceId =>
      exact backed.of_same (by simp) (by simp) nofun rfl fun _ => past (Or.inl rfl)

end Device

/-! ## The operational certificate and the device id -/

/-- `operational.pem` and `device-id` came in one response, which satisfies `R`; an
agent that is online uses what the files hold. -/
structure Backed (R : String → String → Prop) (agent : Agent) : Prop where
  response : ∀ r, agent.process.response? = some r → R r.operationalCertPem r.deviceId
  storing : ∀ r, agent.process.response? = some r → agent.process.storing = true →
    agent.disk .operationalPem = some r.operationalCertPem
  stored : ∀ cert, agent.disk .operationalPem = some cert →
    ∃ id, R cert id ∧ ∀ id', agent.disk .deviceId = some id' → id' = id
  online : ∀ cert key id, agent.process = .online cert key id →
    agent.disk .operationalPem = some cert ∧ agent.disk .operationalKey = some key ∧
      agent.disk .deviceId = some id

section Operational

variable {C : Crypto} {keys : Keys C} {serial : String} {R R' : String → String → Prop}

theorem Backed.mono {agent : Agent} (wider : ∀ cert id, R cert id → R' cert id) (backed : Backed R agent) :
    Backed R' agent where
  response r here := wider _ _ (backed.response r here)
  storing := backed.storing
  stored cert found := by
    obtain ⟨id, known, only⟩ := backed.stored cert found
    exact ⟨id, wider cert id known, only⟩
  online := backed.online

theorem backed_fresh : Backed R ⟨.empty, .stopped⟩ := ⟨nofun, nofun, nofun, nofun⟩

/-- A move that leaves both files as they are, and stores nothing. -/
theorem Backed.of_same {disk disk' : Disk} {p p' : Process} (backed : Backed R ⟨disk, p⟩)
    (pem : disk' .operationalPem = disk .operationalPem) (id : disk' .deviceId = disk .deviceId)
    (silent : p'.response? = none) (offline : ∀ cert key id, p' ≠ .online cert key id) :
    Backed R ⟨disk', p'⟩ where
  response r here := by
    rw [show (Agent.mk disk' p').process.response? = none from silent] at here
    cases here
  storing r here := by
    rw [show (Agent.mk disk' p').process.response? = none from silent] at here
    cases here
  stored cert found := by
    obtain ⟨id', known, only⟩ := backed.stored cert (pem.symm.trans found)
    exact ⟨id', known, fun other named => only other (id.symm.trans named)⟩
  online cert key id here := absurd here (offline cert key id)

theorem backed_step {D : String → Prop} (agent : Agent) (a : Action C) (staged : Staged agent)
    (backed : Backed R agent) (told : Told D R agent a) : Backed R (step keys serial agent a) := by
  obtain ⟨disk, p⟩ := agent
  have moved := step_spec keys serial ⟨disk, p⟩ a
  generalize went : step keys serial ⟨disk, p⟩ a = after at moved
  cases moved with
  | idle => exact backed
  | ended | gaveUp | start | skipProvisioning | needsProvisioning | provisioned | skipEnrollment
  | needsEnrollment => exact backed.of_same rfl rfl rfl nofun
  | deviceKeyOnly | deviceKey | deviceCert | operationalKeyOnly | operationalKey =>
      exact backed.of_same (by simp) (by simp) rfl nofun
  | enrolled csrPem r =>
      refine ⟨?_, nofun, backed.stored, nofun⟩
      rintro r' ⟨⟩
      exact told
  | operationalCert r =>
      have known := backed.response r rfl
      have unnamed : disk .deviceId = none := staged.idLast (staged.acquiring .operational rfl)
      refine ⟨?_, ?_, ?_, nofun⟩
      · rintro r' ⟨⟩
        exact known
      · rintro r' ⟨⟩ -
        simp
      · intro cert found
        have same : cert = r.operationalCertPem := by simpa using found.symm
        subst same
        exact ⟨r.deviceId, known, fun id' named => by simp [unnamed] at named⟩
  | chain r =>
      refine ⟨?_, ?_, ?_, nofun⟩
      · rintro r' ⟨⟩
        exact backed.response r rfl
      · rintro r' ⟨⟩ -
        simpa using backed.storing r rfl rfl
      · intro cert found
        obtain ⟨id, known, only⟩ := backed.stored cert (by simpa using found)
        exact ⟨id, known, fun id' named => only id' (by simpa using named)⟩
  | deviceId r =>
      have stored : disk .operationalPem = some r.operationalCertPem := backed.storing r rfl rfl
      refine ⟨nofun, nofun, ?_, nofun⟩
      intro cert found
      have same : cert = r.operationalCertPem := by simpa [stored] using found.symm
      subst same
      exact ⟨r.deviceId, backed.response r rfl, fun id' named => by simpa using named.symm⟩
  | online cert key id =>
      refine ⟨nofun, nofun, backed.stored, ?_⟩
      rintro cert' key' id' ⟨⟩
      exact online_reads went

end Operational

/-! ## After enrollment -/

/-- The files are `disk`, and the process is not on its way to write any of them. -/
structure Frozen (disk : Disk) (agent : Agent) : Prop where
  files : agent.disk = disk
  acquired : agent.process.acquiring = none
  stored : agent.process.storing = false

/-- With both certificates on disk no start writes a file again. -/
theorem frozen_step {C : Crypto} {keys : Keys C} {serial : String} {disk : Disk}
    (device : (disk .devicePem).isSome = true) (operational : (disk .operationalPem).isSome = true)
    {agent : Agent} (frozen : Frozen disk agent) (a : Action C) :
    Frozen disk (step keys serial agent a) := by
  obtain ⟨files, p⟩ := agent
  obtain ⟨rfl, acquired, stored⟩ := frozen
  have moved := step_spec keys serial ⟨files, p⟩ a
  generalize step keys serial ⟨files, p⟩ a = after at moved
  cases moved with
  | idle => exact ⟨rfl, acquired, stored⟩
  | ended | gaveUp | start | skipProvisioning | skipEnrollment | online => exact ⟨rfl, rfl, rfl⟩
  | needsProvisioning missing =>
      rw [missing] at device
      cases device
  | needsEnrollment cert key missing =>
      rw [missing] at operational
      cases operational
  | deviceKeyOnly | deviceKey | provisioned | deviceCert | operationalKeyOnly | operationalKey | enrolled
  | operationalCert => cases acquired
  | chain | deviceId => cases stored

end RobotFleet.Robot
