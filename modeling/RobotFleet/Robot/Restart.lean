/-
# Robot.Restart -- what restarts find on disk

`is_enrolled` is the existence of `operational.pem`, while Phase 3 needs the key
and `device-id` as well, and `enroll` writes `device-id` last.

* `restart_complete_iff`: a directory that says "enrolled" is complete exactly when
  no start ended between the write of `operational.pem` and the write of
  `device-id`, and none stands between them.
* `crash_before_device_id`: one that does leaves an agent that no restart repairs.
* `keys_match_certificates`: in every run, crashes and failures included, a stored
  certificate belongs to the key beside it, and neither is written again.

`Process.acquiring` says which certificate the process is on its way to store.
Until it has stored it the certificate is not on disk (`Staged`), which is why no
key is replaced under its certificate.
-/
import RobotFleet.Robot.Startup

namespace RobotFleet.Robot

open RobotFleet.Theory.Run
open RobotFleet.Pki (Crypto signCsr certsFromPem)
open RobotFleet.Theory.Calls (mapError_ok)

set_option autoImplicit false

/-! ## Certificates on their way to the disk -/

/-- The two certificates of an agent, each with its key. -/
inductive Credential where
  | device
  | operational
  deriving DecidableEq, Repr

def Credential.certFile : Credential → File
  | .device => .devicePem
  | .operational => .operationalPem

def Credential.keyFile : Credential → File
  | .device => .deviceKey
  | .operational => .operationalKey

/-- The certificate that the process found missing and has not stored yet. -/
def Process.acquiring : Process → Option Credential
  | .provisioning | .provisionCall _ | .provisionStore _ => some .device
  | .enrolling _ _ | .enrollCall _ | .storeCert _ => some .operational
  | _ => none

/-- `operational.pem` is written and `device-id` is not. -/
def Process.storing : Process → Bool
  | .storeChain _ | .storeId _ => true
  | _ => false

/-- The key of the operational certificate under way is written. -/
def Process.keyWritten : Process → Bool
  | .enrollCall _ | .storeCert _ | .storeChain _ | .storeId _ => true
  | _ => false

/-- The order in which files come to exist. -/
structure Staged (agent : Agent) : Prop where
  acquiring : ∀ c, agent.process.acquiring = some c → agent.disk c.certFile = none
  keyWritten : agent.process.keyWritten = true → (agent.disk .operationalKey).isSome = true
  storing : agent.process.storing = true →
    (agent.disk .operationalPem).isSome = true ∧ agent.disk .deviceId = none
  keyFirst : (agent.disk .operationalPem).isSome = true → (agent.disk .operationalKey).isSome = true
  idLast : agent.disk .operationalPem = none → agent.disk .deviceId = none

/-- A move that leaves the files of Phase 2 alone and enters none of its stages. -/
theorem Staged.of_same {disk disk' : Disk} {p p' : Process} (staged : Staged ⟨disk, p⟩)
    (key : disk' .operationalKey = disk .operationalKey)
    (pem : disk' .operationalPem = disk .operationalPem) (id : disk' .deviceId = disk .deviceId)
    (acquiring : ∀ c, p'.acquiring = some c → disk' c.certFile = none)
    (keyWritten : p'.keyWritten = true → p.keyWritten = true)
    (storing : p'.storing = true → p.storing = true) : Staged ⟨disk', p'⟩ where
  acquiring := acquiring
  keyWritten written := by
    show (disk' .operationalKey).isSome = true
    rw [key]
    exact staged.keyWritten (keyWritten written)
  storing stores := by
    show (disk' .operationalPem).isSome = true ∧ disk' .deviceId = none
    rw [pem, id]
    exact staged.storing (storing stores)
  keyFirst stored := by
    have before : (disk .operationalPem).isSome = true := by rwa [← pem]
    show (disk' .operationalKey).isSome = true
    rw [key]
    exact staged.keyFirst before
  idLast missing := by
    have before : disk .operationalPem = none := by rwa [← pem]
    show disk' .deviceId = none
    rw [id]
    exact staged.idLast before

/-- A process that acquires nothing. -/
theorem no_acquiring {p : Process} {disk : Disk} (nothing : p.acquiring = none) :
    ∀ c, p.acquiring = some c → disk (Credential.certFile c) = none := by
  intro c acquires
  rw [nothing] at acquires
  cases acquires

/-- A process that acquires one certificate, which is missing. -/
theorem acquiring_only {p : Process} {disk : Disk} {c : Credential} (one : p.acquiring = some c)
    (missing : disk c.certFile = none) :
    ∀ c', p.acquiring = some c' → disk (Credential.certFile c') = none := by
  intro c' acquires
  rw [one] at acquires
  cases acquires
  exact missing

section Runs

variable {C : Crypto} {keys : Keys C} {serial : String}

theorem Steps.staged {disk : Disk} {p : Process} {a : Action C} {after : Agent}
    (moved : Steps keys serial disk p a after) (staged : Staged ⟨disk, p⟩) : Staged after := by
  cases moved with
  | idle => exact staged
  | ended | gaveUp | start | skipProvisioning | skipEnrollment | online =>
      exact staged.of_same rfl rfl rfl (no_acquiring rfl) nofun nofun
  | needsProvisioning missing =>
      exact staged.of_same rfl rfl rfl (acquiring_only rfl missing) nofun nofun
  | deviceKeyOnly key =>
      exact staged.of_same (by simp) (by simp) (by simp) (no_acquiring rfl) nofun nofun
  | deviceKey key csrPem requested =>
      have missing : disk .devicePem = none := staged.acquiring .device rfl
      exact staged.of_same (by simp) (by simp) (by simp)
        (acquiring_only rfl (by simpa [Credential.certFile] using missing)) nofun nofun
  | provisioned csrPem cert =>
      exact staged.of_same rfl rfl rfl (acquiring_only rfl (staged.acquiring .device rfl))
        nofun nofun
  | deviceCert cert =>
      exact staged.of_same (by simp) (by simp) (by simp) (no_acquiring rfl) nofun nofun
  | needsEnrollment cert key missing =>
      exact staged.of_same rfl rfl rfl (acquiring_only rfl missing) nofun nofun
  | operationalKeyOnly cert pem key =>
      refine ⟨no_acquiring rfl, nofun, nofun, fun _ => by simp, ?_⟩
      intro missing
      simpa using staged.idLast (by simpa using missing)
  | operationalKey cert pem key csrPem requested =>
      have missing : disk .operationalPem = none := staged.acquiring .operational rfl
      refine ⟨acquiring_only rfl (by simpa [Credential.certFile] using missing), fun _ => by simp,
        nofun, fun _ => by simp, fun _ => ?_⟩
      simpa using staged.idLast missing
  | enrolled csrPem r =>
      exact staged.of_same rfl rfl rfl (acquiring_only rfl (staged.acquiring .operational rfl))
        (fun _ => rfl) nofun
  | operationalCert r =>
      have missing : disk .operationalPem = none := staged.acquiring .operational rfl
      have key : (disk .operationalKey).isSome = true := staged.keyWritten rfl
      refine ⟨no_acquiring rfl, fun _ => by simpa using key, fun _ => ⟨by simp, ?_⟩,
        fun _ => by simpa using key, fun gone => by simp at gone⟩
      simpa using staged.idLast missing
  | chain r =>
      exact staged.of_same (by simp) (by simp) (by simp) (no_acquiring rfl) (fun _ => rfl)
        (fun _ => rfl)
  | deviceId r =>
      have stored : (disk .operationalPem).isSome = true := (staged.storing rfl).1
      refine ⟨no_acquiring rfl, nofun, nofun, fun _ => ?_, fun gone => ?_⟩
      · simpa using staged.keyFirst stored
      · simp only [ne_eq, reduceCtorEq, not_false_eq_true, Disk.write_of_ne] at gone
        rw [gone] at stored
        cases stored

theorem staged_step (agent : Agent) (a : Action C) (staged : Staged agent) :
    Staged (step keys serial agent a) :=
  (step_spec keys serial agent a).staged staged

theorem staged_fresh : Staged ⟨.empty, .stopped⟩ :=
  ⟨no_acquiring rfl, nofun, nofun, nofun, fun _ => rfl⟩

theorem staged_boot (actions : List (Action C)) : Staged (boot keys serial actions) :=
  run_invariant_free _ staged_step staged_fresh actions

/-! ## A restarted agent that says it is enrolled -/

/-- Once `is_enrolled` is true, Phase 3 finds its credentials and its id. -/
def Complete (disk : Disk) : Prop :=
  isEnrolled disk = true →
    (∃ creds, loadOperationalCreds disk = .ok creds) ∧ ∃ id, loadDeviceId disk = .ok id

/-- With the files in their order, all that can be missing is the id. -/
theorem Staged.complete_iff {agent : Agent} (staged : Staged agent) :
    Complete agent.disk ↔
      ((agent.disk .operationalPem).isSome = true → (agent.disk .deviceId).isSome = true) := by
  unfold Complete isEnrolled loadDeviceId
  constructor
  · intro complete stored
    exact Disk.readToString_ok.1 (complete stored).2
  · intro present stored
    exact ⟨loadOperationalCreds_ok.2 ⟨stored, staged.keyFirst stored⟩,
      Disk.readToString_ok.2 (present stored)⟩

/-- No start ends between the two writes. -/
def Unbroken (agent : Agent) (a : Action C) : Prop :=
  agent.process.storing = true → a ≠ .crash ∧ a ≠ .fail

/-- The id is there whenever the certificate is, unless it is being written. -/
def IdPresent (agent : Agent) : Prop :=
  agent.process.storing = false →
    (agent.disk .operationalPem).isSome = true → (agent.disk .deviceId).isSome = true

theorem Steps.idPresent {disk : Disk} {p : Process} {a : Action C} {after : Agent}
    (moved : Steps keys serial disk p a after) (present : IdPresent ⟨disk, p⟩)
    (unbroken : Unbroken ⟨disk, p⟩ a) : IdPresent after := by
  cases moved with
  | idle => exact present
  | ended p a how =>
      intro _ stored
      by_cases stores : p.storing = true
      · obtain ⟨notCrash, notFail⟩ := unbroken stores
        rcases how with crashed | failed
        · exact absurd crashed notCrash
        · exact absurd failed notFail
      · exact present (by simpa using stores) stored
  | gaveUp p which =>
      intro _ stored
      rcases which with rfl | rfl
      · exact present rfl stored
      · exact present rfl stored
  | operationalCert | chain =>
      intro stores
      cases stores
  | deviceId r =>
      intro _ _
      simp
  | start | skipProvisioning | needsProvisioning | provisioned | skipEnrollment | needsEnrollment
  | enrolled | online => exact fun _ stored => present rfl stored
  | deviceKeyOnly | deviceKey | deviceCert | operationalKeyOnly | operationalKey =>
      intro _ stored
      simpa using present rfl (by simpa using stored)

/-- The directory says "enrolled" and has no id, and nobody is about to write it. -/
def Stranded (agent : Agent) : Prop :=
  agent.process.storing = false ∧ (agent.disk .operationalPem).isSome = true ∧
    agent.disk .deviceId = none

/-- No restart repairs it: each goes past Phase 2, which alone writes the id. -/
theorem Steps.stranded {disk : Disk} {p : Process} {a : Action C} {after : Agent}
    (moved : Steps keys serial disk p a after) (staged : Staged ⟨disk, p⟩)
    (stranded : Stranded ⟨disk, p⟩) : Stranded after := by
  obtain ⟨stores, stored, missing⟩ := stranded
  cases moved with
  | idle => exact ⟨stores, stored, missing⟩
  | ended | gaveUp | start | skipProvisioning | needsProvisioning | provisioned | skipEnrollment
  | needsEnrollment | enrolled | online => exact ⟨rfl, stored, missing⟩
  | deviceKeyOnly | deviceKey | deviceCert | operationalKeyOnly | operationalKey =>
      exact ⟨rfl, by simpa using stored, by simpa using missing⟩
  | operationalCert r =>
      have absent : disk .operationalPem = none := staged.acquiring .operational rfl
      have stored' : (disk .operationalPem).isSome = true := stored
      rw [absent] at stored'
      cases stored'
  | chain | deviceId => cases stores

theorem stranded_run (keys : Keys C) (serial : String) {agent : Agent} (staged : Staged agent) (stranded : Stranded agent)
    (later : List (Action C)) : Stranded (run (step keys serial) agent later) := by
  have both : Staged (run (step keys serial) agent later) ∧
      Stranded (run (step keys serial) agent later) := by
    refine run_invariant_free (step keys serial) (I := fun agent => Staged agent ∧ Stranded agent)
      ?_ ⟨staged, stranded⟩ later
    intro agent a holds
    exact ⟨staged_step agent a holds.1, (step_spec keys serial agent a).stranded holds.1 holds.2⟩
  exact both.2

/-- A start that ends between the two writes leaves such a directory. -/
theorem stranded_of_broken (keys : Keys C) (serial : String) {agent : Agent} {a : Action C}
    (staged : Staged agent) (stores : agent.process.storing = true) (ends : a = .crash ∨ a = .fail) :
    Stranded (step keys serial agent a) := by
  obtain ⟨disk, p⟩ := agent
  have stopped : step keys serial ⟨disk, p⟩ a = ⟨disk, .stopped⟩ := by
    cases p with
    | storeChain r | storeId r => rcases ends with rfl | rfl <;> rfl
    | _ => cases stores
  rw [stopped]
  exact ⟨rfl, staged.storing stores⟩

theorem Staged.incomplete {agent : Agent} (staged : Staged agent)
    (stored : (agent.disk .operationalPem).isSome = true) (missing : agent.disk .deviceId = none) :
    ¬ Complete agent.disk := by
  intro complete
  have present := staged.complete_iff.1 complete stored
  rw [missing] at present
  cases present

/-- **Restart completeness, exactly.**  An enrolled directory has all that Phase 3
loads if and only if no start so far ended between the write of `operational.pem`
and that of `device-id`, and none stands between them now. -/
theorem restart_complete_iff (actions : List (Action C)) :
    Complete (boot keys serial actions).disk ↔
      Guarded (step keys serial) Unbroken ⟨.empty, .stopped⟩ actions ∧
        (boot keys serial actions).process.storing = false := by
  have staged : Staged (boot keys serial actions) := staged_boot actions
  constructor
  · intro complete
    constructor
    · rw [guarded_iff]
      intro before a after split stores
      by_contra broken
      have ends : a = .crash ∨ a = .fail := by
        by_cases crashed : a = .crash
        · exact Or.inl crashed
        · by_cases failed : a = .fail
          · exact Or.inr failed
          · exact absurd ⟨crashed, failed⟩ broken
      have left : Staged (boot keys serial before) := staged_boot before
      have stranded := stranded_of_broken keys serial left stores ends
      have later := stranded_run keys serial (staged_step _ a left) stranded after
      have here : run (step keys serial) (step keys serial (boot keys serial before) a) after =
          boot keys serial actions := by
        rw [split]
        exact (run_append _ _ before (a :: after)).symm
      rw [here] at later
      exact staged.incomplete later.2.1 later.2.2 complete
    · cases stores : (boot keys serial actions).process.storing with
      | false => rfl
      | true =>
          obtain ⟨stored, missing⟩ := staged.storing stores
          exact absurd complete (staged.incomplete stored missing)
  · rintro ⟨unbroken, rest⟩
    have present : IdPresent (boot keys serial actions) :=
      run_invariant _ (fun agent a present unbroken =>
        (step_spec keys serial agent a).idPresent present unbroken)
        (fun _ => nofun) unbroken
    exact staged.complete_iff.2 (present rest)

/-! ## Keys and certificates -/

/-- The public key of the first certificate in a PEM text. -/
def certPublicKey (C : Crypto) (certPem : String) : Option C.PublicKey :=
  match certsFromPem C certPem with
  | .ok (der :: _) => (C.x509FromDer der).toOption.map C.publicKey
  | _ => none

/-- What is documented of `rcgen`: a key reads back from its PEM, and a request
carries the public key of the pair it was made with. -/
structure Keys.Laws (keys : Keys C) : Prop where
  key_parses : ∀ key, C.keyPairFromPem (keys.serializePem key) = .ok key
  request_key : ∀ {cn key csrPem csr}, keys.requestPem cn key = .ok csrPem →
    C.csrFromPem csrPem = .ok csr → C.csrPublicKey csr = keys.keyPublic key

/-- The certificate carries the public key of the request. -/
def CarriesKey (C : Crypto) (csrPem certPem : String) : Prop :=
  ∃ csr, C.csrFromPem csrPem = .ok csr ∧ certPublicKey C certPem = some (C.csrPublicKey csr)

/-- The server's `sign_csr` issues such certificates. -/
theorem carriesKey_of_signCsr (laws : C.SigningLaws) {csrPem caCertPem caKeyPem certPem : String}
    {validityDays : Nat} {now : Int} {entropy : Nat}
    (signed : signCsr C csrPem caCertPem caKeyPem validityDays now entropy = .ok certPem) :
    CarriesKey C csrPem certPem := by
  obtain ⟨caKey, caCert, csr, cert, parsed, issued, rfl⟩ := Pki.signCsr_eq_ok signed
  obtain ⟨der, x509, block, read, -, same⟩ := laws.signed_parses issued
  have certs : certsFromPem C (C.certPem cert) = .ok [der] := mapError_ok.2 block
  refine ⟨csr, parsed, ?_⟩
  rw [certPublicKey, certs]
  show (C.x509FromDer der).toOption.map C.publicKey = some (C.csrPublicKey csr)
  rw [read, ← same]
  rfl

/-- The answer of an RPC belongs to the request of the same call. -/
def Honest (agent : Agent) (a : Action C) : Prop :=
  match agent.process, a with
  | .provisionCall csrPem, .provisioned cert => CarriesKey C csrPem cert
  | .enrollCall csrPem, .enrolled r => CarriesKey C csrPem r.operationalCertPem
  | _, _ => True

/-- The file holds the private key of the public key. -/
def HoldsKey (keys : Keys C) (disk : Disk) (file : File) (public_ : C.PublicKey) : Prop :=
  ∃ keyPem key, disk file = some keyPem ∧ C.keyPairFromPem keyPem = .ok key ∧
    keys.keyPublic key = public_

/-- A stored certificate has its private key beside it. -/
def KeyMatches (keys : Keys C) (disk : Disk) (c : Credential) : Prop :=
  ∀ certPem, disk c.certFile = some certPem →
    ∃ public_, certPublicKey C certPem = some public_ ∧ HoldsKey keys disk c.keyFile public_

/-- What the process has in hand for the certificate it is acquiring. -/
def InHand (keys : Keys C) (disk : Disk) : Process → Prop
  | .provisionCall csrPem => ∀ csr, C.csrFromPem csrPem = .ok csr →
      HoldsKey keys disk .deviceKey (C.csrPublicKey csr)
  | .provisionStore cert => ∃ public_, certPublicKey C cert = some public_ ∧
      HoldsKey keys disk .deviceKey public_
  | .enrollCall csrPem => ∀ csr, C.csrFromPem csrPem = .ok csr →
      HoldsKey keys disk .operationalKey (C.csrPublicKey csr)
  | .storeCert r => ∃ public_, certPublicKey C r.operationalCertPem = some public_ ∧
      HoldsKey keys disk .operationalKey public_
  | _ => True

structure Paired (keys : Keys C) (agent : Agent) : Prop where
  staged : Staged agent
  matched : ∀ c, KeyMatches keys agent.disk c
  inHand : InHand keys agent.disk agent.process

/-- A write elsewhere keeps a pair matched. -/
theorem KeyMatches.of_same {disk disk' : Disk} {c : Credential} (matched : KeyMatches keys disk c)
    (cert : disk' c.certFile = disk c.certFile) (key : disk' c.keyFile = disk c.keyFile) :
    KeyMatches keys disk' c := by
  intro certPem stored
  obtain ⟨public_, carried, keyPem, pair, held, parsed, same⟩ := matched certPem (by rwa [← cert])
  exact ⟨public_, carried, keyPem, pair, by rwa [key], parsed, same⟩

/-- A key may be written while its certificate is missing. -/
theorem KeyMatches.of_missing {disk : Disk} {c : Credential} (missing : disk c.certFile = none) :
    KeyMatches keys disk c := by
  intro certPem stored
  rw [missing] at stored
  cases stored

theorem holdsKey_generated (laws : keys.Laws) {disk : Disk} {file : File} {key : C.KeyPair}
    {csrPem : String} (requested : keys.requestPem serial key = .ok csrPem) (csr : C.CsrParams)
    (parsed : C.csrFromPem csrPem = .ok csr) :
    HoldsKey keys (disk.write file (keys.serializePem key)) file (C.csrPublicKey csr) :=
  ⟨keys.serializePem key, key, by simp, laws.key_parses key, (laws.request_key requested parsed).symm⟩

/-- Writing a key whose certificate is missing. -/
theorem matched_write_key {disk : Disk} {c : Credential} {text : String}
    (matched : ∀ c, KeyMatches keys disk c) (missing : disk c.certFile = none) :
    ∀ c', KeyMatches keys (disk.write c.keyFile text) c' := by
  intro c'
  by_cases same : c' = c
  · subst same
    apply KeyMatches.of_missing
    cases c' <;> simpa [Credential.keyFile, Credential.certFile] using missing
  · apply (matched c').of_same
    · cases c <;> cases c' <;> simp [Credential.keyFile, Credential.certFile] at same ⊢
    · cases c <;> cases c' <;> simp [Credential.keyFile] at same ⊢

/-- Storing the certificate of the key on disk. -/
theorem matched_write_cert {disk : Disk} {c : Credential} {certPem : String} {public_ : C.PublicKey}
    (matched : ∀ c, KeyMatches keys disk c) (carried : certPublicKey C certPem = some public_)
    (held : HoldsKey keys disk c.keyFile public_) :
    ∀ c', KeyMatches keys (disk.write c.certFile certPem) c' := by
  obtain ⟨keyPem, key, stored, parsed, pair⟩ := held
  intro c'
  by_cases same : c' = c
  · subst same
    intro certPem' written
    rw [Disk.write_self] at written
    cases written
    refine ⟨public_, carried, keyPem, key, ?_, parsed, pair⟩
    cases c' <;> simpa [Credential.keyFile, Credential.certFile] using stored
  · apply (matched c').of_same
    · cases c <;> cases c' <;> simp [Credential.certFile] at same ⊢
    · cases c <;> cases c' <;> simp [Credential.keyFile, Credential.certFile] at same ⊢

theorem Steps.paired (laws : keys.Laws) {disk : Disk} {p : Process} {a : Action C} {after : Agent}
    (moved : Steps keys serial disk p a after) (paired : Paired keys ⟨disk, p⟩)
    (honest : Honest ⟨disk, p⟩ a) : Paired keys after := by
  have staged := moved.staged paired.staged
  obtain ⟨before, matched, inHand⟩ := paired
  cases moved with
  | idle => exact ⟨staged, matched, inHand⟩
  | ended | gaveUp | start | skipProvisioning | needsProvisioning | skipEnrollment
  | needsEnrollment | online => exact ⟨staged, matched, trivial⟩
  | deviceKeyOnly key =>
      exact ⟨staged, matched_write_key matched (before.acquiring .device rfl), trivial⟩
  | deviceKey key csrPem requested =>
      exact ⟨staged, matched_write_key matched (before.acquiring .device rfl),
        fun csr parsed => holdsKey_generated laws requested csr parsed⟩
  | provisioned csrPem cert =>
      obtain ⟨csr, parsed, carried⟩ : CarriesKey C csrPem cert := honest
      exact ⟨staged, matched, C.csrPublicKey csr, carried, inHand csr parsed⟩
  | deviceCert cert =>
      obtain ⟨public_, carried, held⟩ := inHand
      exact ⟨staged, matched_write_cert (c := .device) matched carried held, trivial⟩
  | operationalKeyOnly cert pem key =>
      exact ⟨staged, matched_write_key matched (before.acquiring .operational rfl), trivial⟩
  | operationalKey cert pem key csrPem requested =>
      exact ⟨staged, matched_write_key matched (before.acquiring .operational rfl),
        fun csr parsed => holdsKey_generated laws requested csr parsed⟩
  | enrolled csrPem r =>
      obtain ⟨csr, parsed, carried⟩ : CarriesKey C csrPem r.operationalCertPem := honest
      exact ⟨staged, matched, C.csrPublicKey csr, carried, inHand csr parsed⟩
  | operationalCert r =>
      obtain ⟨public_, carried, held⟩ := inHand
      exact ⟨staged, matched_write_cert (c := .operational) matched carried held, trivial⟩
  | chain r =>
      refine ⟨staged, fun c => (matched c).of_same ?_ ?_, trivial⟩
      · cases c <;> simp [Credential.certFile]
      · cases c <;> simp [Credential.keyFile]
  | deviceId r =>
      refine ⟨staged, fun c => (matched c).of_same ?_ ?_, trivial⟩
      · cases c <;> simp [Credential.certFile]
      · cases c <;> simp [Credential.keyFile]

/-- A step leaves a stored certificate and its key alone. -/
theorem Steps.keeps {disk : Disk} {p : Process} {a : Action C} {after : Agent}
    (moved : Steps keys serial disk p a after) (staged : Staged ⟨disk, p⟩) {c : Credential}
    (stored : (disk c.certFile).isSome = true) :
    after.disk c.keyFile = disk c.keyFile ∧ after.disk c.certFile = disk c.certFile := by
  have other : ∀ c', p.acquiring = some c' → c ≠ c' := by
    intro c' acquires same
    subst same
    have missing : disk c.certFile = none := staged.acquiring c acquires
    rw [missing] at stored
    cases stored
  cases moved with
  | idle | ended | gaveUp | start | skipProvisioning | needsProvisioning | provisioned
  | skipEnrollment | needsEnrollment | enrolled | online => exact ⟨rfl, rfl⟩
  | deviceKeyOnly | deviceKey | deviceCert =>
      have operational : c ≠ .device := other .device rfl
      cases c with
      | device => exact absurd rfl operational
      | operational => simp [Credential.keyFile, Credential.certFile]
  | operationalKeyOnly | operationalKey | operationalCert =>
      have device : c ≠ .operational := other .operational rfl
      cases c with
      | device => simp [Credential.keyFile, Credential.certFile]
      | operational => exact absurd rfl device
  | chain | deviceId => cases c <;> simp [Credential.keyFile, Credential.certFile]

/-- No later step overwrites them either. -/
theorem boot_keeps (before later : List (Action C)) (c : Credential)
    (stored : ((boot keys serial before).disk c.certFile).isSome = true) :
    (boot keys serial (before ++ later)).disk c.keyFile = (boot keys serial before).disk c.keyFile ∧
    (boot keys serial (before ++ later)).disk c.certFile =
      (boot keys serial before).disk c.certFile := by
  have kept := run_invariant_free (step keys serial)
    (I := fun agent => Staged agent ∧
      agent.disk c.keyFile = (boot keys serial before).disk c.keyFile ∧
      agent.disk c.certFile = (boot keys serial before).disk c.certFile)
    (fun agent a inv => by
      obtain ⟨staged, key, cert⟩ := inv
      have here : (agent.disk c.certFile).isSome = true := by rwa [cert]
      obtain ⟨sameKey, sameCert⟩ := (step_spec keys serial agent a).keeps staged here
      exact ⟨staged_step agent a staged, sameKey.trans key, sameCert.trans cert⟩)
    ⟨staged_boot before, rfl, rfl⟩ later
  have split : boot keys serial (before ++ later) =
      run (step keys serial) (boot keys serial before) later := run_append ..
  rw [split]
  exact kept.2

/-- **Keys match certificates.**  However often the agent is restarted and wherever
it stops, a stored certificate has its private key beside it, and neither file is
written again. -/
theorem keys_match_certificates (laws : keys.Laws) (actions : List (Action C))
    (honest : Guarded (step keys serial) Honest ⟨.empty, .stopped⟩ actions) :
    (∀ c, KeyMatches keys (boot keys serial actions).disk c) ∧
    ∀ before later, actions = before ++ later → ∀ c : Credential,
      ((boot keys serial before).disk c.certFile).isSome = true →
        (boot keys serial actions).disk c.keyFile = (boot keys serial before).disk c.keyFile ∧
        (boot keys serial actions).disk c.certFile = (boot keys serial before).disk c.certFile := by
  constructor
  · have paired : Paired keys (boot keys serial actions) :=
      run_invariant _ (fun agent a paired honest =>
        (step_spec keys serial agent a).paired laws paired honest)
        ⟨staged_fresh, fun c => .of_missing rfl, trivial⟩ honest
    exact paired.matched
  · intro before later split c stored
    subst split
    exact boot_keeps before later c stored

end Runs

/-! ## Restarts over a symbolic library

A request and a certificate are the text `name|key`; a key is its own PEM. -/

namespace Toy

def crypto : Crypto where
  KeyPair := String
  CaParams := String
  CaCert := String
  CsrParams := String × String
  Certificate := String
  CertificateDer := String
  X509 := String × String
  PublicKey := String
  keyPairFromPem := .ok
  caParamsFromPem := .ok
  selfSigned params _ := .ok params
  csrFromPem := Pki.Toy.split
  csrCommonNames csr := [.ok csr.1]
  csrPublicKey csr := csr.2
  signedBy csr _ _ _ _ _ := .ok (csr.1 ++ "|" ++ csr.2)
  certPem := id
  pemCerts pem := .ok [pem]
  x509FromDer := Pki.Toy.split
  commonNames x509 := [.ok x509.1]
  publicKey x509 := x509.2
  verifySignature _ _ := .ok ()

def keys : Keys crypto where
  serializePem := id
  requestPem := fun (cn key : String) =>
    if '|' ∈ cn.toList then .error "bad name" else .ok (cn ++ "|" ++ key)
  keyPublic := id

theorem keys_laws : keys.Laws where
  key_parses _ := rfl
  request_key := by
    intro cn (key : String) csrPem csr requested parsed
    simp only [keys] at requested
    split at requested
    · cases requested
    · rename_i plain
      cases requested
      have read : Pki.Toy.split (cn ++ "|" ++ key) = .ok csr := parsed
      rw [Pki.Toy.split_append plain] at read
      cases read
      rfl

/-- A start that is killed after it wrote the device key, then one that provisions
with a new key, enrolls, and is killed after the write of `operational.pem`. -/
def killed : List (Action crypto) :=
  [.start, .proceed, .generate "k1", .crash,
   .start, .proceed, .generate "k2", .provisioned "SN-1|k2", .proceed,
   .proceed, .generate "k3", .enrolled ⟨"SN-1|k3", "chain", "id-1"⟩, .proceed, .crash]

end Toy

theorem keys_match_certificates_killed :
    (boot Toy.keys "SN-1" Toy.killed).disk .devicePem = some "SN-1|k2" ∧
    (boot Toy.keys "SN-1" Toy.killed).disk .deviceKey = some "k2" ∧
    (boot Toy.keys "SN-1" Toy.killed).disk .operationalPem = some "SN-1|k3" ∧
    (∀ c, KeyMatches Toy.keys (boot Toy.keys "SN-1" Toy.killed).disk c) := by
  have honest : Guarded (step Toy.keys "SN-1") Honest ⟨.empty, .stopped⟩ Toy.killed := by
    refine ⟨trivial, trivial, trivial, trivial, trivial, trivial, trivial, ?_, trivial, trivial,
      trivial, ?_, trivial, trivial, trivial⟩
    · exact ⟨("SN-1", "k2"), rfl, rfl⟩
    · exact ⟨("SN-1", "k3"), rfl, rfl⟩
  exact ⟨by decide, by decide, by decide,
    (keys_match_certificates Toy.keys_laws Toy.killed honest).1⟩

/-- After that run no process is left, the directory says "enrolled" and has no
device id, and a restart goes straight to Phase 3 and ends there. -/
theorem crash_before_device_id :
    (boot Toy.keys "SN-1" Toy.killed).process = .stopped ∧
    isEnrolled (boot Toy.keys "SN-1" Toy.killed).disk = true ∧
    (loadDeviceId (boot Toy.keys "SN-1" Toy.killed).disk).toOption = none ∧
    (boot Toy.keys "SN-1" (Toy.killed ++ [.start, .proceed, .proceed])).process = .phase3 ∧
    (boot Toy.keys "SN-1" (Toy.killed ++ [.start, .proceed, .proceed, .proceed])).process =
      .stopped := by
  decide

end RobotFleet.Robot
