/-
# Ota.Agent -- the robot's update loop

`robot-agent/src/ota.rs`: `apply_update` downloads an artifact, checks its digest,
unpacks it and runs its `install.sh`; `run_stream` does that for each command of
the stream and acknowledges the outcome.

Whatever the machine answers (network, file system, child processes) is in `Env`;
SHA-256 is an arbitrary function.  The digest is compared only when the command
carries one: `firmware_checked` says what that guarantees over a whole stream,
`empty_digest_installs` that a command without one is installed unchecked.
-/
import RobotFleet.Ota.Server

namespace RobotFleet.Ota

open RobotFleet.Theory.Calls (mapError_ok ok_of_bind)

set_option autoImplicit false

namespace Agent

/-- `robot-agent/src/error.rs`, the errors of the update loop; a `tonic::Status` is
given as it is rendered. -/
inductive Error where
  | grpc (status : String)
  | io (message : String)
  | checksum (expected actual : String)
  | install (message : String)
  deriving DecidableEq, Repr

def Error.toString : Error → String
  | .grpc status => "gRPC error: " ++ status
  | .io m => "IO error: " ++ m
  | .checksum expected actual => "checksum mismatch: expected " ++ expected ++ ", got " ++ actual
  | .install m => "install script failed: " ++ m

end Agent

/-! ## `hex::encode` -/

def hexDigit (n : Nat) : Char := if n < 10 then Char.ofNat (48 + n) else Char.ofNat (87 + n)

/-- Two lowercase digits a byte. -/
def hexEncode (bytes : List UInt8) : String :=
  String.ofList (bytes.flatMap fun b => [hexDigit (b.toNat / 16), hexDigit (b.toNat % 16)])

example : hexEncode [0x00, 0x9a, 0xff] = "009aff" := by decide

/-! ## `apply_update` -/

/-- `std::process::ExitStatus`; a child killed by a signal has no code. -/
structure ExitStatus where
  code : Option Int
  deriving DecidableEq

def ExitStatus.success (status : ExitStatus) : Bool := status.code == some 0

/-- What the machine answers to one `apply_update`. -/
structure Env where
  tempDir : Except String Unit
  /-- `reqwest::get`, and then the body of the response -/
  download : String → Except String (Except String (List UInt8))
  writeArchive : Except String Unit
  createStaging : Except String Unit
  tar : Except String ExitStatus
  installScriptExists : Bool
  bash : Except String ExitStatus

/-- How an update ended, and whether it got to running `install.sh`. -/
structure Attempt where
  result : Except Agent.Error Unit
  installRan : Bool
  deriving DecidableEq

variable (digest : List UInt8 → List UInt8)

/-- `apply_update` up to the existence check of `install.sh`. -/
def stageUpdate (artifactUrl expectedSha256 : String) (env : Env) : Except Agent.Error Unit := do
  env.tempDir.mapError .io
  let response ← (env.download artifactUrl).mapError fun e => .install ("download failed: " ++ e)
  let bytes ← response.mapError fun e => .install ("read body failed: " ++ e)
  let actualSha256 := hexEncode (digest bytes)
  if !expectedSha256.isEmpty && actualSha256 != expectedSha256 then
    throw (.checksum expectedSha256 actualSha256)
  env.writeArchive.mapError .io
  env.createStaging.mapError .io
  let status ← env.tar.mapError .io
  if !status.success then throw (.install "tar extraction failed")
  if !env.installScriptExists then throw (.install "install.sh not found in artifact")

/-- The rest: `bash install.sh`. -/
def runInstall (env : Env) : Except Agent.Error Unit := do
  let status ← env.bash.mapError .io
  if !status.success then
    throw (.install ("install.sh exited with: " ++ toString (status.code.getD (-1))))

def applyUpdate (artifactUrl expectedSha256 : String) (env : Env) : Attempt :=
  match stageUpdate digest artifactUrl expectedSha256 env with
  | .error e => ⟨.error e, false⟩
  | .ok () => ⟨runInstall env, true⟩

/-! ## `run_stream` -/

/-- The ack that reports how a command ended. -/
def ackFor (deviceId : String) (cmd : UpdateCommand) (result : Except Agent.Error Unit) :
    AckUpdateRequest :=
  match result with
  | .ok () => ⟨deviceId, cmd.updateJobId, cmd.targetVersion, true, ""⟩
  | .error e => ⟨deviceId, cmd.updateJobId, "", false, e.toString⟩

/-- What the stream yields next: a command, with what the machine answers while
it is applied and the service to its ack; or an error. -/
inductive StreamItem where
  | message (cmd : UpdateCommand) (env : Env) (reply : Except Agent.Error Unit)
  | broken (e : Agent.Error)

/-- One turn of the loop. -/
structure Turn where
  cmd : UpdateCommand
  env : Env
  attempt : Attempt
  ack : AckUpdateRequest

def turn (deviceId : String) (cmd : UpdateCommand) (env : Env) : Turn :=
  let attempt := applyUpdate digest cmd.artifactUrl cmd.sha256 env
  ⟨cmd, env, attempt, ackFor deviceId cmd attempt.result⟩

/-- The loop of `run_stream`: the turns it takes, and how it ends. -/
def runStream (deviceId : String) : List StreamItem → List Turn × Except Agent.Error Unit
  | [] => ([], .ok ())
  | .broken e :: _ => ([], .error e)
  | .message cmd env (.error e) :: _ => ([turn digest deviceId cmd env], .error e)
  | .message cmd env (.ok ()) :: rest =>
    let (turns, result) := runStream deviceId rest
    (turn digest deviceId cmd env :: turns, result)

/-! ## Verified firmware -/

section Checks

variable {digest}

/-- What staging has checked: the bytes that came, and their digest if one was
asked for. -/
theorem stageUpdate_ok {artifactUrl expectedSha256 : String} {env : Env}
    (staged : stageUpdate digest artifactUrl expectedSha256 env = .ok ()) :
    ∃ bytes, env.download artifactUrl = .ok (.ok bytes) ∧
      (expectedSha256 = "" ∨ expectedSha256 = hexEncode (digest bytes)) := by
  unfold stageUpdate at staged
  obtain ⟨-, -, staged⟩ := ok_of_bind staged
  obtain ⟨response, got, staged⟩ := ok_of_bind staged
  obtain ⟨bytes, body, staged⟩ := ok_of_bind staged
  rw [mapError_ok] at got body
  rw [body] at got
  refine ⟨bytes, got, ?_⟩
  by_cases mismatch : (!expectedSha256.isEmpty && hexEncode (digest bytes) != expectedSha256) = true
  · rw [if_pos mismatch] at staged
    cases staged
  · by_cases absent : expectedSha256 = ""
    · exact Or.inl absent
    · have given : expectedSha256.isEmpty = false := by simpa using absent
      simp only [given, Bool.not_false, Bool.true_and, bne_iff_ne, ne_eq, not_not] at mismatch
      exact Or.inr mismatch.symm

/-- A digest that was asked for and differs stops the update before `install.sh`. -/
theorem applyUpdate_mismatch {artifactUrl expectedSha256 : String} {env : Env} {bytes : List UInt8}
    (got : env.download artifactUrl = .ok (.ok bytes)) (asked : expectedSha256 ≠ "")
    (differs : expectedSha256 ≠ hexEncode (digest bytes)) :
    ∃ e, applyUpdate digest artifactUrl expectedSha256 env = ⟨.error e, false⟩ := by
  cases staged : stageUpdate digest artifactUrl expectedSha256 env with
  | error e => exact ⟨e, by simp only [applyUpdate, staged]⟩
  | ok =>
      obtain ⟨bytes', got', same⟩ := stageUpdate_ok staged
      rw [got] at got'
      cases got'
      exact absurd same (by simp [asked, differs])

theorem applyUpdate_installRan {artifactUrl expectedSha256 : String} {env : Env}
    (ran : (applyUpdate digest artifactUrl expectedSha256 env).installRan = true) :
    stageUpdate digest artifactUrl expectedSha256 env = .ok () := by
  cases staged : stageUpdate digest artifactUrl expectedSha256 env with
  | error e => simp [applyUpdate, staged] at ran
  | ok => rfl

/-- Every turn is made of the command it got. -/
theorem runStream_turns (deviceId : String) (items : List StreamItem) :
    ∀ t ∈ (runStream digest deviceId items).1, ∃ cmd env, t = turn digest deviceId cmd env := by
  induction items with
  | nil => simp [runStream]
  | cons item rest ih =>
      cases item with
      | broken e => simp [runStream]
      | message cmd env reply =>
          intro t member
          cases reply with
          | error e =>
              simp only [runStream, List.mem_singleton] at member
              exact ⟨cmd, env, member⟩
          | ok =>
              simp only [runStream, List.mem_cons] at member
              rcases member with rfl | later
              · exact ⟨cmd, env, rfl⟩
              · exact ih t later

/-- **Firmware is checked against the digest of its command.**  In every stream,
`install.sh` runs only on bytes whose digest the command names, or when it names
none; and bytes that differ from a digest that is named are not installed, and
the job is reported as failed. -/
theorem firmware_checked (deviceId : String) (items : List StreamItem) :
    ∀ t ∈ (runStream digest deviceId items).1,
      (t.attempt.installRan = true → ∃ bytes, t.env.download t.cmd.artifactUrl = .ok (.ok bytes) ∧
        (t.cmd.sha256 = "" ∨ t.cmd.sha256 = hexEncode (digest bytes))) ∧
      ∀ bytes, t.env.download t.cmd.artifactUrl = .ok (.ok bytes) → t.cmd.sha256 ≠ "" →
        t.cmd.sha256 ≠ hexEncode (digest bytes) →
        t.attempt.installRan = false ∧ t.ack.updateJobId = t.cmd.updateJobId ∧ t.ack.success = false := by
  intro t member
  obtain ⟨cmd, env, rfl⟩ := runStream_turns deviceId items t member
  refine ⟨fun ran => stageUpdate_ok (applyUpdate_installRan ran), fun bytes got asked differs => ?_⟩
  obtain ⟨e, failed⟩ := applyUpdate_mismatch got asked differs
  simp only [turn] at failed ⊢
  rw [failed]
  exact ⟨rfl, rfl, rfl⟩

end Checks

/-! ## Three bytes from the store -/

/-- A machine on which every step works and every download is three bytes. -/
def Env.working : Env where
  tempDir := .ok ()
  download _ := .ok (.ok [1, 2, 3])
  writeArchive := .ok ()
  createStaging := .ok ()
  tar := .ok ⟨some 0⟩
  installScriptExists := true
  bash := .ok ⟨some 0⟩

/-- A command for other bytes than those that come. -/
def tamperedCommand : UpdateCommand :=
  ⟨"job-1", "v2.0.0", "http://store/fw.tar.gz", "040506", 3, none⟩

/-- One command that arrives, is applied and acknowledged. -/
def tamperedStream : List StreamItem := [.message tamperedCommand .working (.ok ())]

theorem firmware_checked_tampered :
    ∃ t ∈ (runStream (fun bytes => bytes) "dev-1" tamperedStream).1,
      t.attempt.installRan = false ∧ t.ack.updateJobId = t.cmd.updateJobId ∧ t.ack.success = false := by
  have taken : turn (fun bytes => bytes) "dev-1" tamperedCommand .working ∈
      (runStream (fun bytes => bytes) "dev-1" tamperedStream).1 := .head _
  refine ⟨_, taken, (firmware_checked "dev-1" tamperedStream _ taken).2 [1, 2, 3] rfl ?_ ?_⟩
  · decide
  · decide

/-- A command without a digest. -/
def uncheckedCommand : UpdateCommand :=
  ⟨"job-1", "v2.0.0", "http://store/fw.tar.gz", "", 3, none⟩

/-- Without a digest `install.sh` runs on whatever came, and the ack reports success. -/
theorem empty_digest_installs :
    ¬ (∀ t ∈ (runStream (fun bytes => bytes) "dev-1" [.message uncheckedCommand .working (.ok ())]).1,
        t.attempt.installRan = true → t.cmd.sha256 ≠ "" ∧ t.cmd.sha256 = hexEncode [1, 2, 3]) ∧
    ¬ (∀ t ∈ (runStream (fun bytes => bytes) "dev-1" [.message uncheckedCommand .working (.ok ())]).1,
        t.cmd.sha256 ≠ hexEncode [1, 2, 3] → t.attempt.installRan = false ∧ t.ack.success = false) := by
  constructor
  · decide
  · decide

end RobotFleet.Ota
