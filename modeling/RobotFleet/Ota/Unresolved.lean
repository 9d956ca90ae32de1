/-
# Ota.Unresolved -- what updates without an artifact can come to

`dispatch_update` creates its job with an empty `artifact_url` and an empty digest,
and the command carries what the job has.  `reqwest::get("")` fails: an empty text is
not an absolute URL.  `no_update_installs` follows the empty URL from the job through
the channel to the robot: no run of the service and its robots installs anything, and
no job is ever completed.
-/
import RobotFleet.Ota.Applied

namespace RobotFleet.Ota

open RobotFleet.Theory
open RobotFleet.Theory.Run
open RobotFleet.Theory.Calls (World Action Outcome Machine Holds holds_init holds_step)

set_option autoImplicit false

variable {digest : List UInt8 → List UInt8}

/-! ## The empty URL -/

/-- `reqwest::get` refuses the empty text. -/
def Env.RefusesEmpty (env : Env) : Prop := ∃ e, env.download "" = .error e

/-- Nothing gets past a download that fails. -/
theorem applyUpdate_of_refused (digest : List UInt8 → List UInt8) {env : Env} (refuses : env.RefusesEmpty) (expectedSha256 : String) :
    ∃ e, applyUpdate digest "" expectedSha256 env = ⟨.error e, false⟩ := by
  cases staged : stageUpdate digest "" expectedSha256 env with
  | error e => exact ⟨e, by simp only [applyUpdate, staged]⟩
  | ok =>
      obtain ⟨bytes, got, -⟩ := stageUpdate_ok staged
      obtain ⟨e, refused⟩ := refuses
      rw [refused] at got
      cases got

/-- No job, no command on a channel and no attempt of a robot has a URL, and no attempt
succeeded. -/
structure Unresolved (s : State) (log : List Event) : Prop where
  jobs : ∀ row ∈ s.jobs.rows, row.artifactUrl = "" ∧ (row.status = "pending" ∨ row.Settled)
  sent : ∀ deviceId, ∀ cmd ∈ s.dispatcher.sentTo deviceId, cmd.artifactUrl = ""
  applied : ∀ session cmd env result, .applied session cmd env result ∈ log →
    cmd.artifactUrl = "" ∧ env.RefusesEmpty ∧ ∃ e, result = .error e

/-- A call has a command without a URL. -/
def InFlight.Unresolved : InFlight → Prop
  | .dispatching _ job => job.artifactUrl = ""
  | .received _ cmd | .applied _ cmd _ => cmd.artifactUrl = ""
  | .watching _ | .acking _ => True

/-- The machine of a robot refuses the empty URL. -/
def RefusesEmptyUrl : Action ServerOp Move → Prop
  | .call _ (.apply env) => env.RefusesEmpty
  | _ => True

theorem Unresolved.logged {s s' : State} {log : List Event} {event : Option Event}
    (unresolved : Unresolved s log) (jobs : s'.jobs = s.jobs)
    (sent : ∀ deviceId, ∀ cmd ∈ s'.dispatcher.sentTo deviceId, cmd.artifactUrl = "")
    (silent : ∀ session cmd env result, event ≠ some (.applied session cmd env result)) :
    Unresolved s' (log ++ event.toList) where
  jobs := by rw [jobs]; exact unresolved.jobs
  sent := sent
  applied session cmd env result member := by
    rcases List.mem_append.1 member with old | new
    · exact unresolved.applied session cmd env result old
    · exact absurd (Option.mem_toList.1 new) (silent session cmd env result)

theorem serverOp_unresolved {s : State} {log : List Event} (unresolved : Unresolved s log)
    (op : ServerOp) : Unresolved (serverOp s op) log := by
  obtain ⟨jobs, sent, applied⟩ := unresolved
  cases op with
  | checkUpdate | listUpdateJobs | unsubscribe => exact ⟨jobs, sent, applied⟩
  | restart => exact ⟨jobs, fun _ _ none_ => (by cases none_), applied⟩
  | ackUpdate req now =>
      refine ⟨fun row stored => ?_, sent, applied⟩
      have stored : row ∈ (ackUpdate req now s.jobs).2.rows := stored
      rw [ackUpdate_jobs, updateStatus_rows] at stored
      obtain ⟨old, member, rfl⟩ := List.mem_map.1 stored
      split
      · exact ⟨(jobs old member).1, Or.inr (settled_settle old req now)⟩
      · exact jobs old member

theorem Advances.unresolved {s : State} {log : List Event} {call : Option InFlight} {move : Move}
    {o : Outcome State InFlight Event} (moved : Advances digest s call move o)
    (refuses : ∀ env, move = .apply env → env.RefusesEmpty)
    (own : ∀ p, call = some p → p.Unresolved) (unresolved : Unresolved s log) :
    Unresolved o.state (log ++ o.event.toList) ∧ ∀ p, o.call = some p → p.Unresolved := by
  cases moved with
  | idle => exact ⟨unresolved.logged rfl unresolved.sent (by simp), own⟩
  | ended | dispatchRefused => exact ⟨unresolved.logged rfl unresolved.sent (by simp), by simp⟩
  | dispatchCreated req id now job jobs created =>
      obtain ⟨-, rfl, inserted⟩ := createJob_ok created
      refine ⟨⟨fun row stored => ?_, unresolved.sent, ?_⟩, ?_⟩
      · have stored : row ∈ jobs.rows := stored
        rw [Table.insert_rows inserted, List.mem_append, List.mem_singleton] at stored
        rcases stored with old | rfl
        · exact unresolved.jobs row old
        · exact ⟨rfl, Or.inl rfl⟩
      · simpa using unresolved.applied
      · rintro p ⟨⟩
        rfl
  | dispatchSent req job result dispatcher sent =>
      have mine : job.artifactUrl = "" := own (.dispatching req job) rfl
      refine ⟨unresolved.logged rfl (fun deviceId cmd member => ?_) (by simp), by simp⟩
      have after : dispatcher = (dispatchSend req job s.dispatcher).2 := by rw [sent]
      rcases mem_sentTo_dispatchSend (after ▸ member) with old | ⟨rfl, -⟩
      · exact unresolved.sent deviceId cmd old
      · exact mine
  | watched agent deviceId receiver dispatcher subscribed =>
      have channels := s.dispatcher.sentTo_subscribe deviceId
      rw [subscribed] at channels
      refine ⟨unresolved.logged rfl (fun deviceId' cmd member => ?_) (by simp), ?_⟩
      · exact unresolved.sent deviceId' cmd (channels deviceId' ▸ member)
      · rintro p ⟨⟩
        trivial
  | messageReceived session cmd dispatcher got =>
      obtain ⟨r, next, -, sent, rfl⟩ := Dispatcher.recv_some got
      refine ⟨unresolved.logged rfl unresolved.sent (by simp), ?_⟩
      rintro p ⟨⟩
      exact unresolved.sent r.deviceId cmd sent
  | updateApplied session cmd env result ran =>
      have mine : cmd.artifactUrl = "" := own (.received session cmd) rfl
      refine ⟨⟨unresolved.jobs, unresolved.sent, fun session' cmd' env' result' member => ?_⟩, ?_⟩
      · rcases List.mem_append.1 member with old | new
        · exact unresolved.applied session' cmd' env' result' old
        · cases List.mem_singleton.1 new
          have here := refuses env rfl
          obtain ⟨e, failed⟩ := applyUpdate_of_refused digest here cmd.sha256
          rw [mine, failed] at ran
          exact ⟨mine, here, e, ran.symm⟩
      · rintro p ⟨⟩
        exact mine
  | ackSent | ackReturned =>
      refine ⟨unresolved.logged rfl unresolved.sent (by simp), ?_⟩
      rintro p ⟨⟩
      trivial

theorem unresolved_step (w : World State InFlight Event) (a : Action ServerOp Move)
    (holds : Holds Unresolved (fun _ _ => InFlight.Unresolved) w) (refuses : RefusesEmptyUrl a) :
    Holds Unresolved (fun _ _ => InFlight.Unresolved) ((fleet digest).step w a) := by
  refine holds_step (R := fun _ _ _ _ => True) _ (fun _ own => own) ?_ ?_ holds
  · rintro op -
    exact ⟨serverOp_unresolved holds.shared op, trivial⟩
  · rintro id move o rfl rfl
    have moved := advance_spec digest (w.calls id) w.state move
    obtain ⟨shared, own⟩ := moved.unresolved (fun env same => by subst same; exact refuses)
      (fun p flying => holds.inFlight id p flying) holds.shared
    exact ⟨shared, trivial, own⟩

/-! ## Runs -/

theorem unresolved_run (actions : List (Action ServerOp Move))
    (refuses : ∀ a ∈ actions, RefusesEmptyUrl a) :
    Unresolved (runFleet digest actions).state (runFleet digest actions).log := by
  have initially : Unresolved State.empty [] :=
    ⟨fun _ stored => (by cases stored), fun _ _ sent => (by cases sent),
      fun _ _ _ _ member => (by cases member)⟩
  exact (run_invariant_of_forall _ unresolved_step (holds_init initially) refuses).shared

/-- What `settled_was_applied` rests on, for every run in which robots send the acks. -/
theorem accounted_run (actions : List (Action ServerOp Move))
    (honest : Guarded (fleet digest).step AcksFromAgents (.init .empty) actions) :
    Accounted digest (runFleet digest actions).state (runFleet digest actions).log := by
  have initially : Accounted digest State.empty [] :=
    ⟨fun _ _ sent => (by cases sent), fun _ _ sent => (by cases sent), fun _ stored => (by cases stored)⟩
  exact (run_invariant _ accounted_step (holds_init initially) honest).shared

variable (digest)

/-- **No update installs anything.**  On machines that refuse the empty URL, every
attempt of every robot fails before `install.sh`; and while acks come from robots,
every job is pending or failed. -/
theorem no_update_installs (actions : List (Action ServerOp Move))
    (refuses : ∀ a ∈ actions, RefusesEmptyUrl a) :
    (∀ session cmd env result, .applied session cmd env result ∈ (runFleet digest actions).log →
      (∃ e, result = .error e) ∧ (applyUpdate digest cmd.artifactUrl cmd.sha256 env).installRan = false) ∧
    (Guarded (fleet digest).step AcksFromAgents (.init .empty) actions →
      ∀ row ∈ (runFleet digest actions).state.jobs.rows, row.status = "pending" ∨ row.status = "failed") := by
  have unresolved : Unresolved (runFleet digest actions).state (runFleet digest actions).log :=
    unresolved_run actions refuses
  have fails : ∀ session cmd env result, .applied session cmd env result ∈ (runFleet digest actions).log →
      ∃ e, applyUpdate digest cmd.artifactUrl cmd.sha256 env = ⟨.error e, false⟩ := by
    intro session cmd env result member
    obtain ⟨empty, refuses, -⟩ := unresolved.applied session cmd env result member
    rw [empty]
    exact applyUpdate_of_refused digest refuses cmd.sha256
  constructor
  · intro session cmd env result member
    obtain ⟨e, failed⟩ := fails session cmd env result member
    refine ⟨(unresolved.applied session cmd env result member).2.2, ?_⟩
    rw [failed]
  · intro honest row stored
    rcases (unresolved.jobs row stored).2 with pending | done | failed
    · exact Or.inl pending
    · obtain ⟨session, cmd, -, -, -, env, applied, ran⟩ :=
        ((accounted_run actions honest).jobs row stored).1 done
      obtain ⟨e, failed⟩ := fails session cmd env _ applied
      rw [failed] at ran
      cases ran
    · exact Or.inr failed

/-- The run of `Toy.failedUpdate`. -/
theorem no_update_installs_failedUpdate :
    (runFleet (fun bytes => bytes) Toy.failedUpdate).state.jobs.rows ≠ [] ∧
      ∀ row ∈ (runFleet (fun bytes => bytes) Toy.failedUpdate).state.jobs.rows,
        row.status = "pending" ∨ row.status = "failed" := by
  refine ⟨by decide, (no_update_installs (fun bytes => bytes) Toy.failedUpdate ?_).2 ?_⟩
  · simp only [Toy.failedUpdate, List.mem_cons, List.not_mem_nil, or_false]
    rintro a (rfl | rfl | rfl | rfl | rfl | rfl | rfl | rfl)
    all_goals first | trivial | exact ⟨"builder error", rfl⟩
  · have sent : ∃ session, Event.ackSent session Toy.failedAck ∈
        (runFleet (fun bytes => bytes) (Toy.failedUpdate.take 6)).log :=
      ⟨⟨0, "dev-1", 0⟩, .tail _ (.tail _ (.tail _ (.head _)))⟩
    exact ⟨trivial, trivial, trivial, trivial, trivial, trivial, sent, trivial, trivial⟩

end RobotFleet.Ota
