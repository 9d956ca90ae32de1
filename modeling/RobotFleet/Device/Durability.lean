/-
# Device.Durability -- what is left of the store's answers after a restart

`Device.Connection` has the store statement by statement.  `ConnSteps` says once what a
call can do to the connection, whichever of its statements fail; the rest is read off it
over whole runs.

* `faulty_runs_refine`: as long as no `COMMIT` that is reached fails, the store is the
  atomic one of `Device.Store` on the calls that were not refused, and a restart keeps
  all of it.
* `failed_commit_loses_writes`: once a `COMMIT` fails, nothing is ever committed again.
  Every later claim is refused, every other call is answered as usual, and the restart
  brings back the tables from before the failed call.
* `token_spent_once`: not even so is a provisioning token spent twice.
-/
import RobotFleet.Device.Connection
import RobotFleet.Device.Manifest

namespace RobotFleet.Device

open RobotFleet.Theory
open RobotFleet.Theory.Run
open RobotFleet.Theory.Transaction

set_option autoImplicit false

/-! ## What a call can do -/

inductive ConnSteps (c : Conn Db) (call : Call) : Reply × Conn Db → Prop where
  | refused (reply : Reply) (failed : reply.failed = true) : ConnSteps c call (reply, c)
  | ran (statement_ : call.op.transactional = false) (running : call.op ≠ .reopen) :
      ConnSteps c call
        ((exec c.view call.op).1, { c with view := (exec c.view call.op).2 })
  | committed (closed : c.Closed) (claims : call.op.transactional = true)
      (done : (exec c.view call.op).1.failed = false) :
      ConnSteps c call ((exec c.view call.op).1, { view := (exec c.view call.op).2 })
  | leaked (reply : Reply) (closed : c.Closed) (lost : CommitFailsIn c.view call)
      (failed : reply.failed = true) :
      ConnSteps c call (reply, { view := (exec c.view call.op).2, saved := some c.view })
  | reopened (reopens : call.op = .reopen) : ConnSteps c call (.done (.ok ()), c.rollback)

section Steps

variable {c : Conn Db}

theorem single_steps {α : Type} {op : StoreOp} (fails : Faults SqlError) {reply : Except Error α → Reply}
    {stmt : Stmt} {mapErr : SqlError → Error} {method : Db → Except Error α × Db}
    (executes : ∀ db, exec db op = (method db).map reply fun db => db)
    (statement_ : op.transactional = false) (running : op ≠ .reopen)
    (reports : ∀ e, (reply (.error e)).failed = true) :
    ConnSteps c ⟨op, fails⟩ ((c.within (single fails stmt mapErr method)).map reply fun c => c) := by
  rcases single_cases fails stmt mapErr method c.view with same | ⟨e, refused⟩
  · have ran : ConnSteps c ⟨op, fails⟩ ((exec c.view op).1, { c with view := (exec c.view op).2 }) :=
      .ran statement_ running
    simp only [executes] at ran
    simpa only [Conn.within, same, Prod.map] using ran
  · have kept : (c.within (single fails stmt mapErr method)).map reply (fun c => c) =
        (reply (.error e), c) := by
      simp [Conn.within, refused]
    rw [kept]
    exact .refused _ (reports e)

/-- A call that is a transaction of its own. -/
theorem transaction_steps {α : Type} {call : Call} {reply : Except Error α → Reply}
    {body : Sql Db Error α} {method : Db → Except Error α × Db}
    (executes : ∀ db, exec db call.op = (method db).map reply fun db => db)
    (claims : call.op.transactional = true) (reports : ∀ e, (reply (.error e)).failed = true)
    (answers : ∀ a, (reply (.ok a)).failed = false)
    (runs : ∀ a, (body c.view).1 = .ok a → body c.view = method c.view)
    (loses : ∀ a e, call.fails .beginImmediate = none → (body c.view).1 = .ok a →
      call.fails .commit = some e → CommitFailsIn c.view call) :
    ConnSteps c call
      ((transaction .db nestedTransaction call.fails body c).map reply fun c => c) := by
  by_cases closed : c.saved = none
  · cases starts : call.fails .beginImmediate with
    | some e =>
        rw [transaction_refused starts]
        exact .refused _ (reports _)
    | none =>
        cases ran : body c.view with
        | mk result db' =>
          cases result with
          | error e =>
              rw [transaction_error starts closed ran]
              exact .refused _ (reports _)
          | ok a =>
              have same : exec c.view call.op = (reply (.ok a), db') := by
                rw [executes, ← runs a (by rw [ran]), ran]
                rfl
              cases commits : call.fails .commit with
              | none =>
                  have committed := ConnSteps.committed (c := c) closed claims
                    (by rw [same]; exact answers a)
                  rw [same] at committed
                  rw [transaction_ok starts commits closed ran]
                  exact committed
              | some e =>
                  have leaked := ConnSteps.leaked (reply (.error (.db e))) closed
                    (loses a e starts (by rw [ran]) commits) (reports _)
                  rw [same] at leaked
                  rw [transaction_leak starts closed ran commits]
                  exact leaked
  · obtain ⟨e, refused⟩ : ∃ e, transaction .db nestedTransaction call.fails body c =
        (.error (.db e), c) := transaction_nested closed
    rw [refused]
    exact .refused _ (reports _)

theorem execConn_steps (c : Conn Db) (call : Call) :
    ConnSteps c call (execConn call.fails c call.op) := by
  obtain ⟨op, fails⟩ := call
  cases op with
  | lookupAndClaim serial =>
      refine transaction_steps (fun _ => rfl) rfl (fun _ => rfl) (fun _ => rfl) ?_ ?_
      · intro pre done
        obtain ⟨selects, updates, -⟩ := (lookupAndClaimBody_ok_iff serial c.view).1 ⟨pre, done⟩
        exact lookupAndClaimBody_eq serial c.view selects updates
      · intro pre e starts done commits
        exact ⟨starts, (lookupAndClaimBody_ok_iff serial c.view).1 ⟨pre, done⟩, e, commits⟩
  | claimManifestEntry serial token now =>
      refine transaction_steps (fun _ => rfl) rfl (fun _ => rfl) (fun _ => rfl) ?_ ?_
      · intro model done
        obtain ⟨selects, updates, inserts, -⟩ :=
          (claimManifestEntryBody_ok_iff serial token now c.view).1 ⟨model, done⟩
        exact claimManifestEntryBody_eq serial token now c.view selects updates inserts
      · intro model e starts done commits
        exact ⟨starts, (claimManifestEntryBody_ok_iff serial token now c.view).1 ⟨model, done⟩, e,
          commits⟩
  | reopen => exact .reopened rfl
  | createDevice | getDevice | getBySerial | updateStatus | touchLastSeen | listDevices
  | registerSerial | countDevices | seedManifest =>
      exact single_steps fails (fun _ => rfl) rfl (by simp) fun _ => rfl

end Steps

/-! ## While every commit succeeds -/

/-- A call on the connection, with its answer. -/
def execCall (c : Conn Db) (call : Call) : Reply × Conn Db := execConn call.fails c call.op

/-- The calls of a run with their answers. -/
def answers (db : Db) (calls : List Call) : List (StoreOp × Reply) :=
  (trace execCall { view := db } calls).map fun entry => (entry.1.op, entry.2)

/-- The service is started again over its database. -/
def restart (c : Conn Db) : Conn Db := c.rollback

/-- No `COMMIT` that the call reaches fails. -/
def Commits (c : Conn Db) (call : Call) : Prop := ¬ CommitFailsIn c.view call

theorem closed_execCall {c : Conn Db} (closed : c.Closed) {call : Call} (commits : Commits c call) :
    (stateStep execCall c call).Closed :=
  stepConn_closed closed ((callHygienic_iff closed call).2 commits)

theorem restart_of_closed {c : Conn Db} (closed : c.Closed) : restart c = c := by
  have none_ : c.saved = none := closed
  simp only [restart, Conn.rollback, none_]

/-- **With every commit, the store is the atomic one.**  Whatever statements fail, as
long as no reached `COMMIT` is among them: the answers that are not errors, and some
errors, are those of the atomic store in one run, which leaves the same tables; and
a restart keeps them. -/
theorem faulty_runs_refine (db : Db) (calls : List Call)
    (commits : Guarded stepConn Commits { view := db } calls) :
    (∃ done, done.Sublist (answers db calls) ∧
      ((answers db calls).filter fun entry => !entry.2.failed).Sublist done ∧
      trace exec db (done.map (·.1)) = done ∧
      runStore db (done.map (·.1)) = (run stepConn { view := db } calls).view) ∧
    restart (run stepConn { view := db } calls) = run stepConn { view := db } calls := by
  have closed : (run stepConn { view := db } calls).Closed :=
    run_invariant stepConn (I := Conn.Closed) (fun _ _ closed commits => closed_execCall closed commits)
      (Conn.closed_fresh db) commits
  refine ⟨?_, restart_of_closed closed⟩
  refine trace_refines exec execCall Conn.view Call.op Reply.failed (I := Conn.Closed) ?_ ?_
    (Conn.closed_fresh db) commits
  · exact fun c call closed commits => closed_execCall closed commits
  · exact fun c call closed commits =>
      execConn_refines closed call ((callHygienic_iff closed call).2 commits)

/-! ## Once a commit fails -/

/-- The token is spent, also in the tables that a restart would bring back. -/
def SpentForGood (serial : String) (c : Conn Db) : Prop :=
  Spent c.view serial ∧ ∀ db, c.saved = some db → Spent db serial

section Tokens

variable {serial : String} {c : Conn Db} {call : Call}

theorem SpentForGood.later (spent : SpentForGood serial c) (call : Call) :
    SpentForGood serial (stepConn c call) := by
  obtain ⟨here, kept⟩ := spent
  have grown : Spent (exec c.view call.op).2 serial := here.of_grows (exec_grows c.view call.op)
  have steps := execConn_steps c call
  unfold stepConn
  generalize execConn call.fails c call.op = outcome at steps
  cases steps with
  | refused reply failed => exact ⟨here, kept⟩
  | ran statement_ running => exact ⟨grown, kept⟩
  | committed closed claims done => exact ⟨grown, fun db saved => by cases saved⟩
  | leaked reply closed lost failed =>
      refine ⟨grown, fun db saved => ?_⟩
      cases saved
      exact here
  | reopened reopens =>
      cases saved : c.saved with
      | none => simpa only [Conn.rollback, saved] using ⟨here, kept⟩
      | some db =>
          simp only [Conn.rollback, saved]
          exact ⟨kept db saved, fun db saved => by cases saved⟩

/-- A claim that succeeds found the token unspent, and its write is committed. -/
theorem okClaim_call (ok : isOkClaim serial (call.op, (execCall c call).1) = true) :
    ¬ Spent c.view serial ∧ SpentForGood serial (stepConn c call) := by
  obtain ⟨token, now, model, claims, replied⟩ := isOkClaim_iff.1 ok
  have steps := execConn_steps c call
  unfold execCall at replied
  unfold stepConn
  generalize execConn call.fails c call.op = outcome at steps replied
  cases steps with
  | refused reply failed | leaked reply closed lost failed =>
      have answer : reply = _ := replied
      rw [answer] at failed
      cases failed
  | ran statement_ running =>
      rw [claims] at statement_
      cases statement_
  | reopened reopens =>
      rw [claims] at reopens
      cases reopens
  | committed closed _ done =>
      rw [claims] at replied ⊢
      obtain ⟨-, unspent, spent⟩ := exec_okClaim replied
      exact ⟨unspent, spent, fun db saved => by cases saved⟩

/-- The successful claims of a run on a connection. -/
def okClaimsOn (serial : String) (c : Conn Db) (calls : List Call) : List (StoreOp × Reply) :=
  ((trace execCall c calls).map fun entry => (entry.1.op, entry.2)).filter (isOkClaim serial)

theorem okClaimsOn_of_spent (spent : SpentForGood serial c) (calls : List Call) :
    okClaimsOn serial c calls = [] := by
  induction calls generalizing c with
  | nil => rfl
  | cons call rest ih =>
      have refused : isOkClaim serial (call.op, (execCall c call).1) = false := by
        rw [Bool.eq_false_iff]
        exact fun ok => (okClaim_call ok).1 spent.1
      have later := ih (spent.later call)
      simp only [okClaimsOn, trace, List.map_cons, List.filter_cons, refused, Bool.false_eq_true, if_false]
      exact later

end Tokens

/-- **A token is spent once, whatever fails.**  Over every run of store calls on the
connection, with any statement of any call failing, commits included, and any restarts
between: at most one claim of the serial's manifest entry succeeds. -/
theorem token_spent_once (serial : String) (db : Db) (calls : List Call) :
    ((answers db calls).filter (isOkClaim serial)).length ≤ 1 := by
  have bounded : ∀ c, (okClaimsOn serial c calls).length ≤ 1 := by
    induction calls with
    | nil => exact fun c => Nat.zero_le 1
    | cons call rest ih =>
        intro c
        cases ok : isOkClaim serial (call.op, (execCall c call).1) with
        | true =>
            have none_ := okClaimsOn_of_spent (okClaim_call ok).2 rest
            simp only [okClaimsOn, trace, List.map_cons, List.filter_cons, ok, if_true, List.length_cons]
              at none_ ⊢
            rw [show stateStep execCall c call = stepConn c call from rfl, none_]
            exact Nat.le_refl 1
        | false =>
            simp only [okClaimsOn, trace, List.map_cons, List.filter_cons, ok, Bool.false_eq_true, if_false]
            exact ih (stateStep execCall c call)
  exact bounded { view := db }

/-! ## Runs with failing statements -/

theorem commits_of_none {c : Conn Db} {call : Call} (commits : call.fails .commit = none) :
    Commits c call := by
  rintro lost
  unfold CommitFailsIn at lost
  split at lost
  · obtain ⟨-, -, e, failed⟩ := lost
    rw [commits] at failed
    cases failed
  · obtain ⟨-, -, e, failed⟩ := lost
    rw [commits] at failed
    cases failed
  · exact lost

namespace Toy

def busySelect : Faults SqlError
  | .select => some (.sqliteFailure 5 "database is locked")
  | _ => none

/-- The first claim fails at its `SELECT`, the second succeeds. -/
def claimedTwice : List Call :=
  [⟨.seedManifest "SN-1" "humanoid-v2" "token-1", .none⟩,
   ⟨.claimManifestEntry "SN-1" "token-1" 100, busySelect⟩,
   ⟨.claimManifestEntry "SN-1" "token-1" 200, .none⟩]

end Toy

theorem faulty_runs_refine_claimedTwice :
    restart (run stepConn { view := Db.empty } Toy.claimedTwice) =
        run stepConn { view := Db.empty } Toy.claimedTwice ∧
      ∃ ops, runStore .empty ops = (run stepConn { view := Db.empty } Toy.claimedTwice).view := by
  have commits : Guarded stepConn Commits { view := Db.empty } Toy.claimedTwice :=
    ⟨commits_of_none rfl, commits_of_none rfl, commits_of_none rfl, trivial⟩
  obtain ⟨⟨done, -, -, -, reached⟩, kept⟩ := faulty_runs_refine Db.empty Toy.claimedTwice commits
  exact ⟨kept, _, reached⟩

end RobotFleet.Device
