/-
# Device.Connection -- the store methods statement by statement

`SqliteDeviceStore` keeps one connection behind a mutex, and `lookup_and_claim`
and `claim_manifest_entry` write their own `BEGIN` / `COMMIT` / `ROLLBACK`.
Here every method is the sequence of statements the source issues, and any
statement of any call may fail (`Faults`).

* `execConn_refines`: on a closed connection, a call whose `COMMIT` is not lost
  ends on a closed connection, and either did what `Device.Store` says or
  returned a database error and changed nothing.
* `transaction_hygiene_iff`: over whole runs the two methods keep the connection
  clean exactly as long as no `COMMIT` that is reached fails.  When one does,
  its `?` returns without the `ROLLBACK` every other error path has, and the
  transaction stays open under all later calls.
-/
import RobotFleet.Device.Growth

namespace RobotFleet.Device

open RobotFleet.Theory
open RobotFleet.Theory.Run
open RobotFleet.Theory.Transaction

set_option autoImplicit false

/-- `cannot start a transaction within a transaction`. -/
def nestedTransaction : SqlError :=
  .sqliteFailure 1 "cannot start a transaction within a transaction"

/-! ## The methods -/

section Methods

variable (fails : Faults SqlError)

/-- `conn.query_row(…).map_err(…)`. -/
def queryRow {α : Type} (mapErr : SqlError → Error) (read : Db → Option α) : Sql Db Error α := do
  let found ← statement mapErr fails .select fun db => (read db, db)
  match found with
  | none => throw (mapErr .queryReturnedNoRows)
  | some row => return row

/-- `conn.execute(…)?` for a statement that cannot violate a constraint. -/
def execute (stmt : Stmt) (write : Db → Db) : Sql Db Error Unit :=
  statement .db fails stmt fun db => ((), write db)

/-- The closure inside `lookup_and_claim`. -/
def lookupAndClaimBody (serial : String) : Sql Db Error PreEnrollmentRecord := do
  let row ← queryRow fails
    (fun
      | .queryReturnedNoRows => .notPreEnrolled serial
      | other => .db other)
    (·.preEnrolled? serial)
  if row.claimed ≠ 0 then
    throw (.serialAlreadyClaimed serial)
  execute fails .update (setClaimed serial 1)
  return { serial, model := row.model }

/-- The closure inside `claim_manifest_entry`. -/
def claimManifestEntryBody (serial token : String) (now : Int) : Sql Db Error String := do
  let row ← queryRow fails
    (fun
      | .queryReturnedNoRows => .notInManifest serial
      | other => .db other)
    (·.manifest? serial)
  if row.token ≠ token then
    throw (.invalidProvisionToken serial)
  if row.provisionedAt.isSome then
    throw (.alreadyProvisioned serial)
  execute fails .update (setProvisioned serial now)
  execute fails .insert (seedPreEnrollment serial row.model)
  return row.model

def lookupAndClaimConn (serial : String) : Conn Db → Except Error PreEnrollmentRecord × Conn Db :=
  transaction .db nestedTransaction fails (lookupAndClaimBody fails serial)

def claimManifestEntryConn (serial token : String) (now : Int) :
    Conn Db → Except Error String × Conn Db :=
  transaction .db nestedTransaction fails (claimManifestEntryBody fails serial token now)

/-- A method that is a single statement: it fails, or it does what the store
method says. -/
def single {α : Type} (stmt : Stmt) (mapErr : SqlError → Error) (method : Db → Except Error α × Db) :
    Sql Db Error α := do
  let result ← statement mapErr fails stmt method
  match result with
  | .ok a => return a
  | .error e => throw e

/-- A method that is a single `SELECT`. -/
def query {α : Type} (mapErr : SqlError → Error) (read : Db → Except Error α) : Sql Db Error α :=
  single fails .select mapErr fun db => (read db, db)

/-- Every method on the shared connection.  Outside a transaction a statement
commits by itself; inside one it joins it.  Opening the database again drops
what was not committed. -/
def execConn (c : Conn Db) : StoreOp → Reply × Conn Db
  | .createDevice d id now =>
      let mapErr : SqlError → Error := fun
        | .constraintViolation _ => .alreadyEnrolled d.serial
        | other => .db other
      (c.within (single fails .insert mapErr (createDevice d id now))).map .device fun c => c
  | .getDevice id => (c.within (query fails (orNotFound id) (getDevice id))).map .device fun c => c
  | .getBySerial serial =>
      (c.within (query fails (orNotFound serial) (getBySerial serial))).map .device fun c => c
  | .updateStatus id status reason =>
      (c.within (single fails .update .db (updateStatus id status reason))).map .done fun c => c
  | .touchLastSeen id now =>
      (c.within (single fails .update .db (touchLastSeen id now))).map .done fun c => c
  | .listDevices model status limit cursor =>
      (c.within (query fails .db fun db => .ok (listDevices model status limit cursor db))).map
        .page fun c => c
  | .registerSerial serial model =>
      (c.within (single fails .insert .db (registerSerial serial model))).map .done fun c => c
  | .lookupAndClaim serial => (lookupAndClaimConn fails serial c).map .preEnrollment fun c => c
  | .countDevices => (c.within (query fails .db fun db => .ok (countDevices db))).map .count fun c => c
  | .seedManifest serial model token =>
      (c.within (single fails .insert .db (seedManifest serial model token))).map .done fun c => c
  | .claimManifestEntry serial token now =>
      (claimManifestEntryConn fails serial token now c).map .model fun c => c
  | .reopen => (.done (.ok ()), c.rollback)
where
  orNotFound (value : String) : SqlError → Error
    | .queryReturnedNoRows => .notFound value
    | other => .db other

end Methods

/-! ## What the bodies do -/

section Bodies

variable {fails : Faults SqlError}

/-- A row query that SQLite answers returns the row, or the caller's error for no row. -/
theorem queryRow_ok {α : Type} {mapErr : SqlError → Error} {read : Db → Option α} {db : Db}
    (selects : fails .select = none) :
    queryRow fails mapErr read db =
      match read db with
      | none => (.error (mapErr .queryReturnedNoRows), db)
      | some row => (.ok row, db) := by
  simp only [queryRow, bind_apply, statement_ok selects]
  cases read db <;> rfl

theorem queryRow_error {α : Type} {mapErr : SqlError → Error} {read : Db → Option α} {db : Db}
    {e : SqlError} (refused : fails .select = some e) :
    queryRow fails mapErr read db = (.error (mapErr e), db) := by
  simp only [queryRow, bind_apply, statement_error refused]

theorem execute_ok {stmt : Stmt} (runs : fails stmt = none) (write : Db → Db) (db : Db) :
    execute fails stmt write db = (.ok (), write db) :=
  statement_ok runs _ db

theorem execute_error {stmt : Stmt} {e : SqlError} (refused : fails stmt = some e)
    (write : Db → Db) (db : Db) : execute fails stmt write db = (.error (.db e), db) :=
  statement_error refused _ db

/-- With its statements succeeding, the body is the store method. -/
theorem lookupAndClaimBody_eq (serial : String) (db : Db) (selects : fails .select = none)
    (updates : fails .update = none) :
    lookupAndClaimBody fails serial db = lookupAndClaim serial db := by
  simp only [lookupAndClaimBody, bind_apply, queryRow_ok selects, lookupAndClaim]
  cases found : db.preEnrolled? serial with
  | none => rfl
  | some row =>
      by_cases free : row.claimed = 0
      · simp only [free, ne_eq, not_true, if_false, bind_apply, execute_ok updates, pure_apply]
      · simp only [free, ne_eq, not_false_eq_true, if_true, bind_apply, throw_apply]

/-- The body succeeds when its statements do and the serial is there, unclaimed. -/
theorem lookupAndClaimBody_ok_iff (serial : String) (db : Db) :
    (∃ pre, (lookupAndClaimBody fails serial db).1 = .ok pre) ↔
      fails .select = none ∧ fails .update = none ∧
        ∃ row, db.preEnrolled? serial = some row ∧ row.claimed = 0 := by
  cases selects : fails .select with
  | some e =>
      simp [lookupAndClaimBody, bind_apply, queryRow_error selects]
  | none =>
      cases updates : fails .update with
      | none =>
          rw [lookupAndClaimBody_eq serial db selects updates]
          unfold lookupAndClaim
          cases found : db.preEnrolled? serial with
          | none => simp
          | some row => by_cases free : row.claimed = 0 <;> simp [free]
      | some e =>
          simp only [lookupAndClaimBody, bind_apply, queryRow_ok selects]
          cases found : db.preEnrolled? serial with
          | none => simp
          | some row =>
              by_cases free : row.claimed = 0
              · simp only [free, ne_eq, not_true, if_false, bind_apply, execute_error updates]
                simp
              · simp [free]

theorem claimManifestEntryBody_eq (serial token : String) (now : Int) (db : Db)
    (selects : fails .select = none) (updates : fails .update = none)
    (inserts : fails .insert = none) :
    claimManifestEntryBody fails serial token now db = claimManifestEntry serial token now db := by
  simp only [claimManifestEntryBody, bind_apply, queryRow_ok selects, claimManifestEntry]
  cases found : db.manifest? serial with
  | none => rfl
  | some row =>
      by_cases presented : row.token = token
      · cases spent : row.provisionedAt with
        | none =>
            simp only [presented, spent, ne_eq, not_true, if_false, Option.isSome_none,
              Bool.false_eq_true, bind_apply, execute_ok updates, execute_ok inserts, pure_apply]
        | some t => simp [presented, spent]
      · simp [presented]

theorem claimManifestEntryBody_ok_iff (serial token : String) (now : Int) (db : Db) :
    (∃ model, (claimManifestEntryBody fails serial token now db).1 = .ok model) ↔
      fails .select = none ∧ fails .update = none ∧ fails .insert = none ∧
        ∃ row, db.manifest? serial = some row ∧ row.token = token ∧ row.provisionedAt = none := by
  cases selects : fails .select with
  | some e =>
      simp [claimManifestEntryBody, bind_apply, queryRow_error selects]
  | none =>
      simp only [claimManifestEntryBody, bind_apply, queryRow_ok selects]
      cases found : db.manifest? serial with
      | none => simp
      | some row =>
          by_cases presented : row.token = token
          · cases spent : row.provisionedAt with
            | some t => simp [presented, spent]
            | none =>
                -- only now are the two writes reached
                simp only [presented, spent, ne_eq, not_true, if_false, Option.isSome_none,
                  Bool.false_eq_true, bind_apply]
                cases updates : fails .update with
                | some e => simp [execute_error updates]
                | none =>
                    cases inserts : fails .insert with
                    | some e => simp [execute_ok updates, execute_error inserts, -bind_pure_comp]
                    | none => simp [execute_ok updates, execute_ok inserts, -bind_pure_comp, presented, spent]
          · simp [presented]

end Bodies

/-! ## Calls on the shared connection -/

/-- A store call and the statements of it that fail. -/
structure Call where
  op : StoreOp
  fails : Faults SqlError

def stepConn (c : Conn Db) (call : Call) : Conn Db := (execConn call.fails c call.op).2

/-- The methods that open a transaction of their own. -/
def StoreOp.transactional : StoreOp → Bool
  | .lookupAndClaim _ | .claimManifestEntry _ _ _ => true
  | _ => false

/-- The call returned `Err`. -/
def Reply.failed : Reply → Bool
  | .done (.error _) | .device (.error _) | .page (.error _) | .preEnrollment (.error _)
  | .count (.error _) | .model (.error _) => true
  | _ => false

/-- The call reaches its `COMMIT`, and the `COMMIT` fails.  It is reached when
`BEGIN`, the `SELECT` and the writes succeed and the selected row is one the
method accepts. -/
def CommitFailsIn (db : Db) (call : Call) : Prop :=
  match call.op with
  | .lookupAndClaim serial =>
      call.fails .beginImmediate = none ∧
        (call.fails .select = none ∧ call.fails .update = none ∧
          ∃ row, db.preEnrolled? serial = some row ∧ row.claimed = 0) ∧
        ∃ e, call.fails .commit = some e
  | .claimManifestEntry serial token _ =>
      call.fails .beginImmediate = none ∧
        (call.fails .select = none ∧ call.fails .update = none ∧ call.fails .insert = none ∧
          ∃ row, db.manifest? serial = some row ∧ row.token = token ∧ row.provisionedAt = none) ∧
        ∃ e, call.fails .commit = some e
  | _ => False

/-- The two methods leave no transaction open, change nothing when they return
`Err`, and find no transaction left open by an earlier call. -/
def CallHygienic (c : Conn Db) (call : Call) : Prop :=
  call.op.transactional = true →
    (stepConn c call).Closed ∧
      ((execConn call.fails c call.op).1.failed = true → (stepConn c call).view = c.view) ∧
      (call.fails .beginImmediate = none →
        (c.beginImmediate nestedTransaction call.fails).1 = .ok ())

theorem beginImmediate_ok {c : Conn Db} (closed : c.Closed) {fails : Faults SqlError}
    (starts : fails .beginImmediate = none) :
    (c.beginImmediate nestedTransaction fails).1 = .ok () := by
  have none_ : c.saved = none := closed
  simp [Conn.beginImmediate, starts, none_]

/-- For a call that is a transaction, hygiene is the transaction's. -/
theorem callHygienic_iff_of_transaction {α : Type} {c : Conn Db} {call : Call} (closed : c.Closed)
    (opens : call.op.transactional = true) {reply : Except Error α → Reply}
    (reports : ∀ result, (reply result).failed = true ↔ ∃ e, result = .error e)
    {outcome : Except Error α × Conn Db}
    (ran : execConn call.fails c call.op = outcome.map reply fun c => c) :
    CallHygienic c call ↔ Hygienic c outcome := by
  have after : stepConn c call = outcome.2 := by simp [stepConn, ran]
  have answer : (execConn call.fails c call.op).1 = reply outcome.1 := by simp [ran]
  unfold CallHygienic Hygienic
  rw [after, answer, reports]
  constructor
  · intro clean
    obtain ⟨closed', unchanged, -⟩ := clean opens
    exact ⟨closed', unchanged⟩
  · rintro ⟨closed', unchanged⟩ -
    exact ⟨closed', unchanged, beginImmediate_ok closed⟩

theorem preEnrollment_failed_iff (result : Except Error PreEnrollmentRecord) :
    (Reply.preEnrollment result).failed = true ↔ ∃ e, result = .error e := by
  cases result <;> simp [Reply.failed]

theorem model_failed_iff (result : Except Error String) :
    (Reply.model result).failed = true ↔ ∃ e, result = .error e := by
  cases result <;> simp [Reply.failed]

/-- **One call, exactly**: on a closed connection a call is hygienic unless its
`COMMIT` is reached and fails. -/
theorem callHygienic_iff {c : Conn Db} (closed : c.Closed) (call : Call) :
    CallHygienic c call ↔ ¬ CommitFailsIn c.view call := by
  obtain ⟨op, fails⟩ := call
  cases op with
  | lookupAndClaim serial =>
      have whole : CallHygienic c ⟨.lookupAndClaim serial, fails⟩ ↔
          Hygienic c (lookupAndClaimConn fails serial c) :=
        callHygienic_iff_of_transaction closed rfl preEnrollment_failed_iff rfl
      rw [whole]
      refine (transaction_hygienic_iff closed).trans (not_congr ?_)
      rw [CommitLost, lookupAndClaimBody_ok_iff]
      exact Iff.rfl
  | claimManifestEntry serial token now =>
      have whole : CallHygienic c ⟨.claimManifestEntry serial token now, fails⟩ ↔
          Hygienic c (claimManifestEntryConn fails serial token now c) :=
        callHygienic_iff_of_transaction closed rfl model_failed_iff rfl
      rw [whole]
      refine (transaction_hygienic_iff closed).trans (not_congr ?_)
      rw [CommitLost, claimManifestEntryBody_ok_iff]
      exact Iff.rfl
  | createDevice | getDevice | getBySerial | updateStatus | touchLastSeen | listDevices
  | registerSerial | countDevices | seedManifest | reopen =>
      exact ⟨fun _ lost => lost, fun _ opens => by cases opens⟩

/-- A hygienic call leaves a closed connection closed. -/
theorem stepConn_closed {c : Conn Db} (closed : c.Closed) {call : Call}
    (clean : CallHygienic c call) : (stepConn c call).Closed := by
  obtain ⟨op, fails⟩ := call
  cases op with
  | lookupAndClaim | claimManifestEntry => exact (clean rfl).1
  | reopen =>
      have none_ : c.saved = none := closed
      simp [stepConn, execConn, Conn.rollback, none_, Conn.Closed]
  | createDevice | getDevice | getBySerial | updateStatus | touchLastSeen | listDevices
  | registerSerial | countDevices | seedManifest => exact closed

/-- **Transaction hygiene over whole runs, exactly.**  From any database, with any
statement of any call failing, every `lookup_and_claim` and `claim_manifest_entry`
of the run is hygienic if and only if none of them reaches a `COMMIT` that fails. -/
theorem transaction_hygiene_iff (db : Db) (calls : List Call) :
    Guarded stepConn CallHygienic { view := db } calls ↔
      Guarded stepConn (fun c call => ¬ CommitFailsIn c.view call) { view := db } calls :=
  guarded_congr stepConn (I := Conn.Closed) (fun _ call closed => callHygienic_iff closed call)
    (fun _ _ closed clean => stepConn_closed closed clean) (Conn.closed_fresh db) calls

/-- `COMMIT` finds the database busy. -/
def busyCommit : Faults SqlError
  | .commit => some (.sqliteFailure 5 "database is locked")
  | _ => none

/-- A device is seeded and provisioned; its `lookup_and_claim` meets a busy
`COMMIT`; then another claim is tried. -/
def busyRun : List Call :=
  [⟨.seedManifest "SN-1" "humanoid-v2" "token-1", .none⟩,
   ⟨.claimManifestEntry "SN-1" "token-1" 100, .none⟩,
   ⟨.lookupAndClaim "SN-1", busyCommit⟩,
   ⟨.lookupAndClaim "SN-1", .none⟩]

/-- The busy `COMMIT` returns an error with the claim still in the view and the
transaction open, and the next call's `BEGIN` is refused for it. -/
theorem busy_commit_leaks_transaction :
    ¬ Guarded stepConn CallHygienic { view := Db.empty } busyRun := by
  rintro ⟨-, -, leaked, -, -⟩
  have closed := (leaked rfl).1
  exact absurd closed (by decide)

/-! ## The statement-level store refines the atomic one -/

theorem single_cases {α : Type} (fails : Faults SqlError) (stmt : Stmt) (mapErr : SqlError → Error)
    (method : Db → Except Error α × Db) (db : Db) :
    single fails stmt mapErr method db = method db ∨
      ∃ e, single fails stmt mapErr method db = (.error e, db) := by
  cases refused : fails stmt with
  | none =>
      left
      simp only [single, bind_apply, statement_ok refused]
      cases ran : method db with
      | mk result db' => cases result <;> rfl
  | some e =>
      right
      exact ⟨mapErr e, by simp only [single, bind_apply, statement_error refused]⟩

/-- A transaction that is hygienic did what its body does with every statement
succeeding, or failed without effect. -/
theorem transaction_cases {α : Type} {fails : Faults SqlError} {body : Sql Db Error α}
    {method : Db → Except Error α × Db} {c : Conn Db} (closed : c.Closed)
    (runs : ∀ a, (body c.view).1 = .ok a → body c.view = method c.view)
    (clean : Hygienic c (transaction .db nestedTransaction fails body c)) :
    transaction .db nestedTransaction fails body c = ((method c.view).1, ⟨(method c.view).2, none⟩) ∨
      ∃ e, transaction .db nestedTransaction fails body c = (.error e, c) := by
  cases starts : fails .beginImmediate with
  | some e => exact Or.inr ⟨_, transaction_refused starts⟩
  | none =>
      cases ran : body c.view with
      | mk result db' =>
        cases result with
        | error e => exact Or.inr ⟨e, transaction_error starts closed ran⟩
        | ok a =>
            have same : method c.view = (.ok a, db') := by rw [← runs a (by rw [ran]), ran]
            cases commits : fails .commit with
            | none => exact Or.inl (by rw [transaction_ok starts commits closed ran, same])
            | some e =>
                rw [transaction_leak starts closed ran commits] at clean
                exact absurd clean.1 (by simp [Conn.Closed])

/-- What a refining outcome is: the store method's, or an error without effect. -/
def Refines {α : Type} (reply : Except Error α → Reply) (method : Db → Except Error α × Db)
    (c : Conn Db) (outcome : Except Error α × Conn Db) : Prop :=
  (reply outcome.1, outcome.2.view) = (method c.view).map reply (fun db => db) ∨
    ((∃ e, outcome.1 = .error e) ∧ outcome.2.view = c.view)

theorem single_refines {α : Type} (reply : Except Error α → Reply) (fails : Faults SqlError)
    (stmt : Stmt) (mapErr : SqlError → Error) (method : Db → Except Error α × Db) (c : Conn Db) :
    Refines reply method c (c.within (single fails stmt mapErr method)) := by
  rcases single_cases fails stmt mapErr method c.view with same | ⟨e, refused⟩
  · left; simp only [Conn.within, same]; rfl
  · right; simp [Conn.within, refused]

theorem transaction_refines {α : Type} (reply : Except Error α → Reply)
    (method : Db → Except Error α × Db) {fails : Faults SqlError} {body : Sql Db Error α}
    {c : Conn Db} (closed : c.Closed)
    (runs : ∀ a, (body c.view).1 = .ok a → body c.view = method c.view)
    (clean : Hygienic c (transaction .db nestedTransaction fails body c)) :
    Refines reply method c (transaction .db nestedTransaction fails body c) := by
  rcases transaction_cases closed runs clean with same | ⟨e, refused⟩
  · left; rw [same]; rfl
  · right; rw [refused]; exact ⟨⟨e, rfl⟩, rfl⟩

/-- **Refinement.**  On a closed connection a hygienic call either does to the
tables, and answers, what the atomic store does, or returns an error and leaves
them alone. -/
theorem execConn_refines {c : Conn Db} (closed : c.Closed) (call : Call)
    (clean : CallHygienic c call) :
    ((execConn call.fails c call.op).1, (stepConn c call).view) = exec c.view call.op ∨
      ((execConn call.fails c call.op).1.failed = true ∧ (stepConn c call).view = c.view) := by
  obtain ⟨op, fails⟩ := call
  have failed : ∀ {α : Type} {reply : Except Error α → Reply} {method : Db → Except Error α × Db}
      {outcome : Except Error α × Conn Db}, Refines reply method c outcome →
      (∀ e, (reply (.error e)).failed = true) →
      (reply outcome.1, outcome.2.view) = (method c.view).map reply (fun db => db) ∨
        ((reply outcome.1).failed = true ∧ outcome.2.view = c.view) := by
    rintro α reply method outcome (same | ⟨⟨e, error⟩, unchanged⟩) reports
    · exact Or.inl same
    · exact Or.inr ⟨by rw [error]; exact reports e, unchanged⟩
  cases op with
  | lookupAndClaim serial =>
      have whole := (callHygienic_iff_of_transaction closed rfl preEnrollment_failed_iff
        (show execConn fails c (.lookupAndClaim serial) =
          (lookupAndClaimConn fails serial c).map .preEnrollment fun c => c from rfl)).1 clean
      have runs : ∀ pre, (lookupAndClaimBody fails serial c.view).1 = .ok pre →
          lookupAndClaimBody fails serial c.view = lookupAndClaim serial c.view := by
        intro pre done
        obtain ⟨selects, updates, -⟩ := (lookupAndClaimBody_ok_iff serial c.view).1 ⟨pre, done⟩
        exact lookupAndClaimBody_eq serial c.view selects updates
      exact failed (transaction_refines .preEnrollment (lookupAndClaim serial) closed runs whole)
        fun _ => rfl
  | claimManifestEntry serial token now =>
      have whole := (callHygienic_iff_of_transaction closed rfl model_failed_iff
        (show execConn fails c (.claimManifestEntry serial token now) =
          (claimManifestEntryConn fails serial token now c).map .model fun c => c from rfl)).1 clean
      have runs : ∀ model, (claimManifestEntryBody fails serial token now c.view).1 = .ok model →
          claimManifestEntryBody fails serial token now c.view =
            claimManifestEntry serial token now c.view := by
        intro model done
        obtain ⟨selects, updates, inserts, -⟩ :=
          (claimManifestEntryBody_ok_iff serial token now c.view).1 ⟨model, done⟩
        exact claimManifestEntryBody_eq serial token now c.view selects updates inserts
      exact failed
        (transaction_refines .model (claimManifestEntry serial token now) closed runs whole)
        fun _ => rfl
  | createDevice d id now => exact failed (single_refines .device fails _ _ _ c) fun _ => rfl
  | getDevice id => exact failed (single_refines .device fails _ _ _ c) fun _ => rfl
  | getBySerial serial => exact failed (single_refines .device fails _ _ _ c) fun _ => rfl
  | updateStatus id status reason => exact failed (single_refines .done fails _ _ _ c) fun _ => rfl
  | touchLastSeen id now => exact failed (single_refines .done fails _ _ _ c) fun _ => rfl
  | listDevices model status limit cursor =>
      exact failed (single_refines .page fails _ _ _ c) fun _ => rfl
  | registerSerial serial model => exact failed (single_refines .done fails _ _ _ c) fun _ => rfl
  | countDevices => exact failed (single_refines .count fails _ _ _ c) fun _ => rfl
  | seedManifest serial model token => exact failed (single_refines .done fails _ _ _ c) fun _ => rfl
  | reopen =>
      have none_ : c.saved = none := closed
      simp [execConn, stepConn, exec, Conn.rollback, none_]

end RobotFleet.Device
