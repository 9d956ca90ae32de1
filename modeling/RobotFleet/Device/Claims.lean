/-
# Device.Claims -- who may claim a serial, and how often

The `claimed` flag of `pre_enrollment` is set by `lookup_and_claim` and reset by
`register_serial`, which looks at `devices` to tell a stale claim from one that
led to an enrollment.  `exec_preEnrolled?` says everything a store call can do to
the flag; the rest of the module is about runs.

* `claim_accounting`: two successful claims of one serial have a reset between
  them, a registration opens the serial for exactly one claim, and nothing but a
  claim closes it.
* `enrolled_stay_claimed`: an enrolled serial is claimed, as long as no
  `register_serial` lands between the claim and the insert of an enrollment in
  progress.  The flag cannot tell that enrollment from a stale one:
  `reset_during_enrollment` is the run in which a serial is enrolled and open.
-/
import RobotFleet.Device.Admission

namespace RobotFleet.Device

open RobotFleet.Theory
open RobotFleet.Theory.Run
open RobotFleet.Theory.Calls (World Action Outcome Machine Holds holds_init holds_step)
open RobotFleet.Pki (Crypto)

set_option autoImplicit false

/-! ## What a store call does to the flag -/

theorem createDevice_preEnrolled? (d : NewDevice) (id : String) (now : Int) (db : Db)
    (serial : String) : (createDevice d id now db).2.preEnrolled? serial = db.preEnrolled? serial := by
  unfold createDevice
  split <;> rfl

section Rows

variable {db : Db} {serial : String} {row : PreEnrollmentRow}

theorem claimManifestEntry_keeps_row (found : db.preEnrolled? serial = some row) (serial' token : String)
    (now : Int) : (claimManifestEntry serial' token now db).2.preEnrolled? serial = some row := by
  cases ran : claimManifestEntry serial' token now db with
  | mk result db' =>
    cases result with
    | error e => rw [claimManifestEntry_error ran, found]
    | ok model =>
        obtain ⟨entry, -, -, -, -, rfl⟩ := claimManifestEntry_ok ran
        rw [seedPreEnrollment_preEnrolled?, setProvisioned_preEnrolled?, found]
        split <;> rfl

/-- A claim sets the flag of its own row, where it was free. -/
theorem lookupAndClaim_row (found : db.preEnrolled? serial = some row) (serial' : String) :
    (lookupAndClaim serial' db).2.preEnrolled? serial = some row ∨
    (serial' = serial ∧ row.claimed = 0 ∧
      (lookupAndClaim serial' db).2.preEnrolled? serial = some { row with claimed := 1 }) := by
  cases ran : lookupAndClaim serial' db with
  | mk result db' =>
    cases result with
    | error e => exact Or.inl (by rw [lookupAndClaim_error ran, found])
    | ok pre =>
        obtain ⟨row', found', free, -, rfl⟩ := lookupAndClaim_ok ran
        by_cases here : serial' = serial
        · subst here
          rw [found] at found'
          cases found'
          refine Or.inr ⟨rfl, free, ?_⟩
          rw [setClaimed_preEnrolled?, if_pos rfl, found]
          rfl
        · exact Or.inl (by rw [setClaimed_preEnrolled?, if_neg here, found])

/-- A registration resets the flag of its own row, where no device has the serial. -/
theorem registerSerial_row (found : db.preEnrolled? serial = some row) (serial' model : String) :
    (registerSerial serial' model db).2.preEnrolled? serial = some row ∨
    (serial' = serial ∧ db.deviceBySerial? serial = none ∧
      (registerSerial serial' model db).2.preEnrolled? serial = some { row with claimed := 0 }) := by
  have read := registerSerial_preEnrolled? serial' serial model db
  by_cases here : serial' = serial
  · subst here
    rw [if_pos rfl, found] at read
    dsimp only at read
    by_cases enrolled : (db.deviceBySerial? serial').isSome = true
    · rw [if_pos enrolled] at read
      exact Or.inl read
    · rw [if_neg enrolled] at read
      have none_ : db.deviceBySerial? serial' = none := by simpa using enrolled
      exact Or.inr ⟨rfl, none_, read⟩
  · rw [if_neg here, found] at read
    exact Or.inl read

end Rows

/-- A row of `pre_enrollment` keeps everything, unless the call claims its serial
or registers it anew while it has no device. -/
theorem exec_preEnrolled? (op : StoreOp) {db : Db} {serial : String} {row : PreEnrollmentRow}
    (found : db.preEnrolled? serial = some row) :
    (exec db op).2.preEnrolled? serial = some row ∨
    (op = .lookupAndClaim serial ∧ row.claimed = 0 ∧
      (exec db op).2.preEnrolled? serial = some { row with claimed := 1 }) ∨
    (∃ model, op = .registerSerial serial model ∧ db.deviceBySerial? serial = none ∧
      (exec db op).2.preEnrolled? serial = some { row with claimed := 0 }) := by
  cases op with
  | createDevice d id now =>
      exact Or.inl ((createDevice_preEnrolled? d id now db serial).trans found)
  | updateStatus id status reason =>
      exact Or.inl ((updateStatus_preEnrolled? id status reason serial db).trans found)
  | touchLastSeen id now =>
      exact Or.inl ((touchLastSeen_preEnrolled? id now serial db).trans found)
  | getDevice | getBySerial | listDevices | countDevices | seedManifest | reopen => exact Or.inl found
  | claimManifestEntry serial' token now =>
      exact Or.inl (claimManifestEntry_keeps_row found serial' token now)
  | lookupAndClaim serial' =>
      rcases lookupAndClaim_row found serial' with same | ⟨rfl, free, claimed⟩
      · exact Or.inl same
      · exact Or.inr (Or.inl ⟨rfl, free, claimed⟩)
  | registerSerial serial' model =>
      rcases registerSerial_row found serial' model with same | ⟨rfl, none_, reset⟩
      · exact Or.inl same
      · exact Or.inr (Or.inr ⟨model, rfl, none_, reset⟩)

/-! ## Claims over runs of store calls -/

/-- The serial is registered and claimed. -/
def Closed (db : Db) (serial : String) : Prop :=
  ∃ row, db.preEnrolled? serial = some row ∧ row.claimed ≠ 0

/-- The serial is registered and free to be claimed. -/
def Open (db : Db) (serial : String) : Prop :=
  ∃ row, db.preEnrolled? serial = some row ∧ row.claimed = 0

/-- `lookup_and_claim` succeeds in this state. -/
def ClaimSucceeds (db : Db) (serial : String) : Prop :=
  ∃ pre, (exec db (.lookupAndClaim serial)).1 = .preEnrollment (.ok pre)

theorem claimSucceeds_iff {db : Db} {serial : String} : ClaimSucceeds db serial ↔ Open db serial := by
  constructor
  · intro won
    obtain ⟨pre, replied⟩ := won
    cases ran : lookupAndClaim serial db with
    | mk result db' =>
      simp only [exec, ran, Prod.map, Reply.preEnrollment.injEq] at replied
      subst replied
      obtain ⟨row, found, free, -, -⟩ := lookupAndClaim_ok ran
      exact ⟨row, found, free⟩
  · intro isOpen
    obtain ⟨row, found, free⟩ := isOpen
    exact ⟨⟨serial, row.model⟩, by simp [exec, lookupAndClaim, found, free]⟩

theorem not_open_of_closed {db : Db} {serial : String} (closed : Closed db serial) :
    ¬ Open db serial := by
  intro isOpen
  obtain ⟨row, found, taken⟩ := closed
  obtain ⟨row', found', free⟩ := isOpen
  rw [found] at found'
  cases found'
  exact taken free

/-- Only a registration of a serial without a device opens it again. -/
theorem Closed.after {db : Db} {serial : String} {op : StoreOp} (closed : Closed db serial)
    (kept : ∀ model, op = .registerSerial serial model → db.deviceBySerial? serial ≠ none) :
    Closed (exec db op).2 serial := by
  obtain ⟨row, found, taken⟩ := closed
  rcases exec_preEnrolled? op found with same | ⟨-, -, after⟩ | ⟨model, registers, none_, -⟩
  · exact ⟨row, same, taken⟩
  · exact ⟨_, after, by simp⟩
  · exact absurd none_ (kept model registers)

/-- Only a claim closes an open serial. -/
theorem Open.after {db : Db} {serial : String} {op : StoreOp} (isOpen : Open db serial)
    (others : op ≠ .lookupAndClaim serial) : Open (exec db op).2 serial := by
  obtain ⟨row, found, free⟩ := isOpen
  rcases exec_preEnrolled? op found with same | ⟨claims, -, -⟩ | ⟨model, -, -, after⟩
  · exact ⟨row, same, free⟩
  · exact absurd claims others
  · exact ⟨_, after, rfl⟩

theorem Open.claim {db : Db} {serial : String} (isOpen : Open db serial) :
    Closed (exec db (.lookupAndClaim serial)).2 serial := by
  obtain ⟨row, found, free⟩ := isOpen
  have claimed : (exec db (.lookupAndClaim serial)).2 = setClaimed serial 1 db := by
    simp [exec, lookupAndClaim, found, free]
  refine ⟨{ row with claimed := 1 }, ?_, by simp⟩
  rw [claimed, setClaimed_preEnrolled?, if_pos rfl, found]
  rfl

theorem register_opens {db : Db} {serial : String} (model : String)
    (none_ : db.deviceBySerial? serial = none) :
    Open (exec db (.registerSerial serial model)).2 serial := by
  have read := registerSerial_preEnrolled? serial serial model db
  rw [if_pos rfl] at read
  cases found : db.preEnrolled? serial with
  | none =>
      rw [found] at read
      exact ⟨_, read, rfl⟩
  | some row =>
      rw [found] at read
      simp only [none_, Option.isSome_none, Bool.false_eq_true, if_false] at read
      exact ⟨_, read, rfl⟩

/-- A run that starts with the serial claimed ends so, or opens it somewhere. -/
theorem Closed.along {db : Db} {serial : String} (closed : Closed db serial) (ops : List StoreOp) :
    Closed (runStore db ops) serial ∨ ∃ head model tail,
      ops = head ++ .registerSerial serial model :: tail ∧
        (runStore db head).deviceBySerial? serial = none := by
  induction ops generalizing db with
  | nil => exact Or.inl closed
  | cons op rest ih =>
      by_cases opens : ∃ model, op = .registerSerial serial model ∧ db.deviceBySerial? serial = none
      · obtain ⟨model, rfl, none_⟩ := opens
        exact Or.inr ⟨[], model, rest, rfl, none_⟩
      · have later : Closed (exec db op).2 serial := by
          apply closed.after
          intro model registers none_
          exact opens ⟨model, registers, none_⟩
        rcases ih later with ends | ⟨head, model, tail, rfl, none_⟩
        · exact Or.inl ends
        · exact Or.inr ⟨op :: head, model, tail, rfl, none_⟩

/-- A run that starts with the serial open ends so, or claims it somewhere. -/
theorem Open.along {db : Db} {serial : String} (isOpen : Open db serial) (ops : List StoreOp) :
    Open (runStore db ops) serial ∨ ∃ head tail, ops = head ++ .lookupAndClaim serial :: tail ∧
      ClaimSucceeds (runStore db head) serial := by
  induction ops generalizing db with
  | nil => exact Or.inl isOpen
  | cons op rest ih =>
      by_cases claims : op = .lookupAndClaim serial
      · subst claims
        exact Or.inr ⟨[], rest, rfl, claimSucceeds_iff.2 isOpen⟩
      · rcases ih (isOpen.after claims) with ends | ⟨head, tail, rfl, won⟩
        · exact Or.inl ends
        · exact Or.inr ⟨op :: head, tail, rfl, won⟩

/-- The call is a `lookup_and_claim` of the serial, and it returned `Ok`. -/
def isOkLookup (serial : String) : StoreOp × Reply → Bool
  | (.lookupAndClaim s, .preEnrollment (.ok _)) => decide (s = serial)
  | _ => false

theorem isOkLookup_iff {db : Db} {serial : String} {op : StoreOp} :
    isOkLookup serial (op, (exec db op).1) = true ↔
      op = .lookupAndClaim serial ∧ ClaimSucceeds db serial := by
  constructor
  · intro ok
    unfold isOkLookup at ok
    split at ok
    · rename_i s pre same
      rw [Prod.mk.injEq] at same
      obtain ⟨rfl, replied⟩ := same
      have here : s = serial := by simpa using ok
      subst here
      exact ⟨rfl, pre, replied⟩
    · cases ok
  · intro won
    obtain ⟨rfl, pre, replied⟩ := won
    rw [replied]
    simp [isOkLookup]

/-- The successful claims of a serial in a run. -/
def okLookups (serial : String) (db : Db) (ops : List StoreOp) : List (StoreOp × Reply) :=
  (trace exec db ops).filter (isOkLookup serial)

/-- While nobody registers the serial, a claimed one stays claimed. -/
theorem okLookups_of_closed {serial : String} {db : Db} {ops : List StoreOp}
    (closed : Closed db serial) (unregistered : ∀ model, .registerSerial serial model ∉ ops) :
    okLookups serial db ops = [] := by
  induction ops generalizing db with
  | nil => rfl
  | cons op rest ih =>
      have refused : isOkLookup serial (op, (exec db op).1) = false := by
        rw [Bool.eq_false_iff]
        intro ok
        exact not_open_of_closed closed (claimSucceeds_iff.1 (isOkLookup_iff.1 ok).2)
      have later : Closed (exec db op).2 serial := by
        apply closed.after
        intro model registers
        subst registers
        exact absurd List.mem_cons_self (unregistered model)
      have none_ := ih later fun model member => unregistered model (List.mem_cons_of_mem op member)
      simp only [okLookups, trace, List.filter_cons, refused, Bool.false_eq_true, if_false]
      exact none_

/-- Of the claims made on an open serial, the first succeeds and no other does. -/
theorem okLookups_of_open {serial : String} {db : Db} {ops : List StoreOp}
    (isOpen : Open db serial) (unregistered : ∀ model, .registerSerial serial model ∉ ops)
    (tried : .lookupAndClaim serial ∈ ops) : (okLookups serial db ops).length = 1 := by
  induction ops generalizing db with
  | nil => simp at tried
  | cons op rest ih =>
      have rest_unregistered : ∀ model, .registerSerial serial model ∉ rest :=
        fun model member => unregistered model (List.mem_cons_of_mem op member)
      simp only [okLookups, trace, List.filter_cons]
      by_cases claims : op = .lookupAndClaim serial
      · subst claims
        have won := isOkLookup_iff.2 ⟨rfl, claimSucceeds_iff.2 isOpen⟩
        have none_ := okLookups_of_closed isOpen.claim rest_unregistered
        rw [if_pos won, List.length_cons]
        unfold okLookups at none_
        rw [show stateStep exec db (.lookupAndClaim serial) = (exec db (.lookupAndClaim serial)).2 from rfl,
          none_, List.length_nil]
      · have other : ¬ isOkLookup serial (op, (exec db op).1) = true := by
          intro ok
          exact claims (isOkLookup_iff.1 ok).1
        rw [if_neg other]
        apply ih (isOpen.after claims) rest_unregistered
        rcases List.mem_cons.1 tried with here | later
        · exact absurd here.symm claims
        · exact later

/-- **Claim accounting.**  Over every run of store calls from the empty database:
between two successful claims of a serial it is registered while it has no
device; a registration of a serial without a device makes its next claim
succeed, if none does in between; and of the claims made after a registration,
up to the next one, exactly one succeeds. -/
theorem claim_accounting (serial : String) :
    (∀ first between, ClaimSucceeds (runStore .empty first) serial →
      ClaimSucceeds (runStore .empty (first ++ .lookupAndClaim serial :: between)) serial →
      ∃ head model tail, between = head ++ .registerSerial serial model :: tail ∧
        (runStore .empty (first ++ .lookupAndClaim serial :: head)).deviceBySerial? serial = none) ∧
    (∀ before model between, (runStore .empty before).deviceBySerial? serial = none →
      (∀ head tail, between = head ++ .lookupAndClaim serial :: tail →
        ¬ ClaimSucceeds (runStore .empty (before ++ .registerSerial serial model :: head)) serial) →
      ClaimSucceeds (runStore .empty (before ++ .registerSerial serial model :: between)) serial) ∧
    (∀ before model after, (runStore .empty before).deviceBySerial? serial = none →
      (∀ model', .registerSerial serial model' ∉ after) → .lookupAndClaim serial ∈ after →
      (okLookups serial (runStore .empty (before ++ [.registerSerial serial model])) after).length = 1) := by
  have split : ∀ before op (rest : List StoreOp),
      runStore .empty (before ++ op :: rest) = runStore (exec (runStore .empty before) op).2 rest :=
    fun before op rest => runStore_append .empty before (op :: rest)
  refine ⟨?_, ?_, ?_⟩
  · intro first between won again
    have closed := (claimSucceeds_iff.1 won).claim
    rcases closed.along between with ends | ⟨head, model, tail, rfl, none_⟩
    · rw [split] at again
      exact absurd (claimSucceeds_iff.1 again) (not_open_of_closed ends)
    · refine ⟨head, model, tail, rfl, ?_⟩
      rw [split]
      exact none_
  · intro before model between none_ unclaimed
    rcases (register_opens model none_).along between with ends | ⟨head, tail, rfl, won⟩
    · rw [split]
      exact claimSucceeds_iff.2 ends
    · refine absurd ?_ (unclaimed head tail rfl)
      rw [split]
      exact won
  · intro before model after none_ unregistered tried
    rw [runStore_concat]
    exact okLookups_of_open (register_opens model none_) unregistered tried

/-! ## Enrolled serials and claims, over interleaved enrollments -/

section Enrolled

variable {C : Crypto} {cfg : Config}

/-- The flag of the serial is set. -/
def Taken (db : Db) (serial : String) : Prop :=
  ∃ row, db.preEnrolled? serial = some row ∧ row.claimed = 1

theorem Taken.after {db : Db} {serial : String} {op : StoreOp} (taken : Taken db serial)
    (kept : ∀ model, op = .registerSerial serial model → db.deviceBySerial? serial ≠ none) :
    Taken (exec db op).2 serial := by
  obtain ⟨row, found, claimed⟩ := taken
  rcases exec_preEnrolled? op found with same | ⟨-, -, after⟩ | ⟨model, registers, none_, -⟩
  · exact ⟨row, same, claimed⟩
  · exact ⟨_, after, rfl⟩
  · exact absurd none_ (kept model registers)

/-- The call is an enrollment of the serial, between its claim and its insert. -/
def InFlight.Enrolling (serial : String) : InFlight C → Prop
  | .claimed _ certSerial _ | .signed _ certSerial _ _ _ => certSerial = serial
  | .provisioning .. | .renewing .. => False

/-- A serial that has no device yet is not registered while it is being enrolled. -/
def SparesEnrollments (w : World Db (InFlight C) (Event C)) : Action DirectOp (Move C) → Prop
  | .direct ⟨.registerSerial serial _, _⟩ => w.state.deviceBySerial? serial = none →
      ∀ id p, w.calls id = some p → ¬ p.Enrolling serial
  | _ => True

def EnrolledTaken (db : Db) : Prop := ∀ device ∈ db.identities, Taken db device.serial

def EnrollingTaken (db : Db) (p : InFlight C) : Prop := ∀ serial, p.Enrolling serial → Taken db serial

theorem deviceBySerial?_of_identity {db : Db} {device : Identity} (stored : device ∈ db.identities) :
    db.deviceBySerial? device.serial ≠ none := by
  obtain ⟨row, member, rfl⟩ := List.mem_map.1 stored
  have found : db.deviceBySerial? row.serial = some row := db.devices.find?_self .serial member
  show db.deviceBySerial? row.serial ≠ none
  rw [found]
  simp

/-- A call to the store keeps the flags that matter: a registration that resets
one finds neither a device nor an enrollment under its serial. -/
theorem direct_taken {w : World Db (InFlight C) (Event C)} {op : DirectOp}
    (holds : Holds (fun db _ => EnrolledTaken db) (fun db _ => EnrollingTaken db) w)
    (spared : SparesEnrollments w (.direct op)) :
    Holds (fun db _ => EnrolledTaken db) (fun db _ => EnrollingTaken db)
      ((service C cfg).step w (.direct op)) where
  shared := by
    intro device stored
    have same := exec_direct_identities w.state op.2
    have old : device ∈ w.state.identities := same ▸ stored
    refine (holds.shared device old).after ?_
    intro model _
    exact deviceBySerial?_of_identity old
  inFlight := by
    intro id p flying serial enrolling
    refine (holds.inFlight id p flying serial enrolling).after ?_
    intro model registers none_
    obtain ⟨op, direct⟩ := op
    dsimp only at registers
    subst registers
    exact spared none_ id p flying enrolling

/-- A store call that neither registers a serial nor adds a device keeps every flag. -/
theorem EnrolledTaken.after_exec {db db' : Db} {op : StoreOp} (enrolled : EnrolledTaken db)
    (after : db' = (exec db op).2) (registers : ∀ serial model, op ≠ .registerSerial serial model)
    (same : db'.identities = db.identities) :
    EnrolledTaken db' ∧ ∀ serial, Taken db serial → Taken db' serial := by
  have kept : ∀ serial, Taken db serial → Taken db' serial := by
    intro serial taken
    rw [after]
    exact taken.after fun model registered => absurd registered (registers serial model)
  exact ⟨fun device stored => kept _ (enrolled device (same ▸ stored)), kept⟩

/-- A call that moves keeps every flag, and an enrollment has its own set. -/
theorem Advances.taken {db : Db} {call : Option (InFlight C)} {move : Move C}
    {o : Outcome Db (InFlight C) (Event C)} (moved : Advances C cfg db call move o)
    (own : ∀ p, call = some p → EnrollingTaken db p) (enrolled : EnrolledTaken db) :
    EnrolledTaken o.state ∧ (∀ serial, Taken db serial → Taken o.state serial) ∧
      ∀ p, o.call = some p → EnrollingTaken o.state p := by
  cases moved with
  | idle => exact ⟨enrolled, fun _ taken => taken, own⟩
  | abandoned | provisionRefused | enrollRefused | enrollUnsigned | enrollConflict | renewRefused
  | renewSigned | provisionSigned => exact ⟨enrolled, fun _ taken => taken, by simp⟩
  | renewChecked req device passed =>
      refine ⟨enrolled, fun _ taken => taken, ?_⟩
      rintro p ⟨⟩ serial ⟨⟩
  | provisionClaimed req now model db' claimed =>
      have ran := provisionClaim_ok claimed
      have after : db' = (exec db (.claimManifestEntry req.serial req.provisionToken now)).2 := by
        simp only [exec, ran, Prod.map]
      have same := claimManifestEntry_identities req.serial req.provisionToken now db
      rw [ran] at same
      obtain ⟨enrolled', kept⟩ := enrolled.after_exec after (by simp) same
      refine ⟨enrolled', kept, ?_⟩
      rintro p ⟨⟩ serial ⟨⟩
  | enrollClaimed req certSerial pre db' claimed =>
      have ran := (enrollClaim_ok claimed).2
      have after : db' = (exec db (.lookupAndClaim certSerial)).2 := by
        simp only [exec, ran, Prod.map]
      have same := lookupAndClaim_identities certSerial db
      rw [ran] at same
      obtain ⟨enrolled', kept⟩ := enrolled.after_exec after (by simp) same
      refine ⟨enrolled', kept, ?_⟩
      rintro p ⟨⟩ serial ⟨⟩
      obtain ⟨row, found, -, -, rfl⟩ := lookupAndClaim_ok ran
      refine ⟨{ row with claimed := 1 }, ?_, rfl⟩
      rw [setClaimed_preEnrolled?, if_pos rfl, found]
      rfl
  | enrollSigned req certSerial pre now later entropy cert expiresAt issued =>
      have claimed : EnrollingTaken db (.claimed req certSerial pre) := own _ rfl
      refine ⟨enrolled, fun _ taken => taken, ?_⟩
      rintro p ⟨⟩ serial enrolling
      exact claimed serial enrolling
  | enrollCreated req certSerial pre cert expiresAt id now result db' created =>
      obtain ⟨record, ran, -⟩ := enrollCreate_ok created
      have signed : EnrollingTaken db (.signed req certSerial pre cert expiresAt) := own _ rfl
      have kept : ∀ serial, Taken db serial → Taken db' serial := by
        intro serial taken
        obtain ⟨devices, -, -, rfl⟩ := createDevice_ok ran
        exact taken
      refine ⟨?_, kept, by simp⟩
      intro device stored
      rw [createDevice_identities ran, List.mem_append, List.mem_singleton] at stored
      rcases stored with old | rfl
      · exact kept _ (enrolled device old)
      · exact kept _ (signed certSerial rfl)

theorem taken_step (w : World Db (InFlight C) (Event C)) (a : Action DirectOp (Move C))
    (holds : Holds (fun db _ => EnrolledTaken db) (fun db _ => EnrollingTaken db) w)
    (spared : SparesEnrollments w a) :
    Holds (fun db _ => EnrolledTaken db) (fun db _ => EnrollingTaken db)
      ((service C cfg).step w a) := by
  cases a with
  | direct op => exact direct_taken holds spared
  | restart => exact ⟨holds.shared, fun _ _ flying => by cases flying⟩
  | call id move =>
      refine holds_step (P := fun db _ => EnrollingTaken db)
        (R := fun db _ db' _ => ∀ serial, Taken db serial → Taken db' serial) _ ?_
        (fun op same => by cases same) ?_ holds
      · intro _ _ _ _ p kept taken serial enrolling
        exact kept serial (taken serial enrolling)
      · intro id' move' o same advanced
        cases same
        subst advanced
        have moved := advance_spec C cfg (w.calls id) w.state move
        exact moved.taken (fun p flying => holds.inFlight id p flying) holds.shared

/-- **Enrolled serials stay claimed**, in every state the service reaches while no
serial is registered in the middle of its own enrollment: the flag is set, and
another claim is refused. -/
theorem enrolled_stay_claimed (actions : List (Action DirectOp (Move C)))
    (spared : Guarded (service C cfg).step SparesEnrollments (.init .empty) actions) :
    ∀ device ∈ (serve C cfg actions).state.devices.rows,
      (∃ row ∈ (serve C cfg actions).state.preEnrollment.rows,
        row.serial = device.serial ∧ row.claimed = 1) ∧
      (lookupAndClaim device.serial (serve C cfg actions).state).1 =
        .error (.serialAlreadyClaimed device.serial) := by
  have initially : EnrolledTaken Db.empty := by
    intro device stored
    cases stored
  have holds : Holds (fun db _ => EnrolledTaken db) (fun db _ => EnrollingTaken db)
      (serve C cfg actions) := run_invariant _ taken_step (holds_init initially) spared
  intro device stored
  obtain ⟨row, found, claimed⟩ := holds.shared device.identity (List.mem_map_of_mem stored)
  refine ⟨⟨row, Table.mem_of_find? found, serial_of_preEnrolled? _ found, claimed⟩, ?_⟩
  have read : (serve C cfg actions).state.preEnrolled? device.serial = some row := found
  simp [lookupAndClaim, read, claimed]

end Enrolled

def Toy.register (serial : String) : DirectOp := ⟨.registerSerial serial "humanoid-v2", rfl⟩

/-- Registered before its life starts and again once it is enrolled. -/
def Toy.reregistered : List (Action DirectOp (Move Pki.Toy.crypto)) :=
  .direct (Toy.register "SN-1") :: Toy.lifecycle ++ [.direct (Toy.register "SN-1")]

theorem enrolled_stay_claimed_reregistered :
    (serve Pki.Toy.crypto Toy.config Toy.reregistered).state.devices.rows.map (·.serial) = ["SN-1"] ∧
    ∀ device ∈ (serve Pki.Toy.crypto Toy.config Toy.reregistered).state.devices.rows,
      (lookupAndClaim device.serial (serve Pki.Toy.crypto Toy.config Toy.reregistered).state).1 =
        .error (.serialAlreadyClaimed device.serial) := by
  refine ⟨by decide, fun device stored => (enrolled_stay_claimed Toy.reregistered ?_ device stored).2⟩
  refine ⟨fun _ id p flying => ?_, trivial, trivial, trivial, trivial, trivial, trivial,
    fun none_ => ?_, trivial⟩
  · cases flying
  · exact absurd none_ (by decide)

/-- The operator's call lands between the claim of `SN-1` and its insert. -/
def Toy.resetMidway : List (Action DirectOp (Move Pki.Toy.crypto)) :=
  Toy.lifecycle.take 4 ++ .direct (Toy.register "SN-1") :: Toy.lifecycle.drop 4

/-- The serial is enrolled and not claimed, and a further claim succeeds. -/
theorem reset_during_enrollment :
    ¬ (∀ device ∈ (serve Pki.Toy.crypto Toy.config Toy.resetMidway).state.devices.rows,
        ∃ row ∈ (serve Pki.Toy.crypto Toy.config Toy.resetMidway).state.preEnrollment.rows,
          row.serial = device.serial ∧ row.claimed = 1) ∧
    ¬ (∀ device ∈ (serve Pki.Toy.crypto Toy.config Toy.resetMidway).state.devices.rows,
        (lookupAndClaim device.serial (serve Pki.Toy.crypto Toy.config Toy.resetMidway).state).1 =
          .error (.serialAlreadyClaimed device.serial)) := by
  constructor
  · decide
  · decide

end RobotFleet.Device
