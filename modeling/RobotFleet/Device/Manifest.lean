/-
# Device.Manifest -- the provisioning token is spent once

A manufacturing token is registered by `seed_manifest` and consumed by
`claim_manifest_entry`.  Over every sequence of store calls from the empty
database, restarts that seed again with other data included:

* the manifest entry of a serial is the first one seeded for it
  (`runStore_seeded?`), whatever is seeded later;
* a claim that succeeds finds the entry unspent and spends it, and by
  `Db.Grows` it stays spent, so there is no second success
  (`okClaims_length_le`);
* a claim that is refused writes nothing.
-/
import RobotFleet.Device.Growth

namespace RobotFleet.Device

open RobotFleet.Theory.Run

set_option autoImplicit false

/-! ## The entry is the first one seeded -/

/-- What the manifest says about a serial, apart from whether it is spent. -/
def Db.seeded? (db : Db) (serial : String) : Option (String × String) :=
  (db.manifest? serial).map fun row => (row.model, row.token)

/-- The model and token a call seeds for a serial. -/
def StoreOp.seeds (serial : String) : StoreOp → Option (String × String)
  | .seedManifest s model token => if s = serial then some (model, token) else none
  | _ => none

/-- The model and token of the first `seed_manifest` for a serial. -/
def firstSeed (serial : String) (ops : List StoreOp) : Option (String × String) :=
  ops.findSome? (StoreOp.seeds serial)

theorem seeded?_of_manifest? {db db' : Db} {serial : String}
    (same : db'.manifest? serial = db.manifest? serial) : db'.seeded? serial = db.seeded? serial := by
  unfold Db.seeded?; rw [same]

theorem setProvisioned_seeded? (serial serial' : String) (now : Int) (db : Db) :
    (setProvisioned serial now db).seeded? serial' = db.seeded? serial' := by
  unfold Db.seeded?
  rw [setProvisioned_manifest?]
  split
  · rw [Option.map_map]; rfl
  · rfl

theorem claimManifestEntry_seeded? (serial serial' token : String) (now : Int) (db : Db) :
    (claimManifestEntry serial token now db).2.seeded? serial' = db.seeded? serial' := by
  cases ran : claimManifestEntry serial token now db with
  | mk result db' =>
    cases result with
    | error e => rw [claimManifestEntry_error ran]
    | ok model =>
        obtain ⟨row, -, -, -, -, rfl⟩ := claimManifestEntry_ok ran
        rw [← setProvisioned_seeded? serial serial' now db]
        exact seeded?_of_manifest? (by simp)

/-- One call adds an entry only where there was none. -/
theorem exec_seeded? (db : Db) (op : StoreOp) (serial : String) :
    (exec db op).2.seeded? serial = (db.seeded? serial).or (op.seeds serial) := by
  cases op with
  | seedManifest s model token =>
      have read := seedManifest_manifest? s serial model token db
      simp only [exec, Prod.map, Db.seeded?, StoreOp.seeds, read]
      split
      · cases db.manifest? serial <;> rfl
      · simp
  | claimManifestEntry s token now =>
      have kept := claimManifestEntry_seeded? s serial token now db
      simpa [exec, StoreOp.seeds] using kept
  | createDevice d id now =>
      have kept : (createDevice d id now db).2.manifest? serial = db.manifest? serial := by
        unfold createDevice; split <;> rfl
      simpa [exec, StoreOp.seeds] using seeded?_of_manifest? kept
  | lookupAndClaim s =>
      have kept : (lookupAndClaim s db).2.manifest? serial = db.manifest? serial := by
        unfold lookupAndClaim; repeat' split
        all_goals rfl
      simpa [exec, StoreOp.seeds] using seeded?_of_manifest? kept
  | updateStatus id status reason =>
      simpa [exec, StoreOp.seeds] using
        seeded?_of_manifest? (updateStatus_manifest? id status reason serial db)
  | touchLastSeen id now =>
      simpa [exec, StoreOp.seeds] using seeded?_of_manifest? (touchLastSeen_manifest? id now serial db)
  | registerSerial s model =>
      simpa [exec, StoreOp.seeds] using
        seeded?_of_manifest? (registerSerial_manifest? s serial model db)
  | getDevice | getBySerial | listDevices | countDevices | reopen => simp [exec, StoreOp.seeds]

/-- **The manifest entry of a serial is its first seed**, after any run. -/
theorem runStore_seeded? (serial : String) (ops : List StoreOp) :
    (runStore .empty ops).seeded? serial = firstSeed serial ops := by
  induction ops using List.reverseRecOn with
  | nil => rfl
  | append_singleton ops op ih =>
      have last : [op].findSome? (StoreOp.seeds serial) = op.seeds serial := by
        rw [List.findSome?_singleton]
      rw [runStore_concat, exec_seeded?, ih]
      unfold firstSeed
      rw [List.findSome?_append, last]

/-! ## One success -/

/-- The call is a `claim_manifest_entry` for the serial, and it returned `Ok`. -/
def isOkClaim (serial : String) : StoreOp × Reply → Bool
  | (.claimManifestEntry s _ _, .model (.ok _)) => decide (s = serial)
  | _ => false

/-- The serial's token has been used. -/
def Spent (db : Db) (serial : String) : Prop :=
  ∃ row t, db.manifest? serial = some row ∧ row.provisionedAt = some t

theorem Spent.of_grows {db db' : Db} {serial : String} (spent : Spent db serial)
    (grows : db.Grows db') : Spent db' serial := by
  obtain ⟨row, t, found, set⟩ := spent
  obtain ⟨row', found', -, -, keeps⟩ := grows.manifest serial row found
  exact ⟨row', t, found', keeps t set⟩

/-- A successful claim, taken apart: it presented the stored token of an
unspent entry, and spent it. -/
theorem exec_okClaim {db : Db} {serial token : String} {now : Int} {model : String}
    (ok : (exec db (.claimManifestEntry serial token now)).1 = .model (.ok model)) :
    (∃ m, db.seeded? serial = some (m, token)) ∧ ¬ Spent db serial ∧
      Spent (exec db (.claimManifestEntry serial token now)).2 serial := by
  cases ran : claimManifestEntry serial token now db with
  | mk result db' =>
    simp only [exec, ran, Prod.map, Reply.model.injEq] at ok ⊢
    subst ok
    obtain ⟨row, found, presented, unspent, -, rfl⟩ := claimManifestEntry_ok ran
    refine ⟨⟨row.model, ?_⟩, ?_, ?_⟩
    · simp [Db.seeded?, found, presented]
    · rintro ⟨row', t, found', set⟩
      rw [found] at found'
      cases found'
      rw [unspent] at set
      cases set
    · refine ⟨{ row with provisionedAt := some now }, now, ?_, rfl⟩
      rw [seedPreEnrollment_manifest?, setProvisioned_manifest?, found]
      simp

theorem isOkClaim_iff {serial : String} {op : StoreOp} {reply : Reply} :
    isOkClaim serial (op, reply) = true ↔
      ∃ token now model, op = .claimManifestEntry serial token now ∧ reply = .model (.ok model) := by
  constructor
  · intro ok
    unfold isOkClaim at ok
    split at ok
    · rename_i s token now model same
      simp only [Prod.mk.injEq] at same
      simp only [decide_eq_true_eq] at ok
      subst ok
      exact ⟨token, now, model, same.1, same.2⟩
    · cases ok
  · rintro ⟨token, now, model, rfl, rfl⟩
    simp [isOkClaim]

/-- The successful claims of a run. -/
def okClaims (serial : String) (db : Db) (ops : List StoreOp) : List (StoreOp × Reply) :=
  (trace exec db ops).filter (isOkClaim serial)

theorem okClaims_of_spent {serial : String} {db : Db} (spent : Spent db serial)
    (ops : List StoreOp) : okClaims serial db ops = [] := by
  induction ops generalizing db with
  | nil => rfl
  | cons op rest ih =>
      have refused : isOkClaim serial (op, (exec db op).1) = false := by
        rw [Bool.eq_false_iff]
        intro ok
        obtain ⟨token, now, model, rfl, replied⟩ := isOkClaim_iff.1 ok
        exact (exec_okClaim replied).2.1 spent
      have later := ih (spent.of_grows (exec_grows db op))
      simp only [okClaims, trace, List.filter_cons, refused, Bool.false_eq_true, if_false]
      exact later

/-- **At most one claim succeeds**, from any state. -/
theorem okClaims_length_le (serial : String) (db : Db) (ops : List StoreOp) :
    (okClaims serial db ops).length ≤ 1 := by
  induction ops generalizing db with
  | nil => simp [okClaims, trace]
  | cons op rest ih =>
      simp only [okClaims, trace, List.filter_cons]
      split
      · rename_i ok
        -- the claim spends the entry, so the rest of the run has no success
        obtain ⟨token, now, model, rfl, replied⟩ := isOkClaim_iff.1 ok
        have none_ := okClaims_of_spent (exec_okClaim replied).2.2 rest
        unfold okClaims stateStep at *
        rw [List.length_cons, none_]
        simp
      · exact ih _

/-! ## The whole life of a token -/

/-- **A provisioning token is one-time.**  Over every run of store calls from the
empty database: at most one claim for the serial succeeds; one that does
presented the token of the first seed; an entry keeps its token, its model and,
once set, its `provisioned_at` from any point of the run to its end; and a
refused claim leaves the tables as they were. -/
theorem provision_token_one_time (serial : String) (ops : List StoreOp) :
    (okClaims serial .empty ops).length ≤ 1 ∧
      (∀ token now model,
        (.claimManifestEntry serial token now, .model (.ok model)) ∈ trace exec .empty ops →
          ∃ m, firstSeed serial ops = some (m, token)) ∧
      (∀ before after row, ops = before ++ after →
        (runStore .empty before).manifest? serial = some row →
          ∃ row', (runStore .empty ops).manifest? serial = some row' ∧ row'.token = row.token ∧
            row'.model = row.model ∧ ∀ t, row.provisionedAt = some t → row'.provisionedAt = some t) ∧
      (∀ before after token now e, ops = before ++ .claimManifestEntry serial token now :: after →
        (exec (runStore .empty before) (.claimManifestEntry serial token now)).1 = .model (.error e) →
          runStore .empty (before ++ [.claimManifestEntry serial token now]) =
            runStore .empty before) := by
  refine ⟨okClaims_length_le serial .empty ops, ?_, ?_, ?_⟩
  · intro token now model replied
    obtain ⟨before, after, rfl, ok⟩ := (mem_trace_iff exec).1 replied
    obtain ⟨⟨m, stored⟩, -, -⟩ := exec_okClaim ok
    have first : firstSeed serial before = some (m, token) :=
      (runStore_seeded? serial before).symm.trans stored
    refine ⟨m, ?_⟩
    unfold firstSeed at first ⊢
    rw [List.findSome?_append, first]
    rfl
  · rintro before after row rfl found
    have grows := runStore_grows (runStore .empty before) after
    rw [← runStore_append] at grows
    obtain ⟨row', found', model, token, spent⟩ := grows.manifest serial row found
    exact ⟨row', found', token, model, spent⟩
  · rintro before after token now e rfl refused
    rw [runStore_concat]
    cases ran : claimManifestEntry serial token now (runStore .empty before) with
    | mk result db' =>
      simp only [exec, ran, Prod.map, Reply.model.injEq] at refused ⊢
      subst refused
      exact claimManifestEntry_error ran

end RobotFleet.Device
