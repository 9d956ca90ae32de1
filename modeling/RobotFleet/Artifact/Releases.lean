/-
# Artifact.Releases -- which release is the latest, and where its binary is stored

Two questions about releases that the registry answers by a column and the server
by a text.

`get_latest` takes the largest `created_at`, in whole seconds, with nothing to part
releases of one second.  `latest_is_last_iff`: whatever order SQLite visits them
in, it returns the release that was created last exactly when that one is alone in
its second.

`generate_upload_url` joins model and version by a slash.  `releases_apart_iff`:
two releases get different object keys unless a slash can be read as the end of
either model.
-/
import RobotFleet.Artifact.Server

namespace RobotFleet.Artifact

open RobotFleet.Theory
open RobotFleet.Theory.Run
open RobotFleet.Theory.Calls (Status mapError_ok ok_of_bind)

set_option autoImplicit false

/-! ## The releases in the order they were created -/

/-- A call of `create`, with what its environment supplies. -/
structure Publication where
  artifact : NewArtifact
  id : String
  now : Int64
  fault : Option Fault

def publish (reg : Registry) (p : Publication) : Except Error ArtifactRecord × Registry :=
  create p.artifact p.id p.now p.fault reg

/-- The registry after a list of calls on an empty one. -/
def registryAfter (publications : List Publication) : Registry :=
  run (stateStep publish) Table.empty publications

/-- What the calls that succeeded returned, oldest first. -/
def succeeded (publications : List Publication) : List ArtifactRecord :=
  (trace publish Table.empty publications).filterMap fun entry => entry.2.toOption

/-- The releases of a model in a channel, oldest first. -/
def offered (model channel : String) (publications : List Publication) : List ArtifactRecord :=
  (succeeded publications).filter (ArtifactRecord.offers model channel)

theorem run_publish_rows (reg : Registry) (publications : List Publication) :
    (run (stateStep publish) reg publications).rows =
      reg.rows ++ (trace publish reg publications).filterMap fun entry => entry.2.toOption := by
  induction publications generalizing reg with
  | nil => simp [trace]
  | cons p rest ih =>
      rw [run_cons, ih, trace, List.filterMap_cons]
      cases ran : (publish reg p).1 with
      | error e =>
          have same : stateStep publish reg p = reg := create_error ran
          simp [same, Except.toOption]
      | ok record =>
          have inserted : reg.insert record = some (stateStep publish reg p) := (create_ok ran).2
          rw [Table.insert_rows inserted]
          simp [Except.toOption]

/-- The table holds the releases in the order of their creation. -/
theorem rows_registryAfter (publications : List Publication) :
    (registryAfter publications).rows = succeeded publications :=
  (run_publish_rows Table.empty publications).trans (List.nil_append _)

/-! ## The latest release -/

/-- `ORDER BY created_at DESC`. -/
def ArtifactRecord.notOlder (r r' : ArtifactRecord) : Prop := r'.createdAt ≤ r.createdAt

instance : DecidableRel ArtifactRecord.notOlder :=
  fun r r' => inferInstanceAs (Decidable (r'.createdAt ≤ r.createdAt))

section Latest

variable {model channel : String} {reg : Registry}

/-- The rows of both queries, before `LIMIT`. -/
def candidates (model channel : String) (scan : Scan ArtifactRecord) (reg : Registry) :
    List ArtifactRecord :=
  scan.orderBy ArtifactRecord.notOlder (reg.rows.filter (ArtifactRecord.offers model channel))

theorem newest_eq_take (scan : Scan ArtifactRecord) {limit : Int} (positive : 1 ≤ limit) :
    newest model channel limit scan reg = (candidates model channel scan reg).take limit.toNat := by
  obtain ⟨n, rfl⟩ : ∃ n : Nat, limit = n := ⟨limit.toNat, (Int.toNat_of_nonneg (by omega)).symm⟩
  exact sqlLimit_natCast n _

theorem getLatest_eq (scan : Scan ArtifactRecord) : getLatest model channel scan none reg =
    match (candidates model channel scan reg).head? with
    | none => .error (.notFound (model ++ "@latest (" ++ channel ++ ")"))
    | some r => .ok r := by
  unfold getLatest
  rw [newest_eq_take scan (Int.le_refl 1)]
  cases candidates model channel scan reg with
  | nil => rfl
  | cons r rest => rfl

theorem list_eq (scan : Scan ArtifactRecord) {limit : Int} (positive : 1 ≤ limit) :
    list model channel limit scan none reg =
      .ok ((candidates model channel scan reg).take limit.toNat) := by
  unfold list
  rw [newest_eq_take scan positive]
  rfl

theorem sorted_candidates (scan : Scan ArtifactRecord) :
    (candidates model channel scan reg).Pairwise ArtifactRecord.notOlder :=
  scan.orderBy_sorted (fun r r' => Int64.le_total r'.createdAt r.createdAt)
    (fun _ _ _ later later' => Int64.le_trans later' later) _

/-- A release that is alone in the last second comes first, whatever the scan. -/
theorem head?_candidates {earlier : List ArtifactRecord} {last : ArtifactRecord}
    (split : reg.rows.filter (ArtifactRecord.offers model channel) = earlier ++ [last])
    (alone : ∀ r ∈ earlier, r.createdAt < last.createdAt) (scan : Scan ArtifactRecord) :
    (candidates model channel scan reg).head? = some last := by
  have perm : (candidates model channel scan reg).Perm (earlier ++ [last]) :=
    split ▸ scan.orderBy_perm ArtifactRecord.notOlder _
  have sorted := @sorted_candidates model channel reg scan
  cases found : candidates model channel scan reg with
  | nil =>
      have length := perm.length_eq
      simp [found] at length
  | cons head rest =>
      rw [found] at perm sorted
      have inside : last ∈ head :: rest := perm.mem_iff.2 (by simp)
      rcases List.mem_cons.1 inside with rfl | later
      · rfl
      · have newer : last.createdAt ≤ head.createdAt := (List.pairwise_cons.1 sorted).1 last later
        have member : head ∈ earlier ++ [last] := perm.mem_iff.1 (by simp)
        rcases List.mem_append.1 member with old | same
        · exact absurd (alone head old) (Int64.not_lt.2 newer)
        · rw [List.mem_singleton.1 same]
          rfl

/-- Sorting rows as they were inserted keeps a release behind an earlier one that is
not older. -/
theorem head?_insertionSort {earlier : List ArtifactRecord} {last : ArtifactRecord}
    (tied : ∃ r ∈ earlier, last.createdAt ≤ r.createdAt) :
    ∃ head ∈ earlier, ((earlier ++ [last]).insertionSort ArtifactRecord.notOlder).head? = some head := by
  induction earlier with
  | nil => simp at tied
  | cons r rest ih =>
      rw [List.cons_append, List.insertionSort_cons]
      cases tail : (rest ++ [last]).insertionSort ArtifactRecord.notOlder with
      | nil =>
          have length := (List.perm_insertionSort ArtifactRecord.notOlder (rest ++ [last])).length_eq
          simp [tail] at length
      | cons next later =>
          rw [List.orderedInsert_cons]
          by_cases first : r.notOlder next
          · rw [if_pos first]
            exact ⟨r, by simp, rfl⟩
          · rw [if_neg first]
            have before : r.createdAt < next.createdAt := Int64.not_le.1 first
            have member : next ∈ rest ++ [last] :=
              (List.mem_insertionSort ArtifactRecord.notOlder).1 (by rw [tail]; simp)
            obtain ⟨t, inside, bound⟩ := tied
            rcases List.mem_cons.1 inside with rfl | deeper
            · -- `next` is newer than `t`, so it is not `last`
              rcases List.mem_append.1 member with old | same
              · exact ⟨next, List.mem_cons_of_mem t old, rfl⟩
              · rw [List.mem_singleton.1 same] at before
                exact absurd before (Int64.not_lt.2 bound)
            · obtain ⟨head, old, first'⟩ := ih ⟨t, deeper, bound⟩
              rw [tail] at first'
              cases first'
              exact ⟨next, List.mem_cons_of_mem r old, rfl⟩

end Latest

/-- `get_latest` returns the release that was created last and `NotFound` exactly when
there is none; and that release heads `list`. -/
def LatestIsLast (publications : List Publication) (model channel : String) : Prop :=
  ∀ (scan : Scan ArtifactRecord) (limit : Int), 1 ≤ limit →
    (∀ last, (offered model channel publications).getLast? = some last →
      getLatest model channel scan none (registryAfter publications) = .ok last ∧
      ∃ rest, list model channel limit scan none (registryAfter publications) = .ok (last :: rest)) ∧
    ((∃ m, getLatest model channel scan none (registryAfter publications) = .error (.notFound m)) ↔
      offered model channel publications = [])

section Last

variable {publications : List Publication} {model channel : String}

theorem filter_registryAfter (publications : List Publication) (model channel : String) :
    (registryAfter publications).rows.filter (ArtifactRecord.offers model channel) =
      offered model channel publications := by
  rw [rows_registryAfter, offered]

theorem nodup_offered (publications : List Publication) (model channel : String) :
    (offered model channel publications).Nodup := by
  rw [← filter_registryAfter]
  exact ((registryAfter publications).unique .id).of_map _ |>.filter _

/-- No release of the model and channel: the queries find nothing. -/
theorem candidates_of_none (none_ : offered model channel publications = [])
    (scan : Scan ArtifactRecord) :
    candidates model channel scan (registryAfter publications) = [] := by
  have perm : (candidates model channel scan (registryAfter publications)).Perm [] := by
    rw [← none_, ← filter_registryAfter]
    exact scan.orderBy_perm ArtifactRecord.notOlder _
  exact perm.eq_nil

/-- An earlier release that is not older is returned in place of the last one, when the
rows are visited as they were inserted. -/
theorem not_latestIsLast_of_tied {earlier : List ArtifactRecord} {last r : ArtifactRecord}
    (split : offered model channel publications = earlier ++ [last]) (member : r ∈ earlier)
    (tied : last.createdAt ≤ r.createdAt) : ¬ LatestIsLast publications model channel := by
  intro latest
  have sorted : candidates model channel .inserted (registryAfter publications) =
      (earlier ++ [last]).insertionSort ArtifactRecord.notOlder := by
    unfold candidates
    rw [filter_registryAfter, split]
    rfl
  obtain ⟨head, old, first⟩ := @head?_insertionSort earlier last ⟨r, member, tied⟩
  obtain ⟨returned, -⟩ := (latest .inserted 1 (Int.le_refl 1)).1 last (by simp [split])
  rw [getLatest_eq, sorted, first] at returned
  cases returned
  -- the last release is not among the earlier ones: ids are unique
  have distinct := nodup_offered publications model channel
  rw [split] at distinct
  exact (List.nodup_append.1 distinct).2.2 last old last (by simp) rfl

end Last

/-- **The latest release is the last one exactly when** it was created in a later
second than every other of its model and channel. -/
theorem latest_is_last_iff (publications : List Publication) (model channel : String) :
    LatestIsLast publications model channel ↔
      ∀ earlier last, offered model channel publications = earlier ++ [last] →
        ∀ r ∈ earlier, r.createdAt < last.createdAt := by
  constructor
  · intro latest earlier last split r member
    by_contra tied
    exact not_latestIsLast_of_tied split member (Int64.not_lt.1 tied) latest
  · intro alone scan limit positive
    rw [getLatest_eq]
    rcases List.eq_nil_or_concat (offered model channel publications) with none_ | ⟨earlier, last, split⟩
    · rw [candidates_of_none none_ scan, none_]
      simp
    · rw [List.concat_eq_append] at split
      have rows := filter_registryAfter publications model channel
      have head := head?_candidates (rows.trans split) (alone earlier last split) scan
      rw [head, split]
      refine ⟨fun last' same => ?_, by simp⟩
      rw [List.getLast?_concat, Option.some.injEq] at same
      subst same
      refine ⟨rfl, ?_⟩
      rw [list_eq scan positive]
      obtain ⟨rest, candidates_⟩ : ∃ rest, candidates model channel scan (registryAfter publications) =
          last :: rest := ⟨_, (List.eq_cons_of_mem_head? head)⟩
      refine ⟨rest.take (limit.toNat - 1), ?_⟩
      rw [candidates_, show limit.toNat = limit.toNat - 1 + 1 by omega, List.take_succ_cons,
        Nat.add_sub_cancel]

/-- `h1` 1.0.0 and then 1.1.0, both in the second 100. -/
def Toy.sameSecond : List Publication :=
  [⟨⟨"h1", "1.0.0", "ab", 1, "stable", "h1/1.0.0/firmware.bin", ""⟩, "a-1", 100, none⟩,
   ⟨⟨"h1", "1.1.0", "cd", 1, "stable", "h1/1.1.0/firmware.bin", ""⟩, "a-2", 100, none⟩]

/-- The older release is returned as the latest. -/
theorem same_second_returns_older :
    ¬ LatestIsLast Toy.sameSecond "h1" "stable" ∧
    (offered "h1" "stable" Toy.sameSecond).map (·.version) = ["1.0.0", "1.1.0"] ∧
    ((getLatest "h1" "stable" .inserted none (registryAfter Toy.sameSecond)).toOption.map (·.version)) =
      some "1.0.0" := by
  refine ⟨fun latest => ?_, by decide, by decide⟩
  obtain ⟨returned, -⟩ := (latest .inserted 1 (by decide)).1
    ⟨"a-2", "h1", "1.1.0", "cd", 1, "stable", "h1/1.1.0/firmware.bin", "", 100⟩ (by decide)
  have version := congrArg (fun result => result.toOption.map (·.version)) returned
  revert version
  decide

/-! ## The object of a release -/

/-- The key under which `generate_upload_url` has a binary stored. -/
def objectKey (model version : String) : String := model ++ "/" ++ version ++ "/firmware.bin"

theorem generateUploadUrl_ok {presign : String → Nat → Except Error String} {model version : String}
    {response : UploadUrlResponse} (answered : generateUploadUrl presign model version = .ok response) :
    response.objectKey = objectKey model version ∧
      presign (objectKey model version) 3600 = .ok response.uploadUrl := by
  obtain ⟨uploadUrl, presigned, returned⟩ := ok_of_bind answered
  cases returned
  exact ⟨rfl, mapError_ok.1 presigned⟩

/-- Two readings of one text that is joined at a separator. -/
theorem append_sep_eq_iff {α : Type} (sep : α) (xs ys xs' ys' : List α) :
    xs ++ sep :: ys = xs' ++ sep :: ys' ↔
      (xs = xs' ∧ ys = ys') ∨
      ∃ s, (xs = xs' ++ sep :: s ∧ ys' = s ++ sep :: ys) ∨ (xs' = xs ++ sep :: s ∧ ys = s ++ sep :: ys') := by
  constructor
  · intro same
    rcases List.append_eq_append_iff.1 same with ⟨between, longer, rest⟩ | ⟨between, longer, rest⟩
    · cases between with
      | nil =>
          simp only [List.nil_append, List.cons.injEq, true_and] at rest
          exact Or.inl ⟨by simpa using longer.symm, rest⟩
      | cons first s =>
          simp only [List.cons_append, List.cons.injEq] at rest
          obtain ⟨rfl, rest⟩ := rest
          exact Or.inr ⟨s, Or.inr ⟨longer, rest⟩⟩
    · cases between with
      | nil =>
          simp only [List.nil_append, List.cons.injEq, true_and] at rest
          exact Or.inl ⟨by simpa using longer, rest.symm⟩
      | cons first s =>
          simp only [List.cons_append, List.cons.injEq] at rest
          obtain ⟨rfl, rest⟩ := rest
          exact Or.inr ⟨s, Or.inl ⟨longer, rest⟩⟩
  · rintro (⟨rfl, rfl⟩ | ⟨s, ⟨rfl, rfl⟩ | ⟨rfl, rfl⟩⟩)
    · rfl
    · simp
    · simp

/-- Different releases, whatever the object store does, get different keys. -/
def ReleasesApart (model version model' version' : String) : Prop :=
  (model, version) ≠ (model', version') →
    ∀ presign response response', generateUploadUrl presign model version = .ok response →
      generateUploadUrl presign model' version' = .ok response' → response.objectKey ≠ response'.objectKey

/-- A slash can be moved from the version to the model. -/
def SlashMoves (model version model' version' : String) : Prop :=
  ∃ s, (model = model' ++ "/" ++ s ∧ version' = s ++ "/" ++ version) ∨
    (model' = model ++ "/" ++ s ∧ version = s ++ "/" ++ version')

theorem toList_objectKey (model version : String) : (objectKey model version).toList =
    (model.toList ++ '/' :: version.toList) ++ "/firmware.bin".toList := by
  have slash : "/".toList = ['/'] := rfl
  unfold objectKey
  rw [String.toList_append, String.toList_append, String.toList_append, slash,
    List.append_assoc model.toList, List.singleton_append]

theorem objectKey_eq_iff (model version model' version' : String) :
    objectKey model version = objectKey model' version' ↔
      (model, version) = (model', version') ∨ SlashMoves model version model' version' := by
  have chars : objectKey model version = objectKey model' version' ↔
      model.toList ++ '/' :: version.toList = model'.toList ++ '/' :: version'.toList := by
    rw [← String.toList_inj, toList_objectKey, toList_objectKey, List.append_left_inj]
  rw [chars, append_sep_eq_iff, Prod.mk.injEq, String.toList_inj, String.toList_inj]
  refine or_congr Iff.rfl ⟨?_, ?_⟩
  · rintro ⟨s, moved⟩
    refine ⟨String.ofList s, ?_⟩
    simp only [← String.toList_inj, String.toList_append, String.toList_ofList]
    simpa using moved
  · rintro ⟨s, moved⟩
    refine ⟨s.toList, ?_⟩
    simp only [← String.toList_inj, String.toList_append] at moved
    simpa using moved

/-- **Two releases never share an object exactly when** no slash can be read as part
of the one's model and of the other's version. -/
theorem releases_apart_iff (model version model' version' : String) :
    ReleasesApart model version model' version' ↔ ¬ SlashMoves model version model' version' := by
  constructor
  · intro apart moves
    have different : (model, version) ≠ (model', version') := by
      intro same
      rw [Prod.mk.injEq] at same
      obtain ⟨rfl, rfl⟩ := same
      obtain ⟨s, ⟨longer, -⟩ | ⟨longer, -⟩⟩ := moves
      all_goals
        have length := congrArg String.length longer
        have slash : "/".length = 1 := rfl
        rw [String.length_append, String.length_append] at length
        omega
    exact apart different (fun key _ => .ok key) _ _ rfl rfl ((objectKey_eq_iff ..).2 (Or.inr moves))
  · intro fixed different presign response response' answered answered' same
    rw [(generateUploadUrl_ok answered).1, (generateUploadUrl_ok answered').1] at same
    rcases (objectKey_eq_iff ..).1 same with equal | moves
    · exact different equal
    · exact fixed moves

/-- Version `c` of `a/b` and version `b/c` of `a` are two releases and one object. -/
theorem releases_share_object :
    ¬ ReleasesApart "a/b" "c" "a" "b/c" ∧ objectKey "a/b" "c" = "a/b/c/firmware.bin" ∧
    objectKey "a" "b/c" = "a/b/c/firmware.bin" ∧
    (succeeded [⟨⟨"a/b", "c", "ab", 1, "stable", objectKey "a/b" "c", ""⟩, "a-1", 100, none⟩,
      ⟨⟨"a", "b/c", "cd", 1, "stable", objectKey "a" "b/c", ""⟩, "a-2", 101, none⟩]).length = 2 := by
  refine ⟨fun apart => ?_, by decide, by decide, by decide⟩
  exact apart (by decide) (fun key _ => .ok key) _ _ rfl rfl (by decide)

end RobotFleet.Artifact
