/-
# Artifact.Listing -- what can be found of the releases that were published

`list_artifacts` has a limit and no cursor, so a caller sees one page.  Over every run of
the service, whatever failed in it:

* `listing_newest_first`: the page for a model and a channel has the newest of the
  releases that `publish_artifact` acknowledged for them, newest first, as many as the
  limit allows; `get_latest` returns the first of them.
* A listing shows all of them exactly when there are no more than the limit, which is at
  most `i32::MAX`: the others are found by their id only.
* No release ever shows a download URL: `publish_artifact` stores an empty one, and
  nothing writes the column again.
-/
import RobotFleet.Artifact.Releases

namespace RobotFleet.Artifact

open RobotFleet.Theory
open RobotFleet.Theory.Run

set_option autoImplicit false

/-! ## What was acknowledged -/

/-- The metadata that an accepted publish returned. -/
def Reply.acknowledged : Reply → Option ArtifactMeta
  | .published (.ok response) => response.artifact
  | _ => none

/-- The releases that callers were told of, oldest first. -/
def acknowledged (calls : List Call) : List ArtifactMeta :=
  (trace handle Table.empty calls).filterMap fun entry => entry.2.acknowledged

/-- One call stores what it acknowledges, and nothing else. -/
theorem handle_rows (reg : Registry) (call : Call) :
    (stateStep handle reg call).rows.map recordToProto =
      reg.rows.map recordToProto ++ (handle reg call).1.acknowledged.toList := by
  cases call with
  | publishArtifact req id now fault =>
      cases ran : (publishArtifact req id now fault reg).1 with
      | error status =>
          have same := publishArtifact_error ran
          simp [stateStep, handle, ran, same, Reply.acknowledged]
      | ok response =>
          obtain ⟨record, created, rfl, after⟩ := publishArtifact_ok ran
          have inserted := (create_ok created).2
          simp [stateStep, handle, ran, after, Reply.acknowledged, Table.insert_rows inserted]
  | getArtifact | getLatest | listArtifacts => simp [stateStep, handle, Reply.acknowledged]

theorem run_handle_rows (reg : Registry) (calls : List Call) :
    (run (stateStep handle) reg calls).rows.map recordToProto =
      reg.rows.map recordToProto ++
        (trace handle reg calls).filterMap fun entry => entry.2.acknowledged := by
  induction calls generalizing reg with
  | nil => simp [trace]
  | cons call rest ih =>
      rw [run_cons, ih, handle_rows, trace, List.filterMap_cons]
      cases (handle reg call).1.acknowledged <;> simp

theorem rows_serve (calls : List Call) : (serve calls).rows.map recordToProto = acknowledged calls :=
  (run_handle_rows Table.empty calls).trans (List.nil_append _)

/-- The release has no download URL. -/
theorem handle_downloadUrl (reg : Registry) (call : Call) (none_ : ∀ r ∈ reg.rows, r.downloadUrl = "") :
    ∀ r ∈ (stateStep handle reg call).rows, r.downloadUrl = "" := by
  cases call with
  | publishArtifact req id now fault =>
      cases ran : (publishArtifact req id now fault reg).1 with
      | error status =>
          simp only [stateStep, handle]
          rw [publishArtifact_error ran]
          exact none_
      | ok response =>
          obtain ⟨record, created, -, after⟩ := publishArtifact_ok ran
          obtain ⟨rfl, inserted⟩ := create_ok created
          simp only [stateStep, handle]
          rw [after, Table.insert_rows inserted]
          intro r stored
          rcases List.mem_append.1 stored with old | new
          · exact none_ r old
          · rw [List.mem_singleton.1 new]
            rfl
  | getArtifact | getLatest | listArtifacts => exact none_

theorem downloadUrl_serve (calls : List Call) : ∀ r ∈ (serve calls).rows, r.downloadUrl = "" :=
  run_invariant_free (stateStep handle) (I := fun reg => ∀ r ∈ reg.rows, r.downloadUrl = "")
    handle_downloadUrl (by simp) calls

/-! ## A page -/

namespace ArtifactMeta

def offers (model channel : String) (m : ArtifactMeta) : Bool := m.model == model && m.channel == channel

/-- The second of its publication. -/
def published (m : ArtifactMeta) : Int64 := (m.createdAt.map (·.seconds)).getD 0

end ArtifactMeta

/-- The number of releases that the request asks for. -/
def ListArtifactsRequest.page (req : ListArtifactsRequest) : Nat :=
  (if req.limit > 0 then req.limit.toInt else 50).toNat

/-- The acknowledged releases of a model in a channel. -/
def released (calls : List Call) (model channel : String) : List ArtifactMeta :=
  (acknowledged calls).filter (ArtifactMeta.offers model channel)

theorem released_eq (calls : List Call) (model channel : String) :
    released calls model channel =
      ((serve calls).rows.filter (ArtifactRecord.offers model channel)).map recordToProto := by
  rw [released, ← rows_serve, List.filter_map]
  rfl

theorem nodup_released (calls : List Call) (model channel : String) :
    (released calls model channel).Nodup := by
  refine List.Nodup.filter _ ?_
  rw [← rows_serve]
  have ids := (serve calls).unique .id
  refine List.Nodup.of_map (fun m => [m.artifactId]) ?_
  rw [List.map_map]
  exact ids

section Page

variable (calls : List Call) (req : ListArtifactsRequest) (scan : Scan ArtifactRecord)

/-- The page, as the first rows of the ordered query. -/
def pageOf : List ArtifactRecord :=
  (candidates req.model req.channel scan (serve calls)).take req.page

theorem limit_positive : 1 ≤ (if req.limit > 0 then req.limit.toInt else 50) := by
  split
  · rename_i positive
    have positive : 0 < req.limit.toInt := by simpa using Int32.lt_iff_toInt_lt.1 positive
    omega
  · decide

theorem listArtifacts_eq : listArtifacts req scan none (serve calls) =
    .ok ⟨(pageOf calls req scan).map recordToProto⟩ := by
  simp only [listArtifacts]
  rw [list_eq scan (limit_positive req)]
  rfl

theorem perm_candidates : ((candidates req.model req.channel scan (serve calls)).map recordToProto).Perm
    (released calls req.model req.channel) := by
  rw [released_eq]
  exact (scan.orderBy_perm ArtifactRecord.notOlder _).map recordToProto

theorem page_subperm :
    ((pageOf calls req scan).map recordToProto).Subperm (released calls req.model req.channel) :=
  ((List.take_sublist _ _).map recordToProto).subperm.trans (perm_candidates calls req scan).subperm

theorem page_length : ((pageOf calls req scan).map recordToProto).length =
    min req.page (released calls req.model req.channel).length := by
  have length := (perm_candidates calls req scan).length_eq
  rw [List.length_map] at length
  rw [List.length_map, pageOf, List.length_take, length]

/-- The rows on the page and those behind it. -/
theorem page_sorted :
    (pageOf calls req scan ++ (candidates req.model req.channel scan (serve calls)).drop req.page).Pairwise
      ArtifactRecord.notOlder := by
  rw [pageOf, List.take_append_drop]
  exact sorted_candidates scan

/-- What is not on the page is behind it. -/
theorem page_newest {m m' : ArtifactMeta} (shown : m ∈ (pageOf calls req scan).map recordToProto)
    (stored : m' ∈ released calls req.model req.channel)
    (left : m' ∉ (pageOf calls req scan).map recordToProto) : m'.published ≤ m.published := by
  obtain ⟨r, onPage, rfl⟩ := List.mem_map.1 shown
  obtain ⟨r', found, rfl⟩ := List.mem_map.1 ((perm_candidates calls req scan).mem_iff.2 stored)
  rw [← List.take_append_drop req.page (candidates req.model req.channel scan (serve calls))] at found
  rcases List.mem_append.1 found with here | behind
  · exact absurd (List.mem_map_of_mem here) left
  · exact (List.pairwise_append.1 (page_sorted calls req scan)).2.2 r onPage r' behind

/-- All of them fit on the page, or some are left out. -/
theorem page_complete_iff :
    (∀ m ∈ released calls req.model req.channel, m ∈ (pageOf calls req scan).map recordToProto) ↔
      (released calls req.model req.channel).length ≤ req.page := by
  have length := page_length calls req scan
  constructor
  · intro all
    have fits := (List.subperm_of_subset (nodup_released calls req.model req.channel) all).length_le
    omega
  · intro fits m stored
    have long : (released calls req.model req.channel).length ≤
        ((pageOf calls req scan).map recordToProto).length := by omega
    exact ((page_subperm calls req scan).perm_of_length_le long).mem_iff.2 stored

theorem getLatestArtifact_eq : getLatestArtifact req.model req.channel scan none (serve calls) =
    match ((pageOf calls req scan).map recordToProto).head? with
    | some m => .ok m
    | none => .error ⟨.notFound, req.model ++ "@latest (" ++ req.channel ++ ")"⟩ := by
  have positive : 0 < req.page := by
    have := limit_positive req
    unfold ListArtifactsRequest.page
    omega
  unfold getLatestArtifact pageOf
  rw [getLatest_eq, List.head?_map, List.head?_take]
  rw [if_neg (by omega)]
  cases (candidates req.model req.channel scan (serve calls)).head? with
  | none => rfl
  | some r => rfl

end Page

/-- **A listing shows the newest releases.**  In every run, for every request and however
SQLite visits the rows. -/
theorem listing_newest_first (calls : List Call) (req : ListArtifactsRequest)
    (scan : Scan ArtifactRecord) :
    ∃ listed, listArtifacts req scan none (serve calls) = .ok ⟨listed⟩ ∧
      listed.Subperm (released calls req.model req.channel) ∧
      listed.length = min req.page (released calls req.model req.channel).length ∧
      listed.Pairwise (fun m m' => m'.published ≤ m.published) ∧
      (∀ m ∈ listed, ∀ m' ∈ released calls req.model req.channel,
        m' ∉ listed → m'.published ≤ m.published) ∧
      ((∀ m ∈ released calls req.model req.channel, m ∈ listed) ↔
        (released calls req.model req.channel).length ≤ req.page) ∧
      (getLatestArtifact req.model req.channel scan none (serve calls) =
        match listed.head? with
        | some m => .ok m
        | none => .error ⟨.notFound, req.model ++ "@latest (" ++ req.channel ++ ")"⟩) ∧
      ∀ m ∈ listed, m.downloadUrl = "" := by
  refine ⟨(pageOf calls req scan).map recordToProto, listArtifacts_eq calls req scan,
    page_subperm calls req scan, page_length calls req scan, ?_,
    fun m shown m' stored left => page_newest calls req scan shown stored left,
    page_complete_iff calls req scan, getLatestArtifact_eq calls req scan, fun m shown => ?_⟩
  · rw [List.pairwise_map]
    exact (List.pairwise_append.1 (page_sorted calls req scan)).1
  · have stored := (page_subperm calls req scan).subset shown
    rw [released_eq] at stored
    obtain ⟨r, found, rfl⟩ := List.mem_map.1 stored
    exact downloadUrl_serve calls r (List.mem_filter.1 found).1

end RobotFleet.Artifact
