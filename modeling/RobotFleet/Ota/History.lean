/-
# Ota.History -- the job history of a device, page by page

`list_for_device` orders by `created_at`, which has whole seconds, and its cursor
is the `created_at` of the last job of a page, compared strictly.  A walk from
cursor to cursor is the `walk` of `Theory.Paging` over that column, downwards; how
a query visits jobs of one second is left open, page by page (`Scan`).

A walk always ends, its jobs come in non-increasing `created_at` and none twice;
but jobs of the second in which a page ends are skipped.  `history_complete_iff`
has the exact condition: no page ends within a second.
-/
import Mathlib.Data.String.Basic
import RobotFleet.Ota.Jobs
import RobotFleet.Theory.Paging

namespace RobotFleet.Ota

open RobotFleet.Theory
open RobotFleet.Theory.Calls (Action)

set_option autoImplicit false

/-- `list_for_device` from a cursor on, for at most `fuel` pages; page `n` visits
rows as `scans n` does.  The flag says that the last cursor was `None`. -/
def walkHistory (scans : Nat → Scan JobRow) (deviceId : String) (limit : Int) (jobs : Jobs) :
    Nat → Nat → Option String → List JobRecord × Bool
  | 0, _, _ => ([], false)
  | fuel + 1, n, cursor =>
    match listForDevice (scans n) deviceId limit cursor jobs with
    | (records, none) => (records, true)
    | (records, some next) =>
      let rest := walkHistory scans deviceId limit jobs fuel (n + 1) (some next)
      (records ++ rest.1, rest.2)

/-- The jobs of a device. -/
def jobsOf (deviceId : String) (jobs : Jobs) : List JobRow :=
  jobs.rows.filter fun r => decide (r.deviceId = deviceId)

/-- When they were created, newest first. -/
def creationTimes (deviceId : String) (jobs : Jobs) : List String :=
  ((jobsOf deviceId jobs).map (·.createdAt)).insertionSort fun t t' => t' ≤ t

/-- The walk from the start ends, with every job of the device once and newest first. -/
def HistoryComplete (scans : Nat → Scan JobRow) (deviceId : String) (limit : Int) (jobs : Jobs) : Prop :=
  ∀ fuel, jobs.rows.length < fuel →
    (walkHistory scans deviceId limit jobs fuel 0 none).2 = true ∧
    (walkHistory scans deviceId limit jobs fuel 0 none).1.Perm
      ((jobsOf deviceId jobs).map rowToRecord) ∧
    (walkHistory scans deviceId limit jobs fuel 0 none).1.Pairwise fun r r' => r'.createdAt ≤ r.createdAt

/-! ## As a walk over a column -/

/-- `ORDER BY created_at DESC`. -/
def JobRow.newestFirst (r : JobRow) : Stringᵒᵈ := OrderDual.toDual r.createdAt

/-- One page's query. -/
def historyQuery (scan : Scan JobRow) (deviceId : String) (jobs : Jobs) :
    Paging.Query JobRow.newestFirst where
  view := jobsOf deviceId jobs
  select cursor := scan.orderBy (fun r r' => r'.createdAt ≤ r.createdAt) (jobs.rows.filter fun r =>
    decide (r.deviceId = deviceId) && Paging.after cursor r.newestFirst)
  perm cursor := by
    refine (scan.orderBy_perm _ _).trans (List.Perm.of_eq ?_)
    rw [jobsOf, List.filter_filter]
    exact List.filter_congr fun r _ => Bool.and_comm _ _
  sorted cursor := scan.orderBy_sorted (fun r r' => (le_total r'.createdAt r.createdAt))
    (fun r r' r'' later later' => le_trans later' later) _

variable {scans : Nat → Scan JobRow} {deviceId : String} {limit : Int} {jobs : Jobs}

theorem select_historyQuery (scan : Scan JobRow) (cursor : Option String) :
    (historyQuery scan deviceId jobs).select (cursor.map OrderDual.toDual) =
      scan.orderBy (fun r r' => r'.createdAt ≤ r.createdAt) (jobs.rows.filter fun r =>
        decide (r.deviceId = deviceId) && cursor.all fun c => decide (r.createdAt < c)) := by
  cases cursor with
  | none => rfl
  | some c => rfl

/-- `list_for_device` is one page of the walk. -/
theorem listForDevice_eq_page (scan : Scan JobRow) (positive : 0 < limit) (cursor : Option String) :
    listForDevice scan deviceId limit cursor jobs =
      ((Paging.page JobRow.newestFirst limit.toNat
          ((historyQuery scan deviceId jobs).select (cursor.map OrderDual.toDual))).1.map rowToRecord,
        (Paging.page JobRow.newestFirst limit.toNat
          ((historyQuery scan deviceId jobs).select (cursor.map OrderDual.toDual))).2.map
            OrderDual.ofDual) := by
  obtain ⟨n, rfl⟩ : ∃ n : Nat, limit = n := ⟨limit.toNat, (Int.toNat_of_nonneg positive.le).symm⟩
  rw [select_historyQuery]
  unfold listForDevice Paging.page
  dsimp only
  generalize scan.orderBy (fun r r' => r'.createdAt ≤ r.createdAt) (jobs.rows.filter fun r =>
    decide (r.deviceId = deviceId) && cursor.all fun c => decide (r.createdAt < c)) = rows
  have fetched : sqlLimit ((n : Int) + 1) rows = rows.take (n + 1) := sqlLimit_natCast (n + 1) rows
  have kept : ((rows.take (n + 1)).map rowToRecord).take n = (rows.take n).map rowToRecord := by
    rw [← List.map_take, List.take_take, Nat.min_eq_left (Nat.le_succ n)]
  rw [fetched, Int.toNat_natCast, sqlLimit_natCast, kept]
  congr 1
  by_cases more : n < rows.length
  · have long : (((rows.take (n + 1)).map rowToRecord).length : Int) > n ∧ (0 : Int) < n := by
      rw [List.length_map, List.length_take]
      omega
    have last : (rows.take n).getLast? = rows[n - 1]? := by
      rw [List.getLast?_eq_getElem?, List.length_take, Nat.min_eq_left more.le, List.getElem?_take,
        if_pos (by omega)]
    have fetched_last : (rows.take (n + 1))[n - 1]? = rows[n - 1]? := by
      rw [List.getElem?_take, if_pos (by omega)]
    rw [if_pos long, if_pos more, last, List.getElem?_map, fetched_last, Option.map_map, Option.map_map]
    rfl
  · have short : ¬ ((((rows.take (n + 1)).map rowToRecord).length : Int) > n ∧ (0 : Int) < n) := by
      rw [List.length_map, List.length_take]
      omega
    rw [if_neg short, if_neg more, Option.map_none]

/-- The queries of the pages from `n` on. -/
def historyQueries (scans : Nat → Scan JobRow) (deviceId : String) (jobs : Jobs) (n fuel : Nat) :
    List (Paging.Query JobRow.newestFirst) :=
  (List.range' n fuel).map fun i => historyQuery (scans i) deviceId jobs

theorem walkHistory_eq_walk (positive : 0 < limit) (fuel n : Nat) (cursor : Option String) :
    walkHistory scans deviceId limit jobs fuel n cursor =
      ((Paging.walk JobRow.newestFirst limit.toNat (cursor.map OrderDual.toDual)
          (historyQueries scans deviceId jobs n fuel)).1.flatten.map rowToRecord,
        (Paging.walk JobRow.newestFirst limit.toNat (cursor.map OrderDual.toDual)
          (historyQueries scans deviceId jobs n fuel)).2) := by
  induction fuel generalizing n cursor with
  | zero => rfl
  | succ fuel ih =>
      have first : historyQueries scans deviceId jobs n (fuel + 1) =
          historyQuery (scans n) deviceId jobs :: historyQueries scans deviceId jobs (n + 1) fuel := by
        rw [historyQueries, List.range'_succ, List.map_cons]
        rfl
      rw [walkHistory, listForDevice_eq_page (scans n) positive, first]
      cases ran : Paging.page JobRow.newestFirst limit.toNat
          ((historyQuery (scans n) deviceId jobs).select (cursor.map OrderDual.toDual)) with
      | mk rows next =>
        cases next with
        | none =>
            rw [Paging.walk_of_last ran]
            simp
        | some c =>
            have rest := ih (n + 1) (some (OrderDual.ofDual c))
            simp only [Option.map_some, OrderDual.toDual_ofDual] at rest
            rw [Paging.walk_of_more ran, List.flatten_cons, List.map_append]
            simp only [Option.map_some, rest]

theorem historyQueries_unchanged (scans : Nat → Scan JobRow) (deviceId : String) (jobs : Jobs)
    (n fuel : Nat) :
    Paging.Unchanged (jobsOf deviceId jobs) (historyQueries scans deviceId jobs n fuel) := by
  intro q member
  obtain ⟨i, -, rfl⟩ := List.mem_map.1 member
  exact List.Perm.refl _

/-- Rows that are read as the same records are the same jobs: ids are unique. -/
theorem perm_of_map_rowToRecord {rows : List JobRow} (among : rows.Subperm (jobsOf deviceId jobs))
    (same : (rows.map rowToRecord).Perm ((jobsOf deviceId jobs).map rowToRecord)) :
    rows.Perm (jobsOf deviceId jobs) := by
  apply among.perm_of_length_le
  simpa using same.length_eq.ge

theorem walkHistory_sorted (positive : 0 < limit) (fuel n : Nat) (cursor : Option String) :
    (walkHistory scans deviceId limit jobs fuel n cursor).1.Pairwise
      fun r r' => r'.createdAt ≤ r.createdAt := by
  have fits : 0 < limit.toNat := by omega
  rw [walkHistory_eq_walk positive, List.pairwise_map]
  exact Paging.walk_sorted fits (cursor.map OrderDual.toDual) (historyQueries scans deviceId jobs n fuel)

/-- Enough fuel for a page per job, and one. -/
theorem walkHistory_done (positive : 0 < limit) {fuel : Nat} (enough : jobs.rows.length < fuel) :
    (walkHistory scans deviceId limit jobs fuel 0 none).2 = true := by
  have fits : 0 < limit.toNat := by omega
  rw [walkHistory_eq_walk positive, Option.map_none]
  refine Paging.walk_done fits none (historyQueries_unchanged scans deviceId jobs 0 fuel) ?_
  rw [historyQueries, List.length_map, List.length_range']
  have filtered : ((jobsOf deviceId jobs).filter fun r => Paging.after none r.newestFirst).length ≤
      (jobsOf deviceId jobs).length := List.length_filter_le _ _
  have few : (jobsOf deviceId jobs).length ≤ jobs.rows.length := List.length_filter_le _ _
  omega

/-- A walk that ends lists each job of the device, exactly when no page ends within
a second. -/
theorem walkHistory_perm_iff (positive : 0 < limit) {fuel : Nat} (enough : jobs.rows.length < fuel) :
    (walkHistory scans deviceId limit jobs fuel 0 none).1.Perm ((jobsOf deviceId jobs).map rowToRecord) ↔
      Paging.Unsplit limit.toNat (creationTimes deviceId jobs) := by
  have fits : 0 < limit.toNat := by omega
  have all : (jobsOf deviceId jobs).filter (fun r => Paging.after none r.newestFirst) =
      jobsOf deviceId jobs := List.filter_eq_self.2 fun r _ => rfl
  have ordered : ((creationTimes deviceId jobs).map OrderDual.toDual).Pairwise (· ≤ ·) := by
    have total : Std.Total fun t t' : String => t' ≤ t := ⟨fun t t' => le_total t' t⟩
    have trans : IsTrans String fun t t' => t' ≤ t := ⟨fun _ _ _ later later' => le_trans later' later⟩
    exact List.pairwise_map.2 (List.pairwise_insertionSort _ _)
  have held : ((creationTimes deviceId jobs).map OrderDual.toDual).Perm
      (((jobsOf deviceId jobs).filter fun r => Paging.after none r.newestFirst).map
        JobRow.newestFirst) := by
    have times : (creationTimes deviceId jobs).Perm ((jobsOf deviceId jobs).map (·.createdAt)) :=
      List.perm_insertionSort _ _
    have keys := times.map OrderDual.toDual
    rw [List.map_map] at keys
    rw [all]
    exact keys
  have done := @walkHistory_done scans deviceId limit jobs positive fuel enough
  rw [walkHistory_eq_walk positive, Option.map_none] at done ⊢
  have complete := Paging.walk_perm_iff fits (historyQueries_unchanged scans deviceId jobs 0 fuel) done
    ordered held
  have among := Paging.walk_subperm fits none (historyQueries_unchanged scans deviceId jobs 0 fuel)
  rw [all] at complete among
  rw [← Paging.unsplit_map OrderDual.toDual.injective, ← complete]
  exact ⟨perm_of_map_rowToRecord among, fun listed => listed.map rowToRecord⟩

/-- **The history of a device is listed completely exactly when** no page ends
within a second: of its jobs, newest first, the last of each page and the first of
the next were created in different seconds. -/
theorem history_complete_iff (scans : Nat → Scan JobRow) (deviceId : String) (limit : Int)
    (positive : 1 ≤ limit) (jobs : Jobs) :
    HistoryComplete scans deviceId limit jobs ↔
      Paging.Unsplit limit.toNat (creationTimes deviceId jobs) := by
  constructor
  · intro complete
    obtain ⟨-, listed, -⟩ := complete _ (Nat.lt_succ_self _)
    exact (walkHistory_perm_iff positive (Nat.lt_succ_self _)).1 listed
  · intro unsplit fuel enough
    exact ⟨walkHistory_done positive enough, (walkHistory_perm_iff positive enough).2 unsplit,
      walkHistory_sorted positive fuel 0 none⟩

/-- Two updates of `dev-1`, each dispatched and acked at the given times. -/
def Toy.twoJobs (first second : String) : List (Action ServerOp Move) :=
  [.call 0 (.dispatchCreate ⟨"dev-1", "v2.0.0", none⟩ "job-1" first),
   .direct (.ackUpdate ⟨"dev-1", "job-1", "v2.0.0", true, ""⟩ first),
   .call 1 (.dispatchCreate ⟨"dev-1", "v2.1.0", none⟩ "job-2" second)]

/-- A second apart. -/
theorem history_complete_iff_apart :
    HistoryComplete (fun _ => .inserted) "dev-1" 1 (runFleet (fun bytes => bytes)
      (Toy.twoJobs "2025-01-01 00:00:00" "2025-01-01 00:00:01")).state.jobs := by
  refine (history_complete_iff (fun _ => .inserted) "dev-1" 1 (by decide) _).2 ?_
  have times : creationTimes "dev-1" (runFleet (fun bytes => bytes)
      (Toy.twoJobs "2025-01-01 00:00:00" "2025-01-01 00:00:01")).state.jobs =
        ["2025-01-01 00:00:01", "2025-01-01 00:00:00"] := by decide
  rw [times]
  intro j ahead inside
  obtain rfl : j = 1 := by simp at inside; omega
  decide

/-- Within one second, and a page for each: the walk ends after one of the two jobs. -/
theorem same_second_skipped :
    ¬ HistoryComplete (fun _ => .inserted) "dev-1" 1 (runFleet (fun bytes => bytes)
      (Toy.twoJobs "2025-01-01 00:00:00" "2025-01-01 00:00:00")).state.jobs := by
  intro complete
  obtain ⟨-, listed, -⟩ := complete 3 (by decide)
  have both := listed.length_eq
  revert both
  decide

end RobotFleet.Ota
