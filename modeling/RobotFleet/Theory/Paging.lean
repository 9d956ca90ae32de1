/-
# Theory.Paging -- walking a query page by page, from the key of the last row

A page is the first `limit` rows of a sorted query; when more rows follow, its
cursor is the key of its last row, and the next page asks for the rows with a key
strictly after the cursor.  A `Query` is what is read at one page: the rows there
are (`view`) and how those after a cursor are selected.  `walk` reads one query
after another, and its queries may differ, as the rows do while a walk is on its
way.

* Whatever changes: pages keep to the limit and come from what was there
  (`getElem?_walk`), and the keys only go up (`walk_sorted`, `walk_strict` when keys
  are unique).
* When keys are unique, a walk that ends has seen every key that was always there
  (`walk_complete`).
* When nothing changes, a walk ends (`walk_done`), repeats nothing
  (`walk_subperm`), and is complete exactly when no page ends between two rows of
  equal key (`walk_perm_iff`, `Unsplit`); it then has `pageCount` pages
  (`walk_count`).
-/
import Mathlib.Data.List.Sort
import Mathlib.Order.Basic

namespace RobotFleet.Theory.Paging

set_option autoImplicit false

variable {ρ κ : Type} [LinearOrder κ]

/-- Strictly after a cursor, if there is one. -/
def after (cursor : Option κ) (k : κ) : Bool := cursor.all fun c => decide (c < k)

@[simp] theorem after_none (k : κ) : after none k = true := rfl

@[simp] theorem after_some (c k : κ) : after (some c) k = decide (c < k) := rfl

variable (key : ρ → κ)

/-- What is read at one page. -/
structure Query where
  view : List ρ
  select : Option κ → List ρ
  perm : ∀ c, (select c).Perm (view.filter fun r => after c (key r))
  sorted : ∀ c, (select c).Pairwise fun r r' => key r ≤ key r'

/-- The first `limit` rows, and the cursor of the next page if there are more. -/
def page (limit : Nat) (rows : List ρ) : List ρ × Option κ :=
  (rows.take limit, if limit < rows.length then (rows.take limit).getLast?.map key else none)

/-- The pages read, and whether the last of them had no cursor. -/
def walk (limit : Nat) : Option κ → List (Query key) → List (List ρ) × Bool
  | _, [] => ([], false)
  | c, q :: rest =>
    match page key limit (q.select c) with
    | (rows, none) => ([rows], true)
    | (rows, some c') => (rows :: (walk limit (some c') rest).1, (walk limit (some c') rest).2)

variable {key} {limit : Nat} {c : Option κ} {q : Query key} {queries : List (Query key)}

/-! ## One page -/

/-- A page is the last one, or its cursor parts its rows from those that follow. -/
theorem page_cases (positive : 0 < limit) {rows : List ρ}
    (sorted : rows.Pairwise fun r r' => key r ≤ key r') :
    (rows.length ≤ limit ∧ page key limit rows = (rows, none)) ∨
    (limit < rows.length ∧ ∃ last ∈ rows.take limit, rows[limit - 1]? = some last ∧
      page key limit rows = (rows.take limit, some (key last)) ∧
      (∀ r ∈ rows.take limit, key r ≤ key last) ∧ ∀ r ∈ rows.drop limit, key last ≤ key r) := by
  unfold page
  rcases Nat.lt_or_ge limit rows.length with more | all
  · refine Or.inr ⟨more, ?_⟩
    have length : (rows.take limit).length = limit := by
      rw [List.length_take]
      omega
    have nonempty : rows.take limit ≠ [] := by
      intro empty
      rw [empty] at length
      simp at length
      omega
    refine ⟨(rows.take limit).getLast nonempty, List.getLast_mem _, ?_, ?_, ?_, ?_⟩
    · rw [← List.getLast?_eq_some_getLast nonempty, List.getLast?_eq_getElem?, length,
        List.getElem?_take, if_pos (by omega)]
    · rw [if_pos more, List.getLast?_eq_some_getLast nonempty]
      rfl
    · intro r member
      have front := List.dropLast_append_getLast nonempty
      have ordered : (rows.take limit).Pairwise fun r r' => key r ≤ key r' :=
        sorted.sublist (List.take_sublist _ _)
      rw [← front] at ordered member
      rcases List.mem_append.1 member with early | late
      · exact (List.pairwise_append.1 ordered).2.2 r early _ (by simp)
      · rw [List.mem_singleton.1 late]
    · intro r member
      have whole := List.take_append_drop limit rows
      rw [← whole] at sorted
      exact (List.pairwise_append.1 sorted).2.2 _ (List.getLast_mem nonempty) r member
  · refine Or.inl ⟨all, ?_⟩
    rw [List.take_of_length_le all, if_neg (by omega)]

/-- One row more than the page is enough to read it off. -/
theorem page_take {α : Type} (key : ρ → α) (limit : Nat) (rows : List ρ) :
    page key limit (rows.take (limit + 1)) = page key limit rows := by
  unfold page
  rw [List.take_take, Nat.min_eq_left (Nat.le_succ limit), List.length_take]
  have same : limit < min (limit + 1) rows.length ↔ limit < rows.length := by omega
  rw [if_congr same rfl rfl]

theorem walk_of_last {rows : List ρ} {rest : List (Query key)}
    (last : page key limit (q.select c) = (rows, none)) :
    walk key limit c (q :: rest) = ([rows], true) := by
  simp [walk, last]

theorem walk_of_more {rows : List ρ} {c' : κ} {rest : List (Query key)}
    (more : page key limit (q.select c) = (rows, some c')) :
    walk key limit c (q :: rest) =
      (rows :: (walk key limit (some c') rest).1, (walk key limit (some c') rest).2) := by
  simp [walk, more]

/-- One query of a walk: it ends here, or it goes on from the cursor. -/
theorem walk_cons_cases (positive : 0 < limit) (c : Option κ) (q : Query key)
    (rest : List (Query key)) :
    ((q.select c).length ≤ limit ∧ walk key limit c (q :: rest) = ([q.select c], true)) ∨
    (limit < (q.select c).length ∧ ∃ last ∈ (q.select c).take limit,
      (q.select c)[limit - 1]? = some last ∧
      walk key limit c (q :: rest) = ((q.select c).take limit ::
        (walk key limit (some (key last)) rest).1, (walk key limit (some (key last)) rest).2) ∧
      (∀ r ∈ (q.select c).take limit, key r ≤ key last) ∧
      ∀ r ∈ (q.select c).drop limit, key last ≤ key r) := by
  rcases page_cases positive (q.sorted c) with ⟨all, ran⟩ | ⟨more, last, member, nth, ran, below, above⟩
  · exact Or.inl ⟨all, walk_of_last ran⟩
  · exact Or.inr ⟨more, last, member, nth, walk_of_more ran, below, above⟩

theorem mem_select {r : ρ} : r ∈ q.select c ↔ r ∈ q.view ∧ after c (key r) = true := by
  rw [(q.perm c).mem_iff, List.mem_filter]

/-! ## Walks over queries that change -/

/-- Each page keeps to the limit and comes from the query it was read in. -/
theorem getElem?_walk (positive : 0 < limit) {c : Option κ} {queries : List (Query key)} {i : Nat}
    {rows : List ρ} (read : (walk key limit c queries).1[i]? = some rows) :
    ∃ q, queries[i]? = some q ∧ rows.length ≤ limit ∧ ∀ r ∈ rows, r ∈ q.view := by
  induction queries generalizing c i with
  | nil => simp [walk] at read
  | cons q rest ih =>
      rcases walk_cons_cases positive c q rest with ⟨all, ran⟩ | ⟨-, last, -, -, ran, -, -⟩
      · rw [ran] at read
        cases i with
        | zero =>
            simp only [List.getElem?_cons_zero, Option.some.injEq] at read
            subst read
            exact ⟨q, rfl, all, fun r member => (mem_select.1 member).1⟩
        | succ i => simp at read
      · rw [ran] at read
        cases i with
        | zero =>
            simp only [List.getElem?_cons_zero, Option.some.injEq] at read
            subst read
            refine ⟨q, rfl, List.length_take_le _ _, fun r member => ?_⟩
            exact (mem_select.1 (List.mem_of_mem_take member)).1
        | succ i => exact ih read

/-- Everything listed from a cursor on is after it. -/
theorem after_of_mem_walk (positive : 0 < limit) (c : Option κ) (queries : List (Query key)) :
    ∀ r ∈ (walk key limit c queries).1.flatten, after c (key r) = true := by
  induction queries generalizing c with
  | nil => simp [walk]
  | cons q rest ih =>
      intro r member
      rcases walk_cons_cases positive c q rest with ⟨-, ran⟩ | ⟨-, last, kept, -, ran, -, -⟩
      · rw [ran, List.flatten_singleton] at member
        exact (mem_select.1 member).2
      · rw [ran, List.flatten_cons] at member
        rcases List.mem_append.1 member with here | later
        · exact (mem_select.1 (List.mem_of_mem_take here)).2
        · -- after the last row of this page, which is after the cursor
          have behind := ih (some (key last)) r later
          have own := (mem_select.1 (List.mem_of_mem_take kept)).2
          cases c with
          | none => rfl
          | some c =>
              simp only [after_some, decide_eq_true_eq] at behind own ⊢
              exact own.trans behind

/-- What holds of the keys within each page, and of keys that are apart, holds of
the whole walk. -/
theorem pairwise_walk (positive : 0 < limit) {R : κ → κ → Prop} (apart : ∀ {k k'}, k < k' → R k k')
    (c : Option κ) (queries : List (Query key))
    (within : ∀ q ∈ queries, ∀ c, (q.select c).Pairwise fun r r' => R (key r) (key r')) :
    (walk key limit c queries).1.flatten.Pairwise fun r r' => R (key r) (key r') := by
  induction queries generalizing c with
  | nil => simp [walk]
  | cons q rest ih =>
      have here := within q (by simp) c
      have later := fun c => ih c fun q' member => within q' (List.mem_cons_of_mem q member)
      rcases walk_cons_cases positive c q rest with ⟨-, ran⟩ | ⟨-, last, -, -, ran, below, -⟩
      · rw [ran, List.flatten_singleton]
        exact here
      · rw [ran, List.flatten_cons, List.pairwise_append]
        refine ⟨here.sublist (List.take_sublist _ _), later _, fun r member r' member' => apart ?_⟩
        have behind := after_of_mem_walk positive (some (key last)) rest r' member'
        exact lt_of_le_of_lt (below r member) (of_decide_eq_true behind)

/-- The keys never go down. -/
theorem walk_sorted (positive : 0 < limit) (c : Option κ) (queries : List (Query key)) :
    (walk key limit c queries).1.flatten.Pairwise fun r r' => key r ≤ key r' :=
  pairwise_walk positive le_of_lt c queries fun q _ c => q.sorted c

theorem select_strict (unique : (q.view.map key).Nodup) (c : Option κ) :
    (q.select c).Pairwise fun r r' => key r < key r' := by
  have distinct : ((q.select c).map key).Nodup := by
    have filtered := unique.sublist (List.Sublist.map key (List.filter_sublist (p := fun r => after c (key r))))
    exact (((q.perm c).map key).nodup_iff).2 filtered
  rw [List.nodup_iff_pairwise_ne, List.pairwise_map] at distinct
  exact ((q.sorted c).and distinct).imp fun both => lt_of_le_of_ne both.1 both.2

/-- **Unique keys**: they only go up, so that none comes twice. -/
theorem walk_strict (positive : 0 < limit) (c : Option κ) {queries : List (Query key)}
    (unique : ∀ q ∈ queries, (q.view.map key).Nodup) :
    (walk key limit c queries).1.flatten.Pairwise fun r r' => key r < key r' :=
  pairwise_walk positive (fun apart => apart) c queries fun q member c =>
    select_strict (unique q member) c

/-- **A walk that ends** has listed every key that every page could see. -/
theorem walk_complete (positive : 0 < limit) {c : Option κ} {queries : List (Query key)}
    (unique : ∀ q ∈ queries, (q.view.map key).Nodup) (done : (walk key limit c queries).2 = true)
    {k : κ} (ahead : after c k = true)
    (present : ∀ q ∈ queries.take (walk key limit c queries).1.length, ∃ r ∈ q.view, key r = k) :
    ∃ r ∈ (walk key limit c queries).1.flatten, key r = k := by
  induction queries generalizing c with
  | nil => simp [walk] at done
  | cons q rest ih =>
      rcases walk_cons_cases positive c q rest with ⟨-, ran⟩ | ⟨-, last, kept, -, ran, -, above⟩
      · rw [ran] at present ⊢
        obtain ⟨r, stored, rfl⟩ := present q (by simp)
        exact ⟨r, by simpa using mem_select.2 ⟨stored, ahead⟩, rfl⟩
      · rw [ran] at present done ⊢
        obtain ⟨r, stored, rfl⟩ := present q (by simp)
        have selected : r ∈ q.select c := mem_select.2 ⟨stored, ahead⟩
        rw [← List.take_append_drop limit (q.select c)] at selected
        rcases List.mem_append.1 selected with here | later
        · exact ⟨r, List.mem_flatten.2 ⟨_, by simp, here⟩, rfl⟩
        · have strict := select_strict (unique q (by simp)) c
          rw [← List.take_append_drop limit (q.select c)] at strict
          have beyond := (List.pairwise_append.1 strict).2.2 last kept r later
          obtain ⟨r', listed, same⟩ := ih (fun q' member => unique q' (List.mem_cons_of_mem q member)) done
            (by simpa using beyond) (fun q' member => present q' (by simp [member]))
          exact ⟨r', List.mem_flatten.2 (by
            obtain ⟨p, member, inside⟩ := List.mem_flatten.1 listed
            exact ⟨p, by simp [member], inside⟩), same⟩

/-! ## Walks while nothing changes -/

/-- No page of `limit` rows ends between two equal keys. -/
def Unsplit {α : Type} (limit : Nat) (keys : List α) : Prop :=
  ∀ j, 0 < j → j * limit < keys.length → keys[j * limit - 1]? ≠ keys[j * limit]?

/-- As many pages as it takes, and one for an empty query. -/
def pageCount (limit n : Nat) : Nat := max 1 ((n + limit - 1) / limit)

theorem unsplit_of_length_le {α : Type} {keys : List α} (short : keys.length ≤ limit) : Unsplit limit keys := by
  intro j positive inside
  have more : limit ≤ j * limit := Nat.le_mul_of_pos_left limit positive
  omega

/-- The first page, and the pages of what follows it. -/
theorem unsplit_iff {α : Type} (positive : 0 < limit) {keys : List α} (more : limit < keys.length) :
    Unsplit limit keys ↔ keys[limit - 1]? ≠ keys[limit]? ∧ Unsplit limit (keys.drop limit) := by
  constructor
  · intro whole
    refine ⟨by simpa using whole 1 Nat.one_pos (by omega), fun j ahead inside => ?_⟩
    have wide : limit ≤ j * limit := Nat.le_mul_of_pos_left limit ahead
    have split := whole (j + 1) (by omega) (by rw [List.length_drop] at inside; rw [Nat.add_mul]; omega)
    rw [Nat.add_mul, Nat.one_mul] at split
    rw [List.getElem?_drop, List.getElem?_drop]
    rwa [show limit + (j * limit - 1) = j * limit + limit - 1 by omega, Nat.add_comm limit]
  · rintro ⟨first, rest⟩ j ahead inside
    rcases Nat.lt_or_ge 1 j with later | one
    · obtain ⟨i, rfl⟩ : ∃ i, j = i + 1 := ⟨j - 1, by omega⟩
      have wide : limit ≤ i * limit := Nat.le_mul_of_pos_left limit (by omega)
      rw [Nat.add_mul, Nat.one_mul] at inside ⊢
      have split := rest i (by omega) (by rw [List.length_drop]; omega)
      rw [List.getElem?_drop, List.getElem?_drop] at split
      rwa [show limit + (i * limit - 1) = i * limit + limit - 1 by omega, Nat.add_comm limit] at split
    · obtain rfl : j = 1 := by omega
      simpa using first

theorem unsplit_map {α β : Type} {f : α → β} (injective : Function.Injective f) (keys : List α) :
    Unsplit limit (keys.map f) ↔ Unsplit limit keys := by
  unfold Unsplit
  simp only [List.length_map, List.getElem?_map, ne_eq, (Option.map_injective injective).eq_iff]

theorem pageCount_of_le {n : Nat} (positive : 0 < limit) (short : n ≤ limit) : pageCount limit n = 1 := by
  have small : (n + limit - 1) / limit < 2 := by
    rw [Nat.div_lt_iff_lt_mul positive]
    omega
  unfold pageCount
  omega

theorem pageCount_of_lt {n : Nat} (positive : 0 < limit) (more : limit < n) :
    pageCount limit n = pageCount limit (n - limit) + 1 := by
  have whole : (n + limit - 1) / limit = (n - 1) / limit + 1 := by
    rw [show n + limit - 1 = n - 1 + limit by omega, Nat.add_div_right _ positive]
  have rest : (n - limit + limit - 1) / limit = (n - 1) / limit := by
    rw [show n - limit + limit - 1 = n - 1 by omega]
  have enough : 1 ≤ (n - 1) / limit := (Nat.one_le_div_iff positive).2 (by omega)
  unfold pageCount
  omega

section Unchanged

variable {rows : List ρ}

/-- Every query sees the same rows. -/
def Unchanged (rows : List ρ) (queries : List (Query key)) : Prop := ∀ q ∈ queries, q.view.Perm rows

theorem select_perm (same : q.view.Perm rows) (c : Option κ) :
    (q.select c).Perm (rows.filter fun r => after c (key r)) :=
  (q.perm c).trans (same.filter _)

/-- What the next page selects from: what follows this one, less what ties with its
last row. -/
theorem next_perm (same : q.view.Perm rows) {last : ρ} (kept : last ∈ (q.select c).take limit)
    (below : ∀ r ∈ (q.select c).take limit, key r ≤ key last) :
    (rows.filter fun r => after (some (key last)) (key r)).Perm
      (((q.select c).drop limit).filter fun r => decide (key last < key r)) := by
  have own := (mem_select.1 (List.mem_of_mem_take kept)).2
  have nested : (rows.filter fun r => after c (key r)).filter (fun r => decide (key last < key r)) =
      rows.filter fun r => after (some (key last)) (key r) := by
    rw [List.filter_filter]
    refine List.filter_congr fun r _ => ?_
    cases c with
    | none => simp
    | some c =>
        simp only [after_some, decide_eq_true_eq] at own ⊢
        simp only [Bool.and_eq_left_iff_imp, decide_eq_true_eq]
        exact own.trans
  have behind : (q.select c).filter (fun r => decide (key last < key r)) =
      ((q.select c).drop limit).filter fun r => decide (key last < key r) := by
    have front : ((q.select c).take limit).filter (fun r => decide (key last < key r)) = [] := by
      rw [List.filter_eq_nil_iff]
      intro r member beyond
      exact absurd (of_decide_eq_true beyond) (not_lt_of_ge (below r member))
    calc (q.select c).filter (fun r => decide (key last < key r))
        = ((q.select c).take limit ++ (q.select c).drop limit).filter
            (fun r => decide (key last < key r)) := by rw [List.take_append_drop]
      _ = ((q.select c).drop limit).filter fun r => decide (key last < key r) := by
          rw [List.filter_append, front, List.nil_append]
  rw [← nested, ← behind]
  exact (select_perm same c).symm.filter _

/-- **A walk over rows that stay ends**, at the latest when they are used up. -/
theorem walk_done (positive : 0 < limit) (c : Option κ) {queries : List (Query key)}
    (unchanged : Unchanged rows queries)
    (enough : (rows.filter fun r => after c (key r)).length < queries.length) :
    (walk key limit c queries).2 = true := by
  induction queries generalizing c with
  | nil => simp at enough
  | cons q rest ih =>
      have same := unchanged q (by simp)
      rcases walk_cons_cases positive c q rest with ⟨-, ran⟩ | ⟨more, last, kept, -, ran, below, -⟩
      · rw [ran]
      · rw [ran]
        apply ih (some (key last)) (fun q' member => unchanged q' (List.mem_cons_of_mem q member))
        have left := (next_perm same kept below).length_eq
        have fewer : (((q.select c).drop limit).filter fun r => decide (key last < key r)).length ≤
            ((q.select c).drop limit).length := List.length_filter_le _ _
        have selected := (select_perm same c).length_eq
        simp only [List.length_drop, List.length_cons] at fewer enough
        omega

/-- **Nothing comes twice** that is there once. -/
theorem walk_subperm (positive : 0 < limit) (c : Option κ) {queries : List (Query key)}
    (unchanged : Unchanged rows queries) :
    (walk key limit c queries).1.flatten.Subperm (rows.filter fun r => after c (key r)) := by
  induction queries generalizing c with
  | nil => simp [walk]
  | cons q rest ih =>
      have same := unchanged q (by simp)
      rcases walk_cons_cases positive c q rest with ⟨-, ran⟩ | ⟨-, last, kept, -, ran, below, -⟩
      · rw [ran, List.flatten_singleton]
        exact (select_perm same c).subperm
      · rw [ran, List.flatten_cons]
        have later := ih (some (key last)) fun q' member => unchanged q' (List.mem_cons_of_mem q member)
        have inside : (walk key limit (some (key last)) rest).1.flatten.Subperm
            ((q.select c).drop limit) :=
          (later.trans (next_perm same kept below).subperm).trans List.filter_sublist.subperm
        refine List.Subperm.trans ?_ (select_perm same c).subperm
        have whole := List.take_append_drop limit (q.select c)
        exact ((List.subperm_append_left _).2 inside).trans (by rw [whole])

variable {keys : List κ}

/-- The keys of a selection are the keys of its rows in order. -/
theorem map_select (same : q.view.Perm rows) (ordered : keys.Pairwise (· ≤ ·))
    (held : keys.Perm ((rows.filter fun r => after c (key r)).map key)) :
    (q.select c).map key = keys := by
  have perm : ((q.select c).map key).Perm keys := ((select_perm same c).map key).trans held.symm
  exact perm.eq_of_pairwise' (List.pairwise_map.2 (q.sorted c)) ordered

/-- A page that ends between two different keys leaves exactly what follows it; one
that ends between equal keys loses a row. -/
theorem next_of_boundary (same : q.view.Perm rows) (ordered : keys.Pairwise (· ≤ ·))
    (held : keys.Perm ((rows.filter fun r => after c (key r)).map key))
    (more : limit < (q.select c).length) {last : ρ} (kept : last ∈ (q.select c).take limit)
    (nth : (q.select c)[limit - 1]? = some last)
    (below : ∀ r ∈ (q.select c).take limit, key r ≤ key last)
    (above : ∀ r ∈ (q.select c).drop limit, key last ≤ key r) :
    (keys[limit - 1]? ≠ keys[limit]? →
      (rows.filter fun r => after (some (key last)) (key r)).Perm ((q.select c).drop limit)) ∧
    (keys[limit - 1]? = keys[limit]? →
      (rows.filter fun r => after (some (key last)) (key r)).length < ((q.select c).drop limit).length) := by
  have listed := map_select same ordered held
  have last_key : keys[limit - 1]? = some (key last) := by rw [← listed, List.getElem?_map, nth]; rfl
  have next := next_perm same kept below
  obtain ⟨first, rest, follow⟩ : ∃ first rest, (q.select c).drop limit = first :: rest := by
    cases drop : (q.select c).drop limit with
    | nil => exact absurd (List.drop_eq_nil_iff.1 drop) (by omega)
    | cons first rest => exact ⟨first, rest, rfl⟩
  have first_key : keys[limit]? = some (key first) := by
    have head : (q.select c)[limit]? = some first := by
      rw [← List.head?_drop, follow]
      rfl
    rw [← listed, List.getElem?_map, head]
    rfl
  rw [last_key, first_key]
  constructor
  · intro apart
    have beyond : key last < key first :=
      lt_of_le_of_ne (above first (by simp [follow])) fun tie => apart (congrArg some tie)
    refine next.trans (List.Perm.of_eq (List.filter_eq_self.2 fun r member => ?_))
    have sorted := (q.sorted c).sublist (List.drop_sublist limit _)
    rw [follow] at member sorted
    rcases List.mem_cons.1 member with rfl | later
    · simpa using beyond
    · simpa using lt_of_lt_of_le beyond ((List.pairwise_cons.1 sorted).1 r later)
  · intro tie
    rw [next.length_eq, follow, List.filter_cons_of_neg (by simpa using (Option.some.inj tie).ge)]
    exact Nat.lt_succ_of_le (List.length_filter_le _ _)

/-- The keys of what follows a page. -/
theorem drop_keys (same : q.view.Perm rows) (ordered : keys.Pairwise (· ≤ ·))
    (held : keys.Perm ((rows.filter fun r => after c (key r)).map key)) {last : ρ}
    (next : (rows.filter fun r => after (some (key last)) (key r)).Perm ((q.select c).drop limit)) :
    (keys.drop limit).Pairwise (· ≤ ·) ∧
      (keys.drop limit).Perm ((rows.filter fun r => after (some (key last)) (key r)).map key) := by
  refine ⟨ordered.sublist (List.drop_sublist _ _), ?_⟩
  rw [← map_select same ordered held, ← List.map_drop]
  exact (next.map key).symm

/-- **A walk is complete exactly when** no page ends between equal keys. -/
theorem walk_perm_iff (positive : 0 < limit) {c : Option κ} {queries : List (Query key)}
    (unchanged : Unchanged rows queries) (done : (walk key limit c queries).2 = true)
    (ordered : keys.Pairwise (· ≤ ·))
    (held : keys.Perm ((rows.filter fun r => after c (key r)).map key)) :
    (walk key limit c queries).1.flatten.Perm (rows.filter fun r => after c (key r)) ↔
      Unsplit limit keys := by
  induction queries generalizing c keys with
  | nil => simp [walk] at done
  | cons q rest ih =>
      have same := unchanged q (by simp)
      have rest_same : Unchanged rows rest := fun q' member => unchanged q' (List.mem_cons_of_mem q member)
      have length : keys.length = (q.select c).length := by
        rw [← map_select same ordered held, List.length_map]
      rcases walk_cons_cases positive c q rest with ⟨all, ran⟩ | ⟨more, last, kept, nth, ran, below, above⟩
      · rw [ran, List.flatten_singleton]
        exact ⟨fun _ => unsplit_of_length_le (by omega), fun _ => select_perm same c⟩
      · rw [ran] at done
        rw [ran, List.flatten_cons, unsplit_iff positive (by omega)]
        obtain ⟨exact_, lossy⟩ := next_of_boundary same ordered held more kept nth below above
        by_cases tie : keys[limit - 1]? = keys[limit]?
        · -- what is lost here comes on no later page
          refine ⟨fun whole => ?_, fun unsplit => absurd tie unsplit.1⟩
          have fewer := (walk_subperm positive (some (key last)) rest_same).length_le
          have total := whole.length_eq
          have selected := (select_perm same c).length_eq
          have lost := lossy tie
          simp only [List.length_append, List.length_take, List.length_drop] at total lost
          omega
        · have next := exact_ tie
          obtain ⟨ordered', held'⟩ := drop_keys same ordered held next
          have later := ih rest_same done ordered' held'
          rw [← later]
          have whole : (rows.filter fun r => after c (key r)).Perm
              ((q.select c).take limit ++ (q.select c).drop limit) := by
            rw [List.take_append_drop]
            exact (select_perm same c).symm
          constructor
          · intro listed
            refine ⟨tie, ?_⟩
            exact ((List.perm_append_left_iff _).1 (listed.trans whole)).trans next.symm
          · rintro ⟨-, listed⟩
            exact ((listed.trans next).append_left _).trans whole.symm

/-- **The number of pages** of a walk that splits no tie. -/
theorem walk_count (positive : 0 < limit) (c : Option κ) {queries : List (Query key)}
    (unchanged : Unchanged rows queries) (ordered : keys.Pairwise (· ≤ ·))
    (held : keys.Perm ((rows.filter fun r => after c (key r)).map key))
    (unsplit : Unsplit limit keys) (enough : pageCount limit keys.length ≤ queries.length) :
    (walk key limit c queries).2 = true ∧
      (walk key limit c queries).1.length = pageCount limit keys.length := by
  induction queries generalizing c keys with
  | nil =>
      have one : 1 ≤ pageCount limit keys.length := Nat.le_max_left _ _
      simp only [List.length_nil] at enough
      omega
  | cons q rest ih =>
      have same := unchanged q (by simp)
      have length : keys.length = (q.select c).length := by
        rw [← map_select same ordered held, List.length_map]
      rcases walk_cons_cases positive c q rest with ⟨all, ran⟩ | ⟨more, last, kept, nth, ran, below, above⟩
      · rw [ran, pageCount_of_le positive (by omega)]
        exact ⟨rfl, rfl⟩
      · obtain ⟨apart, rest_unsplit⟩ := (unsplit_iff positive (by omega)).1 unsplit
        have next := (next_of_boundary same ordered held more kept nth below above).1 apart
        obtain ⟨ordered', held'⟩ := drop_keys same ordered held next
        rw [pageCount_of_lt positive (by omega)] at enough ⊢
        have later := ih (some (key last)) (fun q' member => unchanged q' (List.mem_cons_of_mem q member))
          ordered' held' rest_unsplit (by rw [List.length_drop]; simpa using enough)
        rw [List.length_drop] at later
        rw [ran]
        exact ⟨later.1, congrArg (· + 1) later.2⟩

/-- Keys that only go up are never split. -/
theorem unsplit_of_strict (positive : 0 < limit) (strict : keys.Pairwise (· < ·)) :
    Unsplit limit keys := by
  intro j ahead inside same
  have wide : limit ≤ j * limit := Nat.le_mul_of_pos_left limit ahead
  rw [List.getElem?_eq_getElem (by omega), List.getElem?_eq_getElem inside] at same
  have apart := List.pairwise_iff_getElem.1 strict (j * limit - 1) (j * limit) (by omega) inside (by omega)
  exact absurd (Option.some.inj same) (ne_of_lt apart)

end Unchanged

end RobotFleet.Theory.Paging
