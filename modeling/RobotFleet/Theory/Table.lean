/-
# Theory.Table -- relational tables that carry their uniqueness constraints

A `Table key` is a list of rows, in insertion order, in which every indexed
column family `key i` is duplicate-free: the `PRIMARY KEY` and `UNIQUE`
constraints of one table, as a field.  A row that would break a constraint
cannot be stored (`insert` refuses it), and an update has to prove that it
leaves the indexed columns alone.

The reading is `find? i k`, the row whose `i`-th key is `k`; the lemmas below
say what each operation does to every reading, so callers never look at the
row list unless its order matters.  `Scan` is the freedom SQL leaves to a query
that does not order its rows completely.
-/
import Mathlib.Data.List.Nodup
import Mathlib.Data.List.Sort
import Mathlib.Data.Fintype.Basic

namespace RobotFleet.Theory

set_option autoImplicit false

/-- Rows in insertion order, duplicate-free in every key. -/
@[ext] structure Table {ι κ ρ : Type} (key : ι → ρ → κ) where
  rows : List ρ
  unique : ∀ i, (rows.map (key i)).Nodup

namespace Table

variable {ι κ ρ : Type} {key : ι → ρ → κ}

def empty : Table key := ⟨[], fun _ => List.nodup_nil⟩

@[simp] theorem empty_rows : (empty : Table key).rows = [] := rfl

/-- Two stored rows that share a key are one row. -/
theorem eq_of_key (t : Table key) (i : ι) {r r' : ρ} (stored : r ∈ t.rows) (stored' : r' ∈ t.rows)
    (same : key i r = key i r') : r = r' :=
  List.inj_on_of_nodup_map (t.unique i) stored stored' same

section Operations

variable [DecidableEq κ]

/-- `SELECT * FROM t WHERE key_i = k`. -/
def find? (t : Table key) (i : ι) (k : κ) : Option ρ :=
  t.rows.find? fun r => decide (key i r = k)

/-- The row breaks a uniqueness constraint of the table. -/
def Conflicts (t : Table key) (r : ρ) : Prop :=
  ∃ i, ∃ r' ∈ t.rows, key i r' = key i r

instance [Fintype ι] (t : Table key) (r : ρ) : Decidable (t.Conflicts r) :=
  inferInstanceAs (Decidable (∃ i, ∃ r' ∈ t.rows, key i r' = key i r))

/-- `INSERT INTO t`: refused exactly when a constraint would be violated. -/
def insert [Fintype ι] (t : Table key) (r : ρ) : Option (Table key) :=
  if free : t.Conflicts r then none
  else some
    { rows := t.rows ++ [r]
      unique := fun i => by
        rw [List.map_append, List.nodup_append]
        refine ⟨t.unique i, List.nodup_singleton _, ?_⟩
        intro k old k' new same
        obtain ⟨r', stored, rfl⟩ := List.mem_map.1 old
        rw [List.map_singleton, List.mem_singleton] at new
        exact free ⟨i, r', stored, same.trans new⟩ }

/-- `INSERT OR IGNORE INTO t`. -/
def insertOrIgnore [Fintype ι] (t : Table key) (r : ρ) : Table key :=
  (t.insert r).getD t

end Operations

/-- `DELETE FROM t WHERE p`. -/
def delete (t : Table key) (p : ρ → Bool) : Table key where
  rows := t.rows.filter fun r => !p r
  unique i := (t.unique i).sublist (List.filter_sublist.map (key i))

/-- `UPDATE t SET f WHERE p`, for an `f` that leaves the indexed columns alone. -/
def update (t : Table key) (p : ρ → Bool) (f : ρ → ρ) (keeps : ∀ i r, key i (f r) = key i r) :
    Table key where
  rows := t.rows.map fun r => if p r then f r else r
  unique := fun i => by
    have same : (key i ∘ fun r => if p r then f r else r) = key i := by
      funext r
      simp only [Function.comp_apply]
      split
      · exact keeps i r
      · rfl
    rw [List.map_map, same]
    exact t.unique i

theorem update_rows (t : Table key) (p : ρ → Bool) (f : ρ → ρ)
    (keeps : ∀ i r, key i (f r) = key i r) :
    (t.update p f keeps).rows = t.rows.map fun r => if p r then f r else r := rfl

/-- The number of rows an `UPDATE … WHERE p` touches. -/
def affected (t : Table key) (p : ρ → Bool) : Nat := t.rows.countP p

/-- An update that matches no row changes nothing. -/
theorem update_of_affected_eq_zero (t : Table key) (p : ρ → Bool) (f : ρ → ρ)
    (keeps : ∀ i r, key i (f r) = key i r) (none_ : t.affected p = 0) :
    t.update p f keeps = t := by
  apply Table.ext
  rw [update_rows]
  have untouched := List.countP_eq_zero.1 none_
  conv_rhs => rw [← List.map_id t.rows]
  apply List.map_congr_left
  intro r stored
  simp [untouched r stored]

/-! ## What the operations do to the readings -/

section Readings

variable [DecidableEq κ]

theorem find?_eq_some_iff (t : Table key) (i : ι) (k : κ) (r : ρ) :
    t.find? i k = some r ↔ r ∈ t.rows ∧ key i r = k := by
  constructor
  · intro found
    exact ⟨List.mem_of_find?_eq_some found, by simpa using List.find?_some found⟩
  · rintro ⟨stored, rfl⟩
    cases found : t.find? i (key i r) with
    | none =>
        have missing := List.find?_eq_none.1 found r stored
        simp at missing
    | some r' =>
        have same : key i r' = key i r := by simpa using List.find?_some found
        rw [t.eq_of_key i (List.mem_of_find?_eq_some found) stored same]

theorem find?_eq_none_iff (t : Table key) (i : ι) (k : κ) :
    t.find? i k = none ↔ ∀ r ∈ t.rows, key i r ≠ k := by
  simp [find?, List.find?_eq_none]

theorem find?_self (t : Table key) (i : ι) {r : ρ} (stored : r ∈ t.rows) :
    t.find? i (key i r) = some r :=
  (t.find?_eq_some_iff i _ r).2 ⟨stored, rfl⟩

theorem key_of_find? {t : Table key} {i : ι} {k : κ} {r : ρ} (found : t.find? i k = some r) :
    key i r = k :=
  ((t.find?_eq_some_iff i k r).1 found).2

theorem mem_of_find? {t : Table key} {i : ι} {k : κ} {r : ρ} (found : t.find? i k = some r) :
    r ∈ t.rows :=
  ((t.find?_eq_some_iff i k r).1 found).1

theorem insert_eq_none_iff [Fintype ι] (t : Table key) (r : ρ) :
    t.insert r = none ↔ t.Conflicts r := by
  simp [insert]

theorem insert_rows [Fintype ι] {t t' : Table key} {r : ρ} (inserted : t.insert r = some t') :
    t'.rows = t.rows ++ [r] := by
  unfold insert at inserted
  split at inserted
  · cases inserted
  · cases inserted; rfl

theorem mem_insertOrIgnore [Fintype ι] {t : Table key} {r r' : ρ}
    (stored : r' ∈ (t.insertOrIgnore r).rows) : r' ∈ t.rows ∨ r' = r := by
  unfold insertOrIgnore at stored
  cases inserted : t.insert r with
  | none =>
      rw [inserted] at stored
      exact Or.inl stored
  | some t' =>
      rw [inserted, Option.getD_some, insert_rows inserted, List.mem_append, List.mem_singleton] at stored
      exact stored

/-- A stored row is read under its key; every other reading is unchanged. -/
theorem find?_insert [Fintype ι] {t t' : Table key} {r : ρ} (inserted : t.insert r = some t')
    (i : ι) (k : κ) : t'.find? i k = if key i r = k then some r else t.find? i k := by
  have free : ¬ t.Conflicts r := by
    rw [← insert_eq_none_iff, inserted]
    simp
  have rows := insert_rows inserted
  split
  · rename_i here
    exact (t'.find?_eq_some_iff i k r).2 ⟨by rw [rows]; simp, here⟩
  · rename_i elsewhere
    unfold find?
    rw [rows, List.find?_append]
    simp [elsewhere]

/-- Under a single constraint, `INSERT OR IGNORE` writes the row when its key is
absent and nothing otherwise. -/
theorem find?_insertOrIgnore {key : Unit → ρ → κ} (t : Table key) (r : ρ) (k : κ) :
    (t.insertOrIgnore r).find? () k =
      if key () r = k then some ((t.find? () k).getD r) else t.find? () k := by
  unfold insertOrIgnore
  cases inserted : t.insert r with
  | none =>
      obtain ⟨⟨⟩, r', stored, same⟩ := (t.insert_eq_none_iff r).1 inserted
      split
      · rename_i here
        have found : t.find? () k = some r' :=
          (t.find?_eq_some_iff () k r').2 ⟨stored, same.trans here⟩
        simp [found]
      · rfl
  | some t' =>
      rw [Option.getD_some, find?_insert inserted]
      split
      · rename_i here
        have absent : t.find? () k = none := by
          rw [find?_eq_none_iff]
          intro r' stored same
          have free := mt (t.insert_eq_none_iff r).2 (by simp [inserted])
          exact free ⟨(), r', stored, same.trans here.symm⟩
        simp [absent]
      · rfl

theorem insertOrIgnore_of_present {key : Unit → ρ → κ} {t : Table key} {r r' : ρ}
    (present : t.find? () (key () r) = some r') : t.insertOrIgnore r = t := by
  have conflict : t.insert r = none :=
    (t.insert_eq_none_iff r).2 ⟨(), r', mem_of_find? present, key_of_find? present⟩
  rw [insertOrIgnore, conflict, Option.getD_none]

theorem insertOrIgnore_of_absent {key : Unit → ρ → κ} {t : Table key} {r : ρ}
    (absent : t.find? () (key () r) = none) : (t.insertOrIgnore r).rows = t.rows ++ [r] := by
  unfold insertOrIgnore
  cases inserted : t.insert r with
  | none =>
      obtain ⟨⟨⟩, r', stored, same⟩ := (t.insert_eq_none_iff r).1 inserted
      exact absurd same ((t.find?_eq_none_iff () _).1 absent r' stored)
  | some t' => exact insert_rows inserted

/-- `INSERT OR IGNORE` of one row after the other. -/
def insertAll {key : Unit → ρ → κ} (t : Table key) (rs : List ρ) : Table key :=
  rs.foldl insertOrIgnore t

/-- The first row of a key wins, and a stored one before all of them. -/
theorem find?_insertAll {key : Unit → ρ → κ} (t : Table key) (rs : List ρ) (k : κ) :
    (t.insertAll rs).find? () k = (t.find? () k).or (rs.find? fun r => decide (key () r = k)) := by
  induction rs generalizing t with
  | nil => simp [insertAll]
  | cons r rest ih =>
      have step : t.insertAll (r :: rest) = (t.insertOrIgnore r).insertAll rest := rfl
      rw [step, ih, find?_insertOrIgnore]
      by_cases here : key () r = k
      · cases t.find? () k <;> simp [here]
      · simp [here]

theorem insertAll_of_present {key : Unit → ρ → κ} {t : Table key} {rs : List ρ}
    (present : ∀ r ∈ rs, (t.find? () (key () r)).isSome = true) : t.insertAll rs = t := by
  induction rs with
  | nil => rfl
  | cons r rest ih =>
      obtain ⟨r', found⟩ := Option.isSome_iff_exists.1 (present r (by simp))
      have step : t.insertAll (r :: rest) = (t.insertOrIgnore r).insertAll rest := rfl
      rw [step, insertOrIgnore_of_present found]
      exact ih fun other member => present other (List.mem_cons_of_mem r member)

/-- What is stored stays in its place; new rows stand behind it. -/
theorem insertAll_prefix {key : Unit → ρ → κ} (t : Table key) (rs : List ρ) :
    ∃ added, (t.insertAll rs).rows = t.rows ++ added := by
  induction rs generalizing t with
  | nil => exact ⟨[], (List.append_nil _).symm⟩
  | cons r rest ih =>
      obtain ⟨added, later⟩ := ih (t.insertOrIgnore r)
      have step : t.insertAll (r :: rest) = (t.insertOrIgnore r).insertAll rest := rfl
      rw [step, later]
      cases found : t.find? () (key () r) with
      | none =>
          rw [insertOrIgnore_of_absent found, List.append_assoc]
          exact ⟨[r] ++ added, rfl⟩
      | some r' =>
          rw [insertOrIgnore_of_present found]
          exact ⟨added, rfl⟩

/-- The rows added are the first of each key that was absent. -/
theorem insertAll_rows {key : Unit → ρ → κ} (t : Table key) (rs : List ρ) :
    ∃ added, (t.insertAll rs).rows = t.rows ++ added ∧ ∀ r, r ∈ added ↔
      t.find? () (key () r) = none ∧ rs.find? (fun r' => decide (key () r' = key () r)) = some r := by
  obtain ⟨added, rows⟩ := insertAll_prefix t rs
  refine ⟨added, rows, fun r => ?_⟩
  have read := find?_insertAll t rs (key () r)
  have found : (t.insertAll rs).find? () (key () r) = some r ↔ r ∈ t.rows ∨ r ∈ added := by
    rw [find?_eq_some_iff, rows, List.mem_append]
    simp
  constructor
  · intro member
    have absent : t.find? () (key () r) = none := by
      rw [find?_eq_none_iff]
      intro r' stored same
      -- two rows of one key would stand in the result
      have distinct := (t.insertAll rs).unique ()
      rw [rows, List.map_append] at distinct
      exact (List.nodup_append.1 distinct).2.2 _ (List.mem_map_of_mem stored) _
        (List.mem_map_of_mem member) same
    rw [found.2 (Or.inr member), absent, Option.none_or] at read
    exact ⟨absent, read.symm⟩
  · rintro ⟨absent, first⟩
    rw [absent, first, Option.none_or] at read
    rcases found.1 read with stored | member
    · exact absurd rfl ((t.find?_eq_none_iff () _).1 absent r stored)
    · exact member

/-- An update is read through: the row under a key is the updated row. -/
theorem find?_update (t : Table key) (p : ρ → Bool) (f : ρ → ρ)
    (keeps : ∀ i r, key i (f r) = key i r) (i : ι) (k : κ) :
    (t.update p f keeps).find? i k = (t.find? i k).map fun r => if p r then f r else r := by
  have same : ((fun r => decide (key i r = k)) ∘ fun r => if p r then f r else r) =
      fun r => decide (key i r = k) := by
    funext r
    simp only [Function.comp_apply]
    split
    · rw [keeps i r]
    · rfl
  unfold find?
  rw [update_rows, List.find?_map, same]

/-- An update selected by a key touches the row under that key alone. -/
theorem find?_update_key (t : Table key) (i : ι) (k k' : κ) (f : ρ → ρ)
    (keeps : ∀ i r, key i (f r) = key i r) :
    (t.update (fun r => decide (key i r = k)) f keeps).find? i k' =
      if k = k' then (t.find? i k').map f else t.find? i k' := by
  rw [find?_update]
  cases found : t.find? i k' with
  | none => simp
  | some row =>
      have same := key_of_find? found
      by_cases here : k = k'
      · simp [same, here]
      · simp [same, here, Ne.symm here]

/-- An update that changes the row it selects shows in the table. -/
theorem update_key_ne (t : Table key) {i : ι} {k : κ} {r : ρ} (f : ρ → ρ)
    (keeps : ∀ i r, key i (f r) = key i r) (found : t.find? i k = some r) (changes : f r ≠ r) :
    t.update (fun r => decide (key i r = k)) f keeps ≠ t := by
  intro same
  have read := t.find?_update_key i k k f keeps
  rw [same, if_pos rfl, found] at read
  exact changes (Option.some.inj read).symm

theorem affected_eq_zero_iff (t : Table key) (i : ι) (k : κ) :
    t.affected (fun r => decide (key i r = k)) = 0 ↔ t.find? i k = none := by
  simp [affected, find?_eq_none_iff, List.countP_eq_zero]

end Readings

end Table

/-! ## Ordered and limited queries -/

/-- The order in which a query visits rows, which SQL leaves open. -/
structure Scan (ρ : Type) where
  visit : List ρ → List ρ
  perm : ∀ rows, (visit rows).Perm rows

namespace Scan

variable {ρ : Type}

/-- Rows as they were inserted. -/
def inserted : Scan ρ := ⟨fun rows => rows, fun _ => .rfl⟩

/-- `ORDER BY`: rows that tie come as the scan visits them. -/
def orderBy (scan : Scan ρ) (le : ρ → ρ → Prop) [DecidableRel le] (rows : List ρ) : List ρ :=
  (scan.visit rows).insertionSort le

theorem orderBy_perm (scan : Scan ρ) (le : ρ → ρ → Prop) [DecidableRel le] (rows : List ρ) :
    (scan.orderBy le rows).Perm rows :=
  (List.perm_insertionSort le _).trans (scan.perm rows)

/-- Ordering by a column, upwards or downwards. -/
theorem orderBy_sorted (scan : Scan ρ) {le : ρ → ρ → Prop} [DecidableRel le]
    (total : ∀ r r', le r r' ∨ le r' r) (trans : ∀ r r' r'', le r r' → le r' r'' → le r r'')
    (rows : List ρ) : (scan.orderBy le rows).Pairwise le := by
  have : Std.Total le := ⟨total⟩
  have : IsTrans ρ le := ⟨trans⟩
  exact List.pairwise_insertionSort le _

theorem mem_orderBy (scan : Scan ρ) (le : ρ → ρ → Prop) [DecidableRel le] {rows : List ρ} {r : ρ} :
    r ∈ scan.orderBy le rows ↔ r ∈ rows :=
  (scan.orderBy_perm le rows).mem_iff

end Scan

/-- SQLite's `LIMIT`, where a negative bound means no bound. -/
def sqlLimit {α : Type} (n : Int) (rows : List α) : List α :=
  if n < 0 then rows else rows.take n.toNat

@[simp] theorem sqlLimit_natCast {α : Type} (n : Nat) (rows : List α) :
    sqlLimit n rows = rows.take n := by
  unfold sqlLimit
  rw [if_neg (by omega), Int.toNat_natCast]

end RobotFleet.Theory
