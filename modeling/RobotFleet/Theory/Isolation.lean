/-
# Theory.Isolation -- parties that share a machine and do not notice each other

A machine answers the calls of several parties.  Who a call belongs to may
depend on the state (`owner`), and `view` is the part of the state that concerns
one party.  `Unwinding` is the pair of local conditions: a call leaves the views
of the others alone, and what it answers and does to its own view depends on that
view only.  `fresh` is what the environment promises of a call in a state.

From these, by induction over the run: the answers a party gets and the view it
ends with are those of the run of its own calls (`isolated`), and two neighbouring
calls of different parties may be swapped (`swap`).

`run_filter` is the rule for actions that nobody notices: a relation of two runs, one
with them and one without.
-/
import RobotFleet.Theory.Run

namespace RobotFleet.Theory.Isolation

open RobotFleet.Theory.Run

set_option autoImplicit false

variable {σ α β κ υ : Type} [DecidableEq κ]
variable (exec : σ → α → β × σ) (owner : σ → α → Option κ) (view : σ → κ → υ)

/-- The calls of a run that belong to `k` when they are made. -/
def ownCalls (k : κ) : σ → List α → List α
  | _, [] => []
  | s, a :: rest =>
    if owner s a = some k then a :: ownCalls k (exec s a).2 rest else ownCalls k (exec s a).2 rest

/-- The same calls, each with the answer it got. -/
def ownTrace (k : κ) : σ → List α → List (α × β)
  | _, [] => []
  | s, a :: rest =>
    if owner s a = some k then (a, (exec s a).1) :: ownTrace k (exec s a).2 rest
    else ownTrace k (exec s a).2 rest

theorem ownCalls_sublist (k : κ) (s : σ) (actions : List α) :
    (ownCalls exec owner k s actions).Sublist actions := by
  induction actions generalizing s with
  | nil => exact .slnil
  | cons a rest ih =>
      simp only [ownCalls]
      split
      · exact (ih _).cons_cons a
      · exact (ih _).cons a

theorem ownTrace_append (k : κ) (s : σ) (first second : List α) :
    ownTrace exec owner k s (first ++ second) =
      ownTrace exec owner k s first ++ ownTrace exec owner k (run (stateStep exec) s first) second := by
  induction first generalizing s with
  | nil => rfl
  | cons a rest ih =>
      have later := ih (exec s a).2
      simp only [List.cons_append, ownTrace, later]
      split
      · rfl
      · rfl

/-- One call, seen by the party it belongs to and by the others. -/
structure Unwinding (fresh : σ → α → Prop) : Prop where
  silent : ∀ {s a k}, owner s a ≠ some k → view (exec s a).2 k = view s k
  own : ∀ {s s' a k}, owner s a = some k → fresh s a → fresh s' a → view s k = view s' k →
    owner s' a = some k ∧ (exec s a).1 = (exec s' a).1 ∧
      view (exec s a).2 k = view (exec s' a).2 k

section Rules

variable {exec owner view} {fresh : σ → α → Prop} (unwinding : Unwinding exec owner view fresh)
include unwinding

/-- **A party sees only its own calls.**  Its answers and its final view are those
of the run in which nobody else calls. -/
theorem isolated {k : κ} {s s' : σ} {actions : List α} (same : view s k = view s' k)
    (shared : Guarded (stateStep exec) fresh s actions)
    (alone : Guarded (stateStep exec) fresh s' (ownCalls exec owner k s actions)) :
    ownTrace exec owner k s actions = trace exec s' (ownCalls exec owner k s actions) ∧
      view (run (stateStep exec) s actions) k =
        view (run (stateStep exec) s' (ownCalls exec owner k s actions)) k := by
  induction actions generalizing s s' with
  | nil => exact ⟨rfl, same⟩
  | cons a rest ih =>
      by_cases mine : owner s a = some k
      · simp only [ownCalls, ownTrace, if_pos mine] at alone ⊢
        obtain ⟨-, answered, after⟩ := unwinding.own mine shared.1 alone.1 same
        obtain ⟨answers, ends⟩ := ih after shared.2 alone.2
        refine ⟨?_, ends⟩
        rw [answered, answers]
        rfl
      · simp only [ownCalls, ownTrace, if_neg mine] at alone ⊢
        exact ih ((unwinding.silent mine).trans same) shared.2 alone

/-- States that look the same to everybody stay so, and answer alike. -/
theorem agree {s s' : σ} {actions : List α} (same : ∀ k, view s k = view s' k)
    (guarded : Guarded (stateStep exec) fresh s actions)
    (guarded' : Guarded (stateStep exec) fresh s' actions) (k : κ) :
    ownTrace exec owner k s actions = ownTrace exec owner k s' actions ∧
      view (run (stateStep exec) s actions) k = view (run (stateStep exec) s' actions) k := by
  induction actions generalizing s s' with
  | nil => exact ⟨rfl, same k⟩
  | cons a rest ih =>
      have owners : ∀ j, owner s a = some j ↔ owner s' a = some j := by
        intro j
        constructor
        · intro mine
          exact (unwinding.own mine guarded.1 guarded'.1 (same j)).1
        · intro mine
          exact (unwinding.own mine guarded'.1 guarded.1 (same j).symm).1
      have after : ∀ j, view (exec s a).2 j = view (exec s' a).2 j := by
        intro j
        by_cases mine : owner s a = some j
        · exact (unwinding.own mine guarded.1 guarded'.1 (same j)).2.2
        · have other := mt (owners j).2 mine
          exact (unwinding.silent mine).trans ((same j).trans (unwinding.silent other).symm)
      obtain ⟨answers, ends⟩ := ih after guarded.2 guarded'.2
      refine ⟨?_, ends⟩
      simp only [ownTrace]
      by_cases mine : owner s a = some k
      · rw [if_pos mine, if_pos ((owners k).1 mine), answers,
          (unwinding.own mine guarded.1 guarded'.1 (same k)).2.1]
      · rw [if_neg mine, if_neg (mt (owners k).2 mine), answers]

/-- Two calls of different parties, in either order: both belong to whom they
belonged, are answered as if they came first, and leave every view the same. -/
theorem commute {s : σ} {a b : α} {k k' : κ} (first : owner s a = some k) (second : owner s b = some k')
    (apart : k ≠ k') (freshA : fresh s a) (freshB : fresh s b) (freshA' : fresh (exec s b).2 a)
    (freshB' : fresh (exec s a).2 b) :
    (owner (exec s b).2 a = some k ∧ (exec (exec s b).2 a).1 = (exec s a).1) ∧
    (owner (exec s a).2 b = some k' ∧ (exec (exec s a).2 b).1 = (exec s b).1) ∧
      ∀ j, view (exec (exec s a).2 b).2 j = view (exec (exec s b).2 a).2 j := by
  have other : ∀ {x : Option κ} {i j : κ}, x = some i → i ≠ j → x ≠ some j := by
    intro x i j is differs same
    rw [is] at same
    exact differs (Option.some.inj same)
  have keepsA : view s k = view (exec s b).2 k := (unwinding.silent (other second apart.symm)).symm
  have keepsB : view s k' = view (exec s a).2 k' := (unwinding.silent (other first apart)).symm
  obtain ⟨ownerA, answerA, afterA⟩ := unwinding.own first freshA freshA' keepsA
  obtain ⟨ownerB, answerB, afterB⟩ := unwinding.own second freshB freshB' keepsB
  refine ⟨⟨ownerA, answerA.symm⟩, ⟨ownerB, answerB.symm⟩, fun j => ?_⟩
  by_cases isA : k = j
  · subst isA
    exact (unwinding.silent (other ownerB apart.symm)).trans afterA
  · by_cases isB : k' = j
    · subst isB
      exact afterB.symm.trans (unwinding.silent (other ownerA apart)).symm
    · calc view (exec (exec s a).2 b).2 j = view (exec s a).2 j := unwinding.silent (other ownerB isB)
        _ = view s j := unwinding.silent (other first isA)
        _ = view (exec s b).2 j := (unwinding.silent (other second isB)).symm
        _ = view (exec (exec s b).2 a).2 j := (unwinding.silent (other ownerA isA)).symm

/-- **Neighbouring calls of different parties may be swapped**: nobody's answers
and nobody's final view change. -/
theorem swap {s : σ} {before after : List α} {a b : α} {k k' : κ}
    (first : owner (run (stateStep exec) s before) a = some k)
    (second : owner (run (stateStep exec) s before) b = some k') (apart : k ≠ k')
    (guarded : Guarded (stateStep exec) fresh s (before ++ a :: b :: after))
    (guarded' : Guarded (stateStep exec) fresh s (before ++ b :: a :: after)) (j : κ) :
    ownTrace exec owner j s (before ++ a :: b :: after) =
        ownTrace exec owner j s (before ++ b :: a :: after) ∧
      view (run (stateStep exec) s (before ++ a :: b :: after)) j =
        view (run (stateStep exec) s (before ++ b :: a :: after)) j := by
  rw [guarded_append] at guarded guarded'
  rw [ownTrace_append, ownTrace_append, run_append, run_append]
  generalize run (stateStep exec) s before = t at *
  obtain ⟨-, freshA, freshB', rest⟩ := guarded
  obtain ⟨-, freshB, freshA', rest'⟩ := guarded'
  obtain ⟨⟨ownerA, answerA⟩, ⟨ownerB, answerB⟩, same⟩ :=
    commute unwinding first second apart freshA freshB freshA' freshB'
  obtain ⟨answers, ends⟩ := agree unwinding same rest rest' j
  refine ⟨?_, ends⟩
  congr 1
  simp only [ownTrace, first, second, ownerA, ownerB, answerA, answerB]
  -- at most one of the two calls is in the trace of `j`
  by_cases isA : k = j
  · subst isA
    simp only [if_true, Option.some.injEq, apart.symm, if_false, List.cons.injEq, true_and]
    exact answers
  · by_cases isB : k' = j
    · subst isB
      simp only [if_true, Option.some.injEq, apart, if_false, List.cons.injEq, true_and]
      exact answers
    · simp only [Option.some.injEq, isA, isB, if_false]
      exact answers

end Rules

/-! ## Actions that nobody notices -/

/-- What the seen actions keep between two states, and the unseen ones keep on one side,
holds between the run of all actions and the run of the seen ones. -/
theorem run_filter {step : σ → α → σ} {seen : α → Bool} {R : σ → σ → Prop}
    (alike : ∀ s t a, R s t → seen a = true → R (step s a) (step t a))
    (silent : ∀ s t a, R s t → seen a = false → R (step s a) t)
    {s t : σ} (initially : R s t) (actions : List α) :
    R (run step s actions) (run step t (actions.filter seen)) := by
  induction actions generalizing s t with
  | nil => exact initially
  | cons a rest ih =>
      by_cases noticed : seen a = true
      · rw [List.filter_cons_of_pos noticed]
        exact ih (alike s t a initially noticed)
      · rw [List.filter_cons_of_neg noticed]
        exact ih (silent s t a initially (Bool.eq_false_iff.2 noticed))

end RobotFleet.Theory.Isolation
