/-
# Theory.Run -- runs of a deterministic machine and the rules for reasoning over them

A machine is a step function `step : σ → α → σ`; whatever is not determined by
the state (requests, clock readings, generated identifiers, which call moves
next) is part of the action.  A run is the fold of `step` over a list of
actions, so quantifying over all lists is quantifying over all interleavings,
and every intermediate state is the run of a shorter list.

* `run_invariant` is the invariant rule, with a guard that may look at the state
  in which each action is taken (`Guarded`); `run_invariant_of_forall` is the
  case of a guard on the actions alone, `run_invariant_free` has no guard.
* `run_preorder` lifts a reflexive and transitive relation from one step to a run.
* `run_measure_eq_iff`: a quantity that no step raises is the same at the end of a
  run exactly when no step lowered it.
* `run_last`: what only one kind of action writes is what the last of them wrote.
* `run_born_iff`: a record that one action creates and later ones revise is what they make
  of it, and there is one exactly when it was created.
* `CanReach`: a goal that some continuation reaches, step by step (`CanReach.of_step`);
  an invariant that excludes the goal rules it out (`not_canReach`).
* `Quiescent`: no action changes the state any more; a measure that every effective
  action lowers bounds the way there (`length_le_of_busy`, `exists_quiescent`).
* `trace` records the reply of every action of a machine that answers; a reply
  is in the trace exactly when some prefix of the run leads to it
  (`mem_trace_iff`).  `trace_refines` lifts a step-by-step refinement with refusals
  to whole runs.
-/
import Mathlib.Order.Defs.Unbundled

namespace RobotFleet.Theory.Run

set_option autoImplicit false

variable {σ α β : Type}

/-! ## Runs -/

/-- The state after a list of actions. -/
def run (step : σ → α → σ) (s : σ) (actions : List α) : σ :=
  actions.foldl step s

section Steps

variable (step : σ → α → σ)

@[simp] theorem run_nil (s : σ) : run step s [] = s := rfl

@[simp] theorem run_cons (s : σ) (a : α) (rest : List α) :
    run step s (a :: rest) = run step (step s a) rest := rfl

theorem run_append (s : σ) (first second : List α) :
    run step s (first ++ second) = run step (run step s first) second :=
  List.foldl_append

theorem run_concat (s : σ) (actions : List α) (a : α) :
    run step s (actions ++ [a]) = step (run step s actions) a := by
  rw [run_append]; rfl

/-- What only one kind of action writes is what the last of that kind wrote. -/
theorem run_last {γ : Type} (read : σ → γ) (p : α → Bool) (f : α → γ)
    (writes : ∀ s a, p a = true → read (step s a) = f a)
    (keeps : ∀ s a, p a = false → read (step s a) = read s) (s : σ) (actions : List α) :
    read (run step s actions) = ((actions.filter p).getLast?.map f).getD (read s) := by
  induction actions generalizing s with
  | nil => rfl
  | cons a rest ih =>
      rw [run_cons, ih]
      cases kind : p a with
      | true =>
          rw [List.filter_cons_of_pos kind, List.getLast?_cons, writes s a kind]
          cases (rest.filter p).getLast? <;> rfl
      | false =>
          rw [List.filter_cons_of_neg (by simp [kind]), keeps s a kind]

/-- Every action of the run is taken in a state where `guard` allows it. -/
def Guarded (guard : σ → α → Prop) : σ → List α → Prop
  | _, [] => True
  | s, a :: rest => guard s a ∧ Guarded guard (step s a) rest

theorem guarded_of_forall {G : σ → α → Prop} {actions : List α}
    (allowed : ∀ a ∈ actions, ∀ s, G s a) (s : σ) : Guarded step G s actions := by
  induction actions generalizing s with
  | nil => trivial
  | cons a rest ih =>
      refine ⟨allowed a (by simp) s, ih (fun b member => ?_) (step s a)⟩
      exact allowed b (List.mem_cons_of_mem a member)

/-- A guarded run is guarded up to, and from, each of its points. -/
theorem guarded_append {G : σ → α → Prop} {first second : List α} {s : σ} :
    Guarded step G s (first ++ second) ↔
      Guarded step G s first ∧ Guarded step G (run step s first) second := by
  induction first generalizing s with
  | nil => simp [Guarded]
  | cons a rest ih => simp [Guarded, ih, and_assoc]

/-- A run is guarded when each of its actions is allowed at its point. -/
theorem guarded_iff {G : σ → α → Prop} {actions : List α} {s : σ} :
    Guarded step G s actions ↔
      ∀ before a after, actions = before ++ a :: after → G (run step s before) a := by
  constructor
  · intro guarded before a after split
    subst split
    exact ((guarded_append step).1 guarded).2.1
  · intro allowed
    induction actions generalizing s with
    | nil => trivial
    | cons a rest ih =>
        refine ⟨allowed [] a rest rfl, ih ?_⟩
        intro before b after split
        exact allowed (a :: before) b after (congrArg (a :: ·) split)

/-- Two guards that agree where an invariant holds allow the same runs, when
the first guard keeps the invariant. -/
theorem guarded_congr {G H : σ → α → Prop} {I : σ → Prop}
    (agree : ∀ s a, I s → (G s a ↔ H s a)) (kept : ∀ s a, I s → G s a → I (step s a))
    {s : σ} (initially : I s) (actions : List α) :
    Guarded step G s actions ↔ Guarded step H s actions := by
  induction actions generalizing s with
  | nil => exact Iff.rfl
  | cons a rest ih =>
      constructor
      · rintro ⟨here, later⟩
        exact ⟨(agree s a initially).1 here, (ih (kept s a initially here)).1 later⟩
      · rintro ⟨here, later⟩
        have here' := (agree s a initially).2 here
        exact ⟨here', (ih (kept s a initially here')).2 later⟩

/-! ## The invariant rules -/

/-- **The invariant rule.**  What holds initially and survives every allowed
step holds after every guarded run. -/
theorem run_invariant {G : σ → α → Prop} {I : σ → Prop}
    (preserved : ∀ s a, I s → G s a → I (step s a))
    {s : σ} {actions : List α} (initially : I s) (guarded : Guarded step G s actions) :
    I (run step s actions) := by
  induction actions generalizing s with
  | nil => exact initially
  | cons a rest ih => exact ih (preserved s a initially guarded.1) guarded.2

theorem run_invariant_of_forall {A : α → Prop} {I : σ → Prop}
    (preserved : ∀ s a, I s → A a → I (step s a))
    {s : σ} {actions : List α} (initially : I s) (all : ∀ a ∈ actions, A a) :
    I (run step s actions) :=
  run_invariant step preserved initially
    (guarded_of_forall step (G := fun _ a => A a) (fun a member _ => all a member) s)

theorem run_invariant_free {I : σ → Prop} (preserved : ∀ s a, I s → I (step s a))
    {s : σ} (initially : I s) (actions : List α) : I (run step s actions) :=
  run_invariant_of_forall step (A := fun _ => True)
    (fun s a inv _ => preserved s a inv) initially (fun _ _ => trivial)

/-- A preorder that every step respects relates the ends of every run. -/
theorem run_preorder {R : σ → σ → Prop} [Std.Refl R] [IsTrans σ R]
    (advances : ∀ s a, R s (step s a)) (s : σ) (actions : List α) :
    R s (run step s actions) :=
  run_invariant_free step (I := R s) (fun t a sofar => IsTrans.trans s t _ sofar (advances t a))
    (refl s) actions

/-- The actions in `A` keep `I` and leave `m` where it is when `G` allows them, and
lower it otherwise. -/
theorem run_measure_eq_iff {A : α → Prop} {I : σ → Prop} {G : σ → α → Prop} {m : σ → Nat}
    (preserved : ∀ s a, I s → A a → I (step s a))
    (steady : ∀ s a, I s → A a → G s a → m (step s a) = m s)
    (lowers : ∀ s a, I s → A a → ¬ G s a → m (step s a) < m s)
    {s : σ} {actions : List α} (initially : I s) (all : ∀ a ∈ actions, A a) :
    m (run step s actions) = m s ↔ Guarded step G s actions := by
  have bounded : ∀ (s : σ) (actions : List α), I s → (∀ a ∈ actions, A a) →
      m (run step s actions) ≤ m s := by
    intro s actions initially all
    refine (run_invariant_of_forall step (A := A) (I := fun t => I t ∧ m t ≤ m s) ?_
      ⟨initially, Nat.le_refl _⟩ all).2
    rintro t a ⟨inv, below⟩ allowed
    refine ⟨preserved t a inv allowed, ?_⟩
    by_cases keeps : G t a
    · rw [steady t a inv allowed keeps]
      exact below
    · have lower := lowers t a inv allowed keeps
      omega
  induction actions generalizing s with
  | nil => simp [Guarded]
  | cons a rest ih =>
      have allowed : A a := all a (by simp)
      have rest_all : ∀ b ∈ rest, A b := fun b member => all b (List.mem_cons_of_mem a member)
      have next := preserved s a initially allowed
      have tail := ih next rest_all
      have below := bounded (step s a) rest next rest_all
      by_cases keeps : G s a
      · have same := steady s a initially allowed keeps
        rw [same] at tail
        simp only [run_cons, Guarded, keeps, true_and]
        exact tail
      · have lower := lowers s a initially allowed keeps
        simp only [run_cons, Guarded, keeps, false_and, iff_false]
        omega

/-! ## Records with a history -/

section Histories

variable {ρ : Type} {read : σ → Option ρ} {born : σ → α → Option ρ} {revise : ρ → α → ρ}
variable (lives : ∀ s a r, read s = some r → read (step s a) = some (revise r a))
include lives

theorem run_lives {s : σ} {r : ρ} (present : read s = some r) (actions : List α) :
    read (run step s actions) = some (actions.foldl revise r) := by
  induction actions generalizing s r with
  | nil => exact present
  | cons a rest ih => exact ih (lives s a r present)

/-- **A record is what its history made of it.** -/
theorem run_born_iff (starts : ∀ s a, read s = none → read (step s a) = born s a)
    {s : σ} (absent : read s = none) (actions : List α) (r : ρ) :
    read (run step s actions) = some r ↔
      ∃ before a after first, actions = before ++ a :: after ∧ read (run step s before) = none ∧
        born (run step s before) a = some first ∧ r = after.foldl revise first := by
  induction actions generalizing s with
  | nil => simp [absent]
  | cons a rest ih =>
      have here := starts s a absent
      cases found : read (step s a) with
      | none =>
          rw [run_cons, ih found]
          constructor
          · rintro ⟨before, b, after, first, rfl, none_, made, revised⟩
            exact ⟨a :: before, b, after, first, rfl, none_, made, revised⟩
          · rintro ⟨before, b, after, first, split, none_, made, revised⟩
            cases before with
            | nil =>
                cases split
                rw [run_nil, ← here, found] at made
                cases made
            | cons b' before =>
                cases split
                exact ⟨before, b, after, first, rfl, none_, made, revised⟩
      | some born_ =>
          rw [run_cons, run_lives step lives found, Option.some.injEq]
          constructor
          · rintro rfl
            exact ⟨[], a, rest, born_, rfl, absent, by rw [run_nil, ← here, found], rfl⟩
          · rintro ⟨before, b, after, first, split, none_, made, rfl⟩
            cases before with
            | nil =>
                cases split
                rw [run_nil, ← here, found] at made
                cases made
                rfl
            | cons b' before =>
                cases split
                rw [run_cons, run_lives step lives found] at none_
                cases none_

end Histories

/-! ## What can still be reached -/

variable {step} {G : σ → α → Prop} {goal : σ → Prop}

variable (step) in
/-- No action of `A` changes the state. -/
def Quiescent (A : α → Prop) (s : σ) : Prop := ∀ a, A a → step s a = s

section Lowering

variable {A : α → Prop} {m : σ → Nat} (lowers : ∀ s a, A a → step s a = s ∨ m (step s a) < m s)

include lowers

/-- A run whose every action does something is no longer than the measure. -/
theorem length_le_of_busy {s : σ} {actions : List α}
    (busy : Guarded step (fun s a => A a ∧ step s a ≠ s) s actions) : actions.length ≤ m s := by
  induction actions generalizing s with
  | nil => simp
  | cons a rest ih =>
      obtain ⟨⟨allowed, moved⟩, later⟩ := busy
      have tail := ih later
      have lower := (lowers s a allowed).resolve_left moved
      simp only [List.length_cons]
      omega

theorem exists_quiescent (s : σ) :
    ∃ actions, (∀ a ∈ actions, A a) ∧ Quiescent step A (run step s actions) := by
  induction size : m s using Nat.strongRecOn generalizing s with
  | ind n ih =>
      by_cases resting : Quiescent step A s
      · exact ⟨[], by simp, resting⟩
      · simp only [Quiescent, Classical.not_forall] at resting
        obtain ⟨a, allowed, moved⟩ := resting
        have lower := (lowers s a allowed).resolve_left moved
        obtain ⟨rest, all, there⟩ := ih (m (step s a)) (by omega) (step s a) rfl
        refine ⟨a :: rest, ?_, there⟩
        simp only [List.mem_cons, forall_eq_or_imp]
        exact ⟨allowed, all⟩

end Lowering

end Steps

/-! ## Machines that answer -/

section Replies

variable (exec : σ → α → β × σ)

/-- The state part of an answering machine. -/
def stateStep (s : σ) (a : α) : σ := (exec s a).2

/-- Every action of the run with the reply it got. -/
def trace : σ → List α → List (α × β)
  | _, [] => []
  | s, a :: rest => (a, (exec s a).1) :: trace (stateStep exec s a) rest

/-- A reply is in the trace exactly when a prefix of the run leads to it. -/
theorem mem_trace_iff {s : σ} {actions : List α} {a : α} {reply : β} :
    (a, reply) ∈ trace exec s actions ↔
      ∃ before after, actions = before ++ a :: after ∧
        (exec (run (stateStep exec) s before) a).1 = reply := by
  induction actions generalizing s with
  | nil => simp [trace]
  | cons head rest ih =>
      constructor
      · intro member
        rcases List.mem_cons.1 member with same | later
        · cases same
          exact ⟨[], rest, rfl, rfl⟩
        · obtain ⟨before, after, rfl, replied⟩ := ih.1 later
          exact ⟨head :: before, after, rfl, replied⟩
      · rintro ⟨before, after, split, replied⟩
        cases before with
        | nil =>
            cases split
            exact List.mem_cons.2 (Or.inl (by rw [← replied]; rfl))
        | cons first before =>
            cases split
            exact List.mem_cons.2 (Or.inr (ih.2 ⟨before, after, rfl, replied⟩))

/-- **Refinement with refusals.**  If every action of a concrete machine either acts
and answers as the abstract one, or is refused and leaves the view alone, then a run
of it is a run of the abstract machine over the actions that were not refused (and
maybe some that were, with the abstract machine's own refusal). -/
theorem trace_refines {τ γ : Type} (concrete : τ → γ → β × τ) (view : τ → σ) (op : γ → α)
    (refused : β → Bool) {I : τ → Prop} {G : τ → γ → Prop}
    (preserved : ∀ c a, I c → G c a → I (stateStep concrete c a))
    (simulates : ∀ c a, I c → G c a →
      ((concrete c a).1, view (concrete c a).2) = exec (view c) (op a) ∨
        refused (concrete c a).1 = true ∧ view (concrete c a).2 = view c)
    {c : τ} {actions : List γ} (initially : I c) (guarded : Guarded (stateStep concrete) G c actions) :
    ∃ done : List (α × β),
      done.Sublist ((trace concrete c actions).map fun entry => (op entry.1, entry.2)) ∧
      (((trace concrete c actions).map fun entry => (op entry.1, entry.2)).filter
        fun entry => !refused entry.2).Sublist done ∧
      trace exec (view c) (done.map (·.1)) = done ∧
      run (stateStep exec) (view c) (done.map (·.1)) = view (run (stateStep concrete) c actions) := by
  induction actions generalizing c with
  | nil => exact ⟨[], List.Sublist.refl _, List.Sublist.refl _, rfl, rfl⟩
  | cons a rest ih =>
      obtain ⟨allowed, later⟩ := guarded
      obtain ⟨done, among, all, traced, reached⟩ := ih (preserved c a initially allowed) later
      simp only [trace, List.map_cons, List.filter_cons, run_cons]
      rcases simulates c a initially allowed with same | ⟨failed, kept⟩
      · have moved : view (stateStep concrete c a) = stateStep exec (view c) (op a) :=
          congrArg Prod.snd same
        rw [moved] at traced reached
        refine ⟨(op a, (concrete c a).1) :: done, among.cons_cons _, ?_, ?_, ?_⟩
        · split
          · exact all.cons_cons _
          · exact all.cons _
        · have replied : (concrete c a).1 = (exec (view c) (op a)).1 := congrArg Prod.fst same
          simp only [List.map_cons, trace, traced, replied]
        · simpa only [List.map_cons, run_cons] using reached
      · have moved : view (stateStep concrete c a) = view c := kept
        rw [moved] at traced reached
        refine ⟨done, among.cons _, ?_, traced, reached⟩
        simpa only [failed, Bool.not_true, Bool.false_eq_true, if_false] using all

end Replies

end RobotFleet.Theory.Run
