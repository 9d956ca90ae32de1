/-
# Theory.Broadcast -- readers of a bounded broadcast channel

A channel is the list of everything sent on it, of which it retains the last
`capacity` values; a reader is a position in that list.  A reader that is further
behind than the channel reaches skips what it missed (`position`).

* `due` is what a reader gets if nothing more is sent: the last values that it has
  not read, at most `capacity` of them (`due_eq_last`).  A read takes its front
  (`due_eq_cons`), and sending adds at its end (`mem_due_concat`).
* `Seen` is what a reader has got so far: some of the values sent since it started,
  each at most once and in their order.
-/
import Mathlib.Data.List.Basic

namespace RobotFleet.Theory.Broadcast

set_option autoImplicit false

variable {α : Type} {capacity next start : Nat} {sent : List α} {a b : α}

/-- Where a reader at `next` goes on. -/
def position (capacity : Nat) (sent : List α) (next : Nat) : Nat := max next (sent.length - capacity)

def due (capacity : Nat) (sent : List α) (next : Nat) : List α := sent.drop (position capacity sent next)

theorem due_eq_last : due capacity sent next =
    (sent.drop next).drop ((sent.drop next).length - capacity) := by
  unfold due position
  rw [List.drop_drop, List.length_drop]
  congr 1
  omega

theorem head?_due : (due capacity sent next).head? = sent[position capacity sent next]? :=
  List.head?_drop

/-- A read takes the front of what is due. -/
theorem due_eq_cons (here : sent[position capacity sent next]? = some a) :
    due capacity sent next = a :: due capacity sent (position capacity sent next + 1) := by
  obtain ⟨inside, value⟩ := List.getElem?_eq_some_iff.1 here
  have after : position capacity sent (position capacity sent next + 1) =
      position capacity sent next + 1 := by
    unfold position
    omega
  unfold due
  rw [List.drop_eq_getElem_cons inside, value, after]

/-- A value that is sent comes last, and may push out the oldest. -/
theorem mem_due_concat (waits : b ∈ due capacity (sent ++ [a]) next) :
    b ∈ due capacity sent next ∨ b = a := by
  unfold due at waits ⊢
  rw [List.drop_append, List.mem_append] at waits
  rcases waits with old | new
  · refine Or.inl ((List.drop_sublist_drop_left sent ?_).subset old)
    unfold position
    simp only [List.length_append, List.length_singleton]
    omega
  · exact Or.inr (List.mem_singleton.1 (List.mem_of_mem_drop new))

/-- A reader at the end has nothing to read, and then what is sent next. -/
theorem due_end : due capacity sent sent.length = [] := by
  apply List.drop_of_length_le
  exact Nat.le_max_left _ _

/-- What a reader has got that started at `start` and stands at `next`. -/
structure Seen (sent : List α) (start next : Nat) (seen : List α) : Prop where
  started : start ≤ sent.length
  advanced : start ≤ next
  order : seen.Sublist ((sent.take next).drop start)

namespace Seen

variable {seen : List α}

theorem new : Seen sent sent.length sent.length [] where
  started := Nat.le_refl _
  advanced := Nat.le_refl _
  order := List.nil_sublist _

theorem sublist (reader : Seen sent start next seen) : seen.Sublist (sent.drop start) :=
  reader.order.trans ((List.take_sublist next sent).drop start)

/-- The reader takes the value at a later position. -/
theorem read {at_ : Nat} (reader : Seen sent start next seen) (later : next ≤ at_)
    (here : sent[at_]? = some a) : Seen sent start (at_ + 1) (seen ++ [a]) where
  started := reader.started
  advanced := by
    have advanced := reader.advanced
    omega
  order := by
    obtain ⟨inside, value⟩ := List.getElem?_eq_some_iff.1 here
    have advanced := reader.advanced
    have skipped : ((sent.take next).drop start).Sublist ((sent.take at_).drop start) :=
      (List.take_sublist_take_left later).drop start
    rw [List.take_add_one, here, List.drop_append_of_le_length (by rw [List.length_take]; omega)]
    exact (reader.order.trans skipped).append (List.Sublist.refl _)

theorem send (reader : Seen sent start next seen) (more : List α) : Seen (sent ++ more) start next seen where
  started := by
    have started := reader.started
    rw [List.length_append]
    omega
  advanced := reader.advanced
  order := by
    refine reader.order.trans (List.Sublist.drop ?_ start)
    rw [List.take_append]
    exact List.sublist_append_left _ _

end Seen

end RobotFleet.Theory.Broadcast
