/-
# Theory.Text -- pieces, trimmed pieces and numbers of a text

The text functions a hand-written reader is made of, over lists of characters, with
the behaviour Rust documents for them: `split` on one character (`List.splitOn`),
`trim`, `splitn`, `lines`, `split_whitespace` and `parse` into an unsigned integer.

A reader that cuts and trims is specified by what it undoes.  `splitOn_eq_iff` says
that the pieces are the only ones that join to the text and do not hold the
separator, `trims_iff` that trimming is the only way to take the blanks off both
ends, and `splitn_append` and `splitn_of_not_mem` that `splitn` cuts at the first
separators.
-/
import Mathlib.Algebra.Group.Nat.Defs
import Mathlib.Data.List.DropRight

namespace RobotFleet.Theory.Text

set_option autoImplicit false

/-! ## Pieces between separators -/

section Pieces

variable {α : Type} [DecidableEq α] {sep : α}

theorem not_mem_of_mem_splitOn {s piece : List α} (member : piece ∈ s.splitOn sep) : sep ∉ piece := by
  induction s generalizing piece with
  | nil =>
      rw [List.splitOn_nil, List.mem_singleton] at member
      subst member
      simp
  | cons a rest ih =>
      rw [List.splitOn_cons_eq_if_modifyHead] at member
      split at member
      · rcases List.mem_cons.1 member with rfl | later
        · simp
        · exact ih later
      · rename_i other
        cases cut : rest.splitOn sep with
        | nil => exact absurd cut (List.splitOn_ne_nil sep rest)
        | cons first others =>
            rw [cut, List.modifyHead_cons, List.mem_cons] at member
            rcases member with rfl | later
            · have clean : sep ∉ first := ih (by rw [cut]; simp)
              have apart : a ≠ sep := by simpa using other
              simp [clean, apart.symm]
            · exact ih (by rw [cut]; simp [later])

/-- The pieces of a text are the only ones that join to it without holding the
separator. -/
theorem splitOn_eq_iff {s : List α} {pieces : List (List α)} :
    s.splitOn sep = pieces ↔
      s = [sep].intercalate pieces ∧ (∀ piece ∈ pieces, sep ∉ piece) ∧ pieces ≠ [] := by
  constructor
  · rintro rfl
    refine ⟨(List.intercalate_splitOn sep).symm, ?_, List.splitOn_ne_nil sep s⟩
    intro piece member
    exact not_mem_of_mem_splitOn member
  · rintro ⟨rfl, clean, some_⟩
    exact List.splitOn_intercalate sep clean some_

/-- `splitn`: at most `n` pieces, the last with whatever separators it holds. -/
def splitn : Nat → α → List α → List (List α)
  | 0, _, _ => []
  | 1, _, s => [s]
  | n + 2, sep, s =>
    match s.dropWhile (· ≠ sep) with
    | [] => [s]
    | _ :: rest => s.takeWhile (· ≠ sep) :: splitn (n + 1) sep rest

theorem splitn_of_not_mem (n : Nat) {s : List α} (absent : sep ∉ s) : splitn (n + 1) sep s = [s] := by
  cases n with
  | zero => rfl
  | succ n =>
      have nothing : s.dropWhile (· ≠ sep) = [] := by
        rw [List.dropWhile_eq_nil_iff]
        intro a member
        simpa using ne_of_mem_of_not_mem member absent
      simp only [splitn, nothing]

theorem splitn_append (n : Nat) {front : List α} (absent : sep ∉ front) (rest : List α) :
    splitn (n + 2) sep (front ++ sep :: rest) = front :: splitn (n + 1) sep rest := by
  have before : ∀ a ∈ front, decide (a ≠ sep) = true := by
    intro a member
    simpa using ne_of_mem_of_not_mem member absent
  have dropped : (front ++ sep :: rest).dropWhile (· ≠ sep) = sep :: rest := by
    rw [List.dropWhile_append_of_pos before]
    simp
  have taken : (front ++ sep :: rest).takeWhile (· ≠ sep) = front := by
    rw [List.takeWhile_append_of_pos before]
    simp
  simp only [splitn, dropped, taken]

end Pieces

/-! ## Trimming -/

section Trimming

variable {α : Type} {blank : α → Bool}

/-- `trim`. -/
def trim (blank : α → Bool) (s : List α) : List α := (s.dropWhile blank).rdropWhile blank

/-- `t` is `s` without the blanks around it. -/
structure Trims (blank : α → Bool) (s t : List α) : Prop where
  inside : ∃ front back, s = front ++ t ++ back ∧ (∀ a ∈ front, blank a = true) ∧
    ∀ a ∈ back, blank a = true
  first : ∀ a, t.head? = some a → blank a = false
  last : ∀ a, t.getLast? = some a → blank a = false

theorem dropWhile_of_head {s : List α} (first : ∀ a, s.head? = some a → blank a = false) :
    s.dropWhile blank = s := by
  cases s with
  | nil => rfl
  | cons a rest => simp [first a rfl]

theorem head?_dropWhile (s : List α) {a : α} (here : (s.dropWhile blank).head? = some a) :
    blank a = false := by
  induction s with
  | nil => simp at here
  | cons b rest ih =>
      rw [List.dropWhile_cons] at here
      split at here
      · exact ih here
      · rename_i solid
        cases here
        simpa using solid

theorem Trims.eq_trim {s t : List α} (trims : Trims blank s t) : t = trim blank s := by
  obtain ⟨⟨front, back, rfl, before, after⟩, first, last⟩ := trims
  unfold trim
  rw [List.append_assoc, List.dropWhile_append_of_pos before]
  cases t with
  | nil => simp [List.dropWhile_eq_nil_iff.2 after]
  | cons a rest =>
      have solid : ((a :: rest) ++ back).dropWhile blank = (a :: rest) ++ back :=
        dropWhile_of_head fun b here => first b (by simpa using here)
      have reversed : ∀ b ∈ back.reverse, blank b = true := fun b member => after b (by simpa using member)
      have ends : (a :: rest).reverse.dropWhile blank = (a :: rest).reverse :=
        dropWhile_of_head fun b here => last b (by rw [← List.head?_reverse]; exact here)
      rw [solid, List.rdropWhile, List.reverse_append, List.dropWhile_append_of_pos reversed, ends,
        List.reverse_reverse]

theorem trims_trim (s : List α) : Trims blank s (trim blank s) where
  inside := by
    refine ⟨s.takeWhile blank, (s.dropWhile blank).rtakeWhile blank, ?_, ?_, ?_⟩
    · rw [trim, List.append_assoc, List.rdropWhile_append_rtakeWhile, List.takeWhile_append_dropWhile]
    · intro a member
      exact List.mem_takeWhile_imp member
    · intro a member
      exact List.mem_rtakeWhile_imp member
  first := by
    intro a here
    obtain ⟨rest, whole⟩ := List.rdropWhile_prefix blank (l := s.dropWhile blank)
    have first : (s.dropWhile blank).head? = some a := by
      rw [← whole, List.head?_append]
      change (trim blank s).head?.or rest.head? = some a
      rw [here, Option.some_or]
    exact head?_dropWhile s first
  last := by
    intro a here
    have reversed : ((s.dropWhile blank).reverse.dropWhile blank).head? = some a := by
      simpa [trim, List.rdropWhile] using here
    exact head?_dropWhile _ reversed

/-- There is one way to take the blanks off both ends. -/
theorem trims_iff {s t : List α} : Trims blank s t ↔ t = trim blank s := by
  constructor
  · exact Trims.eq_trim
  · rintro rfl
    exact trims_trim s

end Trimming

/-! ## Characters, lines and numbers -/

/-- `char::is_whitespace`: the Unicode property `White_Space`. -/
def isWhitespace (c : Char) : Bool :=
  (0x9 ≤ c.toNat && c.toNat ≤ 0xD) || (0x2000 ≤ c.toNat && c.toNat ≤ 0x200A) ||
    [0x20, 0x85, 0xA0, 0x1680, 0x2028, 0x2029, 0x202F, 0x205F, 0x3000].contains c.toNat

/-- `split_whitespace`. -/
def splitWhitespace (s : List Char) : List (List Char) := (s.splitOnP isWhitespace).filter (· ≠ [])

/-- The carriage return of a `\r\n` belongs to the line ending. -/
def stripCr (line : List Char) : List Char :=
  if line.getLast? = some '\r' then line.dropLast else line

/-- `lines`: what stands before each newline, and what follows the last one, if
anything does. -/
def lines (s : List Char) : List (List Char) :=
  let pieces := s.splitOn '\n'
  pieces.dropLast.map stripCr ++ pieces.getLast?.toList.filter (· ≠ [])

/-- The one sign that an unsigned number may have. -/
def stripPlus : List Char → List Char
  | '+' :: rest => rest
  | s => s

/-- `parse` into an unsigned integer of `width` bits. -/
def parseUnsigned (width : Nat) (s : List Char) : Option Nat :=
  if stripPlus s = [] ∨ (stripPlus s).all Char.isDigit = false then none
  else
    let n := Nat.ofDigitChars 10 (stripPlus s) 0
    if n < 2 ^ width then some n else none

theorem parseUnsigned_lt {width n : Nat} {s : List Char} (parsed : parseUnsigned width s = some n) :
    n < 2 ^ width := by
  unfold parseUnsigned at parsed
  split at parsed
  · cases parsed
  · dsimp only at parsed
    split at parsed
    · rename_i small
      cases parsed
      exact small
    · cases parsed

example : parseUnsigned 8 "+0255".toList = some 255 ∧ parseUnsigned 8 "256".toList = none ∧
    parseUnsigned 8 "-0".toList = none ∧ parseUnsigned 8 "+".toList = none := by decide

end RobotFleet.Theory.Text
