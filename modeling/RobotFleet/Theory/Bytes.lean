/-
# Theory.Bytes -- big-endian numbers, fixed-width fields and reads across chunks

What a binary wire format is made of.  `toBe w n` is `n` in `w` bytes, most
significant first, and `ofBe` reads such bytes back (`ofBe_toBe`, `toBe_ofBe`).  A
sequence of values of one width is cut into its fields by position
(`fieldAt_flatMap`) and is put together from them (`flatMap_fieldAt`).

A reader of a stream socket sees the bytes in chunks it does not choose.
`readExact` collects a given number of bytes over as many chunks as that takes;
`readExact_of_le` and `readExact_of_lt` say that only the concatenation of the
chunks matters.
-/
import Mathlib.Algebra.Group.Nat.Defs
import Mathlib.Data.List.Basic

namespace RobotFleet.Theory.Bytes

set_option autoImplicit false

/-! ## Numbers -/

/-- The low `w` bytes of `n`, most significant first. -/
def toBe : Nat → Nat → List UInt8
  | 0, _ => []
  | w + 1, n => UInt8.ofNat (n / 256 ^ w) :: toBe w n

/-- The number written in the bytes, most significant first. -/
def ofBe : List UInt8 → Nat
  | [] => 0
  | b :: rest => b.toNat * 256 ^ rest.length + ofBe rest

@[simp] theorem length_toBe (w n : Nat) : (toBe w n).length = w := by
  induction w with
  | zero => rfl
  | succ w ih => simp [toBe, ih]

theorem ofBe_lt (bytes : List UInt8) : ofBe bytes < 256 ^ bytes.length := by
  induction bytes with
  | nil => simp [ofBe]
  | cons b rest ih =>
      have digit : b.toNat ≤ 255 := by have := b.toNat_lt; omega
      have scaled : b.toNat * 256 ^ rest.length ≤ 255 * 256 ^ rest.length :=
        Nat.mul_le_mul_right _ digit
      simp only [ofBe, List.length_cons, Nat.pow_succ]
      omega

theorem ofBe_toBe_mod (w n : Nat) : ofBe (toBe w n) = n % 256 ^ w := by
  induction w with
  | zero => simp [toBe, ofBe, Nat.mod_one]
  | succ w ih =>
      have split : n % 256 ^ (w + 1) = n / 256 ^ w % 256 * 256 ^ w + n % 256 ^ w := by
        rw [Nat.pow_succ, Nat.mod_mul, Nat.mul_comm (256 ^ w), Nat.add_comm]
      simp [toBe, ofBe, ih, split]

/-- A number that fits its width is read back as it was written. -/
theorem ofBe_toBe {w n : Nat} (fits : n < 256 ^ w) : ofBe (toBe w n) = n := by
  rw [ofBe_toBe_mod, Nat.mod_eq_of_lt fits]

theorem toBe_mul_add (w m n : Nat) : toBe w (m * 256 ^ w + n) = toBe w n := by
  induction w generalizing m with
  | zero => rfl
  | succ w ih =>
      have carry : m * 256 ^ (w + 1) + n = m * 256 * 256 ^ w + n := by
        rw [Nat.pow_succ, Nat.mul_assoc, Nat.mul_comm 256]
      have digit : (m * 256 * 256 ^ w + n) / 256 ^ w = n / 256 ^ w + m * 256 := by
        rw [Nat.add_comm, Nat.add_mul_div_right _ _ (Nat.pow_pos (by decide))]
      have low : UInt8.ofNat (n / 256 ^ w + m * 256) = UInt8.ofNat (n / 256 ^ w) := by
        apply UInt8.toNat_inj.1
        simp
      rw [toBe, carry, digit, low, ih, toBe]

/-- Bytes are written again as they were read. -/
theorem toBe_ofBe (bytes : List UInt8) : toBe bytes.length (ofBe bytes) = bytes := by
  induction bytes with
  | nil => rfl
  | cons b rest ih =>
      have digit : (b.toNat * 256 ^ rest.length + ofBe rest) / 256 ^ rest.length = b.toNat := by
        rw [Nat.add_comm, Nat.add_mul_div_right _ _ (Nat.pow_pos (by decide)),
          Nat.div_eq_of_lt (ofBe_lt rest), Nat.zero_add]
      rw [List.length_cons, ofBe, toBe, digit, toBe_mul_add, ih, UInt8.ofNat_toNat]

/-! ## Fields -/

section Fields

variable {α β : Type}

/-- The `len` items from position `lo`. -/
def fieldAt (bytes : List β) (lo len : Nat) : List β := (bytes.drop lo).take len

theorem length_fieldAt {bytes : List β} {lo len : Nat} (inside : lo + len ≤ bytes.length) :
    (fieldAt bytes lo len).length = len := by
  simp only [fieldAt, List.length_take, List.length_drop]
  omega

/-- A field behind a header is a field of what follows the header. -/
theorem fieldAt_append_left (head rest : List β) (lo len : Nat) :
    fieldAt (head ++ rest) (head.length + lo) len = fieldAt rest lo len := by
  have past : head.length ≤ head.length + lo := by omega
  simp [fieldAt, List.drop_append, List.drop_of_length_le past]

/-- A field that ends before the trailer does not see the trailer. -/
theorem fieldAt_append_right {front trailer : List β} {lo len : Nat}
    (inside : lo + len ≤ front.length) :
    fieldAt (front ++ trailer) lo len = fieldAt front lo len := by
  have reached : lo ≤ front.length := by omega
  have enough : len ≤ (front.drop lo).length := by
    rw [List.length_drop]
    omega
  rw [fieldAt, List.drop_append_of_le_length reached, List.take_append_of_le_length enough, fieldAt]

/-- Values of one width, written one after the other, are cut apart by position. -/
theorem fieldAt_flatMap {enc : α → List β} {width : Nat} (uniform : ∀ a, (enc a).length = width)
    {values : List α} {i : Nat} {a : α} (here : values[i]? = some a) :
    fieldAt (values.flatMap enc) (i * width) width = enc a := by
  induction values generalizing i with
  | nil => simp at here
  | cons first rest ih =>
      cases i with
      | zero =>
          have same : first = a := by simpa using here
          subst same
          have whole : width ≤ (enc first).length := Nat.le_of_eq (uniform first).symm
          rw [List.flatMap_cons, Nat.zero_mul, fieldAt, List.drop_zero,
            List.take_append_of_le_length whole, ← uniform first, List.take_length]
      | succ i =>
          have further : (i + 1) * width = (enc first).length + i * width := by
            rw [uniform first, Nat.succ_mul]
            omega
          rw [List.flatMap_cons, further, fieldAt_append_left]
          exact ih (by simpa using here)

theorem length_flatMap_uniform {enc : α → List β} {width : Nat}
    (uniform : ∀ a, (enc a).length = width) (values : List α) :
    (values.flatMap enc).length = values.length * width := by
  induction values with
  | nil => simp
  | cons first rest ih =>
      rw [List.flatMap_cons, List.length_append, uniform first, ih, List.length_cons, Nat.succ_mul]
      omega

/-- Two fields that touch are one field. -/
theorem fieldAt_add (bytes : List β) (lo len more : Nat) :
    fieldAt bytes lo (len + more) = fieldAt bytes lo len ++ fieldAt bytes (lo + len) more := by
  simp only [fieldAt, List.take_add, List.drop_drop]

/-- A block is the concatenation of its fields. -/
theorem flatMap_fieldAt (bytes : List β) (lo width count : Nat) :
    (List.range count).flatMap (fun i => fieldAt bytes (lo + i * width) width) =
      fieldAt bytes lo (count * width) := by
  induction count with
  | zero => simp [fieldAt]
  | succ count ih =>
      rw [List.range_succ, List.flatMap_append, ih, List.flatMap_singleton, Nat.succ_mul, fieldAt_add]

end Fields

/-! ## Reading across chunks -/

section Chunks

variable {β : Type}

/-- `n` items over as many chunks as it takes, with the chunks that are left;
`none` when the stream ends first. -/
def readExact : List (List β) → Nat → Option (List β × List (List β))
  | chunks, 0 => some ([], chunks)
  | [], _ + 1 => none
  | chunk :: rest, n + 1 =>
    if n + 1 ≤ chunk.length then some (chunk.take (n + 1), chunk.drop (n + 1) :: rest)
    else
      match readExact rest (n + 1 - chunk.length) with
      | none => none
      | some (more, left) => some (chunk ++ more, left)

/-- Enough bytes: the read is a prefix of the stream, and the rest is still there. -/
theorem readExact_of_le {chunks : List (List β)} {n : Nat} (enough : n ≤ chunks.flatten.length) :
    ∃ left, readExact chunks n = some (chunks.flatten.take n, left) ∧
      left.flatten = chunks.flatten.drop n := by
  induction chunks generalizing n with
  | nil =>
      have none_ : n = 0 := by simpa using enough
      subst none_
      exact ⟨[], by simp [readExact]⟩
  | cons chunk rest ih =>
      cases n with
      | zero => exact ⟨chunk :: rest, by simp [readExact]⟩
      | succ n =>
          rw [List.flatten_cons] at enough ⊢
          by_cases within : n + 1 ≤ chunk.length
          · refine ⟨chunk.drop (n + 1) :: rest, ?_, ?_⟩
            · rw [readExact, if_pos within, List.take_append_of_le_length within]
            · rw [List.flatten_cons, List.drop_append_of_le_length within]
          · have remaining : n + 1 - chunk.length ≤ rest.flatten.length := by
              rw [List.length_append] at enough
              omega
            obtain ⟨left, collected, after⟩ := ih remaining
            have past : chunk.length ≤ n + 1 := by omega
            refine ⟨left, ?_, ?_⟩
            · rw [readExact, if_neg within, collected]
              simp [List.take_append, List.take_of_length_le past]
            · simp [List.drop_append, List.drop_of_length_le past, after]

/-- Too few bytes: the read fails, however they are cut. -/
theorem readExact_of_lt {chunks : List (List β)} {n : Nat} (short : chunks.flatten.length < n) :
    readExact chunks n = none := by
  induction chunks generalizing n with
  | nil =>
      cases n with
      | zero => simp at short
      | succ n => rfl
  | cons chunk rest ih =>
      rw [List.flatten_cons, List.length_append] at short
      cases n with
      | zero => omega
      | succ n =>
          have outside : ¬ n + 1 ≤ chunk.length := by omega
          rw [readExact, if_neg outside, ih (by omega)]

/-- A successful read took its bytes off the stream. -/
theorem readExact_length {chunks left : List (List β)} {n : Nat} {bytes : List β}
    (collected : readExact chunks n = some (bytes, left)) :
    left.flatten.length + n = chunks.flatten.length := by
  by_cases enough : n ≤ chunks.flatten.length
  · obtain ⟨left', collected', after⟩ := readExact_of_le enough
    rw [collected] at collected'
    obtain ⟨-, rfl⟩ := Prod.mk.inj (Option.some.inj collected')
    rw [after, List.length_drop]
    omega
  · rw [readExact_of_lt (by omega)] at collected
    cases collected

end Chunks

end RobotFleet.Theory.Bytes
