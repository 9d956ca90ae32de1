/-
# Robot.Usage -- the two percentages of a heartbeat, up to the division

`read_cpu_usage` and `read_memory_usage` of `robot-agent/src/heartbeat.rs`, from the
text of `/proc/stat` and `/proc/meminfo` to the two integers whose quotient they
report.  `none` is the early `0.0`.  Integer arithmetic is that of a build: with
overflow checks it panics, without them it wraps.

* `sum_eq`, `sub_eq`: what fits in a `u64` is computed exactly, by either build.
* `memInfo_total`, `memInfo_available`: of repeated lines the scan keeps the last.
* `usage_counters_iff`: no overflow, and a quotient between 0 and 1, exactly when the
  CPU times add up to less than `2 ^ 64` and no more memory is available than there
  is in total.  Neither is checked.
* `memory_wrapping_iff`: where a checked build panics, the other reports more than
  100 percent.
-/
import Mathlib.Algebra.Order.BigOperators.Group.List
import Mathlib.Algebra.Order.Ring.Nat
import RobotFleet.Robot.Telemetry
import RobotFleet.Theory.Run
import RobotFleet.Theory.Text

namespace RobotFleet.Robot

open RobotFleet.Theory.Run
open RobotFleet.Theory.Text

set_option autoImplicit false

/-! ## Integer arithmetic of a build -/

/-- Whether the build checks for overflow, as a debug build does. -/
inductive Build where
  | checked
  | wrapping
  deriving DecidableEq

namespace Build

/-- An operation whose exact result does not fit in a `u64`. -/
def overflow (wrapped : UInt64) : Build → Except Panic UInt64
  | .checked => .error .arithmeticOverflow
  | .wrapping => .ok wrapped

def add (build : Build) (x y : UInt64) : Except Panic UInt64 :=
  if x.toNat + y.toNat < 2 ^ 64 then .ok (x + y) else build.overflow (x + y)

def sub (build : Build) (x y : UInt64) : Except Panic UInt64 :=
  if y.toNat ≤ x.toNat then .ok (x - y) else build.overflow (x - y)

/-- `iter().sum()`. -/
def sum (build : Build) (nums : List UInt64) : Except Panic UInt64 := nums.foldlM build.add 0

end Build

/-! ## The two functions -/

/-- The integers of the division. -/
structure Ratio where
  numerator : UInt64
  denominator : UInt64
  deriving DecidableEq

/-- `parse::<u64>().ok()`. -/
def parseU64 (s : List Char) : Option UInt64 := (parseUnsigned 64 s).map UInt64.ofNat

/-- A number that parses is kept as it stands. -/
theorem parseU64_eq_some_iff {s : List Char} {n : UInt64} :
    parseU64 s = some n ↔ parseUnsigned 64 s = some n.toNat := by
  unfold parseU64
  rw [Option.map_eq_some_iff]
  constructor
  · rintro ⟨value, parsed, rfl⟩
    rw [parsed, UInt64.toNat_ofNat_of_lt' (parseUnsigned_lt parsed)]
  · intro parsed
    exact ⟨n.toNat, parsed, UInt64.ofNat_toNat⟩

/-- The numbers of the first line of `/proc/stat`, behind its first word. -/
def cpuTimes (stat : String) : List UInt64 :=
  ((splitWhitespace ((lines stat.toList).head?.getD [])).drop 1).filterMap parseU64

/-- `read_cpu_usage`; it reports `1 - idle / total`. -/
def readCpuUsage (build : Build) (stat : Option String) : Except Panic (Option Ratio) :=
  match stat with
  | none => .ok none
  | some text =>
    -- `nums.len() < 4`
    match (cpuTimes text)[3]? with
    | none => .ok none
    | some idle => do
      let total ← build.sum (cpuTimes text)
      if total = 0 then return none
      return some ⟨idle, total⟩

/-- The second word of a line, where it is a number. -/
def lineValue (line : List Char) : UInt64 := ((splitWhitespace line)[1]?.bind parseU64).getD 0

structure MemInfo where
  total : UInt64
  available : UInt64

def memTotal : List Char := "MemTotal:".toList

def memAvailable : List Char := "MemAvailable:".toList

/-- The body of the loop over the lines of `/proc/meminfo`. -/
def scanLine (m : MemInfo) (line : List Char) : MemInfo :=
  if memTotal.isPrefixOf line then { m with total := lineValue line }
  else if memAvailable.isPrefixOf line then { m with available := lineValue line }
  else m

def memInfo (info : String) : MemInfo := run scanLine ⟨0, 0⟩ (lines info.toList)

/-- `read_memory_usage`; it reports `(total - available) / total`. -/
def readMemoryUsage (build : Build) (info : Option String) : Except Panic (Option Ratio) :=
  match info with
  | none => .ok none
  | some text =>
    if (memInfo text).total = 0 then .ok none
    else do
      let used ← build.sub (memInfo text).total (memInfo text).available
      return some ⟨used, (memInfo text).total⟩

/-! ## When the arithmetic goes through -/

section Arithmetic

variable {build : Build}

theorem add_eq (build : Build) {x y : UInt64} (fits : x.toNat + y.toNat < 2 ^ 64) :
    build.add x y = .ok (x + y) ∧ (x + y).toNat = x.toNat + y.toNat := by
  constructor
  · rw [Build.add, if_pos fits]
  · rw [UInt64.toNat_add, Nat.mod_eq_of_lt fits]

/-- The running total and what is still to come, as exact numbers. -/
def exactSum (start : UInt64) (nums : List UInt64) : Nat := start.toNat + (nums.map UInt64.toNat).sum

theorem foldlM_add (build : Build) {nums : List UInt64} {start : UInt64}
    (fits : exactSum start nums < 2 ^ 64) :
    ∃ total, nums.foldlM build.add start = .ok total ∧ total.toNat = exactSum start nums := by
  induction nums generalizing start with
  | nil => exact ⟨start, rfl, by simp [exactSum]⟩
  | cons n rest ih =>
      have next : exactSum start (n :: rest) = start.toNat + n.toNat + (rest.map UInt64.toNat).sum := by
        simp [exactSum, Nat.add_assoc]
      obtain ⟨added, value⟩ := @add_eq build start n (by omega)
      have same : exactSum (start + n) rest = exactSum start (n :: rest) := by
        rw [next, exactSum, value]
      obtain ⟨total, summed, exactly⟩ := @ih (start + n) (by omega)
      refine ⟨total, ?_, exactly.trans same⟩
      rw [List.foldlM_cons, added]
      exact summed

/-- A checked sum stops at the first number that does not fit. -/
theorem foldlM_add_overflow {nums : List UInt64} {start : UInt64}
    (exceeds : 2 ^ 64 ≤ exactSum start nums) :
    nums.foldlM Build.checked.add start = .error .arithmeticOverflow := by
  induction nums generalizing start with
  | nil =>
      have below := start.toNat_lt
      simp [exactSum] at exceeds
      omega
  | cons n rest ih =>
      have next : exactSum start (n :: rest) = start.toNat + n.toNat + (rest.map UInt64.toNat).sum := by
        simp [exactSum, Nat.add_assoc]
      rw [List.foldlM_cons]
      by_cases fits : start.toNat + n.toNat < 2 ^ 64
      · obtain ⟨added, value⟩ := add_eq Build.checked fits
        have same : exactSum (start + n) rest = exactSum start (n :: rest) := by
          rw [next, exactSum, value]
        rw [added]
        exact ih (by omega)
      · rw [Build.add, if_neg fits]
        rfl

theorem sum_eq (build : Build) {nums : List UInt64} (fits : (nums.map UInt64.toNat).sum < 2 ^ 64) :
    ∃ total, build.sum nums = .ok total ∧ total.toNat = (nums.map UInt64.toNat).sum := by
  have start : exactSum 0 nums = (nums.map UInt64.toNat).sum := by simp [exactSum]
  obtain ⟨total, summed, exactly⟩ := foldlM_add build (start ▸ fits)
  exact ⟨total, summed, exactly.trans start⟩

theorem sum_overflow {nums : List UInt64} (exceeds : 2 ^ 64 ≤ (nums.map UInt64.toNat).sum) :
    Build.checked.sum nums = .error .arithmeticOverflow := by
  have start : exactSum 0 nums = (nums.map UInt64.toNat).sum := by simp [exactSum]
  exact foldlM_add_overflow (start ▸ exceeds)

theorem sub_eq (build : Build) {x y : UInt64} (fits : y.toNat ≤ x.toNat) :
    build.sub x y = .ok (x - y) ∧ (x - y).toNat = x.toNat - y.toNat := by
  constructor
  · rw [Build.sub, if_pos fits]
  · exact UInt64.toNat_sub_of_le x y (UInt64.le_iff_toNat_le.2 fits)

theorem sub_underflow (build : Build) {x y : UInt64} (short : x.toNat < y.toNat) :
    build.sub x y = build.overflow (x - y) := by
  rw [Build.sub, if_neg (by omega)]

/-- A subtraction that wraps ends above what it started from. -/
theorem wrapped_sub_gt {x y : UInt64} (short : x.toNat < y.toNat) : x.toNat < (x - y).toNat := by
  have below := y.toNat_lt
  rw [UInt64.toNat_sub]
  rw [Nat.mod_eq_of_lt (by omega)]
  omega

end Arithmetic

/-! ## What the scan keeps -/

/-- The value of the last line that starts with the key, `0` where there is none or
where it has no number. -/
def lastValue (key : List Char) (text : String) : UInt64 :=
  (((lines text.toList).filter key.isPrefixOf).getLast?.map lineValue).getD 0

/-- A line does not start with both keys. -/
theorem not_memAvailable_of_memTotal {line : List Char} (total : memTotal.isPrefixOf line = true) :
    memAvailable.isPrefixOf line = false := by
  rw [List.isPrefixOf_iff_prefix] at total
  obtain ⟨rest, rfl⟩ := total
  rfl

theorem memInfo_total (info : String) : (memInfo info).total = lastValue memTotal info := by
  refine run_last scanLine MemInfo.total memTotal.isPrefixOf lineValue ?_ ?_ ⟨0, 0⟩ (lines info.toList)
  · intro m line here
    simp only [scanLine, here, if_true]
  · intro m line elsewhere
    simp only [scanLine, elsewhere, Bool.false_eq_true, if_false]
    split
    · rfl
    · rfl

theorem memInfo_available (info : String) :
    (memInfo info).available = lastValue memAvailable info := by
  refine run_last scanLine MemInfo.available memAvailable.isPrefixOf lineValue ?_ ?_ ⟨0, 0⟩
    (lines info.toList)
  · intro m line here
    have other : memTotal.isPrefixOf line = false := by
      cases total : memTotal.isPrefixOf line with
      | false => rfl
      | true =>
          rw [not_memAvailable_of_memTotal total] at here
          cases here
    simp only [scanLine, other, here, Bool.false_eq_true, if_false, if_true]
  · intro m line elsewhere
    simp only [scanLine, elsewhere, Bool.false_eq_true, if_false]
    split
    · rfl
    · rfl

/-! ## The counters -/

/-- The quotient is between 0 and 1. -/
def Ratio.InRange (r : Ratio) : Prop :=
  r.numerator.toNat ≤ r.denominator.toNat ∧ 0 < r.denominator.toNat

/-- No operation overflows, and whatever the build, a division that is reached stays in
range. -/
def Sound (usage : Build → Except Panic (Option Ratio)) : Prop :=
  (∃ result, usage .checked = .ok result) ∧
    ∀ build ratio, usage build = .ok (some ratio) → ratio.InRange

/-- Fewer than four numbers on the first line, or numbers that add up to a `u64`. -/
def CpuTimesFit (stat : String) : Prop :=
  (cpuTimes stat).length < 4 ∨ ((cpuTimes stat).map UInt64.toNat).sum < 2 ^ 64

/-- No total, or no more available than there is. -/
def MemoryFits (info : String) : Prop :=
  lastValue memTotal info = 0 ∨
    (lastValue memAvailable info).toNat ≤ (lastValue memTotal info).toNat

theorem toNat_pos {n : UInt64} (nonzero : n ≠ 0) : 0 < n.toNat := by
  rcases Nat.eq_zero_or_pos n.toNat with zero | positive
  · exact absurd (UInt64.toNat_inj.1 zero) nonzero
  · exact positive

/-- A subtraction that does not wrap gives a part of what it started from, and one that
does gives more. -/
theorem inRange_sub_iff {x y : UInt64} (nonzero : x ≠ 0) :
    Ratio.InRange ⟨x - y, x⟩ ↔ y.toNat ≤ x.toNat := by
  have positive := toNat_pos nonzero
  constructor
  · intro inRange
    refine Nat.le_of_not_lt fun short => ?_
    have within : (x - y).toNat ≤ x.toNat := inRange.1
    have above := wrapped_sub_gt short
    omega
  · intro fits
    refine ⟨?_, positive⟩
    show (x - y).toNat ≤ x.toNat
    have exactly := (sub_eq .checked fits).2
    omega

section Cpu

variable {stat : String} {idle : UInt64}

theorem readCpuUsage_of_few (build : Build) (few : (cpuTimes stat)[3]? = none) :
    readCpuUsage build (some stat) = .ok none := by
  simp only [readCpuUsage, few]

theorem readCpuUsage_of_fits (build : Build) (found : (cpuTimes stat)[3]? = some idle)
    (fits : ((cpuTimes stat).map UInt64.toNat).sum < 2 ^ 64) :
    ∃ total : UInt64, total.toNat = ((cpuTimes stat).map UInt64.toNat).sum ∧
      readCpuUsage build (some stat) = .ok (if total = 0 then none else some ⟨idle, total⟩) := by
  obtain ⟨total, summed, exactly⟩ := sum_eq build fits
  refine ⟨total, exactly, ?_⟩
  simp only [readCpuUsage, found, summed]
  show (if total = 0 then _ else _) = _
  split
  · rfl
  · rfl

theorem readCpuUsage_overflow (found : (cpuTimes stat)[3]? = some idle)
    (exceeds : 2 ^ 64 ≤ ((cpuTimes stat).map UInt64.toNat).sum) :
    readCpuUsage .checked (some stat) = .error .arithmeticOverflow := by
  simp only [readCpuUsage, found, sum_overflow exceeds]
  rfl

/-- The idle time is one of the times that are added up. -/
theorem idle_le_sum (found : (cpuTimes stat)[3]? = some idle) :
    idle.toNat ≤ ((cpuTimes stat).map UInt64.toNat).sum := by
  obtain ⟨inside, here⟩ := List.getElem?_eq_some_iff.1 found
  apply List.le_sum_of_mem
  rw [← here]
  exact List.mem_map_of_mem (List.getElem_mem inside)

theorem cpu_sound_iff (stat : String) :
    Sound (fun build => readCpuUsage build (some stat)) ↔ CpuTimesFit stat := by
  cases found : (cpuTimes stat)[3]? with
  | none =>
      have short : (cpuTimes stat).length < 4 := by
        have past := List.getElem?_eq_none_iff.1 found
        omega
      have early := fun build => readCpuUsage_of_few build found
      refine ⟨fun _ => Or.inl short, fun _ => ⟨⟨none, early .checked⟩, ?_⟩⟩
      intro build ratio reached
      cases (early build).symm.trans reached
  | some idle =>
      constructor
      · rintro ⟨⟨result, reached⟩, -⟩
        refine Or.inr (Nat.lt_of_not_le fun exceeds => ?_)
        cases (readCpuUsage_overflow found exceeds).symm.trans reached
      · rintro (short | fits)
        · have inside := (List.getElem?_eq_some_iff.1 found).1
          omega
        · refine ⟨?_, ?_⟩
          · obtain ⟨total, -, returned⟩ := readCpuUsage_of_fits .checked found fits
            exact ⟨_, returned⟩
          · intro build ratio reached
            obtain ⟨total, exactly, returned⟩ := readCpuUsage_of_fits build found fits
            have same := Except.ok.inj (returned.symm.trans reached)
            split at same
            · cases same
            · rename_i nonzero
              cases same
              refine ⟨?_, toNat_pos nonzero⟩
              show idle.toNat ≤ total.toNat
              rw [exactly]
              exact idle_le_sum found

end Cpu

section Memory

variable {info : String}

theorem readMemoryUsage_of_none (build : Build) (none_ : lastValue memTotal info = 0) :
    readMemoryUsage build (some info) = .ok none := by
  simp only [readMemoryUsage, memInfo_total, none_, if_true]

theorem readMemoryUsage_of_total (build : Build) (some_ : lastValue memTotal info ≠ 0) :
    readMemoryUsage build (some info) =
      (build.sub (lastValue memTotal info) (lastValue memAvailable info)).map fun used =>
        some ⟨used, lastValue memTotal info⟩ := by
  simp only [readMemoryUsage, memInfo_total, memInfo_available, if_neg some_]
  cases build.sub (lastValue memTotal info) (lastValue memAvailable info) <;> rfl

theorem readMemoryUsage_of_fits (build : Build) (some_ : lastValue memTotal info ≠ 0)
    (fits : (lastValue memAvailable info).toNat ≤ (lastValue memTotal info).toNat) :
    readMemoryUsage build (some info) =
      .ok (some ⟨lastValue memTotal info - lastValue memAvailable info, lastValue memTotal info⟩) := by
  rw [readMemoryUsage_of_total build some_, (sub_eq build fits).1]
  rfl

theorem memory_sound_iff (info : String) :
    Sound (fun build => readMemoryUsage build (some info)) ↔ MemoryFits info := by
  by_cases none_ : lastValue memTotal info = 0
  · have early := fun build => readMemoryUsage_of_none build none_
    refine ⟨fun _ => Or.inl none_, fun _ => ⟨⟨none, early .checked⟩, ?_⟩⟩
    intro build ratio reached
    cases (early build).symm.trans reached
  · constructor
    · rintro ⟨⟨result, reached⟩, -⟩
      refine Or.inr (Nat.le_of_not_lt fun short => ?_)
      have panics : readMemoryUsage .checked (some info) = .error .arithmeticOverflow := by
        rw [readMemoryUsage_of_total .checked none_, sub_underflow .checked short]
        rfl
      cases panics.symm.trans reached
    · rintro (zero | fits)
      · exact absurd zero none_
      · have divides := fun build => readMemoryUsage_of_fits build none_ fits
        refine ⟨⟨_, divides .checked⟩, ?_⟩
        intro build ratio reached
        have same := Option.some.inj (Except.ok.inj ((divides build).symm.trans reached))
        rw [← same]
        exact (inRange_sub_iff none_).2 fits

/-- **Without overflow checks** the memory quotient leaves its range exactly where a
checked build panics. -/
theorem memory_wrapping_iff {ratio : Ratio}
    (reached : readMemoryUsage .wrapping (some info) = .ok (some ratio)) :
    ratio.InRange ↔ MemoryFits info := by
  refine ⟨fun inRange => ?_, fun fits => ((memory_sound_iff info).2 fits).2 .wrapping ratio reached⟩
  by_cases none_ : lastValue memTotal info = 0
  · exact Or.inl none_
  · refine Or.inr (Nat.le_of_not_lt fun short => ?_)
    rw [readMemoryUsage_of_total .wrapping none_, sub_underflow .wrapping short] at reached
    have same := Option.some.inj (Except.ok.inj reached)
    rw [← same] at inRange
    have fits := (inRange_sub_iff none_).1 inRange
    omega

end Memory

/-- **The usage counters are sound exactly when** the CPU times of the first line of
`/proc/stat` add up to a `u64`, where there are four of them, and the last `MemAvailable:`
of `/proc/meminfo` is at most the last `MemTotal:`, where that is not zero. -/
theorem usage_counters_iff (stat info : String) :
    (Sound (fun build => readCpuUsage build (some stat)) ∧
      Sound (fun build => readMemoryUsage build (some info))) ↔
      CpuTimesFit stat ∧ MemoryFits info := by
  rw [cpu_sound_iff, memory_sound_iff]

/-- More memory available than there is, and CPU times beyond a `u64`: a checked build
panics on both texts, and the other reports `2 ^ 64 - 1` of one kilobyte in use. -/
theorem usage_counters_overflow :
    ¬ (Sound (fun build => readCpuUsage build (some "cpu 18446744073709551615 1 0 0\n")) ∧
      Sound (fun build => readMemoryUsage build (some "MemTotal: 1 kB\nMemAvailable: 2 kB\n"))) ∧
    readCpuUsage .checked (some "cpu 18446744073709551615 1 0 0\n") = .error .arithmeticOverflow ∧
    readMemoryUsage .checked (some "MemTotal: 1 kB\nMemAvailable: 2 kB\n") =
      .error .arithmeticOverflow ∧
    readMemoryUsage .wrapping (some "MemTotal: 1 kB\nMemAvailable: 2 kB\n") =
      .ok (some ⟨18446744073709551615, 1⟩) := by
  have panics : readMemoryUsage .checked (some "MemTotal: 1 kB\nMemAvailable: 2 kB\n") =
      .error .arithmeticOverflow := by decide
  refine ⟨?_, by decide, panics, by decide⟩
  rintro ⟨-, ⟨result, reached⟩, -⟩
  cases panics.symm.trans reached

end RobotFleet.Robot
