import Handover.Settings.Basic
import Mathlib.Data.Nat.Cast.Order.Field
import Mathlib.Data.Rat.Cast.Order
import Mathlib.Tactic.Ring

/-! # The time that ticks take

A tick takes as many whole nanoseconds as fit, and so many ticks take that many times as long, up to the
longest span.  Machines keep a span in two words, whole seconds and the nanoseconds beyond them, and go
from one to the other in wider words.  `Coordination.tickSteps?` and `Coordination.simulatedSteps?`
compute the same times step by step in such words, where a step that does not fit its word, or divides
by 0, yields nothing.  No step ever does (`simulatedTime_exact`).

The step to look at is the division of a split span (`Split.part?_eq`).  What is left of the seconds
goes over to the nanoseconds; since it is less than the divisor, which has 32 bits, it fits into 64 bits
there, and the nanoseconds of the quotient stay below a second.
-/

namespace Handover

namespace Duration

/-! ## Steps on words -/

/-- A number in a word of so many bits; none if it does not fit. -/
def word? (bits n : Nat) : Option Nat := if n < 2 ^ bits then some n else none

def quotient? (n divisor : Nat) : Option Nat := if divisor = 0 then none else some (n / divisor)

def remainder? (n divisor : Nat) : Option Nat := if divisor = 0 then none else some (n % divisor)

/-- A number in a word of so many bits; the greatest one there if it does not fit. -/
def saturated (bits n : Nat) : Nat := min n (2 ^ bits - 1)

section

variable {α : Type} {n divisor : Nat}

theorem word?_eq (bits : Nat) (fits : n < 2 ^ bits) : word? bits n = some n := if_pos fits

theorem word?_bind (bits : Nat) (fits : n < 2 ^ bits) (next : Nat → Option α) :
    word? bits n >>= next = next n := by
  rw [word?_eq bits fits]
  rfl

theorem quotient?_bind (positive : 0 < divisor) (next : Nat → Option α) :
    quotient? n divisor >>= next = next (n / divisor) := by
  rw [quotient?, if_neg positive.ne']
  rfl

theorem remainder?_bind (positive : 0 < divisor) (next : Nat → Option α) :
    remainder? n divisor >>= next = next (n % divisor) := by
  rw [remainder?, if_neg positive.ne']
  rfl

/-- A sum is divided by dividing one part and adding what it leaves to the other. -/
theorem div_add_left_over (rest n : Nat) (positive : 0 < divisor) :
    n / divisor + (rest + n % divisor) / divisor = (rest + n) / divisor := by
  rw [Nat.add_comm, ← Nat.add_mul_div_left _ _ positive, Nat.add_assoc, Nat.mod_add_div]

/-- Of so many units the whole parts are divided, and what is left of them is divided with the rest. -/
theorem div_units (n unit rest : Nat) (positive : 0 < divisor) :
    (n * unit + rest) / divisor =
      (n % divisor * unit + rest) / divisor + n / divisor * unit := by
  calc (n * unit + rest) / divisor
      = ((n % divisor + divisor * (n / divisor)) * unit + rest) / divisor := by
        rw [Nat.mod_add_div]
    _ = (n % divisor * unit + rest + divisor * (n / divisor * unit)) / divisor :=
        congrArg (· / divisor) (by ring)
    _ = (n % divisor * unit + rest) / divisor + n / divisor * unit :=
        Nat.add_mul_div_left _ _ positive

end

theorem saturated_lt (bits n : Nat) : saturated bits n < 2 ^ bits := by
  have := Nat.two_pow_pos bits
  rw [saturated]
  omega

/-! ## Split spans -/

/-- A span as whole seconds and the nanoseconds beyond them. -/
@[ext] structure Split where
  seconds : Nat
  beyond : Nat
deriving DecidableEq

namespace Split

/-- The seconds fit into 64 bits, and there is no second among the nanoseconds. -/
structure Fits (span : Split) : Prop where
  seconds_lt : span.seconds < 2 ^ 64
  beyond_lt : span.beyond < 1000000000

def total (span : Split) : Nat := span.seconds * 1000000000 + span.beyond

def ofTotal (nanoseconds : Nat) : Split := ⟨nanoseconds / 1000000000, nanoseconds % 1000000000⟩

/-- An equal part of a span.  Seconds and nanoseconds are divided apart, and what is left of both is
divided once more. -/
def part? (span : Split) (count : Nat) : Option Split := do
  let seconds ← quotient? span.seconds count
  let secondsLeft ← remainder? span.seconds count
  let beyond ← quotient? span.beyond count
  let beyondLeft ← remainder? span.beyond count
  let carried ← word? 64 (secondsLeft * 1000000000)
  let left ← word? 64 (carried + beyondLeft)
  let more ← quotient? left count
  let more ← word? 32 more
  let beyond ← word? 32 (beyond + more)
  let seconds ← word? 64 (seconds + beyond / 1000000000)
  return ⟨seconds, beyond % 1000000000⟩

def total? (span : Split) : Option Nat := do
  let seconds ← word? 128 (span.seconds * 1000000000)
  word? 128 (seconds + span.beyond)

def ofTotal? (nanoseconds : Nat) : Option Split := do
  let seconds ← word? 64 (nanoseconds / 1000000000)
  let beyond ← word? 32 (nanoseconds % 1000000000)
  return ⟨seconds, beyond⟩

variable {span : Split} {n count : Nat}

@[simp] theorem seconds_ofTotal (n : Nat) : (ofTotal n).seconds = n / 1000000000 := rfl

@[simp] theorem beyond_ofTotal (n : Nat) : (ofTotal n).beyond = n % 1000000000 := rfl

theorem total_ofTotal (n : Nat) : (ofTotal n).total = n := by
  rw [total, seconds_ofTotal, beyond_ofTotal]
  omega

theorem ofTotal_eq {seconds beyond : Nat} (underSecond : beyond < 1000000000) :
    ofTotal (beyond + seconds * 1000000000) = ⟨seconds, beyond⟩ := by
  have quotient : (beyond + seconds * 1000000000) / 1000000000 = seconds := by omega
  have remainder : (beyond + seconds * 1000000000) % 1000000000 = beyond := by omega
  rw [ofTotal, quotient, remainder]

theorem fits_ofTotal (small : n < 2 ^ 64) : (ofTotal n).Fits where
  seconds_lt := by
    rw [seconds_ofTotal]
    omega
  beyond_lt := by
    rw [beyond_ofTotal]
    omega

theorem total?_eq (fits : span.Fits) : span.total? = some span.total := by
  obtain ⟨seconds, beyond⟩ := fits
  have all : span.seconds * 1000000000 + span.beyond < 2 ^ 128 := by omega
  have whole : span.seconds * 1000000000 < 2 ^ 128 := (Nat.le_add_right _ _).trans_lt all
  rw [total?, word?_bind 128 whole, word?_eq 128 all, total]

theorem ofTotal?_eq (small : n < 2 ^ 64) : ofTotal? n = some (ofTotal n) := by
  have seconds : n / 1000000000 < 2 ^ 64 := by omega
  have beyond : n % 1000000000 < 2 ^ 32 := by omega
  rw [ofTotal?, word?_bind 64 seconds, word?_bind 32 beyond]
  rfl

/-- A span that fits is divided by a count of 32 bits without a step that fails. -/
theorem part?_eq (fits : span.Fits) (positive : 0 < count) (narrow : count < 2 ^ 32) :
    span.part? count = some (ofTotal (span.total / count)) := by
  obtain ⟨secondsFit, beyondFit⟩ := fits
  have secondsLeft : span.seconds % count < count := Nat.mod_lt _ positive
  have beyondLeft : span.beyond % count < count := Nat.mod_lt _ positive
  -- fewer than `count` seconds are left, and these take less than 2 ^ 62 nanoseconds
  have left : span.seconds % count * 1000000000 + span.beyond % count < 2 ^ 64 := by omega
  have more : (span.seconds % count * 1000000000 + span.beyond % count) / count < 2 ^ 32 :=
    Nat.div_lt_of_lt_mul (by omega)
  have underSecond : (span.seconds % count * 1000000000 + span.beyond) / count < 1000000000 :=
    Nat.div_lt_of_lt_mul (by omega)
  have beyond : (span.seconds % count * 1000000000 + span.beyond) / count < 2 ^ 32 := by omega
  have carried : span.seconds % count * 1000000000 < 2 ^ 64 :=
    (Nat.le_add_right _ _).trans_lt left
  have seconds : span.seconds / count < 2 ^ 64 := (Nat.div_le_self _ _).trans_lt secondsFit
  have whole : ofTotal (span.total / count) = ⟨span.seconds / count,
      (span.seconds % count * 1000000000 + span.beyond) / count⟩ := by
    rw [total, div_units _ _ _ positive, ofTotal_eq underSecond]
  rw [part?, quotient?_bind positive, remainder?_bind positive, quotient?_bind positive,
    remainder?_bind positive, word?_bind 64 carried, word?_bind 64 left, quotient?_bind positive,
    word?_bind 32 more, div_add_left_over _ _ positive, word?_bind 32 beyond,
    Nat.div_eq_of_lt underSecond, Nat.mod_eq_of_lt underSecond, Nat.add_zero,
    word?_bind 64 seconds, whole]
  rfl

end Split

/-- A span as it is kept in two words. -/
def split (duration : Duration) : Split := .ofTotal duration.nanoseconds.toNat

/-! ## Repeated spans -/

theorem toNat_longest : longest.nanoseconds.toNat = 2 ^ 64 - 1 := rfl

theorem toNat_part (duration : Duration) (count : UInt64) :
    (duration.part count).nanoseconds.toNat = duration.nanoseconds.toNat / count.toNat :=
  UInt64.toNat_div _ _

theorem toNat_times (duration : Duration) (count : UInt64) :
    (duration.times count).nanoseconds.toNat =
      saturated 64 (duration.nanoseconds.toNat * count.toNat) := by
  -- the test divides where the product might wrap around
  have fits : count = 0 ∨ duration.nanoseconds ≤ longest.nanoseconds / count ↔
      duration.nanoseconds.toNat * count.toNat ≤ 2 ^ 64 - 1 := by
    rw [UInt64.le_iff_toNat_le, UInt64.toNat_div, toNat_longest, ← UInt64.toNat_inj]
    rcases Nat.eq_zero_or_pos count.toNat with zero | positive
    · simp [zero]
    · rw [Nat.le_div_iff_mul_le positive]
      exact or_iff_right positive.ne'
  rw [times, saturated]
  by_cases h : duration.nanoseconds.toNat * count.toNat ≤ 2 ^ 64 - 1
  · have small : duration.nanoseconds.toNat * count.toNat < 2 ^ 64 := by omega
    rw [if_pos (fits.mpr h), Nat.min_eq_left h, UInt64.toNat_mul, Nat.mod_eq_of_lt small]
  · rw [if_neg (mt fits.mp h), Nat.min_eq_right (Nat.le_of_not_le h), toNat_longest]

end Duration

namespace Coordination

open Duration

/-! ## The length of a tick -/

variable (coordination : Coordination)

/-- Ticks per second; a rate of 0 counts as 1. -/
def rate : Nat := max coordination.tickRate.toNat 1

/-- The length of a tick, computed from a second in split words. -/
def tickSteps? : Option Split := Split.part? ⟨1, 0⟩ coordination.rate

/-- The time of so many ticks, computed in split words.  The product is taken in 128 bits and brought
into 64. -/
def simulatedSteps? (ticks : UInt64) : Option Split := do
  let tick ← coordination.tickSteps?
  let nanoseconds ← tick.total?
  Split.ofTotal? (saturated 64 (saturated 128 (nanoseconds * ticks.toNat)))

theorem rate_pos : 0 < coordination.rate := by
  rw [rate]
  omega

theorem rate_lt : coordination.rate < 2 ^ 32 := by
  have := coordination.tickRate.toNat_lt
  rw [rate]
  omega

theorem toNat_max_one (n : UInt32) : (max n 1).toNat = max n.toNat 1 := by
  change (if n ≤ 1 then 1 else n).toNat = _
  have below : n ≤ 1 ↔ n.toNat ≤ 1 := UInt32.le_iff_toNat_le
  split
  case isTrue low =>
    rw [max_eq_right (below.mp low)]
    rfl
  case isFalse high => rw [max_eq_left (Nat.le_of_not_le (mt below.mpr high))]

theorem toNat_tickDuration :
    coordination.tickDuration.nanoseconds.toNat = 1000000000 / coordination.rate := by
  rw [tickDuration, toNat_part, UInt32.toNat_toUInt64, toNat_max_one, rate]
  rfl

theorem toNat_simulatedTime (ticks : UInt64) :
    (coordination.simulatedTime ticks).nanoseconds.toNat =
      min (1000000000 / coordination.rate * ticks.toNat) (2 ^ 64 - 1) := by
  rw [simulatedTime, toNat_times, toNat_tickDuration, saturated]

theorem tickSteps?_eq : coordination.tickSteps? = some coordination.tickDuration.split := by
  have second : Split.Fits ⟨1, 0⟩ := ⟨by decide, by decide⟩
  rw [tickSteps?, Split.part?_eq second coordination.rate_pos coordination.rate_lt, split,
    toNat_tickDuration]
  rfl

theorem simulatedSteps?_eq (ticks : UInt64) :
    coordination.simulatedSteps? ticks = some (coordination.simulatedTime ticks).split := by
  have tick : coordination.tickDuration.split.Fits := Split.fits_ofTotal (UInt64.toNat_lt _)
  have total : coordination.tickDuration.split.total? =
      some (1000000000 / coordination.rate) := by
    rw [Split.total?_eq tick, split, Split.total_ofTotal, toNat_tickDuration]
  have narrow (n : Nat) : saturated 64 (saturated 128 n) = saturated 64 n := by
    rw [saturated, saturated, saturated]
    omega
  rw [simulatedSteps?, tickSteps?_eq, Option.bind_eq_bind, Option.bind_some, total,
    Option.bind_eq_bind, Option.bind_some, narrow, Split.ofTotal?_eq (saturated_lt _ _), split,
    toNat_simulatedTime, saturated]

/-! ## Compared with the exact time -/

/-- The time of so many ticks in nanoseconds, not rounded. -/
def exactTime (ticks : UInt64) : ℚ := ticks.toNat * 10 ^ 9 / coordination.rate

theorem exactTime_eq (ticks : UInt64) :
    coordination.exactTime ticks = 1000000000 / coordination.rate * ticks.toNat := by
  rw [exactTime]
  ring

theorem whole_le_exactTime (ticks : UInt64) :
    ((1000000000 / coordination.rate * ticks.toNat : Nat) : ℚ) ≤ coordination.exactTime ticks := by
  have rounded : ((1000000000 / coordination.rate : Nat) : ℚ) ≤ 1000000000 / coordination.rate :=
    Nat.cast_div_le
  rw [exactTime_eq, Nat.cast_mul]
  exact mul_le_mul_of_nonneg_right rounded (Nat.cast_nonneg _)

theorem exactTime_sub_whole_lt (ticks : UInt64) :
    coordination.exactTime ticks - (1000000000 / coordination.rate * ticks.toNat : Nat) <
      (max ticks.toNat 1 : Nat) := by
  have positive : (0 : ℚ) < coordination.rate := Nat.cast_pos.mpr coordination.rate_pos
  -- rounding one tick takes off less than a nanosecond
  have rounded : (1000000000 / coordination.rate : ℚ) <
      (1000000000 / coordination.rate : Nat) + 1 := by
    rw [div_lt_iff₀' positive]
    exact_mod_cast Nat.lt_mul_div_succ 1000000000 coordination.rate_pos
  rw [exactTime_eq, Nat.cast_mul, ← sub_mul]
  rcases Nat.eq_zero_or_pos ticks.toNat with none | some
  · simp [none]
  · calc (1000000000 / coordination.rate - (1000000000 / coordination.rate : Nat) : ℚ) * ticks.toNat
        < 1 * ticks.toNat :=
          mul_lt_mul_of_pos_right (sub_lt_iff_lt_add'.mpr rounded) (Nat.cast_pos.mpr some)
      _ = (max ticks.toNat 1 : Nat) := by rw [one_mul, max_eq_left some]

/-- A tick takes a second divided by the rate, in whole nanoseconds, and so many ticks take that many
times as long, or the longest span if that is less.  Computed in words, no step on the way there fails.
The time grows with the ticks and is at most the exact one, and where it is not cut down to the longest
span it is less than a nanosecond for each tick below it. -/
theorem simulatedTime_exact (coordination : Coordination) (ticks : UInt64) :
    let span (ticks : UInt64) := (coordination.simulatedTime ticks).nanoseconds.toNat
    let whole := 10 ^ 9 / coordination.rate * ticks.toNat
    coordination.tickSteps? = some coordination.tickDuration.split ∧
      coordination.tickDuration.nanoseconds.toNat = 10 ^ 9 / coordination.rate ∧
      coordination.simulatedSteps? ticks = some (coordination.simulatedTime ticks).split ∧
      span ticks = min whole (2 ^ 64 - 1) ∧
      (∀ later, ticks ≤ later → span ticks ≤ span later) ∧
      span ticks ≤ coordination.exactTime ticks ∧
      (whole < 2 ^ 64 →
        coordination.exactTime ticks - span ticks < (max ticks.toNat 1 : Nat)) := by
  intro span whole
  have time : span ticks = min whole (2 ^ 64 - 1) := coordination.toNat_simulatedTime ticks
  refine ⟨coordination.tickSteps?_eq, coordination.toNat_tickDuration,
    coordination.simulatedSteps?_eq ticks, time, fun later le => ?_, ?_, fun fits => ?_⟩
  · have more : whole ≤ 10 ^ 9 / coordination.rate * later.toNat :=
      Nat.mul_le_mul_left _ (UInt64.le_iff_toNat_le.mp le)
    rw [time]
    calc min whole (2 ^ 64 - 1)
        ≤ min (10 ^ 9 / coordination.rate * later.toNat) (2 ^ 64 - 1) := by omega
      _ = span later := (coordination.toNat_simulatedTime later).symm
  · rw [time]
    exact (Nat.cast_le.mpr (Nat.min_le_left _ _)).trans (coordination.whole_le_exactTime ticks)
  · rw [time, Nat.min_eq_left (Nat.le_sub_one_of_lt fits)]
    exact coordination.exactTime_sub_whole_lt ticks

/-- At seven ticks a second a thousand ticks are timed 1000 · 142857142 nanoseconds, and the greatest
number of ticks is timed the longest span. -/
theorem simulatedTime_exact_sevenths :
    let coordination : Coordination := ⟨7, 120, 30, false⟩
    let span (ticks : UInt64) := (coordination.simulatedTime ticks).nanoseconds.toNat
    ((1000 : UInt64) ≤ .ofNat (2 ^ 64 - 1) ∧ span 1000 = 142857142000 ∧
      span (.ofNat (2 ^ 64 - 1)) = 2 ^ 64 - 1 ∧ span 1000 ≤ span (.ofNat (2 ^ 64 - 1))) ∧
      10 ^ 9 / coordination.rate * (1000 : UInt64).toNat < 2 ^ 64 ∧
      coordination.exactTime 1000 - span 1000 < (1000 : Nat) := by
  intro coordination span
  have le : (1000 : UInt64) ≤ .ofNat (2 ^ 64 - 1) := by decide
  have fits : 10 ^ 9 / coordination.rate * (1000 : UInt64).toNat < 2 ^ 64 := by decide
  obtain ⟨_, _, _, _, grows, _, near⟩ := simulatedTime_exact coordination 1000
  exact ⟨⟨le, by decide, by decide, grows _ le⟩, fits, near fits⟩

end Coordination

end Handover
