/-
This file says how far applying several ticks at once can be trusted. All ticks
but the first see no events and shrink the rate by a power, whose exponent is a
signed number of 32 bits. For up to `2 ^ 31` ticks it is the number of further
ticks, and the rate is that of single ticks. Beyond that the exponent has wrapped
around and is negative, so the rate grows while nothing happens, although a meter
can be asked to apply so many ticks. A rate that is zero stays zero either way.
-/

import Mathlib.Algebra.Order.GroupWithZero.Basic
import Mathlib.Data.Rat.Floor
import Telemetry.Proofs.Meter.Ticks

namespace Telemetry.Meter

/-- A meter can come to apply any number of ticks up to the most that are applied at once. -/
theorem exists_dueTicks_eq {Number : Type} [Arithmetic Number] (meter : Meter Number)
    {ticks : Nat} (possible : ticks ≤ mostTicks) : ∃ now, meter.dueTicks now = ticks := by
  refine ⟨meter.lastTick + ticks * tickInterval, ?_⟩
  rw [dueTicks, add_sub_cancel_left, ← Nat.cast_mul, Int.toNat_natCast,
    Nat.mul_div_cancel _ tickInterval_pos, Nat.min_eq_left possible]

namespace Average

open Exact

theorem signed32_of_le {count : Nat} (large : 2 ^ 31 ≤ count) (word : count < 2 ^ 32) :
    signed32 count = count - 2 ^ 32 := by
  have size : (Int32.size : Int) = 2 ^ 32 := rfl
  rw [signed32, Int32.toInt_ofNat', Int.bmod_def, size, Int.emod_eq_of_lt (by omega) (by omega),
    if_neg (by omega)]

section Field

variable {Number : Type} [Field Number] [LinearOrder Number] [FloorSemiring Number]
  (average : Average Number)

/-- Too many ticks at once shrink the rate as if they were `2 ^ 32` fewer. -/
theorem tickMany_of_many {ticks : Nat} (many : 2 ^ 31 < ticks) (possible : ticks ≤ mostTicks) :
    average.tickMany ticks =
      { average.tick with
        rate := average.tick.rate * (1 - average.alpha) ^ ((ticks : Int) - 1 - 2 ^ 32) } := by
  have most : mostTicks = 2 ^ 32 - 1 := rfl
  have exponent : signed32 (ticks - 1) = (ticks : Int) - 1 - 2 ^ 32 := by
    rw [signed32_of_le (by omega) (by omega), Nat.cast_sub (by omega), Nat.cast_one]
  have one : (Arithmetic.ofNat 1 : Number) = 1 := (ofNat_eq 1).trans Nat.cast_one
  rw [tickMany, if_neg (by omega)]
  dsimp only
  rw [if_neg (by omega), exponent, power_eq_zpow, one]
  rfl

/-- Single ticks leave everything but the rate as ticks at once do. -/
theorem iterate_tick_of_many {ticks : Nat} (many : 2 ^ 31 < ticks) :
    tick^[ticks] average =
      { average.tick with
        rate := average.tick.rate * (1 - average.alpha) ^ ((ticks : Int) - 1) } := by
  obtain ⟨further, rfl⟩ := Nat.exists_eq_add_of_le' (Nat.one_le_of_lt many)
  rw [iterate_succ_tick, shrunk, Nat.cast_add, Nat.cast_one, add_sub_cancel_right, zpow_natCast]
  rfl

/-- A tick that sees no events shrinks the rate, and gives none to an average that only starts. -/
theorem rate_tick_of_idle (idle : average.uncounted = 0) :
    average.tick.rate = average.rate * (1 - average.alpha) ∨ average.tick.rate = 0 := by
  cases started : average.started with
  | true =>
    left
    rw [average.tick_of_idle started idle, shrunk, pow_one]
  | false =>
    right
    simp only [tick, started, Bool.false_eq_true, if_false, average.currentRate_of_idle idle]

end Field

/-! ### When ticks at once are single ticks -/

section Order

variable {Number : Type} [Field Number] [LinearOrder Number] [IsStrictOrderedRing Number]
  [FloorSemiring Number] {average : Average Number} (positive : 0 < average.alpha)
  (proper : average.alpha < 1)

include positive proper

theorem tickMany_eq_iterate_iff {ticks : Nat} (possible : ticks ≤ mostTicks) :
    average.tickMany ticks = tick^[ticks] average ↔ ticks ≤ 2 ^ 31 ∨ average.tick.rate = 0 := by
  have left : 0 < 1 - average.alpha := sub_pos.2 proper
  have shrinks : 1 - average.alpha ≠ 1 := (sub_lt_self 1 positive).ne
  rcases Nat.lt_or_ge (2 ^ 31) ticks with many | few
  · have powers : (1 - average.alpha) ^ ((ticks : Int) - 1 - 2 ^ 32) ≠
        (1 - average.alpha) ^ ((ticks : Int) - 1) := fun equal => by
      have exponents := zpow_right_injective₀ left shrinks equal
      omega
    rw [tickMany_of_many _ many possible, iterate_tick_of_many _ many, or_iff_right (by omega)]
    simp only [Average.mk.injEq, mul_eq_mul_left_iff, powers, false_or, true_and, and_true]
  · exact iff_of_true (average.tickMany_eq_iterate few) (.inl few)

variable (idle : average.uncounted = 0) (notNegative : 0 ≤ average.rate)

include idle notNegative

/-- While nothing happens single ticks never raise a rate. -/
theorem rate_iterate_tick_le_of_idle (ticks : Nat) :
    (tick^[ticks] average).rate ≤ average.rate := by
  cases ticks with
  | zero => exact le_refl _
  | succ further =>
    rw [iterate_succ_tick]
    show average.tick.rate * (1 - average.alpha) ^ further ≤ average.rate
    have left : 0 ≤ 1 - average.alpha := sub_nonneg.2 proper.le
    have shrinks : 1 - average.alpha ≤ 1 := sub_le_self 1 positive.le
    rcases average.rate_tick_of_idle idle with shrunk | zero
    · rw [shrunk, mul_assoc, ← pow_succ']
      exact mul_le_of_le_one_right notNegative (pow_le_one₀ left shrinks)
    · rw [zero, zero_mul]
      exact notNegative

/-- While nothing happens too many ticks at once raise every rate that one tick leaves. -/
theorem rate_lt_tickMany_of_idle {ticks : Nat} (many : 2 ^ 31 < ticks)
    (possible : ticks ≤ mostTicks) (moving : average.tick.rate ≠ 0) :
    average.rate < (average.tickMany ticks).rate := by
  have most : mostTicks = 2 ^ 32 - 1 := rfl
  have left : 0 < 1 - average.alpha := sub_pos.2 proper
  have shrinks : 1 - average.alpha < 1 := sub_lt_self 1 positive
  have shrunk := (average.rate_tick_of_idle idle).resolve_right moving
  have running : 0 < average.rate := by
    refine lt_of_le_of_ne notNegative fun zero => moving ?_
    rw [shrunk, ← zero, zero_mul]
  rw [tickMany_of_many _ many possible]
  show average.rate < average.tick.rate * (1 - average.alpha) ^ ((ticks : Int) - 1 - 2 ^ 32)
  rw [shrunk, mul_assoc, ← zpow_one_add₀ left.ne']
  exact lt_mul_of_one_lt_right running (one_lt_zpow_of_neg₀ left shrinks (by omega))

theorem rate_tickMany_le_iff_of_idle {ticks : Nat} (possible : ticks ≤ mostTicks) :
    (average.tickMany ticks).rate ≤ average.rate ↔ ticks ≤ 2 ^ 31 ∨ average.tick.rate = 0 := by
  constructor
  · intro fallen
    by_contra other
    obtain ⟨many, moving⟩ := not_or.1 other
    have raised := rate_lt_tickMany_of_idle positive proper idle notNegative (Nat.lt_of_not_le many)
      possible moving
    exact raised.not_ge fallen
  · intro single
    rw [(tickMany_eq_iterate_iff positive proper possible).2 single]
    exact rate_iterate_tick_le_of_idle positive proper idle notNegative ticks

end Order

/-- When several ticks at once are single ticks, for every share between zero and one, every state
of an average and every number of ticks that a meter can come to apply. What was gathered is taken
in and the average is started either way. The rates agree exactly up to `2 ^ 31` ticks, or if the
first tick leaves no rate; beyond that the rate is shrunk as if the ticks were `2 ^ 32` fewer. While
nothing happens single ticks never raise a rate that is not negative, and ticks at once do so
exactly where they differ from single ticks. -/
theorem ticks_at_once_are_single_ticks_iff {Number : Type} [Field Number] [LinearOrder Number]
    [IsStrictOrderedRing Number] [FloorSemiring Number] (average : Average Number)
    (positive : 0 < average.alpha) (proper : average.alpha < 1) {ticks : Nat}
    (possible : ticks ≤ mostTicks) :
    let atOnce := average.tickMany ticks
    let single := tick^[ticks] average
    (∀ meter : Meter Number, ∃ now, meter.dueTicks now = ticks) ∧
      { atOnce with rate := single.rate } = single ∧
      (atOnce = single ↔ ticks ≤ 2 ^ 31 ∨ average.tick.rate = 0) ∧
      (2 ^ 31 < ticks →
        atOnce.rate = average.tick.rate * (1 - average.alpha) ^ ((ticks : Int) - 1 - 2 ^ 32) ∧
        single.rate = average.tick.rate * (1 - average.alpha) ^ ((ticks : Int) - 1)) ∧
      (average.uncounted = 0 → 0 ≤ average.rate → single.rate ≤ average.rate ∧
        (atOnce.rate ≤ average.rate ↔ ticks ≤ 2 ^ 31 ∨ average.tick.rate = 0)) := by
  intro atOnce single
  refine ⟨fun meter => exists_dueTicks_eq meter possible, ?_,
    tickMany_eq_iterate_iff positive proper possible, fun many => ?_,
    fun idle notNegative =>
      ⟨rate_iterate_tick_le_of_idle positive proper idle notNegative ticks,
        rate_tickMany_le_iff_of_idle positive proper idle notNegative possible⟩⟩
  · rcases Nat.lt_or_ge (2 ^ 31) ticks with many | few
    · simp only [atOnce, single, tickMany_of_many _ many possible, iterate_tick_of_many _ many]
    · simp only [atOnce, single, average.tickMany_eq_iterate few]
  · exact ⟨congrArg rate (average.tickMany_of_many many possible),
      congrArg rate (average.iterate_tick_of_many many)⟩

/-- Ten events in the first of seven ticks: at once or one by one, the rate has halved six times. -/
theorem seven_ticks_at_once :
    let average : Average ℚ := ⟨1 / 2, 0, 10, false⟩
    (0 < average.alpha ∧ average.alpha < 1 ∧ 7 ≤ mostTicks) ∧
      average.tickMany 7 = tick^[7] average ∧ (average.tickMany 7).rate = 1 / 32 := by
  intro average
  have positive : 0 < average.alpha := by norm_num
  have proper : average.alpha < 1 := by norm_num
  have possible : 7 ≤ mostTicks := by decide
  have same := (ticks_at_once_are_single_ticks_iff average positive proper possible).2.2.1.2
    (.inl (by decide))
  have first : average.tick.rate = 2 := by decide +kernel
  refine ⟨⟨positive, proper, possible⟩, same, ?_⟩
  rw [same, iterate_succ_tick]
  show average.tick.rate * (1 - 1 / 2) ^ 6 = 1 / 32
  rw [first]
  norm_num

/-- While nothing happens, the most ticks that are applied at once double a rate of one. -/
theorem most_ticks_at_once_double_rate :
    let average : Average ℚ := ⟨1 / 2, 1, 0, true⟩
    (average.tickMany mostTicks).rate = 2 ∧ (tick^[mostTicks] average).rate ≤ 1 ∧
      average.tickMany mostTicks ≠ tick^[mostTicks] average := by
  intro average
  have first : average.tick.rate = 1 / 2 := by decide +kernel
  have many : 2 ^ 31 < mostTicks := by decide
  have doubled : (average.tickMany mostTicks).rate = 2 := by
    have exponent : (mostTicks : Int) - 1 - 2 ^ 32 = -2 := by decide
    rw [tickMany_of_many _ many (Nat.le_refl _), exponent, first]
    norm_num [average]
  have fallen : (tick^[mostTicks] average).rate ≤ 1 :=
    rate_iterate_tick_le_of_idle (by norm_num) (by norm_num) rfl zero_le_one mostTicks
  refine ⟨doubled, fallen, fun same => ?_⟩
  rw [← same, doubled] at fallen
  norm_num at fallen

end Average

end Telemetry.Meter
