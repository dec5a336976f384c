/-
This file proves that ticks may come late. In exact arithmetic several ticks at
once are that many single ticks: the first takes in what was gathered, and each
further one, which sees no events, shrinks the rate by the same factor. This
holds as long as the number of further ticks is a number of 32 bits. A meter that
applies the ticks that have come due when it is used goes therefore through the
same states as one that is ticked one tick at a time.
-/

import Mathlib.Data.List.Basic
import Telemetry.Meter.Course
import Telemetry.Proofs.Arithmetic.Exact

namespace Telemetry.Meter

/-! ### One tick at a time -/

section OneAtATime

variable {Number : Type} [Arithmetic Number] (meter : Meter Number) (now : Int)

theorem tickInterval_pos : 0 < tickInterval := by
  decide

/-- How many intervals have passed since the last tick. -/
def passed : Nat :=
  (now - meter.lastTick).toNat / tickInterval

theorem iterate_tick (ticks : Nat) :
    tick^[ticks] meter =
      { meter with
        oneMinute := Average.tick^[ticks] meter.oneMinute
        fiveMinutes := Average.tick^[ticks] meter.fiveMinutes
        fifteenMinutes := Average.tick^[ticks] meter.fifteenMinutes
        lastTick := meter.lastTick + ticks * tickInterval } := by
  induction ticks generalizing meter with
  | zero =>
    rw [Nat.cast_zero, zero_mul, add_zero]
    rfl
  | succ ticks inductionHypothesis =>
    rw [Function.iterate_succ_apply, inductionHypothesis meter.tick, Nat.cast_succ, add_mul,
      one_mul, add_comm (ticks * tickInterval : Int), ← add_assoc]
    rfl

theorem tickUntil_eq_iterate : tickUntil now meter = tick^[meter.passed now] meter := by
  have positive := tickInterval_pos
  fun_induction tickUntil now meter with
  | case1 meter due inductionHypothesis =>
    have enough : tickInterval ≤ (now - meter.lastTick).toNat := by omega
    have one : meter.passed now = meter.tick.passed now + 1 := by
      have less : (now - meter.tick.lastTick).toNat =
          (now - meter.lastTick).toNat - tickInterval := by
        simp only [tick]
        omega
      rw [passed, passed, less]
      exact Nat.div_eq_sub_div positive enough
    rw [inductionHypothesis, one, Function.iterate_succ_apply]
  | case2 meter early =>
    have zero : meter.passed now = 0 := Nat.div_eq_of_lt (by omega)
    rw [zero]
    rfl

variable {meter now}

/-- At this time all ticks have come that were due, and no others. -/
structure IsCurrent (meter : Meter Number) (now : Int) : Prop where
  ticked : meter.lastTick ≤ now
  early : now < meter.lastTick + tickInterval

theorem isCurrent_tickUntil (ticked : meter.lastTick ≤ now) :
    (tickUntil now meter).IsCurrent now := by
  fun_induction tickUntil now meter with
  | case1 meter due inductionHypothesis => exact inductionHypothesis due
  | case2 meter early => exact ⟨ticked, Int.lt_of_not_ge early⟩

/-- A running meter is current after a use. -/
theorem IsCurrent.useTicked {before : Int} (current : meter.IsCurrent before)
    (later : before ≤ now) (running : ¬ meter.isStopped) (use : Use) :
    (meter.useTicked now use).IsCurrent now := by
  obtain ⟨ticked, early⟩ := isCurrent_tickUntil (current.ticked.trans later)
  rw [Meter.useTicked, if_neg running]
  cases use <;> exact ⟨ticked, early⟩

/-! ### Stopped meters -/

theorem use_of_isStopped (stopped : meter.isStopped) (now : Int) (use : Use) :
    meter.use now use = meter := by
  cases use with
  | mark events | stop => exact if_pos stopped
  | read =>
    obtain ⟨time, found⟩ := Option.isSome_iff_exists.1 stopped
    simp only [Meter.use, snapshot, found]

theorem useAll_concat (meter : Meter Number) (uses : List (Int × Use)) (now : Int) (use : Use) :
    meter.useAll (uses ++ [(now, use)]) = (meter.useAll uses).use now use := by
  rw [useAll, List.foldl_append]
  rfl

/-- A reading shows the meter as the reading leaves it. -/
theorem fst_snapshot (meter : Meter Number) (now : Int) :
    (meter.snapshot now).1 = (meter.use now .read).readingAt (meter.stoppedAt.getD now) := by
  rw [Meter.use, snapshot]
  cases meter.stoppedAt <;> rfl

theorem useTicked_of_isStopped (stopped : meter.isStopped) (now : Int) (use : Use) :
    meter.useTicked now use = meter :=
  if_pos stopped

theorem useAll_of_isStopped (stopped : meter.isStopped) (uses : List (Int × Use)) :
    meter.useAll uses = meter :=
  List.foldl_fixed' (fun timed => use_of_isStopped stopped timed.1 timed.2) uses

theorem useAllTicked_of_isStopped (stopped : meter.isStopped) (uses : List (Int × Use)) :
    meter.useAllTicked uses = meter :=
  List.foldl_fixed' (fun timed => useTicked_of_isStopped stopped timed.1 timed.2) uses

end OneAtATime

/-! ### Several ticks at once -/

variable {Number : Type} [Field Number]

/-- The average after ticks that see no events: each shrinks the rate by the same factor. -/
def Average.shrunk (average : Average Number) (ticks : Nat) : Average Number :=
  { average with rate := average.rate * (1 - average.alpha) ^ ticks }

open Exact

variable [LinearOrder Number] [FloorSemiring Number]

namespace Average

variable (average : Average Number)

theorem currentRate_of_idle (idle : average.uncounted = 0) : average.currentRate = 0 := by
  have zero : (Arithmetic.ofInt average.uncounted.toInt : Number) = 0 := by
    rw [idle]
    exact Int.cast_zero
  rw [currentRate, zero]
  exact zero_div _

theorem tick_of_idle (started : average.started = true) (idle : average.uncounted = 0) :
    average.tick = average.shrunk 1 := by
  have rate : average.rate + average.alpha * (average.currentRate - average.rate) =
      average.rate * (1 - average.alpha) ^ 1 := by
    rw [average.currentRate_of_idle idle]
    ring
  unfold tick shrunk
  dsimp only
  rw [if_pos started, rate, ← idle, ← started]

theorem iterate_tick_of_idle (started : average.started = true) (idle : average.uncounted = 0)
    (ticks : Nat) : tick^[ticks] average = average.shrunk ticks := by
  induction ticks generalizing average with
  | zero =>
    rw [shrunk, pow_zero, mul_one]
    rfl
  | succ ticks inductionHypothesis =>
    rw [Function.iterate_succ_apply, average.tick_of_idle started idle,
      inductionHypothesis (average.shrunk 1) started idle, shrunk, shrunk, shrunk, pow_one,
      pow_succ', mul_assoc]

/-- Of several ticks the first starts the average and takes in all that was gathered; the others
shrink the rate. -/
theorem iterate_succ_tick (further : Nat) :
    tick^[further + 1] average = average.tick.shrunk further := by
  rw [Function.iterate_succ_apply, iterate_tick_of_idle _ rfl rfl]

theorem signed32_of_lt {count : Nat} (small : count < 2 ^ 31) : signed32 count = count :=
  Int32.toInt_ofNat_of_lt small

/-- Several ticks at once are single ticks. -/
theorem tickMany_eq_iterate {ticks : Nat} (few : ticks ≤ 2 ^ 31) :
    average.tickMany ticks = tick^[ticks] average := by
  cases ticks with
  | zero => rfl
  | succ further =>
    rw [iterate_succ_tick, shrunk, tickMany, if_neg (Nat.succ_ne_zero further)]
    dsimp only
    split
    · rename_i single
      rw [Nat.succ.inj single, pow_zero, mul_one]
    · rw [Nat.add_sub_cancel, signed32_of_lt few, power_eq_zpow, zpow_natCast, ofNat_eq,
        Nat.cast_one]

end Average

variable {meter : Meter Number} {before now : Int}

/-- Applying the ticks that have come due is ticking once for every interval that has passed. -/
theorem catchUp_eq_iterate (few : meter.passed now ≤ 2 ^ 31) :
    meter.catchUp now = tick^[meter.passed now] meter := by
  have due : meter.dueTicks now = meter.passed now := Nat.min_eq_left (few.trans (by decide))
  rw [iterate_tick, catchUp, due]
  split
  · rename_i zero
    rw [zero, Nat.cast_zero, zero_mul, add_zero]
    rfl
  · simp only [Average.tickMany_eq_iterate _ few]

/-! ### Runs -/

/-- A run at times of which none lies before the one before it, and fewer than `2 ^ 31` intervals
after it. -/
def IsPaced (before : Int) : List (Int × Use) → Prop
  | [] => True
  | timed :: rest =>
    before ≤ timed.1 ∧ timed.1 - before < 2 ^ 31 * tickInterval ∧ IsPaced timed.1 rest

namespace IsCurrent

variable (current : meter.IsCurrent before)

include current

theorem catchUp_eq_tickUntil (later : before ≤ now) (near : now - before < 2 ^ 31 * tickInterval) :
    meter.catchUp now = tickUntil now meter := by
  obtain ⟨ticked, early⟩ := current
  have few : meter.passed now ≤ 2 ^ 31 := Nat.le_of_lt_succ (Nat.div_lt_of_lt_mul (by omega))
  rw [catchUp_eq_iterate few, tickUntil_eq_iterate]

/-- A use of a current meter is one of a meter that is ticked one tick at a time. -/
theorem use_eq_useTicked (later : before ≤ now) (near : now - before < 2 ^ 31 * tickInterval)
    (use : Use) : meter.use now use = meter.useTicked now use := by
  have caughtUp := current.catchUp_eq_tickUntil later near
  by_cases stopped : meter.isStopped
  · rw [use_of_isStopped stopped, useTicked_of_isStopped stopped]
  · rw [Meter.useTicked, if_neg stopped, ← caughtUp]
    cases use with
    | mark events | stop => exact if_neg stopped
    | read =>
      have running : meter.stoppedAt = none := Option.not_isSome_iff_eq_none.1 stopped
      simp only [Meter.use, snapshot, running]

/-- A run of a current meter is one of a meter that is ticked one tick at a time. -/
theorem useAll_eq_useAllTicked {uses : List (Int × Use)} (paced : IsPaced before uses) :
    meter.useAll uses = meter.useAllTicked uses := by
  induction uses generalizing meter before with
  | nil => rfl
  | cons timed rest inductionHypothesis =>
    obtain ⟨later, near, pacedRest⟩ := paced
    by_cases stopped : meter.isStopped
    · rw [useAll_of_isStopped stopped, useAllTicked_of_isStopped stopped]
    · have next := inductionHypothesis (current.useTicked later stopped timed.2) pacedRest
      exact (congrArg (useAll · rest) (current.use_eq_useTicked later near timed.2)).trans next

end IsCurrent

end Telemetry.Meter
