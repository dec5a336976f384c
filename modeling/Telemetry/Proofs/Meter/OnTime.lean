/-
This file proves that ticks which are only applied when the meter is used cannot
be told from ticks that come on time. The meter that is ticked on time is told
from the history alone: time falls into intervals from the start of the meter on,
the events of each interval are those that were marked in it, the events of the
last are not yet counted, and the end of each of the others has moved the rates
towards the rate of its own events. A run of the meter itself leaves it as that
meter is at the last use that counts, so only the marks, the stop and that time
matter, and readings in between do not.
-/

import Mathlib.Data.Rat.Floor
import Telemetry.Proofs.Grouping
import Telemetry.Proofs.Meter.Ticks

namespace Telemetry.Meter

/-! ### What a run does -/

/-- The events that a run marks before it stops the meter, with their times. -/
def marksOf : List (Int × Use) → List (Int × Int64)
  | [] => []
  | (now, .mark events) :: rest => (now, events) :: marksOf rest
  | (_, .read) :: rest => marksOf rest
  | (_, .stop) :: _ => []

/-- When a run stops the meter, if it does. -/
def stopOf : List (Int × Use) → Option Int
  | [] => none
  | (_, .mark _) :: rest => stopOf rest
  | (_, .read) :: rest => stopOf rest
  | (now, .stop) :: _ => some now

/-- The time of the last use that counts: when the run stops the meter or else ends. -/
def lastOf (before : Int) : List (Int × Use) → Int
  | [] => before
  | (now, .mark _) :: rest => lastOf now rest
  | (now, .read) :: rest => lastOf now rest
  | (now, .stop) :: _ => now

/-- The use after a run is the last that counts, unless the run has stopped the meter. -/
theorem lastOf_concat (before : Int) (uses : List (Int × Use)) (now : Int) (use : Use) :
    lastOf before (uses ++ [(now, use)]) = (stopOf uses).getD now := by
  induction uses generalizing before with
  | nil => cases use <;> rfl
  | cons timed rest inductionHypothesis =>
    obtain ⟨time, own⟩ := timed
    cases own with
    | mark events | read => exact inductionHypothesis time
    | stop => rfl

/-- Readings mark nothing. -/
theorem marksOf_filter (uses : List (Int × Use)) :
    marksOf (uses.filter (·.2 ≠ .read)) = marksOf uses := by
  fun_induction marksOf uses with
  | case1 => rfl
  | case2 now events rest inductionHypothesis => exact congrArg (_ :: ·) inductionHypothesis
  | case3 now rest inductionHypothesis => exact inductionHypothesis
  | case4 now rest => rfl

/-- Readings stop nothing. -/
theorem stopOf_filter (uses : List (Int × Use)) :
    stopOf (uses.filter (·.2 ≠ .read)) = stopOf uses := by
  fun_induction stopOf uses with
  | case1 => rfl
  | case2 now events rest inductionHypothesis => exact inductionHypothesis
  | case3 now rest inductionHypothesis => exact inductionHypothesis
  | case4 now rest => rfl

theorem marksOf_congr {first second : List (Int × Use)}
    (same : first.filter (·.2 ≠ .read) = second.filter (·.2 ≠ .read)) :
    marksOf first = marksOf second := by
  rw [← marksOf_filter, same, marksOf_filter]

theorem stopOf_congr {first second : List (Int × Use)}
    (same : first.filter (·.2 ≠ .read) = second.filter (·.2 ≠ .read)) :
    stopOf first = stopOf second := by
  rw [← stopOf_filter, same, stopOf_filter]

theorem IsPaced.le_lastOf {before : Int} {uses : List (Int × Use)} (paced : IsPaced before uses) :
    before ≤ lastOf before uses := by
  induction uses generalizing before with
  | nil => exact le_refl before
  | cons timed rest inductionHypothesis =>
    obtain ⟨now, use⟩ := timed
    obtain ⟨later, _, pacedRest⟩ := paced
    cases use with
    | mark events | read => exact later.trans (inductionHypothesis pacedRest)
    | stop => exact later

theorem IsPaced.le_lastOf_of_mem_marksOf {before : Int} {uses : List (Int × Use)}
    (paced : IsPaced before uses) : ∀ mark ∈ marksOf uses, mark.1 ≤ lastOf before uses := by
  induction uses generalizing before with
  | nil => exact nofun
  | cons timed rest inductionHypothesis =>
    obtain ⟨now, use⟩ := timed
    obtain ⟨_, _, pacedRest⟩ := paced
    cases use with
    | mark events =>
      exact List.forall_mem_cons.2 ⟨pacedRest.le_lastOf, inductionHypothesis pacedRest⟩
    | read => exact inductionHypothesis pacedRest
    | stop => exact nofun

/-! ### Ticks on time -/

/-- The number of the interval that a time lies in. When an interval ends the next one begins. -/
def intervalOf (start now : Int) : Nat :=
  (now - start).toNat / tickInterval

/-- The marks in an interval. -/
def marksIn (start : Int) (marks : List (Int × Int64)) (interval : Nat) : List (Int × Int64) :=
  marks.filter fun mark => intervalOf start mark.1 = interval

/-- The events marked in an interval. -/
def eventsIn (start : Int) (marks : List (Int × Int64)) (interval : Nat) : Int64 :=
  ((marksIn start marks interval).map Prod.snd).sum

theorem intervalOf_mono (start : Int) {first second : Int} (ordered : first ≤ second) :
    intervalOf start first ≤ intervalOf start second :=
  Nat.div_le_div_right (by omega)

/-- From one time to a later one so many intervals end. -/
theorem intervalOf_add (start : Int) {first second : Int} (ordered : first ≤ second) :
    intervalOf start first +
        (second - (start + intervalOf start first * tickInterval)).toNat / tickInterval =
      intervalOf start second := by
  have before := intervalOf_mono start ordered
  have fits : intervalOf start first * tickInterval ≤ (second - start).toNat :=
    (Nat.mul_le_mul_right _ before).trans (Nat.div_mul_le_self _ _)
  have since : (second - (start + intervalOf start first * tickInterval)).toNat =
      (second - start).toNat - tickInterval * intervalOf start first := by
    rw [Nat.mul_comm tickInterval]
    omega
  rw [since, Nat.sub_mul_div]
  exact Nat.add_sub_cancel' before

/-- No events are marked in an interval that has not begun. -/
theorem eventsIn_of_later {start now : Int} {marks : List (Int × Int64)}
    (past : ∀ mark ∈ marks, mark.1 ≤ now) {interval : Nat}
    (later : intervalOf start now < interval) : eventsIn start marks interval = 0 := by
  have noMarks : marksIn start marks interval = [] := by
    refine List.filter_eq_nil_iff.2 fun mark member same => ?_
    have early := intervalOf_mono start (past mark member)
    rw [of_decide_eq_true same] at early
    exact Nat.not_le_of_lt later early
  rw [eventsIn, noMarks]
  rfl

theorem eventsIn_concat (start : Int) (marks : List (Int × Int64)) (mark : Int × Int64)
    (interval : Nat) :
    eventsIn start (marks ++ [mark]) interval =
      eventsIn start marks interval + if intervalOf start mark.1 = interval then mark.2 else 0 := by
  rw [eventsIn, marksIn, List.filter_append, List.map_append, List.sum_append, List.filter_cons]
  by_cases here : intervalOf start mark.1 = interval
  · rw [if_pos (decide_eq_true here), if_pos here]
    exact congrArg (_ + ·) (Int64.add_zero mark.2)
  · rw [if_neg (by simpa using here), if_neg here]
    rfl

section AnyArithmetic

variable {Number : Type} [Arithmetic Number]

/-- The events of an interval per second. -/
def perSecond (events : Int64) : Number :=
  (Arithmetic.ofInt events.toInt : Number) / (Arithmetic.ofNat tickSeconds : Number)

/-- The rate when so many intervals with the given events are over. The end of the first sets the
rate to that of its events, and the end of each further one moves it a share of the way to that of
its own. -/
def rateAfter (alpha : Number) (events : Nat → Int64) : Nat → Number
  | 0 => Arithmetic.ofNat 0
  | 1 => perSecond (events 0)
  | interval + 2 =>
    rateAfter alpha events (interval + 1) +
      alpha * (perSecond (events (interval + 1)) - rateAfter alpha events (interval + 1))

/-- In an interval, the average that is ticked once at the end of each interval: its rate comes from
the intervals that are over, and the events of the interval itself are not yet counted. -/
def Average.onTime (alpha : Number) (events : Nat → Int64) (interval : Nat) : Average Number :=
  ⟨alpha, rateAfter alpha events interval, events interval, decide (0 < interval)⟩

/-- At a time, the meter that is ticked at the end of every interval, with these marks so far. -/
def onTime (alpha1 alpha5 alpha15 : Number) (start : Int) (marks : List (Int × Int64)) (now : Int)
    (stoppedAt : Option Int) : Meter Number where
  count := (marks.map Prod.snd).sum
  oneMinute := .onTime alpha1 (eventsIn start marks) (intervalOf start now)
  fiveMinutes := .onTime alpha5 (eventsIn start marks) (intervalOf start now)
  fifteenMinutes := .onTime alpha15 (eventsIn start marks) (intervalOf start now)
  start := start
  lastTick := start + intervalOf start now * tickInterval
  stoppedAt := stoppedAt

/-- The averages of a meter. -/
def averages (meter : Meter Number) : List (Average Number) :=
  [meter.oneMinute, meter.fiveMinutes, meter.fifteenMinutes]

/-- The rate comes from the intervals that are over only. -/
theorem rateAfter_congr {alpha : Number} {first second : Nat → Int64} {interval : Nat}
    (same : ∀ earlier < interval, first earlier = second earlier) :
    rateAfter alpha first interval = rateAfter alpha second interval := by
  fun_induction rateAfter alpha first interval with
  | case1 => rfl
  | case2 => rw [rateAfter, same 0 Nat.one_pos]
  | case3 interval inductionHypothesis =>
    have before := inductionHypothesis fun earlier early => same earlier (Nat.lt_succ_of_lt early)
    rw [rateAfter, same _ (Nat.lt_succ_self _), before]

namespace Average

/-- Events may be gathered late in their interval. -/
theorem gather_onTime {alpha : Number} {events all : Nat → Int64} {interval : Nat} {added : Int64}
    (here : all interval = events interval + added)
    (elsewhere : ∀ earlier < interval, all earlier = events earlier) :
    (onTime alpha events interval).gather added = onTime alpha all interval := by
  rw [gather, onTime, onTime, here, rateAfter_congr elsewhere]

/-- A tick at the end of an interval counts the events of that interval. -/
theorem tick_onTime {alpha : Number} {events : Nat → Int64} {interval : Nat}
    (quiet : events (interval + 1) = 0) :
    (onTime alpha events interval).tick = onTime alpha events (interval + 1) := by
  rw [onTime, onTime, quiet]
  cases interval with
  | zero => rfl
  | succ interval => rfl

/-- Intervals without events are ticks. -/
theorem iterate_tick_onTime {alpha : Number} {events : Nat → Int64} {interval : Nat}
    (quiet : ∀ later, interval < later → events later = 0) (ticks : Nat) :
    tick^[ticks] (onTime alpha events interval) = onTime alpha events (interval + ticks) := by
  induction ticks with
  | zero => rfl
  | succ ticks inductionHypothesis =>
    rw [Function.iterate_succ_apply', inductionHypothesis]
    exact tick_onTime (quiet _ (by omega))

end Average

/-! ### The meter that is ticked on time -/

variable {alpha1 alpha5 alpha15 : Number} {start before now : Int} {marks : List (Int × Int64)}

theorem isCurrent_onTime (begun : start ≤ now) (stoppedAt : Option Int) :
    (onTime alpha1 alpha5 alpha15 start marks now stoppedAt).IsCurrent now := by
  have whole := Nat.div_add_mod' (now - start).toNat tickInterval
  have rest := Nat.mod_lt (now - start).toNat tickInterval_pos
  constructor
  · show start + intervalOf start now * tickInterval ≤ now
    rw [intervalOf]
    omega
  · show now < start + intervalOf start now * tickInterval + tickInterval
    rw [intervalOf]
    omega

/-- When time goes on, the ticks that come are those at the ends of the intervals. -/
theorem tickUntil_onTime (past : ∀ mark ∈ marks, mark.1 ≤ before)
    (later : before ≤ now) :
    tickUntil now (onTime alpha1 alpha5 alpha15 start marks before none) =
      onTime alpha1 alpha5 alpha15 start marks now none := by
  have quiet (interval : Nat) (unbegun : intervalOf start before < interval) :
      eventsIn start marks interval = 0 := eventsIn_of_later past unbegun
  have reached := intervalOf_add start later
  rw [tickUntil_eq_iterate, iterate_tick]
  simp only [onTime, passed, Average.iterate_tick_onTime quiet, reached]
  rw [add_assoc, ← add_mul, ← Nat.cast_add, reached]

/-- Events that are marked at a time go into the interval that it lies in. -/
theorem gather_onTime (events : Int64) :
    (onTime alpha1 alpha5 alpha15 start marks now none).gather events =
      onTime alpha1 alpha5 alpha15 start (marks ++ [(now, events)]) now none := by
  have average (alpha : Number) :
      (Average.onTime alpha (eventsIn start marks) (intervalOf start now)).gather events =
        Average.onTime alpha (eventsIn start (marks ++ [(now, events)]))
          (intervalOf start now) := by
    refine Average.gather_onTime ?_ fun earlier early => ?_
    · rw [eventsIn_concat, if_pos rfl]
    · rw [eventsIn_concat, if_neg (Nat.ne_of_gt early), Int64.add_zero]
  have count : (marks.map Prod.snd).sum + events =
      ((marks ++ [(now, events)]).map Prod.snd).sum := by
    rw [List.map_append, List.sum_append, List.map_singleton, List.sum_singleton]
  simp only [gather, onTime, average, count]

/-- A meter that starts is on time. -/
theorem onTime_start (start : Int) :
    onTime alpha1 alpha5 alpha15 start [] start none = starting alpha1 alpha5 alpha15 start := by
  have first : intervalOf start start = 0 := by
    rw [intervalOf, sub_self]
    rfl
  rw [onTime, first, Nat.cast_zero, zero_mul, add_zero]
  rfl

/-- A use of a meter that is on time leaves it on time. -/
theorem useTicked_onTime (past : ∀ mark ∈ marks, mark.1 ≤ before) (later : before ≤ now)
    (use : Use) :
    (onTime alpha1 alpha5 alpha15 start marks before none).useTicked now use =
      onTime alpha1 alpha5 alpha15 start (marks ++ marksOf [(now, use)]) now
        (stopOf [(now, use)]) := by
  have running :
      ¬ (onTime alpha1 alpha5 alpha15 start marks before none).isStopped := Bool.false_ne_true
  rw [Meter.useTicked, if_neg running, tickUntil_onTime past later]
  cases use with
  | mark events => exact gather_onTime events
  | read =>
    rw [marksOf, marksOf, List.append_nil]
    rfl
  | stop =>
    rw [marksOf, List.append_nil]
    rfl

/-- A run of a meter that is on time leaves it on time. -/
theorem useAllTicked_onTime (past : ∀ mark ∈ marks, mark.1 ≤ before) {uses : List (Int × Use)}
    (paced : IsPaced before uses) :
    (onTime alpha1 alpha5 alpha15 start marks before none).useAllTicked uses =
      onTime alpha1 alpha5 alpha15 start (marks ++ marksOf uses) (lastOf before uses)
        (stopOf uses) := by
  -- the run goes on with the marks made so far, from the time of the last use
  induction uses generalizing marks before with
  | nil =>
    rw [marksOf, List.append_nil]
    rfl
  | cons timed rest inductionHypothesis =>
    obtain ⟨now, use⟩ := timed
    obtain ⟨later, _, pacedRest⟩ := paced
    have pastMarks : ∀ mark ∈ marks, mark.1 ≤ now := fun mark member =>
      (past mark member).trans later
    refine (congrArg (useAllTicked · rest) (useTicked_onTime past later use)).trans ?_
    cases use with
    | mark events =>
      have pastAll : ∀ mark ∈ marks ++ [(now, events)], mark.1 ≤ now :=
        List.forall_mem_append.2 ⟨pastMarks, List.forall_mem_singleton.2 (le_refl now)⟩
      refine (inductionHypothesis pastAll pacedRest).trans ?_
      rw [List.append_assoc]
      rfl
    | read =>
      rw [marksOf, marksOf, List.append_nil]
      exact inductionHypothesis pastMarks pacedRest
    | stop => exact useAllTicked_of_isStopped rfl rest

theorem useAllTicked_starting (alpha1 alpha5 alpha15 : Number) {start : Int}
    {uses : List (Int × Use)} (paced : IsPaced start uses) :
    (starting alpha1 alpha5 alpha15 start).useAllTicked uses =
      onTime alpha1 alpha5 alpha15 start (marksOf uses) (lastOf start uses) (stopOf uses) := by
  have past : ∀ mark ∈ ([] : List (Int × Int64)), mark.1 ≤ start := nofun
  rw [← onTime_start]
  exact useAllTicked_onTime past paced

theorem isCurrent_starting (alpha1 alpha5 alpha15 : Number) (start : Int) :
    (starting alpha1 alpha5 alpha15 start).IsCurrent start := by
  rw [← onTime_start]
  exact isCurrent_onTime (le_refl start) none

end AnyArithmetic

/-! ### Late ticks -/

/-- Every mark of a run lies in one of the intervals up to its last use that counts. -/
theorem perm_marksIn {start : Int} {uses : List (Int × Use)} (paced : IsPaced start uses) :
    ((List.range (intervalOf start (lastOf start uses) + 1)).flatMap
      (marksIn start (marksOf uses))).Perm (marksOf uses) := by
  refine perm_flatMap_filter (fun mark : Int × Int64 => intervalOf start mark.1)
    List.nodup_range ?_
  intro mark member
  have early := intervalOf_mono start (paced.le_lastOf_of_mem_marksOf mark member)
  exact List.mem_range.2 (Nat.lt_succ_of_le early)

/-- The events of the intervals together are all that were marked. -/
theorem sum_eventsIn {start : Int} {uses : List (Int × Use)} (paced : IsPaced start uses) :
    ((List.range (intervalOf start (lastOf start uses) + 1)).map
      (eventsIn start (marksOf uses))).sum = ((marksOf uses).map Prod.snd).sum := by
  have every := ((perm_marksIn paced).map Prod.snd).foldr_eq (f := fun x y : Int64 => x + y) 0
  rw [← List.sum_eq_foldr, ← List.sum_eq_foldr, List.map_flatMap, List.flatMap_def,
    List.sum_flatten, List.map_map] at every
  exact every

open Exact

variable {Number : Type} [Field Number] [LinearOrder Number] [FloorSemiring Number]
  {alpha1 alpha5 alpha15 : Number} {start now : Int} {uses others : List (Int × Use)} {use : Use}

theorem useAll_starting (paced : IsPaced start uses) :
    (starting alpha1 alpha5 alpha15 start).useAll uses =
      onTime alpha1 alpha5 alpha15 start (marksOf uses) (lastOf start uses) (stopOf uses) := by
  have current := isCurrent_starting alpha1 alpha5 alpha15 start
  rw [current.useAll_eq_useAllTicked paced, useAllTicked_starting alpha1 alpha5 alpha15 paced]

theorem isCurrent_use_starting (running : stopOf uses = none)
    (paced : IsPaced start (uses ++ [(now, use)])) :
    (((starting alpha1 alpha5 alpha15 start).useAll uses).use now use).IsCurrent now := by
  have begun := paced.le_lastOf
  rw [← useAll_concat, useAll_starting paced]
  rw [lastOf_concat, running] at begun ⊢
  exact isCurrent_onTime begun _

/-- A reading shows what the meter shows that is ticked on time. -/
theorem snapshot_starting (pacedUses : IsPaced start uses)
    (paced : IsPaced start (uses ++ [(now, .read)])) :
    (((starting alpha1 alpha5 alpha15 start).useAll uses).snapshot now).1 =
      (onTime alpha1 alpha5 alpha15 start (marksOf uses) ((stopOf uses).getD now)
        (stopOf uses)).readingAt ((stopOf uses).getD now) := by
  have stopped : ((starting alpha1 alpha5 alpha15 start).useAll uses).stoppedAt = stopOf uses :=
    congrArg stoppedAt (useAll_starting pacedUses)
  have silent : (uses ++ [(now, Use.read)]).filter (·.2 ≠ .read) = uses.filter (·.2 ≠ .read) := by
    rw [List.filter_append]
    exact List.append_nil _
  rw [fst_snapshot, stopped, ← useAll_concat, useAll_starting paced, lastOf_concat,
    marksOf_congr silent, stopOf_congr silent]

/-- Runs that differ in their readings leave the meter the same if the last use is the same. -/
theorem useAll_starting_congr (same : others.filter (·.2 ≠ .read) = uses.filter (·.2 ≠ .read))
    (pacedUses : IsPaced start (uses ++ [(now, use)]))
    (pacedOthers : IsPaced start (others ++ [(now, use)])) :
    (starting alpha1 alpha5 alpha15 start).useAll (others ++ [(now, use)]) =
      (starting alpha1 alpha5 alpha15 start).useAll (uses ++ [(now, use)]) := by
  have sameAll : (others ++ [(now, use)]).filter (·.2 ≠ .read) =
      (uses ++ [(now, use)]).filter (·.2 ≠ .read) := by
    rw [List.filter_append, same, List.filter_append]
  rw [useAll_starting pacedOthers, useAll_starting pacedUses, marksOf_congr sameAll,
    stopOf_congr sameAll, lastOf_concat, lastOf_concat, stopOf_congr same]

/-- What has entered the ticks and what is yet to be counted is all that was marked: in each average
the rate comes from the events of the intervals that are over, each taken at its end, and uncounted
are those of the interval of the last use that counts. -/
theorem averages_starting (paced : IsPaced start uses) :
    let final := (starting alpha1 alpha5 alpha15 start).useAll uses
    let events := eventsIn start (marksOf uses)
    let interval := intervalOf start (lastOf start uses)
    ∀ average ∈ final.averages,
      average.uncounted = events interval ∧
        average.rate = rateAfter average.alpha events interval ∧
        ((List.range interval).map events).sum + average.uncounted = final.count := by
  intro final events interval
  have punctual : final =
      onTime alpha1 alpha5 alpha15 start (marksOf uses) (lastOf start uses) (stopOf uses) :=
    useAll_starting paced
  have whole : ((List.range interval).map events).sum + events interval = final.count := by
    have known := sum_eventsIn paced
    rw [List.range_succ, List.map_append, List.sum_append, List.map_singleton,
      List.sum_singleton] at known
    rw [punctual]
    exact known
  have three : final.averages =
      [alpha1, alpha5, alpha15].map fun alpha => Average.onTime alpha events interval :=
    congrArg averages punctual
  rw [three]
  exact List.forall_mem_map.2 fun alpha _ => ⟨rfl, rfl, whole⟩

/-- Ticks that come late, when a meter is used, cannot be told from ticks on time. For every run at
times that never go back, with fewer than `2 ^ 31` intervals between two uses, and all shares of the
three averages: the run leaves the meter as the one that is told from the intervals, up to the last
use that counts, and goes through the same states as one that is ticked one tick at a time. Its last
tick was at the end of an interval, the last before the use; a reading shows what the meter shows
that is on time; every mark lies in one of the intervals; the rates come from the events of the
intervals that are over, one tick for each, while those of the last are uncounted; and readings in
between change nothing that comes later. -/
theorem late_ticks_are_invisible (alpha1 alpha5 alpha15 : Number) (start : Int)
    {uses : List (Int × Use)} (paced : IsPaced start uses) :
    let meter := starting alpha1 alpha5 alpha15 start
    let final := meter.useAll uses
    let marks := marksOf uses
    let last := lastOf start uses
    let interval := intervalOf start last
    final = onTime alpha1 alpha5 alpha15 start marks last (stopOf uses) ∧
      final = meter.useAllTicked uses ∧
      final.lastTick = start + interval * tickInterval ∧
      (∀ now use, stopOf uses = none → IsPaced start (uses ++ [(now, use)]) →
        (final.use now use).IsCurrent now) ∧
      (∀ now, IsPaced start (uses ++ [(now, .read)]) →
        let shown := (stopOf uses).getD now
        (final.snapshot now).1 =
          (onTime alpha1 alpha5 alpha15 start marks shown (stopOf uses)).readingAt shown) ∧
      ((List.range (interval + 1)).flatMap (marksIn start marks)).Perm marks ∧
      (∀ average ∈ final.averages,
        average.uncounted = eventsIn start marks interval ∧
          average.rate = rateAfter average.alpha (eventsIn start marks) interval ∧
          ((List.range interval).map (eventsIn start marks)).sum + average.uncounted =
            final.count) ∧
      ∀ others now use, others.filter (·.2 ≠ .read) = uses.filter (·.2 ≠ .read) →
        IsPaced start (uses ++ [(now, use)]) → IsPaced start (others ++ [(now, use)]) →
        meter.useAll (others ++ [(now, use)]) = meter.useAll (uses ++ [(now, use)]) := by
  intro meter final marks last interval
  have current : meter.IsCurrent start := isCurrent_starting alpha1 alpha5 alpha15 start
  have punctual : final = onTime alpha1 alpha5 alpha15 start marks last (stopOf uses) :=
    useAll_starting paced
  exact ⟨punctual, current.useAll_eq_useAllTicked paced, congrArg lastTick punctual,
    fun now use => isCurrent_use_starting, fun now => snapshot_starting paced, perm_marksIn paced,
    averages_starting paced, fun others now use => useAll_starting_congr⟩

/-- Ten events in the first interval, three in the fifth and four in the seventh, of a meter that is
read after the first tick, used again after four and stopped in the seventh interval. Its six ticks
took in thirteen of the events, and four are uncounted. -/
theorem late_ticks_of_seventeen_events :
    let second : Int := 1000000000
    let uses : List (Int × Use) :=
      [(0, .mark 10), (5 * second, .read), (23 * second, .mark 3), (31 * second, .mark 4),
        (34 * second, .stop)]
    let marks : List (Int × Int64) := [(0, 10), (23 * second, 3), (31 * second, 4)]
    let final := (starting (1 / 2 : ℚ) (1 / 4) (1 / 8) 0).useAll uses
    IsPaced 0 uses ∧
      final = onTime (1 / 2) (1 / 4) (1 / 8) 0 marks (34 * second) (some (34 * second)) ∧
      intervalOf 0 (34 * second) = 6 ∧ final.count = 17 ∧ final.oneMinute.uncounted = 4 ∧
      final.oneMinute.rate = 17 / 80 := by
  intro second uses marks final
  have paced : IsPaced 0 uses := by
    simp only [IsPaced, uses]
    decide
  have punctual :
      final = onTime (1 / 2) (1 / 4) (1 / 8) 0 marks (34 * second) (some (34 * second)) :=
    (late_ticks_are_invisible (1 / 2 : ℚ) (1 / 4) (1 / 8) 0 paced).1
  have sixth : intervalOf 0 (34 * second) = 6 := by decide
  have uncounted : eventsIn 0 marks 6 = 4 := by decide
  have events : ∀ interval < 6, eventsIn 0 marks interval = [10, 0, 0, 0, 3].getD interval 0 := by
    decide
  have rate : rateAfter (1 / 2 : ℚ) (eventsIn 0 marks) 6 = 17 / 80 := by
    rw [rateAfter_congr events]
    decide +kernel
  refine ⟨paced, punctual, sixth, ?_, ?_, ?_⟩
  · rw [punctual]
    rfl
  · rw [punctual, onTime, Average.onTime, sixth]
    exact uncounted
  · rw [punctual, onTime, Average.onTime, sixth]
    exact rate

end Telemetry.Meter
