/-
This file holds the schedule of periodic work. Work falls due at deadlines that
lie one interval apart, the first of them one interval after the start. Work
that is done on time or a little late leaves the later deadlines where they
were; work that is done much later skips the deadlines that have passed, and
goes on at the next one in the old rhythm. Once the schedule is cancelled no
more work is done, even if some is due.
-/

import Telemetry.Duration

namespace Telemetry.Statsd

/-! ### Deadlines -/

/-- Nanoseconds in a millisecond. -/
def perMillisecond : Nat :=
  1000000

/-- How far apart deadlines lie: at least a millisecond. -/
structure Interval where
  nanoseconds : Nat
  atLeast : perMillisecond ≤ nanoseconds

namespace Interval

/-- The interval of the given length, or of a millisecond if that is longer. -/
def ofDuration (duration : Duration) : Interval :=
  ⟨max duration.nanoseconds perMillisecond, Nat.le_max_right _ _⟩

theorem positive (interval : Interval) : 0 < interval.nanoseconds :=
  Nat.lt_of_lt_of_le (by decide) interval.atLeast

/-- How late work may be done without skipping deadlines. -/
def tolerance : Nat :=
  5 * perMillisecond

/-- The deadline after `deadline` for work that was done at `done`. -/
def next (interval : Interval) (deadline done : Nat) : Nat :=
  if done ≤ deadline + tolerance then deadline + interval.nanoseconds
  else done + interval.nanoseconds - (done - deadline) % interval.nanoseconds

/-- Deadlines move forward. -/
theorem lt_next (interval : Interval) (deadline done : Nat) :
    deadline < interval.next deadline done := by
  have positive := interval.positive
  have small := Nat.mod_lt (done - deadline) positive
  unfold next
  split <;> omega

/-- The next deadline is a whole number of intervals later. -/
theorem exists_next_eq (interval : Interval) {deadline done : Nat} (reached : deadline ≤ done) :
    ∃ skipped, interval.next deadline done = deadline + (skipped + 1) * interval.nanoseconds := by
  unfold next
  split
  · exact ⟨0, by rw [Nat.zero_add, Nat.one_mul]⟩
  · refine ⟨(done - deadline) / interval.nanoseconds, ?_⟩
    have parts := Nat.div_add_mod' (done - deadline) interval.nanoseconds
    have small := Nat.mod_lt (done - deadline) interval.positive
    rw [Nat.add_mul, Nat.one_mul]
    omega

/-- No deadline is skipped that has not come when the work is done. -/
theorem next_le (interval : Interval) {deadline done : Nat} (reached : deadline ≤ done) :
    interval.next deadline done ≤ done + interval.nanoseconds := by
  unfold next
  split <;> omega

end Interval

/-! ### The schedule -/

/-- A schedule with the time that it has reached, in nanoseconds. -/
structure Schedule where
  interval : Interval
  deadline : Nat
  now : Nat
  cancelled : Bool
  running : Bool

namespace Schedule

/-- A schedule that starts now. -/
def starting (interval : Interval) (now : Nat) : Schedule where
  interval := interval
  deadline := now + interval.nanoseconds
  now := now
  cancelled := false
  running := true

/-- Whether work is done if it falls due. -/
def isLive (schedule : Schedule) : Bool :=
  schedule.running && !schedule.cancelled

/-- Let the clock show another time. What falls due by that is not done yet. -/
def setTime (schedule : Schedule) (now : Nat) : Schedule :=
  { schedule with now }

/-- Ask for the end. -/
def cancel (schedule : Schedule) : Schedule :=
  { schedule with cancelled := true }

/-- The schedule once the work that is due has been done. -/
def serve (schedule : Schedule) : Schedule :=
  { schedule with deadline := schedule.interval.next schedule.deadline schedule.now }

/-- The schedule once nothing is left to be done now: it stops if it is cancelled. -/
def rest (schedule : Schedule) : Schedule :=
  { schedule with running := schedule.isLive }

/-- Do all work that is due. The answer holds the times at which work was done. -/
def settle (schedule : Schedule) : List Nat × Schedule :=
  if schedule.isLive ∧ schedule.deadline ≤ schedule.now then
    let (times, settled) := schedule.serve.settle
    (schedule.now :: times, settled)
  else ([], schedule.rest)
termination_by schedule.now + 1 - schedule.deadline
decreasing_by
  have forward := schedule.interval.lt_next schedule.deadline schedule.now
  simp only [serve]
  omega

/-- Let time pass up to `target`, and do all work at its deadline. The answer holds the times at
which work was done. -/
def passTo (target : Nat) (schedule : Schedule) : List Nat × Schedule :=
  if schedule.isLive ∧ schedule.deadline ≤ target then
    let reached := schedule.setTime (max schedule.now schedule.deadline)
    let (times, passed) := passTo target reached.serve
    (reached.now :: times, passed)
  else ([], (schedule.setTime (max schedule.now target)).rest)
termination_by target + 1 - schedule.deadline
decreasing_by
  have forward :=
    schedule.interval.lt_next schedule.deadline (max schedule.now schedule.deadline)
  simp only [serve, setTime]
  omega

/-- What happens to a schedule. Time passes, so that all work is done at its deadline; or the clock
jumps, and work that falls due meanwhile is done late; or somebody asks for the end. -/
inductive Event
  | pass (duration : Duration)
  | jump (duration : Duration)
  | cancel
deriving DecidableEq, Repr

/-- The schedule after an event, and the times at which work was done. -/
def respond (schedule : Schedule) : Event → List Nat × Schedule
  | .pass duration => schedule.passTo (schedule.now + duration.nanoseconds)
  | .jump duration => (schedule.setTime (schedule.now + duration.nanoseconds)).settle
  | .cancel => schedule.cancel.settle

/-- The schedule after a course of events, and the times at which work was done. -/
def run (schedule : Schedule) : List Event → List Nat × Schedule
  | [] => ([], schedule)
  | event :: rest =>
    let (times, next) := schedule.respond event
    let (later, final) := next.run rest
    (times ++ later, final)

end Schedule

end Telemetry.Statsd
