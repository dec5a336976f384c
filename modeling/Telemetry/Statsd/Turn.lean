/-
This file holds the loop turn by turn, with all that may come between two turns:
the clock moves on, somebody asks for the end, metrics are filed and used. In
its turn the loop first looks whether it shall end and only then at its deadline,
and it sends at most once. That a deadline is noticed late means that there is no
turn until then. Which deadlines are skipped is left open, so that facts about
turns hold of every timer that keeps a rhythm.
-/

import Telemetry.Operation
import Telemetry.Statsd.Loop

namespace Telemetry.Statsd

/-- How a timer goes on from a deadline when its work is done: by a whole number of intervals, and
without skipping a deadline that has not come. -/
structure Rhythm where
  next : Interval → Nat → Nat → Nat
  inStep : ∀ (interval : Interval) (deadline done : Nat), deadline ≤ done →
    ∃ skipped, next interval deadline done = deadline + (skipped + 1) * interval.nanoseconds
  soon : ∀ (interval : Interval) (deadline done : Nat), deadline ≤ done →
    next interval deadline done ≤ done + interval.nanoseconds

/-- The rhythm of the schedule: work that is a little late skips nothing. -/
def Rhythm.tolerant : Rhythm where
  next := Interval.next
  inStep interval _ _ := interval.exists_next_eq
  soon interval _ _ := interval.next_le

/-- A loop and the store that it sends from, as they are at one time. -/
structure Moment where
  loop : Loop
  store : Store

namespace Moment

/-- What the clock of the loop shows. -/
def time (moment : Moment) : Nat :=
  moment.loop.schedule.now

/-- The moment with another schedule. -/
def withSchedule (moment : Moment) (schedule : Schedule) : Moment :=
  { moment with loop := { moment.loop with schedule } }

/-- Send all metrics, and take the next deadline. -/
def send (rhythm : Rhythm) (moment : Moment) : Moment :=
  let schedule := moment.loop.schedule
  let deadline := rhythm.next schedule.interval schedule.deadline schedule.now
  let (emitter, store) := moment.loop.emitter.emitOnce moment.store
  ⟨⟨{ schedule with deadline }, emitter⟩, store⟩

/-- End the loop. -/
def finish (moment : Moment) : Moment :=
  ⟨⟨moment.loop.schedule.rest, moment.loop.emitter⟩, moment.store.note .emitterStopped⟩

/-- One turn of the loop. The answer holds the moments in which all metrics are sent: this one or
none. -/
def turn (rhythm : Rhythm) (moment : Moment) : List Moment × Moment :=
  let schedule := moment.loop.schedule
  if !schedule.running then ([], moment)
  else if schedule.cancelled then ([], moment.finish)
  else if schedule.deadline ≤ schedule.now then ([moment], moment.send rhythm)
  else ([], moment)

/-- What may happen next. -/
inductive Step
  | wait (duration : Duration)
  | cancel
  | perform (operation : Operation)
  | turn

/-- The moment after a step, and the moments in which all metrics are sent. -/
def step (rhythm : Rhythm) (moment : Moment) : Step → List Moment × Moment
  | .wait duration =>
    let schedule := moment.loop.schedule
    ([], moment.withSchedule (schedule.setTime (schedule.now + duration.nanoseconds)))
  | .cancel => ([], moment.withSchedule moment.loop.schedule.cancel)
  | .perform operation => ([], { moment with store := moment.store.perform operation })
  | .turn => moment.turn rhythm

/-- The moment after a course of steps, and the moments in which all metrics are sent. -/
def run (rhythm : Rhythm) (moment : Moment) : List Step → List Moment × Moment
  | [] => ([], moment)
  | step :: rest =>
    let (sent, next) := moment.step rhythm step
    let (later, last) := next.run rhythm rest
    (sent ++ later, last)

end Moment

end Telemetry.Statsd
