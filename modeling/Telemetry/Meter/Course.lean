/-
This file holds courses of a meter: what becomes of it while it is used at one
time after the other. Beside the course of the meter itself, which applies ticks
in bulk when it is used, there is that of a meter whose averages are ticked one
interval at a time.
-/

import Telemetry.Meter.Basic

namespace Telemetry.Meter

/-- What is done with a meter. -/
inductive Use
  | mark (events : Int64)
  | read
  | stop
deriving DecidableEq, Repr

variable {Number : Type} [Arithmetic Number]

/-! ### The meter itself -/

/-- The meter after a use. -/
def use (meter : Meter Number) (now : Int) : Use → Meter Number
  | .mark events => meter.mark now events
  | .read => (meter.snapshot now).2
  | .stop => meter.stop now

/-- The meter after uses at given times. -/
def useAll (meter : Meter Number) (uses : List (Int × Use)) : Meter Number :=
  uses.foldl (fun current timed => current.use timed.1 timed.2) meter

/-! ### One tick at a time -/

/-- One tick of all averages. -/
def tick (meter : Meter Number) : Meter Number :=
  { meter with
    oneMinute := meter.oneMinute.tick
    fiveMinutes := meter.fiveMinutes.tick
    fifteenMinutes := meter.fifteenMinutes.tick
    lastTick := meter.lastTick + tickInterval }

/-- The meter once all ticks up to `now` have come. -/
def tickUntil (now : Int) (meter : Meter Number) : Meter Number :=
  if meter.lastTick + tickInterval ≤ now then tickUntil now meter.tick else meter
termination_by (now - meter.lastTick).toNat
decreasing_by
  have positive : 0 < tickInterval := by decide
  simp only [tick]
  omega

/-- The meter after a use, if every tick comes at its time. -/
def useTicked (meter : Meter Number) (now : Int) (use : Use) : Meter Number :=
  if meter.isStopped then meter
  else
    let current := tickUntil now meter
    match use with
    | .mark events => current.gather events
    | .read => current
    | .stop => { current with stoppedAt := some now }

/-- The meter after uses at given times, if every tick comes at its time. -/
def useAllTicked (meter : Meter Number) (uses : List (Int × Use)) : Meter Number :=
  uses.foldl (fun current timed => current.useTicked timed.1 timed.2) meter

end Telemetry.Meter
