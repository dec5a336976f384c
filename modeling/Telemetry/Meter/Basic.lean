/-
This file holds meters. A meter counts events and keeps three moving averages of
their rate, over one, five and fifteen minutes. No clock drives the averages:
whenever the meter is used, the ticks that have come due since the last use are
applied first. A stopped meter ignores events and always reads as it did when it
was stopped.
-/

import Telemetry.Meter.Average

namespace Telemetry

/-- A meter. Times are in nanoseconds. -/
structure Meter (Number : Type) where
  count : Int64
  oneMinute : Meter.Average Number
  fiveMinutes : Meter.Average Number
  fifteenMinutes : Meter.Average Number
  start : Int
  lastTick : Int
  stoppedAt : Option Int
deriving Repr

namespace Meter

/-- What a meter shows when it is read. -/
structure Snapshot (Number : Type) where
  count : Int64
  rate1 : Number
  rate5 : Number
  rate15 : Number
  meanRate : Number
deriving Repr

/-- Nanoseconds between two ticks. -/
def tickInterval : Nat :=
  tickSeconds * 1000000000

/-- The most ticks that are applied at once. -/
def mostTicks : Nat :=
  Nat.pow 2 32 - 1

section Numbers

variable {Number : Type} [Arithmetic Number]

/-- A meter that starts now, with the given shares for its three averages. -/
def starting (alpha1 alpha5 alpha15 : Number) (now : Int) : Meter Number where
  count := 0
  oneMinute := .idle alpha1
  fiveMinutes := .idle alpha5
  fifteenMinutes := .idle alpha15
  start := now
  lastTick := now
  stoppedAt := none

/-- Whether the meter has been stopped. -/
def isStopped (meter : Meter Number) : Bool :=
  meter.stoppedAt.isSome

/-- How many ticks have come due by `now` and are applied. -/
def dueTicks (meter : Meter Number) (now : Int) : Nat :=
  min ((now - meter.lastTick).toNat / tickInterval) mostTicks

/-- Apply the ticks that have come due. -/
def catchUp (meter : Meter Number) (now : Int) : Meter Number :=
  let ticks := meter.dueTicks now
  if ticks = 0 then meter
  else
    { meter with
      oneMinute := meter.oneMinute.tickMany ticks
      fiveMinutes := meter.fiveMinutes.tickMany ticks
      fifteenMinutes := meter.fifteenMinutes.tickMany ticks
      lastTick := meter.lastTick + ticks * tickInterval }

/-- Count events, and gather them for the next tick. -/
def gather (meter : Meter Number) (events : Int64) : Meter Number :=
  { meter with
    count := meter.count + events
    oneMinute := meter.oneMinute.gather events
    fiveMinutes := meter.fiveMinutes.gather events
    fifteenMinutes := meter.fifteenMinutes.gather events }

/-- Mark events, unless the meter is stopped. -/
def mark (meter : Meter Number) (now : Int) (events : Int64) : Meter Number :=
  if meter.isStopped then meter else (meter.catchUp now).gather events

/-- What the meter shows for the time up to `now`. -/
def readingAt (meter : Meter Number) (now : Int) : Snapshot Number :=
  let elapsed : Number := Arithmetic.secondsOf (now - meter.start).toNat
  let zero : Number := Arithmetic.ofNat 0
  { count := meter.count
    rate1 := meter.oneMinute.rate
    rate5 := meter.fiveMinutes.rate
    rate15 := meter.fifteenMinutes.rate
    meanRate :=
      if Arithmetic.less zero elapsed then Arithmetic.ofInt meter.count.toInt / elapsed else zero }

/-- Read the meter. Reading applies the ticks that have come due, unless the meter is stopped. -/
def snapshot (meter : Meter Number) (now : Int) : Snapshot Number × Meter Number :=
  match meter.stoppedAt with
  | some stopped => (meter.readingAt stopped, meter)
  | none =>
    let current := meter.catchUp now
    (current.readingAt now, current)

/-- Stop the meter, if it is not stopped already. -/
def stop (meter : Meter Number) (now : Int) : Meter Number :=
  if meter.isStopped then meter
  else { meter.catchUp now with stoppedAt := some now }

end Numbers

/-- A meter that starts now and averages over one, five and fifteen minutes. -/
def startingAt (now : Int) : Meter Float :=
  starting (alphaForMinutes 1.0) (alphaForMinutes 5.0) (alphaForMinutes 15.0) now

end Meter

end Telemetry
