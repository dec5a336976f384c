/-
This file holds the moving average of a rate. Events are gathered and enter the
average at ticks that follow each other every five seconds. At a tick the rate
moves towards the rate of the last five seconds by a fixed share of the
distance; the first tick sets it.
-/

import Telemetry.Arithmetic

namespace Telemetry.Meter

/-- Seconds between two ticks. -/
def tickSeconds : Nat :=
  5

/-- An average that moves a share `alpha` of the way at every tick. -/
structure Average (Number : Type) where
  alpha : Number
  rate : Number
  uncounted : Int64
  started : Bool
deriving Repr

namespace Average

variable {Number : Type} [Arithmetic Number]

/-- An average that has seen nothing. -/
def idle (alpha : Number) : Average Number :=
  ⟨alpha, Arithmetic.ofNat 0, 0, false⟩

/-- Gather events for the next tick. -/
def gather (average : Average Number) (events : Int64) : Average Number :=
  { average with uncounted := average.uncounted + events }

/-- The rate of the events gathered since the last tick, per second. -/
def currentRate (average : Average Number) : Number :=
  (Arithmetic.ofInt average.uncounted.toInt : Number) / (Arithmetic.ofNat tickSeconds : Number)

/-- One tick. -/
def tick (average : Average Number) : Average Number :=
  let current := average.currentRate
  let rate :=
    if average.started then average.rate + average.alpha * (current - average.rate) else current
  { average with rate, uncounted := 0, started := true }

/-- A count as a signed number of 32 bits. -/
def signed32 (count : Nat) : Int :=
  (Int32.ofNat count).toInt

/-- Several ticks at once. All but the first see no events, so each of them only shrinks the rate
by the same factor. -/
def tickMany (average : Average Number) (ticks : Nat) : Average Number :=
  if ticks = 0 then average
  else
    let ticked := average.tick
    if ticks = 1 then ticked
    else
      let factor := Arithmetic.power ((Arithmetic.ofNat 1 : Number) - ticked.alpha)
        (signed32 (ticks - 1))
      { ticked with rate := ticked.rate * factor }

end Average

/-- The share of the distance for an average over the given number of minutes. -/
def alphaForMinutes (minutes : Float) : Float :=
  1.0 - Float.exp (-5.0 / 60.0 / minutes)

end Telemetry.Meter
