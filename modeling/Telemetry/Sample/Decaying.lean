/-
This file holds the reservoir that prefers recent values. Every value gets a
priority that grows exponentially with its age since a landmark, divided by a
draw, and the reservoir keeps the values of highest priority. The kept values
form a heap, so that of several values of the lowest priority the one on top of
the heap makes room. So that priorities do not grow without bound, the landmark
moves on once it lies more than an hour back, and all priorities are scaled down
accordingly. The draws, the time and the exponential function are given from
outside.
-/

import Telemetry.Arithmetic
import Telemetry.Sample.Heap

namespace Telemetry.Sample

/-- A kept value with its priority. -/
structure Weighted (Number : Type) where
  priority : Number
  value : Int64
deriving Repr

/-- Whether the first entry ranks below the second. A priority that is no number ranks below all
numbers. -/
def Weighted.ranksBelow {Number : Type} [Arithmetic Number] (first second : Weighted Number) :
    Bool :=
  Arithmetic.less first.priority second.priority ||
    (!Arithmetic.atMost first.priority first.priority &&
      Arithmetic.atMost second.priority second.priority)

/-- A reservoir that prefers recent values. Times are in nanoseconds. -/
structure Decaying (Number : Type) where
  alpha : Number
  size : Nat
  count : Int64
  landmark : Int
  rescaleAfter : Int
  kept : Heap (Weighted Number)
deriving Repr

namespace Decaying

/-- How far the landmark may lie back, in nanoseconds: an hour. -/
def rescaleInterval : Int :=
  3600000000000

section Numbers

variable {Number : Type} [Arithmetic Number]

/-- The empty reservoir for `size` values with its landmark at `now`. -/
def empty (size : Nat) (alpha : Number) (now : Int) : Decaying Number :=
  ⟨alpha, size, 0, now, now + rescaleInterval, .empty⟩

/-- The seconds from one time to a later one; none if the second is not later. -/
def secondsBetween (start finish : Int) : Number :=
  Arithmetic.secondsOf (finish - start).toNat

/-- The priority of a value that comes at `now`. A draw lies between zero and one, and is never
one. -/
def priorityAt (exp : Number → Number) (draw : Number) (reservoir : Decaying Number) (now : Int) :
    Number :=
  exp (secondsBetween reservoir.landmark now * reservoir.alpha) /
    ((Arithmetic.ofNat 1 : Number) - draw)

/-- Move the landmark to `now` and scale the priorities down. -/
def rescale (exp : Number → Number) (reservoir : Decaying Number) (now : Int) :
    Decaying Number :=
  let factor := exp (-reservoir.alpha * secondsBetween reservoir.landmark now)
  { reservoir with
    landmark := now
    rescaleAfter := now + rescaleInterval
    kept := reservoir.kept.map Weighted.ranksBelow fun entry =>
      { entry with priority := entry.priority * factor } }

/-- Take in a value that comes at `now`, in place of the value of lowest priority if the reservoir
is full. The landmark stays where it is. -/
def insert (exp : Number → Number) (draw : Number) (now : Int) (reservoir : Decaying Number)
    (value : Int64) : Decaying Number :=
  let counted := { reservoir with count := reservoir.count + 1 }
  if reservoir.size = 0 then counted
  else
    let kept :=
      if reservoir.size ≤ reservoir.kept.size then reservoir.kept.pop Weighted.ranksBelow
      else reservoir.kept
    let entry := ⟨reservoir.priorityAt exp draw now, value⟩
    { counted with kept := kept.push Weighted.ranksBelow entry }

/-- Offer a value at `now`. Once it is taken in, the landmark moves if it lies too far back. -/
def update (exp : Number → Number) (draw : Number) (now : Int) (reservoir : Decaying Number)
    (value : Int64) : Decaying Number :=
  let inserted := reservoir.insert exp draw now value
  if 0 < reservoir.size ∧ reservoir.rescaleAfter < now then inserted.rescale exp now else inserted

/-- Forget all values, count from zero again, and put the landmark at `now`. -/
def clear (reservoir : Decaying Number) (now : Int) : Decaying Number :=
  empty reservoir.size reservoir.alpha now

end Numbers

end Decaying

end Telemetry.Sample
