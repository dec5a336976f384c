/-
This file reads statistics off a sample: its kept values in ascending order,
their least, greatest, sum, mean and spread, and percentiles. A percentile lies
at the position `p * (size + 1)` among the ascending values, counted from one,
and is interpolated between the two neighbours of a position that is not whole;
before the first and after the last value it is that value.
-/

import Telemetry.Arithmetic

namespace Telemetry.Sample

/-- A copy of a sample: how many values it has seen and the kept ones in ascending order. -/
structure Snapshot where
  count : Int64
  values : List Int64
deriving DecidableEq, Repr, Inhabited

/-- A value as a number. -/
def toNumber {Number : Type} [Arithmetic Number] (value : Int64) : Number :=
  Arithmetic.ofInt value.toInt

/-- The percentile `p` of ascending values; without values it is zero. -/
def percentile {Number : Type} [Arithmetic Number] (values : List Int64) (p : Number) : Number :=
  let size := values.length
  let valueAt (index : Nat) : Number := toNumber (values.getD index 0)
  if size = 0 then Arithmetic.ofNat 0
  else
    let position := p * Arithmetic.ofNat (size + 1)
    if Arithmetic.less position (Arithmetic.ofNat 1) then valueAt 0
    else if Arithmetic.atMost (Arithmetic.ofNat size) position then valueAt (size - 1)
    else
      let whole := Arithmetic.wholePart position
      let lower := valueAt (whole - 1)
      let upper := valueAt whole
      lower + (position - Arithmetic.ofNat whole) * (upper - lower)

namespace Snapshot

/-- The snapshot of kept values. -/
def ofValues (count : Int64) (values : List Int64) : Snapshot :=
  ⟨count, values.mergeSort fun first second => decide (first ≤ second)⟩

/-- How many values are kept. -/
def size (snapshot : Snapshot) : Nat :=
  snapshot.values.length

/-- The least kept value, or zero. -/
def least (snapshot : Snapshot) : Int64 :=
  snapshot.values.head?.getD 0

/-- The greatest kept value, or zero. -/
def greatest (snapshot : Snapshot) : Int64 :=
  snapshot.values.getLast?.getD 0

/-- The sum of the kept values, in 64 bits. -/
def sum (snapshot : Snapshot) : Int64 :=
  snapshot.values.foldl (· + ·) 0

section Numbers

variable {Number : Type} [Arithmetic Number]

/-- The mean of the kept values. -/
def mean (snapshot : Snapshot) : Number :=
  if snapshot.values.isEmpty then Arithmetic.ofNat 0
  else toNumber snapshot.sum / Arithmetic.ofNat snapshot.size

/-- The mean square of the distances from the mean. -/
def variance (snapshot : Snapshot) : Number :=
  if snapshot.values.isEmpty then Arithmetic.ofNat 0
  else
    let mean : Number := snapshot.mean
    let squares := snapshot.values.map fun value =>
      let distance := toNumber value - mean
      distance * distance
    squares.foldl (· + ·) (Arithmetic.ofNat 0) / Arithmetic.ofNat snapshot.size

end Numbers

/-- The root of the mean square of the distances from the mean. -/
def standardDeviation (snapshot : Snapshot) : Float :=
  (snapshot.variance : Float).sqrt

end Snapshot

end Telemetry.Sample
