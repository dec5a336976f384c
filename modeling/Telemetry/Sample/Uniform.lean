/-
This file holds the reservoir in which every value seen so far has the same
chance of being kept. While there is room every value is kept. Once the
reservoir is full, a draw among as many numbers as there have been values
decides: if it falls on a place of the reservoir, the new value takes that
place. The draws are given from outside.
-/

namespace Telemetry.Sample

/-- A reservoir without preference. -/
structure Uniform where
  size : Nat
  count : Int64
  values : Array Int64
deriving Repr

namespace Uniform

/-- The empty reservoir for `size` values. -/
def empty (size : Nat) : Uniform :=
  ⟨size, 0, #[]⟩

/-- Offer a value. The draw matters only when the reservoir is full. -/
def update (draw : UInt64) (reservoir : Uniform) (value : Int64) : Uniform :=
  let count := reservoir.count + 1
  if reservoir.values.size < reservoir.size then
    { reservoir with count, values := reservoir.values.push value }
  else
    let place := (draw % count.toUInt64).toNat
    { reservoir with count, values := reservoir.values.setIfInBounds place value }

/-- Forget all values and count from zero again. -/
def clear (reservoir : Uniform) : Uniform :=
  empty reservoir.size

end Uniform

end Telemetry.Sample
