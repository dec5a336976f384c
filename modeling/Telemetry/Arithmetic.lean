/-
This file names the arithmetic that rates, averages and percentiles are computed
with. The computations are written once against this interface and run on
64-bit floating point numbers, in the order of operations in which they are
written. Because they do not know which numbers they run on, the same text can
be read over a field, where sums and products are exact.
-/

namespace Telemetry

/-- Numbers that can be added, subtracted, multiplied, divided and compared, that hold the whole
numbers, and of which the whole part can be taken. -/
class Arithmetic (Number : Type) extends
    Add Number, Sub Number, Mul Number, Div Number, Neg Number where
  /-- The number nearest to a whole number. -/
  ofInt : Int → Number
  /-- The whole part of a number that is not below zero. -/
  wholePart : Number → Nat
  /-- Whether the first number is below the second. -/
  less : Number → Number → Bool
  /-- Whether the first number is at most the second. -/
  atMost : Number → Number → Bool

namespace Arithmetic

variable {Number : Type} [Arithmetic Number]

/-- The number nearest to a natural number. -/
def ofNat (value : Nat) : Number :=
  ofInt (Int.ofNat value)

/-- A count of nanoseconds in seconds: the whole seconds and the rest are converted apart. -/
def secondsOf (nanoseconds : Nat) : Number :=
  (ofNat (nanoseconds / 1000000000) : Number) +
    (ofNat (nanoseconds % 1000000000) : Number) / (ofNat 1000000000 : Number)

/-- A product with a power of a natural exponent, by repeated squaring: the base is squared from
one binary digit of the exponent to the next and counts where the digit is one. -/
def powerOnto (result base : Number) (exponent : Nat) : Number :=
  let product := if exponent % 2 = 1 then result * base else result
  if exponent < 2 then product else powerOnto product (base * base) (exponent / 2)

/-- A power with a whole exponent; a negative exponent inverts the power. -/
def power (base : Number) (exponent : Int) : Number :=
  let positive := powerOnto (ofNat 1) base exponent.natAbs
  if exponent < 0 then (ofNat 1 : Number) / positive else positive

end Arithmetic

instance : Arithmetic Float where
  ofInt := Float.ofInt
  wholePart value := value.toUInt64.toNat
  less first second := decide (first < second)
  atMost first second := decide (first ≤ second)

end Telemetry
