/-
This file holds lengths of time, counted in whole nanoseconds, and the
conversion of a number of seconds into such a length: the exact value of the
number is rounded to the nearest nanosecond, and one that lies half way goes to
the even neighbour.
-/

import Telemetry.Decimal.Shortest

namespace Telemetry

/-- A length of time in nanoseconds. -/
structure Duration where
  nanoseconds : Nat
deriving DecidableEq, Repr, Inhabited

namespace Duration

/-- Nanoseconds in a second. -/
def perSecond : Nat :=
  1000000000

/-- A whole number of seconds. -/
def ofSeconds (seconds : Nat) : Duration :=
  ⟨seconds * perSecond⟩

/-- A whole number of milliseconds. -/
def ofMilliseconds (milliseconds : Nat) : Duration :=
  ⟨milliseconds * 1000000⟩

/-- The whole seconds. -/
def seconds (duration : Duration) : Nat :=
  duration.nanoseconds / perSecond

/-- What is left beside the whole seconds, in nanoseconds. -/
def subsecond (duration : Duration) : Nat :=
  duration.nanoseconds % perSecond

/-- Why a number of seconds is no length of time. -/
inductive OutOfRange
  | negative
  | tooLargeOrNotANumber
deriving DecidableEq, Repr

/-- The wording of the fault. -/
def OutOfRange.message : OutOfRange → String
  | .negative => "cannot convert float seconds to Duration: value is negative"
  | .tooLargeOrNotANumber =>
    "cannot convert float seconds to Duration: value is either too big or NaN"

/-- A quotient rounded to the nearest whole number; half way goes to the even neighbour. -/
def roundedQuotient (numerator denominator : Nat) : Nat :=
  let quotient := numerator / denominator
  let twice := 2 * (numerator % denominator)
  if twice < denominator then quotient
  else if denominator < twice then quotient + 1
  else if quotient % 2 = 0 then quotient else quotient + 1

/-- The number of seconds in whole nanoseconds. -/
def ofMagnitude (number : Decimal.Magnitude) : Duration :=
  ⟨roundedQuotient (number.mantissa * Nat.pow 2 number.exponent.toNat * perSecond)
    (Nat.pow 2 (-number.exponent).toNat)⟩

/-- The length of time of a number of seconds. The seconds have to fit into 64 bits. -/
def ofFloatSeconds (value : Float) : Except OutOfRange Duration :=
  match Decimal.decodeFloat value with
  | .notANumber => .error .tooLargeOrNotANumber
  | .infinite true => .error .negative
  | .infinite false => .error .tooLargeOrNotANumber
  | .zero _ => .ok ⟨0⟩
  | .finite true _ => .error .negative
  | .finite false magnitude =>
    let duration := ofMagnitude magnitude
    if duration.seconds < Nat.pow 2 64 then .ok duration else .error .tooLargeOrNotANumber

end Duration

end Telemetry
