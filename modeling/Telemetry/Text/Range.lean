/-
This file says what a table of characters is: a list of inclusive ranges of code
points. Every character class of the library that goes beyond ASCII is such a
table, read by one function.
-/

namespace Telemetry.Text

/-- Whether the code point of a character lies in one of the given inclusive ranges. -/
def inRanges (ranges : List (Nat × Nat)) (c : Char) : Bool :=
  ranges.any fun range => range.1 ≤ c.toNat && c.toNat ≤ range.2

end Telemetry.Text
