/-
This file writes lines of metrics. A line is a name behind an optional prefix, a
value, a letter for the type, and tags, and ends with a line break. The tags of
the client come first, then those that several lines share, then those of the
line alone.
-/

import Telemetry.Decimal.Style
import Telemetry.Statsd.TagGroup
import Telemetry.Text.Pieces

namespace Telemetry.Statsd

/-- The types of line. -/
inductive LineType
  | count
  | gauge
deriving DecidableEq, Repr

/-- The letter of the type. -/
def LineType.letter : LineType → Char
  | .count => 'c'
  | .gauge => 'g'

/-- A metric with its value, apart from tags. -/
structure Line where
  name : String
  value : List Char
  type : LineType
deriving DecidableEq, Repr

namespace Line

/-! ### Values -/

/-- 64-bit numbers: whole numbers end in `.0`, very large and very small ones take an exponent. -/
def numberStyle : Decimal.NumberStyle where
  tie := .toEven
  wholeMark := ['.', '0']
  fullRange := some ⟨16, 5⟩
  notANumber := ['N', 'a', 'N']
  infinity := ['i', 'n', 'f']
  negativeInfinity := ['-', 'i', 'n', 'f']

/-- 32-bit numbers, with their own bounds for numbers without an exponent. -/
def number32Style : Decimal.NumberStyle :=
  { numberStyle with fullRange := some ⟨13, 6⟩ }

/-- A line that counts. -/
def count (name : String) (value : Int) : Line :=
  ⟨name, Decimal.writeInt value, .count⟩

/-- A line that shows a level. -/
def gauge (name : String) (value : Int) : Line :=
  ⟨name, Decimal.writeInt value, .gauge⟩

/-- A line that shows a level in floating point. -/
def floatGauge (name : String) (value : Float) : Line :=
  ⟨name, numberStyle.write (Decimal.decodeFloat value), .gauge⟩

/-- A line that shows a level in floating point of 32 bits. -/
def float32Gauge (name : String) (value : Float32) : Line :=
  ⟨name, number32Style.write (Decimal.decodeFloat32 value), .gauge⟩

/-! ### The written form -/

/-- A prefix with the dot that sets it off from the name. -/
def prefixText (namePrefix : String) : List Char :=
  if namePrefix = "" then [] else namePrefix.toList ++ ['.']

/-- The tags of a line; groups without text are left out. -/
def tagsText (groups : List TagGroup) : List Char :=
  let texts := (groups.map TagGroup.text).filter (!·.isEmpty)
  if texts.isEmpty then [] else '|' :: '#' :: Text.glue ',' texts

/-- The written line with its line break. -/
def written (namePrefix : String) (groups : List TagGroup) (line : Line) : List Char :=
  prefixText namePrefix ++ line.name.toList ++ ':' :: line.value ++
    '|' :: line.type.letter :: tagsText groups ++ ['\n']

end Line

end Telemetry.Statsd
