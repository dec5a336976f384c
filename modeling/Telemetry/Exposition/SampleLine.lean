/-
This file takes series apart into the lines that hold their numbers. A series
with one number takes one line under the name of its family. A summary takes
one line for each quantile, which is told apart by a label of its own, and two
more under derived names for the sum and the count.
-/

import Telemetry.Decimal.Style
import Telemetry.Exposition.Family

namespace Telemetry.Exposition

/-- Numbers are written plainly, and infinity has a sign and a capital letter. -/
def numberStyle : Decimal.NumberStyle where
  tie := .up
  wholeMark := []
  fullRange := none
  notANumber := ['N', 'a', 'N']
  infinity := ['+', 'I', 'n', 'f']
  negativeInfinity := ['-', 'I', 'n', 'f']

/-- The text of a number. -/
def writeNumber (value : Float) : List Char :=
  numberStyle.write (Decimal.decodeFloat value)

/-- A line that holds a number: a name, labels, and the text of the number. -/
structure SampleLine where
  name : String
  labels : Labels
  value : List Char
deriving DecidableEq, Repr

/-- The name for the sum of a summary. -/
def sumName (family : String) : String :=
  family ++ "_sum"

/-- The name for the count of a summary. -/
def countName (family : String) : String :=
  family ++ "_count"

/-- The line of a quantile. -/
def quantileLine (family : String) (labels : Labels) (item : Float × Float) : SampleLine where
  name := family
  labels := labels ++ [(quantileLabel, String.ofList (writeNumber item.1))]
  value := writeNumber item.2

/-- The lines of a series. -/
def Series.sampleLines (family : String) (series : Series) : List SampleLine :=
  match series.value with
  | .single value => [⟨family, series.labels, writeNumber value⟩]
  | .summary quantiles sum count =>
    quantiles.map (quantileLine family series.labels) ++
      [⟨sumName family, series.labels, writeNumber sum⟩,
        ⟨countName family, series.labels, Decimal.digits count⟩]

/-- The lines of a family. -/
def Family.sampleLines (family : Family) : List SampleLine :=
  family.series.flatMap (Series.sampleLines family.name)

end Telemetry.Exposition
