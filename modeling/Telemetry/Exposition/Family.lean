/-
This file holds what an exposition consists of: families of series. The series
of a family share its name and type and differ in their labels. The value of a
series is one number or, in a summary, a list of quantiles with the sum and the
count of what was seen.
-/

namespace Telemetry.Exposition

/-- The types of family. -/
inductive FamilyType
  | gauge
  | summary
  | untyped
deriving DecidableEq, Repr

/-- The name of the type. -/
def FamilyType.word : FamilyType → String
  | .gauge => "gauge"
  | .summary => "summary"
  | .untyped => "untyped"

/-- Labels with their values, ascending by label. -/
abbrev Labels :=
  List (String × String)

/-- The label that tells the quantiles of a summary apart. -/
def quantileLabel : String :=
  "quantile"

/-- The value of a series. -/
inductive SeriesValue
  | single (value : Float)
  | summary (quantiles : List (Float × Float)) (sum : Float) (count : Nat)
deriving Repr

/-- A series: its labels and its value. -/
structure Series where
  labels : Labels
  value : SeriesValue
deriving Repr

/-- A family of series. -/
structure Family where
  name : String
  help : String
  type : FamilyType
  series : List Series
deriving Repr

/-- Whether the first labels stand at or before the second: pairs are compared one after the other,
by label and then by value, and a list stands before its extensions. -/
def Labels.atMost : Labels → Labels → Bool
  | [], _ => true
  | _ :: _, [] => false
  | first :: firstRest, second :: secondRest =>
    if first.1 < second.1 then true
    else if second.1 < first.1 then false
    else if first.2 < second.2 then true
    else if second.2 < first.2 then false
    else Labels.atMost firstRest secondRest

namespace Family

/-- Whether the family has a series with these labels. -/
def hasLabels (family : Family) (labels : Labels) : Bool :=
  family.series.any fun series => series.labels = labels

/-- The family with one more series. -/
def add (family : Family) (series : Series) : Family :=
  { family with series := family.series ++ [series] }

/-- The family with its series in the order of their labels. -/
def sorted (family : Family) : Family :=
  { family with
    series := family.series.mergeSort fun first second => first.labels.atMost second.labels }

end Family

end Telemetry.Exposition
