/-
This file turns arbitrary text into names that an exposition may use. Every run
of characters that are not allowed becomes one underscore, the underscores at
the start are dropped, and a name that would then start with a digit gets one
underscore in front. The result may be empty.
-/

import Telemetry.Text.Alphanumeric

namespace Telemetry.Exposition

open Text

/-- The characters allowed in label names. -/
def isLabelChar (c : Char) : Bool :=
  isAsciiAlphanumeric c || c = '_'

/-- The characters allowed in the names of metrics. -/
def isMetricChar (c : Char) : Bool :=
  isLabelChar c || c = ':'

/-- The text with one underscore for every run of characters that are not allowed. `within` tells
that the character before was not allowed either. -/
def squeeze (allowed : Char → Bool) (within : Bool) : List Char → List Char
  | [] => []
  | c :: rest =>
    if allowed c then c :: squeeze allowed false rest
    else if within then squeeze allowed true rest
    else '_' :: squeeze allowed true rest

/-- The name with an underscore in front if it starts with a digit. -/
def guardDigit : List Char → List Char
  | [] => []
  | c :: rest => if isAsciiDigit c then '_' :: c :: rest else c :: rest

/-- A valid name for the given text, or the empty text. -/
def sanitize (allowed : Char → Bool) (text : List Char) : List Char :=
  guardDigit ((squeeze allowed false text).dropWhile (· = '_'))

/-- A valid name of a metric, or the empty text. -/
def metricName (text : String) : String :=
  String.ofList (sanitize isMetricChar text.toList)

/-- A valid name of a label, or the empty text. -/
def labelName (text : String) : String :=
  String.ofList (sanitize isLabelChar text.toList)

end Telemetry.Exposition
