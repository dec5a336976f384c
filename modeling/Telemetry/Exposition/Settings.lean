/-
This file holds the settings of an exposition: labels that every series gets,
and the quantiles that histograms and timers show. Quantiles lie between zero
and one; those that do not are left out with a notice.
-/

import Telemetry.Dictionary
import Telemetry.Notice

namespace Telemetry.Exposition

/-- The settings of an exposition. -/
structure Settings where
  labels : Dictionary String
  histogramQuantiles : List Float
  timerQuantiles : List Float

/-- The quantiles shown when none are given. -/
def defaultQuantiles : List Float :=
  [0.5, 0.95]

/-- Whether a number is a quantile: at least zero and at most one. -/
def isQuantile (value : Float) : Bool :=
  decide (0.0 ≤ value) && decide (value ≤ 1.0)

namespace Settings

/-- The settings that count when none are given. -/
def standard : Settings :=
  ⟨.empty, defaultQuantiles, defaultQuantiles⟩

/-- Add labels; a label that is given again takes the later value. -/
def withLabels (settings : Settings) (labels : List (String × String)) : Settings :=
  { settings with
    labels := labels.foldl (fun all label => all.insert label.1 label.2) settings.labels }

/-- Notices about the numbers that are no quantiles. -/
def quantileNotices (values : List Float) : List Notice :=
  (values.filter (!isQuantile ·)).map .quantileIgnored

/-- Choose the quantiles of histograms. -/
def withHistogramQuantiles (settings : Settings) (values : List Float) :
    Settings × List Notice :=
  ({ settings with histogramQuantiles := values.filter isQuantile }, quantileNotices values)

/-- Choose the quantiles of timers. -/
def withTimerQuantiles (settings : Settings) (values : List Float) : Settings × List Notice :=
  ({ settings with timerQuantiles := values.filter isQuantile }, quantileNotices values)

end Settings

end Telemetry.Exposition
