/-
This file reads the settings of an exposition from a configuration. Every entry
of the map makes one change to the settings that count when none are given; what
an entry changes depends on its key and its value alone.
-/

import Telemetry.Config.Key
import Telemetry.Config.Values
import Telemetry.Exposition.Settings

namespace Telemetry.Exposition

open Config

/-- What an entry of a configuration is about. -/
inductive SettingsKey
  | labels
  | histogramQuantiles
  | timerQuantiles
deriving DecidableEq, Repr

/-- The keys of a configuration. -/
def settingsKeys : List (String × SettingsKey) :=
  [("labels", .labels), ("static_labels", .labels),
    ("histogram_quantiles", .histogramQuantiles), ("timer_quantiles", .timerQuantiles)]

/-- A change of the settings. -/
inductive SettingsChange
  | labels (labels : Dictionary String)
  | histogramQuantiles (quantiles : List Float)
  | timerQuantiles (quantiles : List Float)

namespace Settings

/-- The settings after a change. -/
def apply (settings : Settings) : SettingsChange → Settings
  | .labels labels => { settings with labels }
  | .histogramQuantiles quantiles => { settings with histogramQuantiles := quantiles }
  | .timerQuantiles quantiles => { settings with timerQuantiles := quantiles }

/-- The change that an entry makes. -/
def readChange (key : String) (node : Node) : Result (List SettingsChange) :=
  match meaning? settingsKeys key with
  | none => fail (.unknownKey key)
  | some .labels => do
    let labels ← within (.subject .staticLabels key) node.asStaticTags
    .ok [.labels labels]
  | some .histogramQuantiles => do
    let quantiles ← within (.subject .quantiles key) node.asQuantileList
    .ok [.histogramQuantiles quantiles]
  | some .timerQuantiles => do
    let quantiles ← within (.subject .quantiles key) node.asQuantileList
    .ok [.timerQuantiles quantiles]

/-- Read the settings of an exposition. -/
def ofNode : Node → Result Settings
  | .map entries => do
    let changes ← gatherEntries readChange entries
    .ok (changes.foldl apply standard)
  | _ => fail (.expected .collectorSettings)

end Settings

end Telemetry.Exposition
