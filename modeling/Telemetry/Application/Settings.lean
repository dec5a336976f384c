/-
This file holds the settings of an application that both sends its metrics and
shows them: those of its client and those of its exposition, each under a key of
its own. An empty configuration leaves everything as it is by default.
-/

import Telemetry.Exposition.Configuration
import Telemetry.Statsd.Configuration

namespace Telemetry.Application

open Config

/-- The settings of an application. -/
structure Settings where
  client : Statsd.Settings
  exposition : Exposition.Settings

/-- The parts of a configuration. -/
inductive Section
  | client
  | exposition
deriving DecidableEq, Repr

/-- The keys of the parts. -/
def sectionKeys : List (String × Section) :=
  [("statsd", .client), ("prometheus", .exposition)]

namespace Settings

/-- The settings that count when none are given. -/
def standard : Settings :=
  ⟨.standard, .standard⟩

/-- Read one part. A part that is given again replaces the earlier one. -/
def readSection (settings : Settings) (key : String) (node : Node) : Result Settings :=
  match meaning? sectionKeys key with
  | none => fail (.unknownKey key)
  | some .client => do
    let client ← within (.subject .clientSettings key) (Statsd.Settings.ofNode node)
    .ok { settings with client }
  | some .exposition => do
    let exposition ← within (.subject .collectorSettings key) (Exposition.Settings.ofNode node)
    .ok { settings with exposition }

/-- Read the settings of an application; without a configuration they are the default. -/
def ofNode? : Option Node → Result Settings
  | none => .ok standard
  | some (.map entries) => foldEntries readSection standard entries
  | some _ => fail (.expected .configFile)

end Settings

end Telemetry.Application
