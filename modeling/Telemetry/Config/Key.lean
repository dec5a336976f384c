/-
This file brings the keys of a configuration into one form, so that letter case
and the choice between dash and underscore do not matter.
-/

import Telemetry.Text.Lowercase

namespace Telemetry.Config

/-- The form in which keys are compared: lower case, with underscores for dashes. -/
def normalizeKey (key : String) : String :=
  String.ofList ((Text.lowercase key.toList).map fun c => if c = '-' then '_' else c)

/-- What a key stands for, by a table of keys in the form in which they are compared. -/
def meaning? {Meaning : Type} (table : List (String × Meaning)) (key : String) : Option Meaning :=
  (table.find? fun entry => entry.1 = normalizeKey key).map (·.2)

end Telemetry.Config
