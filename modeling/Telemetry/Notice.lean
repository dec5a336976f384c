/-
This file names the occasions on which the library has something to report that
is not an answer to a caller: a registration that was skipped, a value that is
lost, a series that is dropped, a send that failed. Each notice knows how
serious it is and how it reads.
-/

import Telemetry.Decimal.Style
import Telemetry.Exposition.Family
import Telemetry.Kind
import Telemetry.Text.Quoted

namespace Telemetry

/-- How serious a notice is. -/
inductive Level
  | warning
  | debug
deriving DecidableEq, Repr

/-- The name of the level. -/
def Level.word : Level → String
  | .warning => "warn"
  | .debug => "debug"

/-- Something to report. -/
inductive Notice
  | registrationSkipped (name : String)
  | kindMismatch (name : String) (held wanted : Kind)
  | noValidChar (name : String)
  | typeConflict (family : String) (held dropped : Exposition.FamilyType) (help : String)
  | labelConflict (family : String) (labels : Exposition.Labels)
  | quantileIgnored (quantile : Float)
  | sendFailed
  | emitterStopped
deriving Repr

/-- The wording for a name that is taken. -/
def duplicateMessage (name : String) : String :=
  "duplicate metric: " ++ name

namespace Notice

/-- How serious the notice is. -/
def level : Notice → Level
  | registrationSkipped _ | noValidChar _ | emitterStopped => .debug
  | kindMismatch _ _ _ | typeConflict _ _ _ _ | labelConflict _ _ | quantileIgnored _
  | sendFailed => .warning

/-- One label as it is shown in a notice. -/
def labelText (label : String × String) : String :=
  "(" ++ Text.quote label.1 ++ ", " ++ Text.quote label.2 ++ ")"

/-- Labels as they are shown in a notice. -/
def labelsText (labels : Exposition.Labels) : String :=
  "[" ++ ", ".intercalate (labels.map labelText) ++ "]"

/-- How the notice reads. -/
def message : Notice → String
  | registrationSkipped name =>
    "skip registration of metric " ++ name ++ ": " ++ duplicateMessage name
  | kindMismatch name held wanted =>
    "metric " ++ name ++ " is registered as " ++ held.word ++ " rather than " ++ wanted.word ++
      ", the value will be lost"
  | noValidChar name => "skip metric " ++ name ++ ": no valid char in name"
  | typeConflict family held dropped help =>
    "metric family " ++ family ++ " already has type " ++ held.word ++ ", drop " ++
      dropped.word ++ " series from " ++ help
  | labelConflict family labels =>
    "metric family " ++ family ++ " already has a series with labels " ++ labelsText labels
  | quantileIgnored quantile =>
    "quantile " ++ Decimal.writePlain quantile ++ " is out of range [0, 1], ignored"
  | sendFailed => "sending metrics error"
  | emitterStopped => "statsd emitter stopped"

end Notice

end Telemetry
