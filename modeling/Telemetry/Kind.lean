/-
This file names the kinds of metric. Six kinds hold a state of their own; the two
functional gauges ask for their value whenever they are read. Histograms and
timers keep a sample of what they have seen.
-/

namespace Telemetry

/-- The kinds of metric. -/
inductive Kind
  | counter
  | gauge
  | floatGauge
  | functionalGauge
  | functionalFloatGauge
  | histogram
  | meter
  | timer
deriving DecidableEq, Repr

namespace Kind

/-- All kinds. -/
def all : List Kind :=
  [counter, gauge, floatGauge, functionalGauge, functionalFloatGauge, histogram, meter, timer]

/-- The name of the kind, as declarations and help texts give it. -/
def word : Kind → String
  | counter => "Counter"
  | gauge => "Gauge"
  | floatGauge => "GaugeFloat64"
  | functionalGauge => "FunctionalGauge"
  | functionalFloatGauge => "FunctionalGaugeFloat64"
  | histogram => "Histogram"
  | meter => "Meter"
  | timer => "Timer"

/-- The kind with the given name. -/
def ofWord? (text : String) : Option Kind :=
  all.find? fun kind => kind.word = text

/-- The kinds whose value is computed when it is read. -/
def isFunctional : Kind → Bool
  | functionalGauge | functionalFloatGauge => true
  | _ => false

/-- The kinds that keep a sample. -/
def isSampled : Kind → Bool
  | histogram | timer => true
  | _ => false

theorem ofWord?_word (kind : Kind) : ofWord? kind.word = some kind := by
  cases kind <;> decide

theorem word_of_ofWord? {text : String} {kind : Kind} (found : ofWord? text = some kind) :
    kind.word = text := by
  simpa using List.find?_some found

end Kind

/-- A kind that holds a state of its own, so that a metric of it can be made from nothing. -/
structure StoredKind where
  kind : Kind
  stored : kind.isFunctional = false
deriving DecidableEq, Repr

/-- The kind as one that holds a state of its own. -/
def Kind.stored? (kind : Kind) : Option StoredKind :=
  if stored : kind.isFunctional = false then some ⟨kind, stored⟩ else none

end Telemetry
