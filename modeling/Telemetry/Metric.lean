/-
This file holds the state of a metric of any kind, how it changes, and what it
shows when it is read. Counters and gauges of whole numbers count in 64 bits and
wrap around. Functional gauges have no state; they name the source that they
read. A timer is a histogram of durations in nanoseconds with a meter of how
often it was used.
-/

import Telemetry.Duration
import Telemetry.Kind
import Telemetry.Meter.Basic
import Telemetry.Sample.Basic
import Telemetry.Source

namespace Telemetry

/-- The state of a metric. -/
inductive Metric
  | counter (count : Int64)
  | gauge (value : Int64)
  | floatGauge (value : Float)
  | functionalGauge (source : SourceId)
  | functionalFloatGauge (source : SourceId)
  | histogram (sample : Sample)
  | meter (rates : Meter Float)
  | timer (sample : Sample) (rates : Meter Float)
deriving Repr

/-- What a metric shows when it is read. -/
inductive Reading
  | count (value : Int64)
  | level (value : Int64)
  | floatLevel (value : Float)
  | histogram (values : Sample.Snapshot)
  | meter (rates : Meter.Snapshot Float)
  | timer (values : Sample.Snapshot) (rates : Meter.Snapshot Float)
deriving Repr

namespace Metric

/-- The kind of the metric. -/
def kind : Metric → Kind
  | .counter _ => .counter
  | .gauge _ => .gauge
  | .floatGauge _ => .floatGauge
  | .functionalGauge _ => .functionalGauge
  | .functionalFloatGauge _ => .functionalFloatGauge
  | .histogram _ => .histogram
  | .meter _ => .meter
  | .timer _ _ => .timer

/-- A new metric of a kind that holds a state of its own. Only histograms and timers use the
description of a sample. -/
def fresh (kind : StoredKind) (spec : Sample.Spec) (now : Int) : Metric :=
  match kind with
  | ⟨.counter, _⟩ => .counter 0
  | ⟨.gauge, _⟩ => .gauge 0
  | ⟨.floatGauge, _⟩ => .floatGauge 0.0
  | ⟨.histogram, _⟩ => .histogram (.empty spec now)
  | ⟨.meter, _⟩ => .meter (.startingAt now)
  | ⟨.timer, _⟩ => .timer (.empty spec now) (.startingAt now)
  | ⟨.functionalGauge, stored⟩ => nomatch stored
  | ⟨.functionalFloatGauge, stored⟩ => nomatch stored

/-! ### Changes

Each change concerns some kinds and leaves a metric of any other kind as it is. -/

/-- Add to a counter or a gauge. -/
def increase (amount : Int64) : Metric → Metric
  | .counter count => .counter (count + amount)
  | .gauge value => .gauge (value + amount)
  | other => other

/-- Subtract from a counter or a gauge. -/
def decrease (amount : Int64) : Metric → Metric
  | .counter count => .counter (count - amount)
  | .gauge value => .gauge (value - amount)
  | other => other

/-- Set a gauge. -/
def set (value : Int64) : Metric → Metric
  | .gauge _ => .gauge value
  | other => other

/-- Set a gauge of floating point numbers. -/
def setFloat (value : Float) : Metric → Metric
  | .floatGauge _ => .floatGauge value
  | other => other

/-- Set a counter to zero, or forget the values of a histogram. -/
def clear (now : Int) : Metric → Metric
  | .counter _ => .counter 0
  | .histogram sample => .histogram (sample.clear now)
  | other => other

/-- Offer a value to a histogram. -/
def observe (draw : UInt64) (now : Int) (value : Int64) : Metric → Metric
  | .histogram sample => .histogram (sample.update draw now value)
  | other => other

/-- A duration in nanoseconds, at most the greatest number of 64 bits. -/
def nanoseconds (duration : Duration) : Int64 :=
  Int64.ofNat (min duration.nanoseconds (Nat.pow 2 63 - 1))

/-- Give a timer a duration. -/
def record (draw : UInt64) (now : Int) (duration : Duration) : Metric → Metric
  | .timer sample rates =>
    .timer (sample.update draw now (nanoseconds duration)) (rates.mark now 1)
  | other => other

/-- Mark events on a meter. -/
def mark (now : Int) (events : Int64) : Metric → Metric
  | .meter rates => .meter (rates.mark now events)
  | other => other

/-- Stop a meter, also that of a timer. -/
def stop (now : Int) : Metric → Metric
  | .meter rates => .meter (rates.stop now)
  | .timer sample rates => .timer sample (rates.stop now)
  | other => other

/-- A change of state never changes the kind. -/
theorem kind_stop (now : Int) (metric : Metric) : (metric.stop now).kind = metric.kind := by
  cases metric <;> rfl

theorem kind_fresh (kind : StoredKind) (spec : Sample.Spec) (now : Int) :
    (fresh kind spec now).kind = kind.kind := by
  obtain ⟨kind, stored⟩ := kind
  cases kind with
  | functionalGauge | functionalFloatGauge => nomatch stored
  | _ => rfl

/-- How the metric chooses the values that it keeps, for the kinds that keep any. -/
def sample? : Metric → Option Sample
  | .histogram sample => some sample
  | .timer sample _ => some sample
  | _ => none

/-- The style of floating point numbers in descriptions. -/
def descriptionStyle : Decimal.NumberStyle where
  tie := .up
  wholeMark := ['.', '0']
  fullRange := some ⟨16, 4⟩
  notANumber := ['N', 'a', 'N']
  infinity := ['i', 'n', 'f']
  negativeInfinity := ['-', 'i', 'n', 'f']

/-- The text of a part that one user at a time may change. -/
def guarded (inner : String) : String :=
  Text.partialRecord "Mutex" [("data", inner), ("poisoned", Text.truth false)]

/-- A short text about the metric. -/
def description : Metric → String
  | .counter count => Text.record "Counter" [("inner", Decimal.wholeText count.toInt)]
  | .gauge value => Text.record "Gauge" [("inner", Decimal.wholeText value.toInt)]
  | .floatGauge value =>
    Text.record "GaugeFloat64"
      [("inner", String.ofList (descriptionStyle.write (Decimal.decodeFloat value)))]
  | .histogram sample =>
    Text.record "Histogram" [("sample", guarded sample.description)]
  | other => other.kind.word

/-- A short text about the metric that says its kind first. -/
def labelledDescription (metric : Metric) : String :=
  metric.kind.word ++ "(" ++ metric.description ++ ")"

end Metric

end Telemetry
