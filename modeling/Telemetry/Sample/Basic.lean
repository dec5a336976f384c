/-
This file joins the two reservoirs into one type: a sample of what a histogram
or a timer has seen. What the sample does depends on the time and, once it is
full, on a draw; both are given from outside.
-/

import Telemetry.Sample.Decaying
import Telemetry.Sample.Snapshot
import Telemetry.Sample.Spec
import Telemetry.Sample.Uniform
import Telemetry.Text.Record

namespace Telemetry

/-- A bounded sample of the values seen. -/
inductive Sample
  | uniform (reservoir : Sample.Uniform)
  | decaying (reservoir : Sample.Decaying Float)
deriving Repr

namespace Sample

/-- A random word as a number between zero and one, never one. -/
def fraction (draw : UInt64) : Float :=
  (draw >>> 11).toFloat / 9007199254740992.0

/-- The empty sample of a description. -/
def empty (spec : Spec) (now : Int) : Sample :=
  match spec with
  | .uniform size => .uniform (.empty size)
  | .decaying size alpha => .decaying (.empty size alpha now)

/-- How the sample chooses what it keeps. -/
def kind : Sample → Kind
  | .uniform _ => .uniform
  | .decaying _ => .decaying

/-- How many values the sample can keep. -/
def size : Sample → Nat
  | .uniform reservoir => reservoir.size
  | .decaying reservoir => reservoir.size

/-- How many values the sample has seen since it was last cleared. -/
def count : Sample → Int64
  | .uniform reservoir => reservoir.count
  | .decaying reservoir => reservoir.count

/-- The kept values. -/
def values : Sample → List Int64
  | .uniform reservoir => reservoir.values.toList
  | .decaying reservoir => reservoir.kept.toList.map (·.value)

/-- Offer a value to the sample. -/
def update (draw : UInt64) (now : Int) (sample : Sample) (value : Int64) : Sample :=
  match sample with
  | .uniform reservoir => .uniform (reservoir.update draw value)
  | .decaying reservoir => .decaying (reservoir.update Float.exp (fraction draw) now value)

/-- Forget all values. -/
def clear (sample : Sample) (now : Int) : Sample :=
  match sample with
  | .uniform reservoir => .uniform reservoir.clear
  | .decaying reservoir => .decaying (reservoir.clear now)

/-- A short text about the sample. Values that have no priority are shown in the order in which
they are kept. -/
def description : Sample → String
  | .uniform reservoir =>
    let values := reservoir.values.toList.map fun value => Decimal.wholeText value.toInt
    let inner := Text.record "UniformSample"
      [("reservoir_size", Decimal.naturalText reservoir.size),
        ("count", Decimal.wholeText reservoir.count.toInt), ("values", Text.listing values)]
    "Uniform(" ++ inner ++ ")"
  | .decaying reservoir =>
    let inner := Text.partialRecord "ExpDecaySample"
      [("reservoir_size", Decimal.naturalText reservoir.size),
        ("count", Decimal.wholeText reservoir.count.toInt)]
    "ExpDecay(" ++ inner ++ ")"

/-- A copy of the sample with its values in ascending order. -/
def snapshot (sample : Sample) : Snapshot :=
  .ofValues sample.count sample.values

end Sample

end Telemetry
