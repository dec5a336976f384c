/-
This file makes the metrics of a planned structure. All descriptions of samples
are read before anything is made, so a faulty one leaves nothing behind. The
sources of functional gauges are given by the names of their accessors.
-/

import Telemetry.Blueprint.Plan
import Telemetry.Holder

namespace Telemetry.Blueprint

/-- A metric with the sample that it is to keep. -/
abbrev SpecifiedField :=
  MetricField × Sample.Spec

/-- Read the descriptions of all samples; the first fault counts. -/
def readSpecs : List MetricField → Except DefinitionError (List SpecifiedField)
  | [] => .ok []
  | metric :: rest => do
    let spec ← metric.declaration.sampleSpec
    let specs ← readSpecs rest
    .ok ((metric, spec) :: specs)

/-- The metric of a field that is not tagged. -/
def freshMetric (sources : String → SourceId) (store : Store) (field : String) (kind : Kind)
    (spec : Sample.Spec) : Metric :=
  let source := sources (accessorName (unescaped field))
  match kind with
  | .counter => .counter 0
  | .gauge => .gauge 0
  | .floatGauge => .floatGauge 0.0
  | .functionalGauge => .functionalGauge source
  | .functionalFloatGauge => .functionalFloatGauge source
  | .histogram => .histogram (.empty spec store.now)
  | .meter => .meter (.startingAt store.now)
  | .timer => .timer (.empty spec store.now) (.startingAt store.now)

/-- Make one field. -/
def buildField (sources : String → SourceId) (store : Store) (specified : SpecifiedField) :
    Field × Store :=
  let (metric, spec) := specified
  match metric.kind with
  | .tagged kind => (⟨metric.field, metric.name, .tagged (.unbound metric.name kind spec)⟩, store)
  | .plain kind =>
    let (handle, created) := store.create (freshMetric sources store metric.field kind spec)
    (⟨metric.field, metric.name, .plain kind handle⟩, created)

/-- Make fields one after the other. -/
def buildFields (sources : String → SourceId) (store : Store) :
    List SpecifiedField → List Field × Store
  | [] => ([], store)
  | specified :: rest =>
    let (field, created) := buildField sources store specified
    let (fields, built) := buildFields sources created rest
    (field :: fields, built)

/-- Make the metrics of a planned structure. -/
def Plan.populate (plan : Plan) (sources : String → SourceId) (store : Store) :
    Except DefinitionError (Holder × Store) := do
  let specified ← readSpecs plan.metrics
  let (fields, built) := buildFields sources store specified
  .ok (⟨fields⟩, built)

end Telemetry.Blueprint
