/-
This file turns the description of a structure into a plan: which fields are
metrics, how they are declared, how every field is set up, and in which order
the metrics are visited. A description with faults gives no plan but all its
faults, one for each bad field, in the order of the fields.
-/

import Telemetry.Blueprint.Labelling
import Telemetry.Blueprint.TypeText
import Telemetry.Declaration
import Telemetry.Source

namespace Telemetry.Blueprint

/-! ### Metrics -/

/-- A field that is a metric. -/
structure MetricField where
  field : String
  name : String
  kind : FieldKind
  sample : Option String
deriving DecidableEq, Repr

/-- The declaration of the field. -/
def MetricField.declaration (metric : MetricField) : Declaration :=
  ⟨metric.field, metric.name, metric.kind.written, metric.sample⟩

/-- What the type of a field says, as a fault of the field. -/
def Member.kind (member : Member) : Except Fault FieldKind :=
  match classify member.type with
  | .ok kind => .ok kind
  | .error .notMetric => .error (.notMetric member.name)
  | .error (.taggedFunctional kind) => .error (.taggedFunctional member.name kind)

/-- The metric in a field, if its annotations make it one. Of several annotations the first
counts. -/
def Member.metric? (member : Member) : Except Fault (Option MetricField) :=
  match member.annotations.find? Annotation.isMetric with
  | none => .ok none
  | some annotation => do
    let labelling ← annotation.labelling
    match labelling.name with
    | none => .error (.missingName member.name)
    | some name =>
      if name = "" then .error (.emptyName member.name)
      else do
        let kind ← member.kind
        .ok (some ⟨member.name, name, kind, labelling.sample⟩)

/-! ### Plans -/

/-- How a field is set up. A functional gauge takes its value from a sibling field or from a method
of the structure. -/
inductive Setup
  | plainValue
  | fresh
  | sampled
  | tagged
  | fromField (type : ValueType)
  | fromMethod (type : ValueType)
deriving DecidableEq, Repr

/-- A plan for a structure. -/
structure Plan where
  metrics : List MetricField
  setups : List (String × Setup)
deriving DecidableEq, Repr

/-- What a functional gauge gives. -/
def computedType? : Kind → Option ValueType
  | .functionalGauge => some .int
  | .functionalFloatGauge => some .float
  | _ => none

theorem isFunctional_of_computedType? {kind : Kind} (stored : computedType? kind = none) :
    kind.isFunctional = false := by
  cases kind <;> first | rfl | cases stored

/-- A word without the mark that escapes it. -/
def unescaped (word : String) : String :=
  match word.toList with
  | 'r' :: '#' :: rest => String.ofList rest
  | _ => word

/-- How the field of a metric is set up, given the names of all fields. -/
def MetricField.setup (fields : List String) (metric : MetricField) : Setup :=
  match metric.kind with
  | .tagged _ => .tagged
  | .plain kind =>
    match computedType? kind with
    | some type =>
      if fields.contains (accessorName (unescaped metric.field)) then .fromField type
      else .fromMethod type
    | none => if kind.isSampled then .sampled else .fresh

/-- How a field is set up, given the names of all fields and the metrics among them. -/
def setupOf (fields : List String) (metrics : List MetricField) (field : String) : Setup :=
  match metrics.find? fun metric => metric.field = field with
  | some metric => metric.setup fields
  | none => .plainValue

namespace Plan

/-- The declarations of the metrics. -/
def declarations (plan : Plan) : List Declaration :=
  plan.metrics.map MetricField.declaration

/-- The names of the metrics with their fields, in the order in which they are visited. -/
def visits (plan : Plan) : List (String × String) :=
  plan.metrics.map fun metric => (metric.name, metric.field)

end Plan

/-- The metrics of fields, and the faults of the fields that are bad. -/
def gatherMetrics : List Member → List MetricField × List Fault
  | [] => ([], [])
  | member :: rest =>
    let (metrics, faults) := gatherMetrics rest
    match member.metric? with
    | .ok none => (metrics, faults)
    | .ok (some metric) => (metric :: metrics, faults)
    | .error fault => (metrics, fault :: faults)

/-- The plan for a described structure, or all its faults. -/
def plan : Shape → Except (List Fault) Plan
  | .named members =>
    let (metrics, faults) := gatherMetrics members
    let fields := members.map (·.name)
    let setups := fields.map fun field => (field, setupOf fields metrics field)
    if faults.isEmpty then .ok ⟨metrics, setups⟩ else .error faults
  | .positional | .unit => .error [.unnamedFields]
  | .choice | .overlay => .error [.notStructure]

end Telemetry.Blueprint
