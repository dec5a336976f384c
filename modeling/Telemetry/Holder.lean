/-
This file holds groups of metrics. A group is made from declarations, one field
for each, and can be registered and unregistered as a whole. Registering leaves
names that are taken to whoever has them; unregistering takes the declared names
out, whoever has them by then, and leaves names with tags alone.
-/

import Telemetry.Declaration
import Telemetry.Tagged

namespace Telemetry

/-- The metric in a field of a group. -/
inductive FieldValue
  | plain (kind : Kind) (handle : Handle)
  | tagged (family : Tagged)
deriving Repr

/-- A field of a group: its own name and the name of its metric. -/
structure Field where
  field : String
  name : String
  value : FieldValue
deriving Repr

/-- A group of metrics, in the order of their declarations. -/
structure Holder where
  fields : List Field
deriving Repr

/-- What the field is. -/
def FieldValue.kind : FieldValue → FieldKind
  | .plain kind _ => .plain kind
  | .tagged family => .tagged family.kind

namespace Field

/-- Register the metric of a field. A plain metric is registered under its name unless that is
taken; a metric with tags is bound to the registry. -/
def register (field : Field) (store : Store) (id : RegistryId) : Field × Store :=
  match field.value with
  | .plain _ handle =>
    match store.register id field.name handle with
    | .ok registered => (field, registered)
    | .error error => (field, store.note (.registrationSkipped error.name))
  | .tagged family =>
    let (bound, registered) := family.bind store id
    ({ field with value := .tagged bound }, registered)

/-- Make a declared field with tags. Functional gauges cannot have any, as they need a source. -/
def withTags (declaration : Declaration) (kind : Kind) (spec : Sample.Spec) :
    Except DefinitionError Field :=
  match kind.stored? with
  | none => .error (.taggedFunctional declaration.field kind)
  | some stored =>
    .ok ⟨declaration.field, declaration.name, .tagged (.unbound declaration.name stored spec)⟩

/-- Make the metric of a declared field. A functional gauge takes its source from the accessor
that is named after the field. -/
def ofDeclaration (declaration : Declaration) (accessors : Dictionary Accessor) (store : Store) :
    Except DefinitionError (Field × Store) := do
  let kind ← declaration.kind
  let spec ← declaration.sampleSpec
  let make (value : FieldValue) : Field := ⟨declaration.field, declaration.name, value⟩
  let functional (returns : ValueType) (kind : Kind) (metric : SourceId → Metric) :
      Except DefinitionError (Field × Store) :=
    let name := accessorName declaration.field
    match accessors.find? name with
    | none => .error (.missingSource declaration.field name)
    | some accessor =>
      if accessor.returns = returns then
        let (handle, created) := store.create (metric accessor.source)
        .ok (make (.plain kind handle), created)
      else .error (.wrongSource declaration.field name returns.word)
  match kind with
  | .tagged kind => (withTags declaration kind.kind spec).map fun field => (field, store)
  | .plain .functionalGauge => functional .int .functionalGauge .functionalGauge
  | .plain .functionalFloatGauge => functional .float .functionalFloatGauge .functionalFloatGauge
  | .plain kind =>
    match kind.stored? with
    | none => .error (.invalidType declaration.field declaration.type)
    | some stored =>
      let (handle, created) := store.create (.fresh stored spec store.now)
      .ok (make (.plain kind handle), created)

/-- A short text about the field that says its kind first. -/
def description (field : Field) (store : Store) : String :=
  match field.value with
  | .plain kind handle => ((store.metric? handle).map Metric.labelledDescription).getD kind.word
  | .tagged family => "Tagged" ++ family.kind.kind.word ++ "(" ++ family.description ++ ")"

end Field

namespace Holder

/-- Make the fields of a list of declarations; the first fault counts. -/
def populateFields (accessors : Dictionary Accessor) (store : Store) :
    List Declaration → Except DefinitionError (List Field × Store)
  | [] => .ok ([], store)
  | declaration :: rest => do
    let (field, created) ← Field.ofDeclaration declaration accessors store
    let (fields, populated) ← populateFields accessors created rest
    .ok (field :: fields, populated)

/-- Make a group of metrics from declarations. No registry is involved. -/
def populate (declarations : List Declaration) (accessors : Dictionary Accessor) (store : Store) :
    Except DefinitionError (Holder × Store) := do
  let (fields, populated) ← populateFields accessors store declarations
  .ok (⟨fields⟩, populated)

/-- The names of the metrics, in the order of the fields. -/
def metricNames (holder : Holder) : List String :=
  holder.fields.map (·.name)

/-- The field with the given name; of several the first. -/
def find? (holder : Holder) (field : String) : Option Field :=
  holder.fields.find? fun candidate => candidate.field = field

/-- Whether the field of that name is of the given kind. -/
def hasField (holder : Holder) (field : String) (kind : FieldKind) : Bool :=
  match holder.find? field with
  | some found => found.value.kind = kind
  | none => false

/-- Register the fields one after the other. -/
def registerFields (id : RegistryId) (store : Store) : List Field → List Field × Store
  | [] => ([], store)
  | field :: rest =>
    let (registered, next) := field.register store id
    let (others, final) := registerFields id next rest
    (registered :: others, final)

/-- Register all metrics of the group. -/
def register (holder : Holder) (store : Store) (id : RegistryId) : Holder × Store :=
  let (fields, registered) := registerFields id store holder.fields
  (⟨fields⟩, registered)

/-- Take the names of all metrics of the group out of the registry. -/
def unregister (holder : Holder) (store : Store) (id : RegistryId) : Store :=
  holder.metricNames.foldl (fun store name => store.unregister id name) store

end Holder

end Telemetry
