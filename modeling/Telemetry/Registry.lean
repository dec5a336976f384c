/-
This file files metrics under names. The first to register a name keeps it:
registering a taken name changes nothing, and asking for a metric under a taken
name gives the one that is there. Taking a name out stops the meter or timer
that was filed under it, for all who hold it.
-/

import Telemetry.Store

namespace Telemetry

/-- The failure to register a taken name. -/
structure DuplicateMetric where
  name : String
deriving DecidableEq, Repr

/-- The wording of the failure. -/
def DuplicateMetric.message (error : DuplicateMetric) : String :=
  duplicateMessage error.name

namespace Store

/-- A registry; one that was never used is empty. -/
def registry (store : Store) (id : RegistryId) : Registry :=
  (store.registries.find? id).getD .empty

/-- Put another content into a registry. -/
def setRegistry (store : Store) (id : RegistryId) (registry : Registry) : Store :=
  { store with registries := store.registries.insert id registry }

/-- The metric filed under a name. -/
def lookup (store : Store) (id : RegistryId) (name : String) : Option Handle :=
  (store.registry id).find? name

/-- The kind of the metric behind a handle. -/
def kind? (store : Store) (handle : Handle) : Option Kind :=
  (store.metric? handle).map Metric.kind

/-- File a metric under a name that is free. -/
def register (store : Store) (id : RegistryId) (name : String) (handle : Handle) :
    Except DuplicateMetric Store :=
  if (store.registry id).contains name then .error ⟨name⟩
  else .ok (store.setRegistry id ((store.registry id).insert name handle))

/-- The metric filed under a name; if the name is free, one is made and filed. The answer tells
whether that was the case. -/
def getOrRegister (store : Store) (id : RegistryId) (name : String) (make : Unit → Metric) :
    Handle × Bool × Store :=
  match store.lookup id name with
  | some handle => (handle, false, store)
  | none =>
    let (handle, created) := store.create (make ())
    (handle, true, created.setRegistry id ((created.registry id).insert name handle))

/-- Take a name out and stop what was filed under it. -/
def unregister (store : Store) (id : RegistryId) (name : String) : Store :=
  match store.lookup id name with
  | none => store
  | some handle => (store.setRegistry id ((store.registry id).erase name)).stop handle

/-- Take all names out and stop what was filed under them. -/
def unregisterAll (store : Store) (id : RegistryId) : Store :=
  (store.registry id).values.foldl stop (store.setRegistry id .empty)

/-- A short text about a registry. -/
def describeRegistry (store : Store) (id : RegistryId) : String :=
  Text.record "Registry" [("len", Decimal.naturalText (store.registry id).size)]

end Store

end Telemetry
