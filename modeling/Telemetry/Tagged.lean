/-
This file holds metrics with tags. Such a metric stands for a whole set of
metrics of one kind, one for every set of tags, which are filed in a registry
under the base name with the tags. Until it is bound to a registry every use
gives a new metric that is filed nowhere; the same happens when the name is
taken by a metric of another kind.
-/

import Telemetry.Name
import Telemetry.Registry

namespace Telemetry

/-- A metric with tags. -/
structure Tagged where
  base : String
  kind : StoredKind
  spec : Sample.Spec
  bound : Option RegistryId
deriving Repr

namespace Tagged

/-- A metric with tags that is bound to no registry yet. -/
def unbound (base : String) (kind : StoredKind) (spec : Sample.Spec) : Tagged :=
  ⟨base, kind, spec, none⟩

/-- Whether the metric is bound to a registry. -/
def isBound (tagged : Tagged) : Bool :=
  tagged.bound.isSome

/-- Make a metric that is filed nowhere. -/
def fresh (tagged : Tagged) (store : Store) : Handle × Store :=
  store.create (.fresh tagged.kind tagged.spec store.now)

/-- The metric under a name, made if the name is free. If the name is taken by a metric of another
kind, the answer is a metric that is filed nowhere. -/
def obtain (tagged : Tagged) (store : Store) (id : RegistryId) (name : String) : Handle × Store :=
  let (handle, _, filed) :=
    store.getOrRegister id name fun _ => .fresh tagged.kind tagged.spec store.now
  match filed.kind? handle with
  | none => tagged.fresh filed
  | some held =>
    if held = tagged.kind.kind then (handle, filed)
    else tagged.fresh (filed.note (.kindMismatch name held tagged.kind.kind))

/-- The metric for a set of tags. -/
def tag (tagged : Tagged) (store : Store) (tags : List String) : Handle × Store :=
  match tagged.bound with
  | none => tagged.fresh store
  | some id => tagged.obtain store id (Name.tagged tagged.base tags).written

/-- Bind to a registry, and file a metric without tags under the base name, so that it shows
before any tags are used. -/
def bind (tagged : Tagged) (store : Store) (id : RegistryId) : Tagged × Store :=
  ({ tagged with bound := some id }, (tagged.obtain store id tagged.base).2)

/-- A short text about the metric. -/
def description (tagged : Tagged) : String :=
  Text.record "Tagged" [("name", Text.quote tagged.base), ("kind", tagged.kind.kind.word),
    ("bound", Text.truth tagged.isBound)]

end Tagged

end Telemetry
