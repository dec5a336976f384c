/-
This file lists what can be done with a store as data, so that a whole run is a
list: metrics are made, changed, read and stopped, names are registered and
unregistered, by themselves, by groups or by metrics with tags, and registries
are collected and sent. What an operation answers its caller is left out here;
only its effect on the store counts.
-/

import Telemetry.Exposition.Collector
import Telemetry.Holder
import Telemetry.Statsd.Emitter

namespace Telemetry

/-- A change of the state of one metric. -/
inductive Change
  | increase (amount : Int64)
  | decrease (amount : Int64)
  | set (value : Int64)
  | setFloat (value : Float)
  | clear
deriving Repr

/-- A metric after a change. -/
def Metric.apply (metric : Metric) (now : Int) : Change → Metric
  | .increase amount => metric.increase amount
  | .decrease amount => metric.decrease amount
  | .set value => metric.set value
  | .setFloat value => metric.setFloat value
  | .clear => metric.clear now

/-- What can be done with a store. -/
inductive Operation
  | advance (duration : Duration)
  | setSource (id : SourceId) (source : Source)
  | create (metric : Metric)
  | change (handle : Handle) (change : Change)
  | observe (handle : Handle) (value : Int64)
  | record (handle : Handle) (duration : Duration)
  | mark (handle : Handle) (events : Int64)
  | stop (handle : Handle)
  | read (handle : Handle)
  | register (id : RegistryId) (name : String) (handle : Handle)
  | getOrRegister (id : RegistryId) (name : String) (metric : Metric)
  | unregister (id : RegistryId) (name : String)
  | unregisterAll (id : RegistryId)
  | registerHolder (id : RegistryId) (holder : Holder)
  | unregisterHolder (id : RegistryId) (holder : Holder)
  | bind (id : RegistryId) (family : Tagged)
  | tag (family : Tagged) (tags : List String)
  | collect (settings : Exposition.Settings) (id : RegistryId)
  | emit (emitter : Statsd.Emitter)

namespace Store

/-- The store after an operation. A registration that fails leaves the store as it is. -/
def perform (store : Store) : Operation → Store
  | .advance duration => store.advance duration
  | .setSource id source => store.setSource id source
  | .create metric => (store.create metric).2
  | .change handle change => store.change handle fun metric => metric.apply store.now change
  | .observe handle value => store.observe handle value
  | .record handle duration => store.record handle duration
  | .mark handle events => store.mark handle events
  | .stop handle => store.stop handle
  | .read handle => (store.read handle).2
  | .register id name handle => (store.register id name handle).toOption.getD store
  | .getOrRegister id name metric => (store.getOrRegister id name fun _ => metric).2.2
  | .unregister id name => store.unregister id name
  | .unregisterAll id => store.unregisterAll id
  | .registerHolder id holder => (holder.register store id).2
  | .unregisterHolder id holder => holder.unregister store id
  | .bind id family => (family.bind store id).2
  | .tag family tags => (family.tag store tags).2
  | .collect settings id => (Exposition.collect settings store id).2
  | .emit emitter => (emitter.emitOnce store).2

/-- The store after a run of operations. -/
def performAll (store : Store) (operations : List Operation) : Store :=
  operations.foldl perform store

end Store

end Telemetry
