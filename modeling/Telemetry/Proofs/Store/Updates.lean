/-
This file says what an update through a handle does: the metric behind the
handle changes, and nothing else does. All other metrics stay as they are, and
every name stays filed as it is.
-/

import Telemetry.Proofs.Store.Steady

namespace Telemetry

/-- What the holder of a handle can do to the metric behind it. -/
inductive Update
  | change (wanted : Change)
  | observe (value : Int64)
  | record (duration : Duration)
  | mark (events : Int64)
  | stop
deriving Repr

namespace Update

/-- The update through a handle. -/
def on (handle : Handle) : Update → Operation
  | .change wanted => .change handle wanted
  | .observe value => .observe handle value
  | .record duration => .record handle duration
  | .mark events => .mark handle events
  | .stop => .stop handle

/-- What the update makes of a metric, at the time and with the next draw of the store. -/
def effect (store : Store) (metric : Metric) : Update → Metric
  | .change wanted => metric.apply store.now wanted
  | .observe value => metric.observe store.draw.1 store.now value
  | .record duration => metric.record store.draw.1 store.now duration
  | .mark events => metric.mark store.now events
  | .stop => metric.stop store.now

end Update

namespace Store

variable (store : Store) (handle : Handle) (update : Update)

theorem metric?_perform_on (other : Handle) :
    (store.perform (update.on handle)).metric? other =
      if other = handle then (store.metric? other).map (update.effect store ·)
      else store.metric? other := by
  cases update <;> exact metric?_change _ handle _ other

/-- Updates file nothing and take nothing out. -/
theorem lookup_perform_on (id : RegistryId) (name : String) :
    (store.perform (update.on handle)).lookup id name = store.lookup id name := by
  cases update <;> rfl

end Store

end Telemetry
