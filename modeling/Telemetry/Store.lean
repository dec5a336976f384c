/-
This file holds everything that outlives a single call: the time, the states of
all metrics, the sources that functional gauges read, the registries, and the
notices that have not been reported yet. Metrics are named by handles, and all
holders of one handle see one state. What chance decides is read from a given
stream of draws, so a run is determined by the store that it starts from.
-/

import Telemetry.Dictionary
import Telemetry.Metric
import Telemetry.Notice

namespace Telemetry

/-- Names a metric of a store. -/
structure Handle where
  index : Nat
deriving DecidableEq, Repr

/-- The metrics filed in a registry, by name. -/
abbrev Registry :=
  Dictionary Handle

/-- The names of registries. -/
abbrev RegistryId :=
  String

/-- What outlives a call. The time is in nanoseconds. -/
structure Store where
  now : Int
  metrics : Array Metric
  sources : Array Source
  registries : Dictionary Registry
  draws : Nat → UInt64
  drawn : Nat
  notices : List Notice

namespace Store

/-- A store without metrics, with the given stream of draws. -/
def starting (draws : Nat → UInt64) : Store where
  now := 0
  metrics := #[]
  sources := #[]
  registries := .empty
  draws := draws
  drawn := 0
  notices := []

/-! ### Time, draws and notices -/

/-- Let time pass. -/
def advance (store : Store) (duration : Duration) : Store :=
  { store with now := store.now + duration.nanoseconds }

/-- Take the next draw. -/
def draw (store : Store) : UInt64 × Store :=
  (store.draws store.drawn, { store with drawn := store.drawn + 1 })

/-- Put down a notice after the earlier ones. -/
def note (store : Store) (notice : Notice) : Store :=
  { store with notices := store.notices ++ [notice] }

/-- Put down several notices. -/
def noteAll (store : Store) (notices : List Notice) : Store :=
  { store with notices := store.notices ++ notices }

/-! ### Sources -/

/-- Set up a source. -/
def addSource (store : Store) (source : Source) : SourceId × Store :=
  (⟨store.sources.size⟩, { store with sources := store.sources.push source })

/-- A source; one that was never set up is idle. -/
def source (store : Store) (id : SourceId) : Source :=
  store.sources.getD id.index .idle

/-- Put something else into a source. -/
def setSource (store : Store) (id : SourceId) (source : Source) : Store :=
  { store with sources := store.sources.setIfInBounds id.index source }

/-- Leave several sources without anything in them, as when their owner goes away. -/
def clearSources (store : Store) (ids : List SourceId) : Store :=
  ids.foldl (fun store id => store.setSource id .idle) store

/-- Read a whole number from a source. -/
def readInt (store : Store) (id : SourceId) : Int64 × Store :=
  let (value, next) := (store.source id).readInt
  (value, store.setSource id next)

/-- Read a floating point number from a source. -/
def readFloat (store : Store) (id : SourceId) : Float :=
  (store.source id).readFloat

/-! ### Metrics -/

/-- Set up a metric. -/
def create (store : Store) (metric : Metric) : Handle × Store :=
  (⟨store.metrics.size⟩, { store with metrics := store.metrics.push metric })

/-- The state behind a handle. -/
def metric? (store : Store) (handle : Handle) : Option Metric :=
  store.metrics[handle.index]?

/-- Change the state behind a handle. -/
def change (store : Store) (handle : Handle) (update : Metric → Metric) : Store :=
  { store with metrics := store.metrics.modify handle.index update }

/-- Offer a value to a histogram. -/
def observe (store : Store) (handle : Handle) (value : Int64) : Store :=
  let (draw, next) := store.draw
  next.change handle (·.observe draw store.now value)

/-- Give a timer a duration. -/
def record (store : Store) (handle : Handle) (duration : Duration) : Store :=
  let (draw, next) := store.draw
  next.change handle (·.record draw store.now duration)

/-- Give a timer the time since `start`. -/
def recordSince (store : Store) (handle : Handle) (start : Int) : Store :=
  store.record handle ⟨(store.now - start).toNat⟩

/-- Mark events on a meter. -/
def mark (store : Store) (handle : Handle) (events : Int64) : Store :=
  store.change handle (·.mark store.now events)

/-- Stop a meter or a timer. -/
def stop (store : Store) (handle : Handle) : Store :=
  store.change handle (·.stop store.now)

/-- Read a metric. A reading of a meter applies the ticks that have come due, and a reading of a
functional gauge reads its source. -/
def read (store : Store) (handle : Handle) : Option Reading × Store :=
  match store.metric? handle with
  | none => (none, store)
  | some (.counter count) => (some (.count count), store)
  | some (.gauge value) => (some (.level value), store)
  | some (.floatGauge value) => (some (.floatLevel value), store)
  | some (.functionalGauge source) =>
    let (value, next) := store.readInt source
    (some (.level value), next)
  | some (.functionalFloatGauge source) => (some (.floatLevel (store.readFloat source)), store)
  | some (.histogram sample) => (some (.histogram sample.snapshot), store)
  | some (.meter rates) =>
    let (snapshot, current) := rates.snapshot store.now
    (some (.meter snapshot), store.change handle fun _ => .meter current)
  | some (.timer sample rates) =>
    let (snapshot, current) := rates.snapshot store.now
    (some (.timer sample.snapshot snapshot), store.change handle fun _ => .timer sample current)

end Store

end Telemetry
