/-
This file holds a demonstration: a server that answers ten requests in every
second and measures itself. It counts its requests by the status of the answer,
times them, and shows how many are under way and how long it has been up. Its
metrics are sent periodically and are shown from time to time. How long a
request takes and how it ends is drawn.
-/

import Telemetry.Application.Settings
import Telemetry.Exposition.Collector
import Telemetry.Exposition.Rendering
import Telemetry.Holder
import Telemetry.Statsd.Loop

namespace Telemetry.Application

/-- The metrics of the server. -/
def serverDeclarations : List Declaration :=
  [⟨"requests", "server.requests", "Tagged<Counter>", none⟩,
    ⟨"latency", "server.latency", "Timer", some "expdecay,1028,0.015"⟩,
    ⟨"inflight", "server.inflight", "Gauge", none⟩,
    ⟨"events", "server.events", "Meter", none⟩,
    ⟨"uptime", "server.uptime", "FunctionalGaugeFloat64", none⟩]

/-- The registry that the server files its metrics in. -/
def serverRegistry : RegistryId :=
  "server"

/-- A server at work. -/
structure Demonstration where
  store : Store
  metrics : Holder
  uptime : SourceId
  exposition : Exposition.Settings
  emission : Statsd.Loop

namespace Demonstration

/-- A server that starts now. -/
def starting (settings : Settings) (wire : Statsd.Wire) (draws : Nat → UInt64) :
    Except DefinitionError Demonstration := do
  let (uptime, supplied) := (Store.starting draws).addSource (.float 0.0)
  let accessors := Dictionary.ofList [(accessorName "uptime", ⟨.float, uptime⟩)]
  let (metrics, populated) ← Holder.populate serverDeclarations accessors supplied
  let (registered, store) := metrics.register populated serverRegistry
  let emitter : Statsd.Emitter := ⟨serverRegistry, settings.client.client wire store.now⟩
  let emission := Statsd.Loop.starting emitter settings.client.emitInterval 0
  .ok ⟨store, registered, uptime, settings.exposition, emission⟩

/-- Let time pass. -/
def pass (server : Demonstration) (duration : Duration) : Demonstration :=
  let later := server.store.advance duration
  let seconds := Arithmetic.secondsOf later.now.toNat
  let current := later.setSource server.uptime (.float seconds)
  let (emission, store) := server.emission.respond current (.pass duration)
  { server with store, emission }

/-- The next draw. -/
def draw (server : Demonstration) : UInt64 × Demonstration :=
  let (draw, store) := server.store.draw
  (draw, { server with store })

/-- Use the metric in a field. A field with tags stands for one metric for each set of tags. -/
def withField (server : Demonstration) (field : String) (tags : List String)
    (change : Store → Handle → Store) : Demonstration :=
  match (server.metrics.find? field).map Field.value with
  | none => server
  | some (.plain _ handle) => { server with store := change server.store handle }
  | some (.tagged family) =>
    let (handle, store) := family.tag server.store tags
    { server with store := change store handle }

/-- Milliseconds from one request to the next. -/
def requestPeriod : Nat :=
  100

/-- How many milliseconds a request takes: fewer than twenty, and at least one. -/
def requestTime (draw : UInt64) : Nat :=
  1 + draw.toNat % 19

/-- The status of an answer: of a hundred requests ninety succeed, and seven ask for what is not
there. -/
def requestStatus (draw : UInt64) : String :=
  let share := draw.toNat % 100
  if share < 90 then "200" else if share < 97 then "404" else "500"

/-- Answer a request, and wait until it is time for the next one. -/
def serve (server : Demonstration) : Demonstration :=
  let increase (amount : Int64) (store : Store) (handle : Handle) : Store :=
    store.change handle (·.increase amount)
  let begun := (server.withField "inflight" [] (increase 1)).withField "events" []
    fun store handle => store.mark handle 1
  let start := begun.store.now
  let (lengthDraw, lengthDrawn) := begun.draw
  let time := requestTime lengthDraw
  let answered := (lengthDrawn.pass (.ofMilliseconds time)).withField "latency" []
    fun store handle => store.recordSince handle start
  let (statusDraw, statusDrawn) := answered.draw
  let counted := statusDrawn.withField "requests" ["status:" ++ requestStatus statusDraw]
    (increase 1)
  (counted.withField "inflight" [] (increase (-1))).pass (.ofMilliseconds (requestPeriod - time))

/-- The exposition of the metrics. -/
def expose (server : Demonstration) : String × Demonstration :=
  let (families, store) := Exposition.collect server.exposition server.store serverRegistry
  (Exposition.render families, { server with store })

/-- End the work: nothing more is sent, and the metrics leave the registry. -/
def finish (server : Demonstration) : Demonstration :=
  let (emission, stopped) := server.emission.respond server.store .cancel
  { server with emission, store := server.metrics.unregister stopped serverRegistry }

/-- The datagrams sent and the notices put down so far, which are forgotten. -/
def takeReports (server : Demonstration) : List String × List Notice × Demonstration :=
  let (delivered, emission) := server.emission.takeDelivered
  (delivered.map String.ofList, server.store.notices,
    { server with emission, store := { server.store with notices := [] } })

end Demonstration

end Telemetry.Application
