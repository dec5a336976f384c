/-
This file holds the emitter, which sends the metrics of a registry through a
client. Entries go in the order of their full names. A counter and a gauge take
one line each, a meter five, a histogram and a timer seven; every line of an
entry carries the tags from the entry's name.
-/

import Telemetry.Name
import Telemetry.Registry
import Telemetry.Statsd.Client

namespace Telemetry.Statsd

/-- The lines of a sample. -/
def sampleLines (base : String) (values : Sample.Snapshot) : List Line :=
  [.floatGauge (base ++ ".avg") values.mean,
    .gauge (base ++ ".count") values.count.toInt,
    .gauge (base ++ ".max") values.greatest.toInt,
    .floatGauge (base ++ ".median") (Sample.percentile values.values 0.5),
    .gauge (base ++ ".min") values.least.toInt,
    .gauge (base ++ ".sum") values.sum.toInt,
    .floatGauge (base ++ ".95percentile") (Sample.percentile values.values 0.95)]

/-- The lines of a meter. -/
def meterLines (base : String) (rates : Meter.Snapshot Float) : List Line :=
  [.floatGauge (base ++ ".avg") rates.meanRate,
    .gauge (base ++ ".count") rates.count.toInt,
    .floatGauge (base ++ ".rate1") rates.rate1,
    .floatGauge (base ++ ".rate5") rates.rate5,
    .floatGauge (base ++ ".rate15") rates.rate15]

/-- The lines of what a metric shows when it is read. -/
def readingLines (base : String) : Reading → List Line
  | .count value => [.count base value.toInt]
  | .level value => [.gauge base value.toInt]
  | .floatLevel value => [.floatGauge base value]
  | .histogram values => sampleLines base values
  | .timer values _ => sampleLines base values
  | .meter rates => meterLines base rates

/-- Sends the metrics of a registry through a client. -/
structure Emitter where
  registry : RegistryId
  client : Client

namespace Emitter

/-- Send the lines of one entry. -/
def emitEntry (client : Client) (store : Store) (name : String) (handle : Handle) :
    Client × Store :=
  let parsed := Name.read name
  match store.read handle with
  | (none, next) => (client, next)
  | (some reading, next) =>
    let (sent, notices) :=
      client.sendAll store.now [.ofTags parsed.tags] (readingLines parsed.base reading)
    (sent, next.noteAll notices)

/-- Send the lines of entries in their order. -/
def emitEntries (client : Client) (store : Store) : List (String × Handle) → Client × Store
  | [] => (client, store)
  | (name, handle) :: rest =>
    let (sent, next) := emitEntry client store name handle
    emitEntries sent next rest

/-- Send the lines of all entries, and leave nothing in the sink. -/
def emitOnce (emitter : Emitter) (store : Store) : Emitter × Store :=
  let (sent, next) := emitEntries emitter.client store (store.registry emitter.registry).entries
  let (flushed, notices) := sent.flush next.now
  ({ emitter with client := flushed }, next.noteAll notices)

end Emitter

end Telemetry.Statsd
