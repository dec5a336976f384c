/-
This file holds the loop that sends the metrics of a registry periodically. What
it sends is the registry as it is at that moment. The loop reports when it ends.
-/

import Telemetry.Statsd.Emitter
import Telemetry.Statsd.Schedule

namespace Telemetry.Statsd

/-- An emitter at work on a schedule. -/
structure Loop where
  schedule : Schedule
  emitter : Emitter

namespace Loop

/-- A loop that starts now. -/
def starting (emitter : Emitter) (interval : Duration) (now : Nat) : Loop :=
  ⟨.starting (.ofDuration interval) now, emitter⟩

/-- Whether the loop has not ended. -/
def isRunning (loop : Loop) : Bool :=
  loop.schedule.running

/-- Send all metrics once for each of the given times. -/
def emitAt (emitter : Emitter) (store : Store) : List Nat → Emitter × Store
  | [] => (emitter, store)
  | _ :: rest =>
    let (sent, next) := emitter.emitOnce store
    emitAt sent next rest

/-- The loop after an event. -/
def respond (loop : Loop) (store : Store) (event : Schedule.Event) : Loop × Store :=
  let (times, schedule) := loop.schedule.respond event
  let (emitter, sent) := emitAt loop.emitter store times
  let ended := loop.isRunning && !schedule.running
  (⟨schedule, emitter⟩, if ended then sent.note .emitterStopped else sent)

/-- The datagrams delivered so far, which are forgotten. -/
def takeDelivered (loop : Loop) : List (List Char) × Loop :=
  let (delivered, client) := loop.emitter.client.takeDelivered
  (delivered, { loop with emitter := { loop.emitter with client } })

end Loop

end Telemetry.Statsd
