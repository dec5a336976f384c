/-
This file proves that a meter that is stopped is stopped for good. However it is
stopped, directly, as the meter of a timer, or because a name under which it is
filed is taken out, every reading from then on shows what a reading at that time
would have shown. Nothing that can be done with a store touches a stopped meter.
A timer goes on to take durations into its sample, and into nothing else.
-/

import Telemetry.Proofs.Registry.FirstRegistrant
import Telemetry.Proofs.Store.Keeping
import Telemetry.Proofs.Store.Updates

namespace Telemetry

/-! ### Readings of stopped meters -/

namespace Meter

variable {Number : Type} [Arithmetic Number] (meter : Meter Number)

theorem snapshot_of_isStopped (stopped : meter.isStopped) (now later : Int) :
    (meter.snapshot now).1 = (meter.snapshot later).1 := by
  obtain ⟨time, found⟩ := Option.isSome_iff_exists.1 stopped
  simp only [snapshot, found]

/-- A meter that is stopped shows at any time what a reading would have shown just then. -/
theorem snapshot_stop (now later : Int) :
    ((meter.stop now).snapshot later).1 = (meter.snapshot now).1 := by
  unfold stop
  split
  · rename_i stopped
    exact meter.snapshot_of_isStopped stopped later now
  · rename_i running
    have fresh : meter.stoppedAt = none := Option.not_isSome_iff_eq_none.1 running
    simp only [snapshot, fresh]
    rfl

end Meter

/-- What a reading shows of a meter, for the kinds that have one. -/
def Reading.rates? : Reading → Option (Meter.Snapshot Float)
  | .meter rates => some rates
  | .timer _ rates => some rates
  | _ => none

namespace Store

theorem rates?_read {store : Store} {held : Handle} {metric : Metric} {rates : Meter Float}
    (found : store.metric? held = some metric) (own : metric.rates? = some rates) :
    (store.read held).1.bind Reading.rates? = some (rates.snapshot store.now).1 := by
  cases metric with
  | meter running | timer sample running =>
    cases own
    simp only [read, found]
    rfl
  | _ => cases own

end Store

/-! ### Durations -/

/-- What a timer is given when it is used: a duration, the time, and a draw. -/
structure Recording where
  duration : Duration
  now : Int
  draw : UInt64

/-- A sample of durations after a recording. -/
def Sample.take (sample : Sample) (recording : Recording) : Sample :=
  sample.update recording.draw recording.now (Metric.nanoseconds recording.duration)

namespace Metric

/-- A metric whose meter is stopped, after recordings: a timer takes them into its sample. -/
def take (recordings : List Recording) : Metric → Metric
  | .timer sample rates => .timer (recordings.foldl Sample.take sample) rates
  | other => other

theorem take_nil (metric : Metric) : metric.take [] = metric := by
  cases metric <;> rfl

theorem take_append (metric : Metric) (first second : List Recording) :
    metric.take (first ++ second) = (metric.take first).take second := by
  cases metric with
  | timer sample rates => exact congrArg (Metric.timer · rates) List.foldl_append
  | _ => rfl

/-- The meter takes in nothing. -/
theorem rates?_take (recordings : List Recording) (metric : Metric) :
    (metric.take recordings).rates? = metric.rates? := by
  cases metric <;> rfl

/-- The metric has a meter, and that is stopped. -/
def HasStopped (metric : Metric) : Prop :=
  ∃ rates, metric.rates? = some rates ∧ rates.isStopped

theorem isAtRest_of_hasStopped {metric : Metric} (stopped : metric.HasStopped) :
    metric.IsAtRest := by
  obtain ⟨rates, own, stopped⟩ := stopped
  intro other same
  cases own.symm.trans same
  exact stopped

end Metric

namespace Operation

/-- The durations that an operation gives to a timer. -/
def durations (held : Handle) : Operation → List Duration
  | .record handle duration => if handle = held then [duration] else []
  | _ => []

/-- The recordings that an operation makes of its durations. -/
def recordings (store : Store) (held : Handle) (operation : Operation) : List Recording :=
  (operation.durations held).map fun duration => ⟨duration, store.now, store.draw.1⟩

/-- The operation stops a metric: by its handle, or by taking out a name under which it is
filed. -/
def Stops (store : Store) (held : Handle) (operation : Operation) : Prop :=
  operation = .stop held ∨
    ∃ id name, operation.removes id name ∧ store.lookup id name = some held

end Operation

namespace Update

theorem recordings_on_other (store : Store) {handle held : Handle} (other : handle ≠ held)
    (update : Update) : (update.on handle).recordings store held = [] := by
  cases update with
  | record duration => exact congrArg (List.map _) (if_neg other)
  | _ => rfl

/-- Through its handle a metric whose meter is stopped can be given durations and nothing else. -/
theorem effect_of_hasStopped (store : Store) (held : Handle) {metric : Metric}
    (stopped : metric.HasStopped) (update : Update) :
    update.effect store metric = metric.take ((update.on held).recordings store held) := by
  obtain ⟨rates, own, still⟩ := stopped
  cases metric with
  | meter running =>
    cases own
    cases update with
    | change wanted => cases wanted <;> rfl
    | mark events | stop => exact congrArg Metric.meter (if_pos still)
    | _ => rfl
  | timer sample running =>
    cases own
    cases update with
    | change wanted => cases wanted <;> rfl
    | record duration =>
      have given : (on held (.record duration)).durations held = [duration] := if_pos rfl
      rw [Operation.recordings, given]
      exact congrArg (Metric.timer _) (if_pos still)
    | stop => exact congrArg (Metric.timer sample) (if_pos still)
    | _ => rfl
  | _ => cases own

end Update

namespace Store

/-! ### Stopping -/

theorem metric?_perform_of_stops {store : Store} {held : Handle} {operation : Operation}
    (stops : operation.Stops store held) :
    (store.perform operation).metric? held = (store.metric? held).map (·.stop store.now) := by
  rcases stops with rfl | ⟨id, name, named, filed⟩
  · exact (store.metric?_change held _ held).trans (if_pos rfl)
  · have removal : operation.isRemoval := by
      cases operation <;> first | rfl | cases named
    exact (store.metric?_perform_removal removal held).1 ⟨id, name, named, filed⟩

/-! ### Runs -/

/-- The recordings that a timer is given along a run. -/
def recordingsAlong (held : Handle) (store : Store) : List Operation → List Recording
  | [] => []
  | operation :: rest =>
    operation.recordings store held ++ recordingsAlong held (store.perform operation) rest

/-- The recordings along a run are of all durations that the timer is given, in order. -/
theorem durations_recordingsAlong (held : Handle) (store : Store) (operations : List Operation) :
    (recordingsAlong held store operations).map (·.duration) =
      operations.flatMap (Operation.durations held) := by
  induction operations generalizing store with
  | nil => rfl
  | cons operation rest inductionHypothesis =>
    rw [recordingsAlong, List.map_append, inductionHypothesis, List.flatMap_cons,
      Operation.recordings, List.map_map]
    exact congrArg (· ++ _) (List.map_id _)

/-- The law of a step: an operation leaves a metric whose meter is stopped as it is, unless it gives
a duration to it. -/
theorem metric?_perform_stopped {store : Store} {held : Handle} {metric : Metric}
    (found : store.metric? held = some metric) (stopped : metric.HasStopped)
    (operation : Operation) :
    (store.perform operation).metric? held =
      some (metric.take (operation.recordings store held)) := by
  have rest : ∀ metric : Metric, metric.HasStopped → metric.IsAtRest :=
    fun _ => Metric.isAtRest_of_hasStopped
  have kept {after : Store} (keeps : Keeps Metric.HasStopped store after) :
      after.metric? held = some (metric.take []) := by
    rw [metric.take_nil]
    exact keeps held metric stopped found
  have updated (handle : Handle) (update : Update) :
      (store.perform (update.on handle)).metric? held =
        some (metric.take ((update.on handle).recordings store held)) := by
    rw [metric?_perform_on, found, Option.map_some]
    split
    · rename_i same
      rw [same, update.effect_of_hasStopped store handle stopped]
    · rename_i other
      rw [update.recordings_on_other store (Ne.symm other), metric.take_nil]
  cases operation with
  | change handle change => exact updated handle (.change change)
  | observe handle value => exact updated handle (.observe value)
  | record handle duration => exact updated handle (.record duration)
  | mark handle events => exact updated handle (.mark events)
  | stop handle => exact updated handle .stop
  | advance _ | setSource _ _ => exact kept fun _ _ _ known => known
  | read handle => exact kept (.read rest store handle)
  | collect settings id =>
    exact kept ((Keeps.allowsReading rest).exposition.collect settings store id)
  | emit emitter => exact kept ((Keeps.allowsReading rest).emitOnce emitter store)
  | _ => exact kept ((Keeps.allowsFiling rest).perform store rfl)

theorem metric?_performAll_stopped {store : Store} {held : Handle} {metric : Metric}
    (found : store.metric? held = some metric) (stopped : metric.HasStopped)
    (operations : List Operation) :
    (store.performAll operations).metric? held =
      some (metric.take (recordingsAlong held store operations)) := by
  induction operations generalizing store metric with
  | nil => rw [recordingsAlong, metric.take_nil]; exact found
  | cons operation rest inductionHypothesis =>
    have stays : (metric.take (operation.recordings store held)).HasStopped := by
      rwa [Metric.HasStopped, Metric.rates?_take]
    rw [recordingsAlong, Metric.take_append]
    exact inductionHypothesis (metric?_perform_stopped found stopped operation) stays

end Store

end Telemetry
