/-
This file says which operations on a store are steady: they leave every name
where it is filed and every metric of the kind that it was made with. Letting
time pass, reading, changing and stopping metrics are steady, and so are whole
collections and emissions, which only read. What is not steady either makes a
metric, which adds one behind the others, or files names and takes them out.
-/

import Telemetry.Proofs.Store.Reading

namespace Telemetry

/-! ### The kind of a metric -/

namespace Metric

theorem kind_apply (metric : Metric) (now : Int) (change : Change) :
    (metric.apply now change).kind = metric.kind := by
  cases change <;> cases metric <;> rfl

theorem kind_observe (draw : UInt64) (now : Int) (value : Int64) (metric : Metric) :
    (metric.observe draw now value).kind = metric.kind := by
  cases metric <;> rfl

theorem kind_record (draw : UInt64) (now : Int) (duration : Duration) (metric : Metric) :
    (metric.record draw now duration).kind = metric.kind := by
  cases metric <;> rfl

theorem kind_mark (now : Int) (events : Int64) (metric : Metric) :
    (metric.mark now events).kind = metric.kind := by
  cases metric <;> rfl

/-! ### Stopping a metric -/

/-- The meter of a metric that has one. -/
def rates? : Metric → Option (Meter Float)
  | .meter rates => some rates
  | .timer _ rates => some rates
  | _ => none

theorem isStopped_stop (rates : Meter Float) (now : Int) : (rates.stop now).isStopped := by
  unfold Meter.stop
  split
  · assumption
  · rfl

theorem isStopped_of_rates?_stop {metric : Metric} {now : Int} {rates : Meter Float}
    (own : (metric.stop now).rates? = some rates) : rates.isStopped := by
  cases metric with
  | meter running | timer sample running =>
    cases own
    exact isStopped_stop running now
  | _ => cases own

/-- A metric that is stopped stays as it is when it is stopped again. -/
theorem stop_stop (metric : Metric) (now again : Int) :
    (metric.stop now).stop again = metric.stop now := by
  have meter (rates : Meter Float) : (rates.stop now).stop again = rates.stop now :=
    if_pos (isStopped_stop rates now)
  cases metric with
  | meter rates => exact congrArg Metric.meter (meter rates)
  | timer sample rates => exact congrArg (Metric.timer sample) (meter rates)
  | _ => rfl

end Metric

namespace Store

/-- The second store files the same metrics under the same names as the first, and every metric is
of the kind that it was. -/
structure Steady (before after : Store) : Prop where
  registries : after.registries = before.registries
  kind : ∀ handle, after.kind? handle = before.kind? handle

namespace Steady

theorem refl (store : Store) : Steady store store :=
  ⟨rfl, fun _ => rfl⟩

theorem trans {first second third : Store} (toSecond : Steady first second)
    (toThird : Steady second third) : Steady first third :=
  ⟨toThird.registries.trans toSecond.registries,
    fun handle => (toThird.kind handle).trans (toSecond.kind handle)⟩

/-- A store with the same metrics and the same registries is steady, whatever else differs. -/
theorem of_metrics {before after : Store} (registries : after.registries = before.registries)
    (metrics : after.metrics = before.metrics) : Steady before after :=
  ⟨registries, fun handle => by rw [kind?, kind?, metric?, metric?, metrics]⟩

theorem registry {before after : Store} (steady : Steady before after) (id : RegistryId) :
    after.registry id = before.registry id := by
  rw [Store.registry, Store.registry, steady.registries]

theorem lookup {before after : Store} (steady : Steady before after) (id : RegistryId)
    (name : String) : after.lookup id name = before.lookup id name := by
  rw [Store.lookup, Store.lookup, steady.registry]

end Steady

/-! ### Metrics behind handles -/

/-- The handle that the next new metric gets. -/
def nextHandle (store : Store) : Handle :=
  ⟨store.metrics.size⟩

theorem metric?_change (store : Store) (handle : Handle) (update : Metric → Metric)
    (other : Handle) :
    (store.change handle update).metric? other =
      if other = handle then (store.metric? other).map update else store.metric? other := by
  obtain ⟨index⟩ := handle
  obtain ⟨otherIndex⟩ := other
  simp only [metric?, change, Array.getElem?_modify, Handle.mk.injEq, eq_comm (a := index)]

theorem metric?_create (store : Store) (metric : Metric) (other : Handle) :
    (store.create metric).2.metric? other =
      if other = store.nextHandle then some metric else store.metric? other := by
  obtain ⟨otherIndex⟩ := other
  simp only [metric?, create, nextHandle, Array.getElem?_push, Handle.mk.injEq]

/-- A handle is live if there is a metric behind it. -/
def Live (store : Store) (handle : Handle) : Prop :=
  handle.index < store.metrics.size

theorem not_live_nextHandle (store : Store) : ¬ store.Live store.nextHandle :=
  Nat.lt_irrefl store.metrics.size

theorem live_iff_isSome_kind? (store : Store) (handle : Handle) :
    store.Live handle ↔ (store.kind? handle).isSome := by
  rw [Live, kind?, metric?, Option.isSome_map, isSome_getElem?]

theorem kind?_of_not_live {store : Store} {handle : Handle} (dead : ¬ store.Live handle) :
    store.kind? handle = none := by
  rw [live_iff_isSome_kind?, Option.not_isSome_iff_eq_none] at dead
  exact dead

/-- A change that keeps the kind of the metric that it concerns is steady. -/
theorem steady_change (store : Store) (handle : Handle) (update : Metric → Metric)
    (keeps : ∀ metric, store.metric? handle = some metric → (update metric).kind = metric.kind) :
    Steady store (store.change handle update) := by
  refine ⟨rfl, fun other => ?_⟩
  rw [kind?, metric?_change, kind?]
  by_cases same : other = handle
  · subst same
    rw [if_pos rfl]
    cases found : store.metric? other with
    | none => rfl
    | some metric => exact congrArg some (keeps metric found)
  · rw [if_neg same]

/-- Every metric of the first store is in the second, and its kind is the same. -/
def Grows (before after : Store) : Prop :=
  ∀ handle kind, before.kind? handle = some kind → after.kind? handle = some kind

namespace Grows

theorem refl (store : Store) : Grows store store :=
  fun _ _ known => known

theorem trans {first second third : Store} (toSecond : Grows first second)
    (toThird : Grows second third) : Grows first third :=
  fun handle kind known => toThird handle kind (toSecond handle kind known)

theorem live {before after : Store} (grows : Grows before after) {handle : Handle}
    (live : before.Live handle) : after.Live handle := by
  rw [live_iff_isSome_kind?] at live ⊢
  obtain ⟨kind, known⟩ := Option.isSome_iff_exists.1 live
  rw [grows handle kind known, Option.isSome_some]

end Grows

theorem Steady.grows {before after : Store} (steady : Steady before after) :
    Grows before after :=
  fun handle _ known => (steady.kind handle).trans known

theorem kind?_create (store : Store) (metric : Metric) (handle : Handle) :
    (store.create metric).2.kind? handle =
      if handle = store.nextHandle then some metric.kind else store.kind? handle := by
  rw [kind?, metric?_create]
  split <;> rfl

/-- A new metric stands behind the others. -/
theorem grows_create (store : Store) (metric : Metric) :
    Grows store (store.create metric).2 := by
  intro handle _ known
  rw [kind?_create, if_neg, known]
  rintro rfl
  rw [kind?_of_not_live store.not_live_nextHandle] at known
  cases known

theorem live_create (store : Store) (metric : Metric) :
    (store.create metric).2.Live store.nextHandle := by
  rw [live_iff_isSome_kind?, kind?_create, if_pos rfl, Option.isSome_some]

/-! ### Single operations -/

theorem steady_advance (store : Store) (duration : Duration) :
    Steady store (store.advance duration) :=
  .of_metrics rfl rfl

theorem steady_setSource (store : Store) (id : SourceId) (source : Source) :
    Steady store (store.setSource id source) :=
  .of_metrics rfl rfl

theorem steady_notices (store : Store) (notices : List Notice) :
    Steady store { store with notices := notices } :=
  .of_metrics rfl rfl

theorem steady_draw (store : Store) : Steady store store.draw.2 :=
  .of_metrics rfl rfl

theorem steady_stop (store : Store) (handle : Handle) : Steady store (store.stop handle) :=
  steady_change store handle _ fun metric _ => metric.kind_stop store.now

theorem steady_mark (store : Store) (handle : Handle) (events : Int64) :
    Steady store (store.mark handle events) :=
  steady_change store handle _ fun metric _ => metric.kind_mark store.now events

theorem steady_observe (store : Store) (handle : Handle) (value : Int64) :
    Steady store (store.observe handle value) :=
  store.steady_draw.trans
    (steady_change _ handle _ fun metric _ => metric.kind_observe _ _ value)

theorem steady_record (store : Store) (handle : Handle) (duration : Duration) :
    Steady store (store.record handle duration) :=
  store.steady_draw.trans
    (steady_change _ handle _ fun metric _ => metric.kind_record _ _ duration)

/-- Reading may apply ticks to a meter and advance a source, but changes no kind. -/
theorem steady_read (store : Store) (handle : Handle) : Steady store (store.read handle).2 := by
  unfold read
  cases found : store.metric? handle with
  | none => exact .refl store
  | some metric =>
    cases metric with
    | counter _ | gauge _ | floatGauge _ | functionalFloatGauge _ | histogram _ =>
      exact .refl store
    | functionalGauge source => exact store.steady_setSource source _
    | meter rates | timer sample rates =>
      refine steady_change store handle _ fun metric same => ?_
      rw [found] at same
      cases same
      rfl

/-- The store with other notices. -/
def noting (store : Store) (notices : List Notice) : Store :=
  { store with notices := notices }

/-- What is noted does not matter for what is read. -/
theorem read_noting (store : Store) (notices : List Notice) (handle : Handle) :
    (store.noting notices).read handle =
      ((store.read handle).1, (store.read handle).2.noting notices) := by
  have same : (store.noting notices).metric? handle = store.metric? handle := rfl
  unfold read
  rw [same]
  cases store.metric? handle with
  | none => rfl
  | some metric => cases metric <;> rfl

theorem now_read (store : Store) (handle : Handle) : (store.read handle).2.now = store.now := by
  unfold read
  split <;> rfl

/-! ### Collections and emissions -/

theorem allowsReading_steady : AllowsReading Steady where
  refl := .refl
  trans := .trans
  notices := steady_notices
  read := steady_read

theorem steady_entryContributions (settings : Exposition.Settings) (store : Store) (name : String)
    (handle : Handle) :
    Steady store (Exposition.entryContributions settings store name handle).2 :=
  allowsReading_steady.exposition.entryContributions settings store name handle

theorem steady_collect (settings : Exposition.Settings) (store : Store) (id : RegistryId) :
    Steady store (Exposition.collect settings store id).2 :=
  allowsReading_steady.exposition.collect settings store id

theorem steady_emitOnce (emitter : Statsd.Emitter) (store : Store) :
    Steady store (emitter.emitOnce store).2 :=
  allowsReading_steady.emitOnce emitter store

end Store

end Telemetry
