/-
This file says when two stores are alike: they agree on everything but the
notices and the rates of timers, of which only the counts and the stops have to
agree. Whatever is done to both leaves them alike, so what tells them apart never
spreads to anything else. A collection, if no source changes when it is read,
leaves a store that is alike to the one before.
-/

import Telemetry.Proofs.Registry.FirstRegistrant
import Telemetry.Proofs.Statsd.Emission

namespace Telemetry

/-! ### Meters and metrics -/

namespace Meter

/-- Two meters that have counted the same and were stopped at the same time. Their averages may
differ. -/
structure Alike (first second : Meter Float) : Prop where
  count : second.count = first.count
  stoppedAt : second.stoppedAt = first.stoppedAt

namespace Alike

variable {first second : Meter Float}

theorem refl (meter : Meter Float) : Alike meter meter :=
  ⟨rfl, rfl⟩

theorem symm (alike : Alike first second) : Alike second first :=
  ⟨alike.count.symm, alike.stoppedAt.symm⟩

theorem trans {third : Meter Float} (toSecond : Alike first second) (toThird : Alike second third) :
    Alike first third :=
  ⟨toThird.count.trans toSecond.count, toThird.stoppedAt.trans toSecond.stoppedAt⟩

theorem catchUp (meter : Meter Float) (now : Int) : Alike meter (meter.catchUp now) := by
  unfold Meter.catchUp
  dsimp only
  split <;> exact ⟨rfl, rfl⟩

/-- Reading a meter changes its averages only. -/
theorem snapshot (meter : Meter Float) (now : Int) : Alike meter (meter.snapshot now).2 := by
  unfold Meter.snapshot
  split
  · exact .refl meter
  · exact catchUp meter now

/-- Whatever changes no more than averages of meters leaves alike meters alike. -/
theorem of_alike {firstAfter secondAfter : Meter Float} (alike : Alike first second)
    (firstStep : Alike first firstAfter) (secondStep : Alike second secondAfter) :
    Alike firstAfter secondAfter :=
  firstStep.symm.trans (alike.trans secondStep)

theorem isStopped (alike : Alike first second) : second.isStopped = first.isStopped :=
  congrArg Option.isSome alike.stoppedAt

theorem mark (alike : Alike first second) (now : Int) (events : Int64) :
    Alike (first.mark now events) (second.mark now events) := by
  have caughtUp := alike.of_alike (catchUp first now) (catchUp second now)
  unfold Meter.mark
  rw [alike.isStopped]
  split
  · exact alike
  · exact ⟨congrArg (· + events) caughtUp.count, caughtUp.stoppedAt⟩

theorem stop (alike : Alike first second) (now : Int) :
    Alike (first.stop now) (second.stop now) := by
  have caughtUp := alike.of_alike (catchUp first now) (catchUp second now)
  unfold Meter.stop
  rw [alike.isStopped]
  split
  · exact alike
  · exact ⟨caughtUp.count, rfl⟩

end Alike

end Meter

namespace Metric

/-- Two metrics that are equal, or timers with the same sample and meters that are alike. -/
inductive Alike : Metric → Metric → Prop
  | same (metric : Metric) : Alike metric metric
  | timer (sample : Sample) {first second : Meter Float} (rates : first.Alike second) :
    Alike (.timer sample first) (.timer sample second)

namespace Alike

variable {first second : Metric}

theorem symm (alike : Alike first second) : Alike second first := by
  cases alike with
  | same => exact .same _
  | timer sample rates => exact .timer sample rates.symm

theorem trans {third : Metric} (toSecond : Alike first second) (toThird : Alike second third) :
    Alike first third := by
  cases toSecond with
  | same => exact toThird
  | timer sample rates =>
    cases toThird with
    | same => exact .timer sample rates
    | timer sample later => exact .timer sample (rates.trans later)

theorem kind (alike : Alike first second) : second.kind = first.kind := by
  cases alike <;> rfl

theorem apply (alike : Alike first second) (now : Int) (change : Change) :
    Alike (first.apply now change) (second.apply now change) := by
  cases alike with
  | same => exact .same _
  | timer sample rates => cases change <;> exact .timer sample rates

theorem observe (alike : Alike first second) (draw : UInt64) (now : Int) (value : Int64) :
    Alike (first.observe draw now value) (second.observe draw now value) := by
  cases alike with
  | same => exact .same _
  | timer sample rates => exact .timer sample rates

theorem record (alike : Alike first second) (draw : UInt64) (now : Int) (duration : Duration) :
    Alike (first.record draw now duration) (second.record draw now duration) := by
  cases alike with
  | same => exact .same _
  | timer sample rates => exact .timer _ (rates.mark now 1)

theorem mark (alike : Alike first second) (now : Int) (events : Int64) :
    Alike (first.mark now events) (second.mark now events) := by
  cases alike with
  | same => exact .same _
  | timer sample rates => exact .timer sample rates

theorem stop (alike : Alike first second) (now : Int) :
    Alike (first.stop now) (second.stop now) := by
  cases alike with
  | same => exact .same _
  | timer sample rates => exact .timer sample (rates.stop now)

end Alike

/-- Metrics that are alike, or no metric on either side. -/
abbrev AlikeIfAny (first second : Option Metric) : Prop :=
  Option.Rel Alike first second

namespace AlikeIfAny

variable {first second : Option Metric}

theorem refl (metric : Option Metric) : AlikeIfAny metric metric := by
  cases metric with
  | none => exact .none
  | some metric => exact .some (.same metric)

theorem symm (alike : AlikeIfAny first second) : AlikeIfAny second first := by
  cases alike with
  | none => exact .none
  | some alike => exact .some alike.symm

theorem trans {third : Option Metric} (toSecond : AlikeIfAny first second)
    (toThird : AlikeIfAny second third) : AlikeIfAny first third := by
  cases toSecond with
  | none => exact toThird
  | some alike =>
    cases toThird with
    | some later => exact .some (alike.trans later)

theorem map (alike : AlikeIfAny first second) {firstUpdate secondUpdate : Metric → Metric}
    (updates : ∀ one other, one.Alike other → (firstUpdate one).Alike (secondUpdate other)) :
    AlikeIfAny (first.map firstUpdate) (second.map secondUpdate) := by
  cases alike with
  | none => exact .none
  | some alike => exact .some (updates _ _ alike)

theorem kind (alike : AlikeIfAny first second) :
    second.map Metric.kind = first.map Metric.kind := by
  cases alike with
  | none => rfl
  | some alike => exact congrArg some alike.kind

end AlikeIfAny

end Metric

/-! ### Sources -/

/-- A source that stays as it is when it is read. -/
def Source.IsPure (source : Source) : Prop :=
  source.readInt.2 = source

namespace Store

/-- All sources stay as they are when they are read. -/
def IsPure (store : Store) : Prop :=
  ∀ id, (store.source id).IsPure

theorem source_setSource (store : Store) (id other : SourceId) (source : Source) :
    (store.setSource id source).source other =
      if other = id ∧ id.index < store.sources.size then source else store.source other := by
  obtain ⟨index⟩ := id
  obtain ⟨otherIndex⟩ := other
  simp only [Store.source, setSource, Array.getD_eq_getD_getElem?, Array.getElem?_setIfInBounds,
    SourceId.mk.injEq]
  by_cases same : otherIndex = index
  · subst same
    by_cases inside : otherIndex < store.sources.size <;> simp [inside]
  · simp [same, Ne.symm same]

theorem IsPure.setSource {store : Store} (pure : store.IsPure) (id : SourceId) {source : Source}
    (own : source.IsPure) : (store.setSource id source).IsPure := by
  intro other
  rw [source_setSource]
  split
  · exact own
  · exact pure other

/-- Reading a whole number from a source that stays as it is leaves the store as it is. -/
theorem IsPure.readInt {store : Store} (pure : store.IsPure) (id : SourceId) :
    (store.readInt id).2 = store := by
  have stays : (store.source id).readInt.2 = store.source id := pure id
  show store.setSource id (store.source id).readInt.2 = store
  rw [stays]
  refine congrArg (fun sources => { store with sources }) ?_
  refine Array.ext_getElem? fun place => ?_
  rw [Array.getElem?_setIfInBounds]
  split
  · rename_i same
    subst same
    split
    · rename_i inside
      show some (store.sources.getD id.index .idle) = _
      rw [Array.getD_eq_getD_getElem?, Array.getElem?_eq_getElem inside, Option.getD_some]
    · rename_i outside
      exact (Array.getElem?_eq_none (Nat.le_of_not_lt outside)).symm
  · rfl

/-! ### Stores -/

/-- Two stores that agree on everything but the notices and the averages of timers, with sources
that stay as they are when they are read. -/
structure Alike (first second : Store) : Prop where
  pure : first.IsPure
  now : second.now = first.now
  sources : second.sources = first.sources
  registries : second.registries = first.registries
  draws : second.draws = first.draws
  drawn : second.drawn = first.drawn
  size : second.metrics.size = first.metrics.size
  metric : ∀ handle, Metric.AlikeIfAny (first.metric? handle) (second.metric? handle)

namespace Alike

variable {first second : Store}

theorem refl {store : Store} (pure : store.IsPure) : Alike store store where
  pure := pure
  now := rfl
  sources := rfl
  registries := rfl
  draws := rfl
  drawn := rfl
  size := rfl
  metric _ := .refl _

theorem symm (alike : Alike first second) : Alike second first where
  pure id := by
    rw [source, alike.sources]
    exact alike.pure id
  now := alike.now.symm
  sources := alike.sources.symm
  registries := alike.registries.symm
  draws := alike.draws.symm
  drawn := alike.drawn.symm
  size := alike.size.symm
  metric handle := (alike.metric handle).symm

theorem trans {third : Store} (toSecond : Alike first second) (toThird : Alike second third) :
    Alike first third where
  pure := toSecond.pure
  now := toThird.now.trans toSecond.now
  sources := toThird.sources.trans toSecond.sources
  registries := toThird.registries.trans toSecond.registries
  draws := toThird.draws.trans toSecond.draws
  drawn := toThird.drawn.trans toSecond.drawn
  size := toThird.size.trans toSecond.size
  metric handle := (toSecond.metric handle).trans (toThird.metric handle)

theorem registry (alike : Alike first second) (id : RegistryId) :
    second.registry id = first.registry id := by
  rw [Store.registry, Store.registry, alike.registries]

theorem lookup (alike : Alike first second) (id : RegistryId) (name : String) :
    second.lookup id name = first.lookup id name := by
  rw [Store.lookup, Store.lookup, alike.registry]

theorem nextHandle (alike : Alike first second) : second.nextHandle = first.nextHandle :=
  congrArg Handle.mk alike.size

theorem source (alike : Alike first second) (id : SourceId) :
    second.source id = first.source id := by
  rw [Store.source, Store.source, alike.sources]

theorem kind? (alike : Alike first second) (handle : Handle) :
    second.kind? handle = first.kind? handle :=
  (alike.metric handle).kind

/-! ### Parts of operations -/

theorem noting (alike : Alike first second) (firstNotices secondNotices : List Notice) :
    Alike (first.noting firstNotices) (second.noting secondNotices) :=
  { alike with }

theorem setRegistry (alike : Alike first second) (id : RegistryId) (registry : Registry) :
    Alike (first.setRegistry id registry) (second.setRegistry id registry) :=
  { alike with registries := congrArg (·.insert id registry) alike.registries }

theorem setSource (alike : Alike first second) (id : SourceId) {source : Source}
    (pure : source.IsPure) : Alike (first.setSource id source) (second.setSource id source) :=
  { alike with
    pure := alike.pure.setSource id pure
    sources := congrArg (·.setIfInBounds id.index source) alike.sources }

theorem drawNext (alike : Alike first second) : Alike first.draw.2 second.draw.2 :=
  { alike with drawn := congrArg (· + 1) alike.drawn }

theorem draw (alike : Alike first second) : second.draw.1 = first.draw.1 := by
  rw [Store.draw, Store.draw, alike.draws, alike.drawn]

theorem create (alike : Alike first second) (metric : Metric) :
    Alike (first.create metric).2 (second.create metric).2 :=
  { alike with
    size := by
      show (second.metrics.push metric).size = (first.metrics.push metric).size
      rw [Array.size_push, Array.size_push, alike.size]
    metric := fun handle => by
      rw [metric?_create, metric?_create, alike.nextHandle]
      split
      · exact .refl _
      · exact alike.metric handle }

/-- Updates that make alike metrics of alike metrics leave the stores alike. -/
theorem change (alike : Alike first second) (handle : Handle)
    {firstUpdate secondUpdate : Metric → Metric}
    (updates : ∀ one other, one.Alike other → (firstUpdate one).Alike (secondUpdate other)) :
    Alike (first.change handle firstUpdate) (second.change handle secondUpdate) :=
  { alike with
    size := by
      show (second.metrics.modify _ _).size = (first.metrics.modify _ _).size
      rw [Array.size_modify, Array.size_modify, alike.size]
    metric := fun other => by
      rw [metric?_change, metric?_change]
      split
      · exact (alike.metric other).map updates
      · exact alike.metric other }

theorem stop (alike : Alike first second) (handle : Handle) :
    Alike (first.stop handle) (second.stop handle) := by
  unfold Store.stop
  rw [alike.now]
  exact alike.change handle fun _ _ alike => alike.stop first.now

/-- Reading the same metric in both stores leaves them alike. -/
theorem read (alike : Alike first second) (handle : Handle) :
    Alike (first.read handle).2 (second.read handle).2 := by
  have related := alike.metric handle
  unfold Store.read
  generalize first.metric? handle = one at related ⊢
  generalize second.metric? handle = other at related ⊢
  cases related with
  | none => exact alike
  | some related =>
    cases related with
    | timer sample rates =>
      refine alike.change handle fun _ _ _ => .timer sample ?_
      exact rates.of_alike (.snapshot _ first.now) (.snapshot _ second.now)
    | same =>
      rename_i shown
      cases shown with
      | counter _ | gauge _ | floatGauge _ | functionalFloatGauge _ | histogram _ => exact alike
      | functionalGauge source =>
        show Alike (first.readInt source).2 (second.readInt source).2
        rw [alike.pure.readInt, alike.symm.pure.readInt]
        exact alike
      | meter rates | timer sample rates =>
        rw [alike.now]
        exact alike.change handle fun _ _ _ => .same _

/-! ### Registering -/

theorem file (alike : Alike first second) (id : RegistryId) (name : String) (handle : Handle) :
    Alike (first.file id name handle) (second.file id name handle) := by
  rw [Store.file, Store.file, alike.registry]
  exact alike.setRegistry id _

theorem register (alike : Alike first second) (id : RegistryId) (name : String)
    (handle : Handle) :
    Alike ((first.register id name handle).toOption.getD first)
      ((second.register id name handle).toOption.getD second) := by
  unfold Store.register
  rw [alike.registry]
  split
  · exact alike
  · exact alike.setRegistry id _

theorem getOrRegister (alike : Alike first second) (id : RegistryId) (name : String)
    (make : Unit → Metric) :
    Alike (first.getOrRegister id name make).2.2 (second.getOrRegister id name make).2.2 := by
  have lookup := alike.lookup id name
  cases taken : first.lookup id name with
  | some held =>
    rw [getOrRegister_taken taken, getOrRegister_taken (lookup.trans taken)]
    exact alike
  | none =>
    rw [getOrRegister_free taken, getOrRegister_free (lookup.trans taken), alike.nextHandle]
    exact (alike.create (make ())).file id name _

theorem fresh (alike : Alike first second) (family : Tagged) :
    Alike (family.fresh first).2 (family.fresh second).2 := by
  rw [Tagged.fresh, Tagged.fresh, alike.now]
  exact alike.create _

theorem obtain (alike : Alike first second) (family : Tagged) (id : RegistryId)
    (name : String) : Alike (family.obtain first id name).2 (family.obtain second id name).2 := by
  have lookup := alike.lookup id name
  cases taken : first.lookup id name with
  | none =>
    rw [family.obtain_free taken, family.obtain_free (lookup.trans taken), alike.nextHandle,
      alike.now]
    exact (alike.create _).file id name _
  | some held =>
    simp only [Tagged.obtain, getOrRegister_taken taken,
      getOrRegister_taken (lookup.trans taken), alike.kind?]
    cases first.kind? held with
    | none => exact alike.fresh family
    | some kind =>
      dsimp only
      split
      · exact alike
      · exact (alike.noting _ _).fresh family

theorem tag (alike : Alike first second) (family : Tagged) (tags : List String) :
    Alike (family.tag first tags).2 (family.tag second tags).2 := by
  unfold Tagged.tag
  split
  · exact alike.fresh family
  · exact alike.obtain family _ _

theorem registerField (alike : Alike first second) (field : Field) (id : RegistryId) :
    Alike (field.register first id).2 (field.register second id).2 := by
  unfold Field.register
  cases field.value with
  | plain kind handle =>
    have lookup := alike.lookup id field.name
    cases taken : first.lookup id field.name with
    | none =>
      simp only [register_free taken, register_free (lookup.trans taken)]
      exact alike.file id field.name handle
    | some held =>
      simp only [register_taken taken, register_taken (lookup.trans taken)]
      exact alike.noting _ _
  | tagged family => exact alike.obtain family id family.base

theorem registerFields (alike : Alike first second) (id : RegistryId) (fields : List Field) :
    Alike (Holder.registerFields id first fields).2 (Holder.registerFields id second fields).2 := by
  induction fields generalizing first second with
  | nil => exact alike
  | cons field rest inductionHypothesis =>
    exact inductionHypothesis (alike.registerField field id)

/-! ### Taking names out -/

theorem unregister (alike : Alike first second) (id : RegistryId) (name : String) :
    Alike (first.unregister id name) (second.unregister id name) := by
  unfold Store.unregister
  rw [alike.lookup, alike.registry]
  split
  · exact alike
  · exact (alike.setRegistry id _).stop _

theorem unregisterNames (alike : Alike first second) (id : RegistryId) (names : List String) :
    Alike (first.unregisterNames id names) (second.unregisterNames id names) := by
  induction names generalizing first second with
  | nil => exact alike
  | cons name rest inductionHypothesis => exact inductionHypothesis (alike.unregister id name)

theorem foldl_stop (alike : Alike first second) (handles : List Handle) :
    Alike (handles.foldl Store.stop first) (handles.foldl Store.stop second) := by
  induction handles generalizing first second with
  | nil => exact alike
  | cons handle rest inductionHypothesis => exact inductionHypothesis (alike.stop handle)

theorem unregisterAll (alike : Alike first second) (id : RegistryId) :
    Alike (first.unregisterAll id) (second.unregisterAll id) := by
  rw [Store.unregisterAll, Store.unregisterAll, alike.registry]
  exact (alike.setRegistry id .empty).foldl_stop _

/-! ### Collections and emissions -/

/-- What is sent may differ, since the averages of timers may. -/
theorem emitEntry (alike : Alike first second) (firstClient secondClient : Statsd.Client)
    (entry : String × Handle) :
    Alike (Statsd.Emitter.emitEntry firstClient first entry.1 entry.2).2
      (Statsd.Emitter.emitEntry secondClient second entry.1 entry.2).2 := by
  obtain ⟨_, _, firstNext⟩ := Statsd.Emitter.emitEntry_spec firstClient first entry
  obtain ⟨_, _, secondNext⟩ := Statsd.Emitter.emitEntry_spec secondClient second entry
  rw [firstNext, secondNext]
  exact (alike.read entry.2).noting _ _

theorem emitEntries (alike : Alike first second) (firstClient secondClient : Statsd.Client)
    (entries : List (String × Handle)) :
    Alike (Statsd.Emitter.emitEntries firstClient first entries).2
      (Statsd.Emitter.emitEntries secondClient second entries).2 := by
  induction entries generalizing firstClient secondClient first second with
  | nil => exact alike
  | cons entry rest inductionHypothesis =>
    exact inductionHypothesis (alike.emitEntry firstClient secondClient entry) _ _

theorem emitOnce (alike : Alike first second) (emitter : Statsd.Emitter) :
    Alike (emitter.emitOnce first).2 (emitter.emitOnce second).2 := by
  unfold Statsd.Emitter.emitOnce
  rw [alike.registry]
  exact (alike.emitEntries _ _ _).noting _ _

end Alike

/-- A change that makes an alike metric of the one that is there leaves all metrics alike. -/
theorem alikeIfAny_change {store : Store} {handle : Handle} {metric : Metric}
    (found : store.metric? handle = some metric) {update : Metric → Metric}
    (alike : metric.Alike (update metric)) (other : Handle) :
    Metric.AlikeIfAny (store.metric? other) ((store.change handle update).metric? other) := by
  rw [metric?_change]
  split
  · rename_i same
    subst same
    rw [found]
    exact .some alike
  · exact .refl _

/-- Reading a metric for an exposition applies ticks to the averages of a timer, and changes no
metric otherwise. -/
theorem alikeIfAny_readForExposition (store : Store) (handle other : Handle) :
    Metric.AlikeIfAny (store.metric? other)
      ((Exposition.readForExposition store handle).2.metric? other) := by
  unfold Exposition.readForExposition Store.read
  cases found : store.metric? handle with
  | none => exact .refl _
  | some metric =>
    cases metric with
    | counter _ | gauge _ | floatGauge _ | functionalGauge _ | functionalFloatGauge _
    | histogram _ | meter _ => exact .refl _
    | timer sample rates =>
      exact alikeIfAny_change found (.timer sample (.snapshot rates store.now)) other

theorem allowsExposition_alikeIfAny :
    AllowsExposition fun before after =>
      ∀ handle, Metric.AlikeIfAny (before.metric? handle) (after.metric? handle) where
  refl _ _ := .refl _
  trans toSecond toThird handle := (toSecond handle).trans (toThird handle)
  notices _ _ _ := .refl _
  read := alikeIfAny_readForExposition

/-- If no source changes when it is read, reading for an exposition changes nothing else either. -/
theorem alike_readForExposition {store : Store} (pure : store.IsPure) (handle : Handle) :
    Alike store (Exposition.readForExposition store handle).2 := by
  have metric := store.alikeIfAny_readForExposition handle
  unfold Exposition.readForExposition Store.read at metric ⊢
  cases found : store.metric? handle with
  | none => exact .refl pure
  | some shown =>
    cases shown with
    | counter _ | gauge _ | floatGauge _ | functionalFloatGauge _ | histogram _ | meter _ =>
      exact .refl pure
    | functionalGauge source =>
      show Alike store (store.readInt source).2
      rw [pure.readInt]
      exact .refl pure
    | timer sample rates =>
      rw [found] at metric
      exact { Alike.refl pure with
        size := Array.size_modify ..
        metric := metric }

theorem allowsExposition_alike :
    AllowsExposition fun before after => before.IsPure → Alike before after where
  refl _ pure := .refl pure
  trans toSecond toThird pure := (toSecond pure).trans (toThird (toSecond pure).symm.pure)
  notices store notices pure := (Alike.refl pure).noting store.notices notices
  read _ handle pure := alike_readForExposition pure handle

/-- A collection leaves a store that is alike to the one before, if no source changes when it is
read. -/
theorem alike_collect {store : Store} (pure : store.IsPure) (settings : Exposition.Settings)
    (id : RegistryId) : Alike store (Exposition.collect settings store id).2 :=
  allowsExposition_alike.collect settings store id pure

/-! ### Runs -/

end Store

/-- An operation that puts into sources only what stays as it is when it is read. -/
def Operation.IsPure : Operation → Prop
  | .setSource _ source => source.IsPure
  | _ => True

/-- Whether the operation is a collection. -/
def Operation.isCollection : Operation → Bool
  | .collect _ _ => true
  | _ => false

/-- The run without its collections. -/
def Operation.withoutCollections (operations : List Operation) : List Operation :=
  operations.filter fun operation => !operation.isCollection

namespace Store

variable {first second : Store}

/-- Whatever is done to two stores that are alike leaves them alike. -/
theorem Alike.perform (alike : Alike first second) {operation : Operation}
    (pure : operation.IsPure) : Alike (first.perform operation) (second.perform operation) := by
  cases operation with
  | advance duration => exact { alike with now := congrArg (· + _) alike.now }
  | setSource id source => exact alike.setSource id pure
  | create metric => exact alike.create metric
  | change handle change =>
    simp only [Store.perform, alike.now]
    exact alike.change handle fun _ _ alike => alike.apply first.now change
  | observe handle value =>
    simp only [Store.perform, Store.observe, alike.now, alike.draw]
    exact alike.drawNext.change handle fun _ _ alike => alike.observe _ first.now value
  | record handle duration =>
    simp only [Store.perform, Store.record, alike.now, alike.draw]
    exact alike.drawNext.change handle fun _ _ alike => alike.record _ first.now duration
  | mark handle events =>
    simp only [Store.perform, Store.mark, alike.now]
    exact alike.change handle fun _ _ alike => alike.mark first.now events
  | stop handle => exact alike.stop handle
  | read handle => exact alike.read handle
  | register id name handle => exact alike.register id name handle
  | getOrRegister id name metric => exact alike.getOrRegister id name fun _ => metric
  | unregister id name => exact alike.unregister id name
  | unregisterAll id => exact alike.unregisterAll id
  | registerHolder id holder => exact alike.registerFields id holder.fields
  | unregisterHolder id holder => exact alike.unregisterNames id holder.metricNames
  | bind id family => exact alike.obtain family id family.base
  | tag family tags => exact alike.tag family tags
  | collect settings id =>
    -- each of the two collections leaves its store alike to the one before
    have firstStep := alike_collect alike.pure settings id
    exact firstStep.symm.trans (alike.trans (alike_collect alike.symm.pure settings id))
  | emit emitter => exact alike.emitOnce emitter

/-- A run leaves a store that is alike to the one that it leaves without its collections. -/
theorem Alike.performAll_withoutCollections (alike : Alike first second)
    {operations : List Operation}
    (pure : ∀ operation ∈ Operation.withoutCollections operations, operation.IsPure) :
    Alike (first.performAll (Operation.withoutCollections operations))
      (second.performAll operations) := by
  unfold Operation.withoutCollections at pure ⊢
  induction operations generalizing first second with
  | nil => exact alike
  | cons operation rest inductionHypothesis =>
    cases collection : operation.isCollection with
    | false =>
      rw [List.filter_cons_of_pos (by rw [collection]; rfl)] at pure ⊢
      obtain ⟨own, later⟩ := List.forall_mem_cons.1 pure
      exact inductionHypothesis (alike.perform own) later
    | true =>
      rw [List.filter_cons_of_neg (by rw [collection]; decide)] at pure ⊢
      refine inductionHypothesis (alike.trans ?_) pure
      cases operation with
      | collect settings id => exact alike_collect alike.symm.pure settings id
      | _ => cases collection

/-- Two runs that differ in their collections only leave stores that are alike. -/
theorem alike_performAll {store : Store} (pure : store.IsPure) {run scraped : List Operation}
    (pureRun : ∀ operation ∈ run, operation.IsPure)
    (same : Operation.withoutCollections scraped = Operation.withoutCollections run) :
    Alike (store.performAll run) (store.performAll scraped) := by
  have pureRest : ∀ operation ∈ Operation.withoutCollections run, operation.IsPure :=
    fun operation member => pureRun operation (List.mem_of_mem_filter member)
  have toScraped := (Alike.refl pure).performAll_withoutCollections (same.symm ▸ pureRest)
  rw [same] at toScraped
  exact ((Alike.refl pure).performAll_withoutCollections pureRest).symm.trans toScraped

end Store

end Telemetry
