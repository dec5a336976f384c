/-
This file proves that collections are free of order and leave no trace. What a
collection gives depends on nothing but the states of the metrics that stand
under the names of the registry: not on the handles, on the time, on the order in
which the names were filed, nor on the order in which the registry is walked
through. A collection itself changes only the averages of timers, which no
collection shows. A run with collections in it therefore ends like the run without
them, as far as any later collection can tell.
-/

import Mathlib.Data.Set.Function
import Telemetry.Exposition.Rendering
import Telemetry.Proofs.Dictionary
import Telemetry.Proofs.Exposition.Conservation
import Telemetry.Proofs.Store.Alike

namespace Telemetry

/-! ### Sources under other names -/

namespace Metric

/-- The source that a functional gauge reads. -/
def source? : Metric → Option SourceId
  | .functionalGauge source | .functionalFloatGauge source => some source
  | _ => none

/-- The metric where sources go by other names. -/
def renameSource (rename : SourceId → SourceId) : Metric → Metric
  | .functionalGauge source => .functionalGauge (rename source)
  | .functionalFloatGauge source => .functionalFloatGauge (rename source)
  | other => other

theorem renameSource_id (metric : Metric) :
    (metric.renameSource fun source => source) = metric := by
  cases metric <;> rfl

theorem kind_renameSource (rename : SourceId → SourceId) (metric : Metric) :
    (metric.renameSource rename).kind = metric.kind := by
  cases metric <;> rfl

variable {first second : Metric}

theorem Alike.source? (alike : Alike first second) : second.source? = first.source? := by
  cases alike <;> rfl

theorem Alike.renameSource (alike : Alike first second) (rename : SourceId → SourceId) :
    Alike (first.renameSource rename) (second.renameSource rename) := by
  cases alike with
  | same => exact .same _
  | timer sample rates => exact .timer sample rates

end Metric

theorem Store.source_readInt (store : Store) (id other : SourceId) :
    (store.readInt id).2.source other =
      if other = id then (store.source id).readInt.2 else store.source other := by
  show (store.setSource id (store.source id).readInt.2).source other = _
  rw [source_setSource]
  by_cases inside : id.index < store.sources.size
  · simp only [inside, and_true]
  · have idle : store.source id = .idle := by
      rw [source, Array.getD_eq_getD_getElem?, Array.getElem?_eq_none (Nat.le_of_not_lt inside),
        Option.getD_none]
    rw [if_neg fun both => inside both.2]
    split
    · rename_i same
      rw [same, idle]
      rfl
    · rfl

namespace Exposition

/-! ### Readings that contribute the same -/

/-- Two readings that contribute the same. -/
def Interchangeable (first second : Reading) : Prop :=
  ∀ settings base kind labels,
    contributions settings base kind labels second = contributions settings base kind labels first

theorem Interchangeable.refl (reading : Reading) : Interchangeable reading reading :=
  fun _ _ _ _ => rfl

/-- Of a meter only the count is shown. -/
theorem interchangeable_meter {first second : Meter.Snapshot Float}
    (count : second.count = first.count) : Interchangeable (.meter first) (.meter second) := by
  intro settings base kind labels
  rw [contributions, contributions, count]

/-- Of a timer only the sample is shown. -/
theorem interchangeable_timer (values : Sample.Snapshot) (first second : Meter.Snapshot Float) :
    Interchangeable (.timer values first) (.timer values second) :=
  fun _ _ _ _ => rfl

variable {rename : SourceId → SourceId} {used : Set SourceId} {first second : Store}

/-- The sources in use hold the same in both stores, where a source of the first goes by another
name in the second. -/
structure SameSources (rename : SourceId → SourceId) (used : Set SourceId)
    (first second : Store) : Prop where
  apart : used.InjOn rename
  source : ∀ id ∈ used, second.source (rename id) = first.source id

/-- The metrics behind two handles are in the same state, but for the averages of timers. -/
structure SameMetric (rename : SourceId → SourceId) (used : Set SourceId) (first second : Store)
    (one other : Handle) : Prop where
  state : Metric.AlikeIfAny ((first.metric? one).map (·.renameSource rename))
    (second.metric? other)
  used : ∀ metric, first.metric? one = some metric → ∀ source ∈ metric.source?, source ∈ used

/-- Two entries have the same name, and metrics in the same state. -/
def SameEntry (rename : SourceId → SourceId) (used : Set SourceId) (first second : Store)
    (one other : String × Handle) : Prop :=
  one.1 = other.1 ∧ SameMetric rename used first second one.2 other.2

theorem SameSources.noting (sources : SameSources rename used first second)
    (firstNotices secondNotices : List Notice) :
    SameSources rename used (first.noting firstNotices) (second.noting secondNotices) :=
  ⟨sources.apart, sources.source⟩

theorem SameEntry.noting {one other : String × Handle}
    (same : SameEntry rename used first second one other)
    (firstNotices secondNotices : List Notice) :
    SameEntry rename used (first.noting firstNotices) (second.noting secondNotices) one other :=
  ⟨same.1, same.2.state, same.2.used⟩

theorem SameSources.readInt (sources : SameSources rename used first second) {id : SourceId}
    (own : id ∈ used) :
    (second.readInt (rename id)).1 = (first.readInt id).1 ∧
      SameSources rename used (first.readInt id).2 (second.readInt (rename id)).2 := by
  have same := sources.source id own
  refine ⟨congrArg (·.readInt.1) same, sources.apart, fun other member => ?_⟩
  rw [Store.source_readInt, Store.source_readInt, same, sources.source other member]
  exact if_congr (sources.apart.eq_iff member own) rfl rfl

/-- Metrics in the same state show the same to a collection, and the sources stay the same. -/
theorem SameMetric.read {one other : Handle} (same : SameMetric rename used first second one other)
    (sources : SameSources rename used first second) :
    Option.Rel Interchangeable (readForExposition first one).1
        (readForExposition second other).1 ∧
      SameSources rename used (readForExposition first one).2
        (readForExposition second other).2 := by
  obtain ⟨state, reads⟩ := same
  unfold readForExposition Store.read
  cases found : first.metric? one with
  | none =>
    rw [found] at state
    generalize second.metric? other = shown at state ⊢
    cases state
    exact ⟨.none, sources⟩
  | some metric =>
    rw [found] at state
    generalize second.metric? other = shown at state ⊢
    -- only timers may differ, and then in what a collection does not show
    cases metric with
    | counter _ | gauge _ | floatGauge _ | histogram _ =>
      cases state with
      | some state =>
        cases state
        exact ⟨.some (.refl _), sources⟩
    | meter rates =>
      cases state with
      | some state =>
        cases state
        exact ⟨.some (interchangeable_meter rfl), sources⟩
    | functionalGauge source =>
      cases state with
      | some state =>
        cases state
        obtain ⟨value, next⟩ := sources.readInt (reads _ found source rfl)
        refine ⟨.some ?_, next⟩
        show Interchangeable (.level (first.readInt source).1)
          (.level (second.readInt (rename source)).1)
        rw [value]
        exact .refl _
    | functionalFloatGauge source =>
      cases state with
      | some state =>
        cases state
        refine ⟨.some ?_, sources⟩
        rw [Store.readFloat, Store.readFloat, sources.source source (reads _ found source rfl)]
        exact .refl _
    | timer sample rates =>
      cases state with
      | some state =>
        cases state <;>
          exact ⟨.some (interchangeable_timer _ _ _), sources.apart, sources.source⟩

/-! ### Entries -/

/-- What is read does not change what is shown next. -/
theorem SameEntry.of_alike {firstAfter secondAfter : Store} {one other : String × Handle}
    (same : SameEntry rename used first second one other)
    (firstStep : ∀ handle, Metric.AlikeIfAny (first.metric? handle) (firstAfter.metric? handle))
    (secondStep : ∀ handle,
      Metric.AlikeIfAny (second.metric? handle) (secondAfter.metric? handle)) :
    SameEntry rename used firstAfter secondAfter one other := by
  obtain ⟨named, state, reads⟩ := same
  have step := firstStep one.2
  refine ⟨named, ?_, fun metric found source own => ?_⟩
  · have renamed := step.map fun _ _ alike => alike.renameSource rename
    exact renamed.symm.trans (state.trans (secondStep other.2))
  · rw [found] at step
    generalize before : first.metric? one.2 = earlier at step
    cases step with
    | some alike => exact reads _ before source (alike.source? ▸ own)

theorem SameMetric.kind? {one other : Handle}
    (same : SameMetric rename used first second one other) :
    second.kind? other = first.kind? one := by
  rw [Store.kind?, same.state.kind, Option.map_map, Store.kind?]
  exact Option.map_congr fun metric _ => metric.kind_renameSource rename

/-- Entries of one name with metrics in the same state contribute the same. -/
theorem SameMetric.entryContributions {one other : Handle}
    (same : SameMetric rename used first second one other)
    (sources : SameSources rename used first second) (settings : Settings) (name : String) :
    (entryContributions settings second name other).1 =
        (entryContributions settings first name one).1 ∧
      SameSources rename used (entryContributions settings first name one).2
        (entryContributions settings second name other).2 := by
  obtain ⟨shown, next⟩ := same.read sources
  unfold Exposition.entryContributions
  rw [same.kind?]
  generalize readForExposition first one = firstRead at shown next
  generalize readForExposition second other = secondRead at shown next
  obtain ⟨firstReading, firstNext⟩ := firstRead
  obtain ⟨secondReading, secondNext⟩ := secondRead
  dsimp only
  split
  · exact ⟨rfl, sources.apart, sources.source⟩
  · cases first.kind? one with
    | none => exact ⟨rfl, sources⟩
    | some kind =>
      cases shown with
      | none => exact ⟨rfl, next⟩
      | some shown => exact ⟨shown settings _ kind _, next⟩

/-- What a list of entries gives when it is collected, and what is noted, is settled by the names
and by the states of the metrics. -/
theorem collectEntries_congr (settings : Settings) (families : Families)
    (sources : SameSources rename used first second) {entries others : List (String × Handle)}
    (same : List.Forall₂ (SameEntry rename used first second) entries others) :
    (collectEntries settings families second others).1 =
        (collectEntries settings families first entries).1 ∧
      ∃ notices,
        (collectEntries settings families first entries).2.notices = first.notices ++ notices ∧
        (collectEntries settings families second others).2.notices =
          second.notices ++ notices := by
  induction entries generalizing families first second others with
  | nil =>
    cases same
    exact ⟨rfl, [], (List.append_nil _).symm, (List.append_nil _).symm⟩
  | cons entry rest inductionHypothesis =>
    obtain ⟨name, one⟩ := entry
    cases same with
    | @cons _ entry _ others own later =>
      obtain ⟨_, other⟩ := entry
      obtain ⟨rfl, own⟩ := own
      obtain ⟨items, next⟩ := own.entryContributions sources settings name
      have offers : offersOf settings second name other = offersOf settings first name one := by
        rw [offersOf, items, offersOf]
      have allowed := Store.allowsExposition_alikeIfAny
      have laterSame := later.imp fun _ _ same =>
        same.of_alike (allowed.entryContributions settings first name one)
          (allowed.entryContributions settings second name other)
      -- the notices of the two stores may differ, but they do not matter for what is read next
      rw [collectEntries_cons, collectEntries_cons, offers]
      dsimp only
      generalize families.addAll ((offersOf settings first name one).map Offer.toContribution) =
        added
      obtain ⟨collected, notices, firstLater, secondLater⟩ :=
        inductionHypothesis added.1
          (next.noting (first.notices ++ unnamed name ++ added.2)
            (second.notices ++ unnamed name ++ added.2))
          (laterSame.imp fun _ _ same => same.noting _ _)
      refine ⟨collected, unnamed name ++ added.2 ++ notices, firstLater.trans ?_,
        secondLater.trans ?_⟩ <;>
        simp only [Store.noting, List.append_assoc]

/-! ### Collections -/

/-- The registry reads the source through one of its metrics. -/
def Reads (store : Store) (id : RegistryId) (source : SourceId) : Prop :=
  ∃ name handle metric, store.lookup id name = some handle ∧
    store.metric? handle = some metric ∧ metric.source? = some source

/-- In both stores the registry files metrics in the same states under the same names; the averages
of timers may differ. Functional gauges may go by other sources, as `rename` says, if these hold the
same. -/
structure SameContent (id : RegistryId) (rename : SourceId → SourceId) (first second : Store) :
    Prop where
  metrics : ∀ name, Option.Rel
    (fun one other =>
      Metric.AlikeIfAny ((first.metric? one).map (·.renameSource rename)) (second.metric? other))
    (first.lookup id name) (second.lookup id name)
  apart : Set.InjOn rename {source | Reads first id source}
  sources : ∀ source, Reads first id source → second.source (rename source) = first.source source

/-- A collection gives the same families in both stores, and so the same text, and notes the
same. -/
structure CollectsAlike (settings : Settings) (id : RegistryId) (first second : Store) : Prop where
  families : (collect settings second id).1 = (collect settings first id).1
  text : render (collect settings second id).1 = render (collect settings first id).1
  notices : ∃ notices,
    (collect settings first id).2.notices = first.notices ++ notices ∧
    (collect settings second id).2.notices = second.notices ++ notices

theorem SameContent.collectsAlike {id : RegistryId} (same : SameContent id rename first second)
    (settings : Settings) : CollectsAlike settings id first second := by
  have entries : List.Forall₂ (SameEntry rename {source | Reads first id source} first second)
      (first.registry id).entries (second.registry id).entries := by
    refine Dictionary.forall₂_entries fun name => ?_
    have related := same.metrics name
    change Option.Rel _ (first.lookup id name) (second.lookup id name)
    generalize found : first.lookup id name = one at related ⊢
    generalize second.lookup id name = other at related ⊢
    cases related with
    | none => exact .none
    | some state =>
      exact .some ⟨state, fun metric known source own => ⟨name, _, metric, found, known, own⟩⟩
  obtain ⟨collected, notices⟩ :=
    collectEntries_congr settings .empty ⟨same.apart, same.sources⟩ entries
  have families : (collect settings second id).1 = (collect settings first id).1 :=
    congrArg (fun families => families.values.map Family.sorted) collected
  exact ⟨families, congrArg render families, notices⟩

theorem SameContent.of_alike (alike : Store.Alike first second) (id : RegistryId) :
    SameContent id (fun source => source) first second where
  metrics name := by
    rw [alike.lookup]
    cases first.lookup id name with
    | none => exact .none
    | some handle =>
      refine .some ?_
      have same : (Metric.renameSource fun source => source) = fun metric => metric :=
        funext Metric.renameSource_id
      rw [same, Option.map_id']
      exact alike.metric handle
  apart := Set.injOn_id _
  sources source _ := alike.source source

/-! ### The order of a walk -/

/-- A collection of entries that a walk through a registry came upon in some order. They are taken
in the order of their names. -/
def collectVisited (settings : Settings) (store : Store) (visited : List (String × Handle)) :
    List Family × Store :=
  let (families, next) := collectEntries settings .empty store
    (visited.mergeSort fun first second => decide (first.1 ≤ second.1))
  (families.values.map Family.sorted, next)

/-- The order of a walk through a registry does not matter, since the names differ. -/
theorem collectVisited_of_perm (settings : Settings) (store : Store) (id : RegistryId)
    {visited : List (String × Handle)} (perm : visited.Perm (store.registry id).entries) :
    collectVisited settings store visited = collect settings store id := by
  rw [collectVisited, Dictionary.mergeSort_eq_entries perm]
  rfl

/-! ### Runs with collections -/

/-- Collections are free of order and leave no trace. In whatever order a walk comes upon the
entries of a registry, the collection is the same; it is also the same in two stores, and notes the
same, if the registry files metrics in the same states under the same names. And whatever
collections are put between the operations of a run, or taken away, the metrics end in the same
states, but for the averages of timers, and every later collection is the same. -/
theorem collections_are_free_of_order_and_leave_no_trace :
    (∀ (settings : Settings) (store : Store) (id : RegistryId)
      (visited : List (String × Handle)), visited.Perm (store.registry id).entries →
        collectVisited settings store visited = collect settings store id) ∧
    (∀ (settings : Settings) (id : RegistryId) (rename : SourceId → SourceId)
      (first second : Store), SameContent id rename first second →
        CollectsAlike settings id first second) ∧
    (∀ (store : Store) (run scraped : List Operation), store.IsPure →
      (∀ operation ∈ run, operation.IsPure) →
      Operation.withoutCollections scraped = Operation.withoutCollections run →
        (∀ handle, Metric.AlikeIfAny ((store.performAll run).metric? handle)
          ((store.performAll scraped).metric? handle)) ∧
        ∀ settings id,
          CollectsAlike settings id (store.performAll run) (store.performAll scraped)) := by
  refine ⟨fun settings store id visited perm => collectVisited_of_perm settings store id perm,
    fun settings id rename first second same => same.collectsAlike settings,
    fun store run scraped pure pureRun same => ?_⟩
  have alike := Store.alike_performAll pure pureRun same
  exact ⟨alike.metric, fun settings id => (SameContent.of_alike alike id).collectsAlike settings⟩

/-- A store where the given sources are set up. -/
def storeWith (sources : Array Source) : Store :=
  { Store.starting fun _ => 0 with sources }

/-- Two metrics are filed. -/
def filedOneWay : Store :=
  (storeWith #[.int 5 0]).performAll
    [.getOrRegister "main" "jobs" (.counter 3),
      .getOrRegister "main" "load" (.functionalGauge ⟨0⟩)]

/-- Two metrics in the same states are filed the other way round, after a third one that is taken
out again, and there is a collection in between. -/
def filedOtherWay : Store :=
  (storeWith #[.idle, .int 5 0]).performAll
    [.getOrRegister "main" "gone" (.gauge 1), .getOrRegister "main" "load" (.functionalGauge ⟨1⟩),
      .collect .standard "main", .unregister "main" "gone",
      .getOrRegister "main" "jobs" (.counter 3)]

theorem sameContent_filed :
    SameContent "main" (fun source => ⟨source.index + 1⟩) filedOneWay filedOtherWay := by
  have entriesOneWay : (filedOneWay.registry "main").entries = [("jobs", ⟨0⟩), ("load", ⟨1⟩)] := by
    decide +kernel
  have entriesOtherWay :
      (filedOtherWay.registry "main").entries = [("jobs", ⟨2⟩), ("load", ⟨1⟩)] := by
    decide +kernel
  constructor
  case metrics =>
    intro name
    rw [Store.lookup, Store.lookup, Dictionary.find?, Dictionary.find?, entriesOneWay,
      entriesOtherWay]
    by_cases jobs : "jobs" = name
    · subst jobs
      exact .some (.some (.same _))
    · by_cases load : "load" = name
      · subst load
        exact .some (.some (.same _))
      · simp [jobs, load]
  case apart =>
    rintro ⟨one⟩ _ ⟨other⟩ _ same
    simpa using same
  case sources =>
    rintro ⟨_ | index⟩ _ <;> rfl

/-- Collections are the same after filing two metrics either way, on a walk from behind, and with
or without collections between the uses of a timer. -/
theorem collections_agree_after_other_orders_and_scrapes :
    let timer : Operation :=
      .getOrRegister "main" "work" (.timer (.empty (.uniform 4) 0) (.startingAt 0))
    let run : List Operation := [timer, .record ⟨0⟩ ⟨7⟩, .advance ⟨6000000000⟩, .record ⟨0⟩ ⟨9⟩]
    let scraped : List Operation := [timer, .record ⟨0⟩ ⟨7⟩, .advance ⟨6000000000⟩,
      .collect .standard "main", .record ⟨0⟩ ⟨9⟩, .collect .standard "main"]
    (collect .standard filedOneWay "main").1.map Family.name = ["jobs", "load"] ∧
    CollectsAlike .standard "main" filedOneWay filedOtherWay ∧
    collectVisited .standard filedOneWay [("load", ⟨1⟩), ("jobs", ⟨0⟩)] =
      collect .standard filedOneWay "main" ∧
    CollectsAlike .standard "main" ((storeWith #[]).performAll run)
      ((storeWith #[]).performAll scraped) := by
  intro timer run scraped
  obtain ⟨walks, orders, runs⟩ := collections_are_free_of_order_and_leave_no_trace
  have pure : (storeWith #[]).IsPure := fun _ => rfl
  have pureRun : ∀ operation ∈ run, operation.IsPure := by
    simp [run, timer, Operation.IsPure]
  refine ⟨by decide +kernel, orders _ _ _ _ _ sameContent_filed, walks _ _ _ _ ?_,
    (runs _ run scraped pure pureRun rfl).2 _ _⟩
  decide +kernel

end Exposition

end Telemetry
