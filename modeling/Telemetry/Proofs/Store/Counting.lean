/-
This file proves what a counter counts along a run. Whatever is done with a store,
a counter that is there stays as it is, unless it is changed itself: no reading,
no collection, no emission, no registration and no removal of a name touches its
total. A run of changes through routes that lead to the counter, with anything
else between them, therefore leaves in it the sum of all increases less all
decreases since it was last cleared.
-/

import Mathlib.Algebra.Ring.Int.Defs
import Telemetry.Proofs.Store.Keeping
import Telemetry.Proofs.Store.Routes

namespace Telemetry

/-! ### Changes of a counter -/

namespace Change

/-- The total of a counter after a change. -/
def count (total : Int64) : Change → Int64
  | .increase amount => total + amount
  | .decrease amount => total - amount
  | .clear => 0
  | .set _ | .setFloat _ => total

/-- What a change adds to the total of a counter. -/
def amount : Change → Int
  | .increase amount => amount.toInt
  | .decrease amount => -amount.toInt
  | .clear | .set _ | .setFloat _ => 0

def isClear : Change → Bool
  | .clear => true
  | _ => false

/-- The sum of all increases less all decreases since the last clearing, in 64 bits. -/
def total (changes : List Change) : Int64 :=
  .ofInt ((changes.rtakeWhile (!·.isClear)).map amount).sum

theorem count_eq_of_not_isClear {change : Change} (adds : change.isClear = false)
    (total : Int) : change.count (.ofInt total) = .ofInt (total + change.amount) := by
  cases change with
  | clear => cases adds
  | increase amount => rw [count, Change.amount, Int64.ofInt_add, Int64.ofInt_toInt]
  | decrease amount =>
    rw [count, Change.amount, Int64.ofInt_add, Int64.ofInt_neg, Int64.ofInt_toInt,
      Int64.sub_eq_add_neg]
  | set _ | setFloat _ => rw [count, Change.amount, Int.add_zero]

theorem total_concat (changes : List Change) (last : Change) :
    total (changes ++ [last]) = last.count (total changes) := by
  unfold total
  by_cases clear : last.isClear
  · rw [List.rtakeWhile_concat_neg _ _ _ (by simp [clear])]
    cases last with
    | clear => rfl
    | _ => cases clear
  · rw [Bool.not_eq_true] at clear
    rw [List.rtakeWhile_concat_pos _ _ _ (by simp [clear]), count_eq_of_not_isClear clear,
      List.map_append, List.sum_append, List.map_singleton, List.sum_singleton]

/-- Counting change by change gives the total. -/
theorem foldl_count (changes : List Change) : changes.foldl count 0 = total changes := by
  induction changes using List.reverseRecOn with
  | nil => rfl
  | append_singleton changes last inductionHypothesis =>
    rw [List.foldl_concat, inductionHypothesis, total_concat]

end Change

theorem Metric.apply_counter (total : Int64) (now : Int) (change : Change) :
    (Metric.counter total).apply now change = .counter (change.count total) := by
  cases change <;> rfl

/-- A counter, whatever its total is. -/
def Metric.IsCounter (metric : Metric) : Prop :=
  ∃ total, metric = .counter total

/-- Counters have no meter. -/
theorem Metric.isAtRest_of_isCounter {metric : Metric} (counter : metric.IsCounter) :
    metric.IsAtRest := by
  obtain ⟨total, rfl⟩ := counter
  exact nofun

/-- The changes that an operation makes through a handle. -/
def Operation.changes (held : Handle) : Operation → List Change
  | .change handle wanted => if handle = held then [wanted] else []
  | _ => []

/-- The change that an update asks for. -/
def Update.change? : Update → Option Change
  | .change wanted => some wanted
  | _ => none

theorem Update.changes_on (held : Handle) (update : Update) :
    (update.on held).changes held = update.change?.toList := by
  cases update with
  | change wanted => exact if_pos rfl
  | _ => rfl

namespace Store

/-! ### What leaves counters alone -/

/-- All counters of the first store are in the second, with the same totals. -/
def KeepsCounters (before after : Store) : Prop :=
  ∀ handle total, before.metric? handle = some (.counter total) →
    after.metric? handle = some (.counter total)

namespace KeepsCounters

theorem eq_keeps : KeepsCounters = Keeps Metric.IsCounter := by
  funext before after
  refine propext ⟨fun keeps handle metric counter found => ?_, fun keeps handle total found => ?_⟩
  · obtain ⟨total, rfl⟩ := counter
    exact keeps handle total found
  · exact keeps handle _ ⟨total, rfl⟩ found

/-- A change that leaves every counter as it is may be made to any metric. -/
theorem change (store : Store) (handle : Handle) {update : Metric → Metric}
    (fixed : ∀ total, update (.counter total) = .counter total) :
    KeepsCounters store (store.change handle update) := by
  rw [eq_keeps]
  refine .change store handle ?_
  rintro _ ⟨total, rfl⟩
  exact fixed total

theorem allowsReading : AllowsReading KeepsCounters := by
  rw [eq_keeps]
  exact Keeps.allowsReading fun _ => Metric.isAtRest_of_isCounter

theorem allowsFiling : AllowsFiling KeepsCounters := by
  rw [eq_keeps]
  exact Keeps.allowsFiling fun _ => Metric.isAtRest_of_isCounter

end KeepsCounters

/-! ### Runs -/

/-- The law of a step: an operation leaves a counter as it is, unless it changes that counter
itself. -/
theorem metric?_perform_counter {store : Store} {held : Handle} {total : Int64}
    (counter : store.metric? held = some (.counter total)) (operation : Operation) :
    (store.perform operation).metric? held =
      some (.counter ((operation.changes held).foldl Change.count total)) := by
  have kept {after : Store} (keeps : KeepsCounters store after) :
      after.metric? held = some (.counter total) := keeps held total counter
  cases operation with
  | change handle change =>
    simp only [perform, metric?_change, counter, Option.map_some, Metric.apply_counter,
      Operation.changes, eq_comm (a := handle)]
    split <;> rfl
  | advance _ | setSource _ _ => exact counter
  | observe handle value => exact kept (.change _ handle fun _ => rfl)
  | record handle duration => exact kept (.change _ handle fun _ => rfl)
  | mark handle events => exact kept (.change _ handle fun _ => rfl)
  | read handle => exact kept (KeepsCounters.allowsReading.read store handle)
  | collect settings id =>
    exact kept (KeepsCounters.allowsReading.exposition.collect settings store id)
  | emit emitter => exact kept (KeepsCounters.allowsReading.emitOnce emitter store)
  | _ => exact kept (KeepsCounters.allowsFiling.perform store rfl)

theorem metric?_performAll_counter {store : Store} {held : Handle} {total : Int64}
    (counter : store.metric? held = some (.counter total)) (operations : List Operation) :
    (store.performAll operations).metric? held =
      some (.counter ((operations.flatMap (Operation.changes held)).foldl Change.count total)) := by
  induction operations generalizing store total with
  | nil => exact counter
  | cons operation rest inductionHypothesis =>
    rw [List.flatMap_cons, List.foldl_append]
    exact inductionHypothesis (metric?_perform_counter counter operation)

end Store

/-! ### Runs through routes -/

/-- A step of a run in which a metric is of interest: it is got hold of and updated, or anything
else is done with the store. -/
inductive Step
  | use (route : Route) (updates : List Update)
  | other (operation : Operation)

namespace Step

/-- The store after a step. -/
def on (store : Store) : Step → Store
  | .use route updates => store.useVia route updates
  | .other operation => store.perform operation

/-- The changes that a step makes of the metric, if its route leads there. -/
def changes (held : Handle) : Step → List Change
  | .use _ updates => updates.filterMap Update.change?
  | .other operation => operation.changes held

/-- The step uses the metric by a route that leads to its entry, or it leaves the entry there. -/
def Respects (id : RegistryId) (name : String) (held : Handle) (kind : Kind) : Step → Prop
  | .use route _ => route.Leads id name held kind
  | .other operation => operation.removes id name = false

end Step

namespace Store

/-- The store after the steps of a run. -/
def run (store : Store) (steps : List Step) : Store :=
  steps.foldl Step.on store

/-- The counter `held` is filed under the name and holds the total. -/
structure Counts (store : Store) (id : RegistryId) (name : String) (held : Handle) (total : Int64) :
    Prop where
  filed : store.lookup id name = some held
  counter : store.metric? held = some (.counter total)

namespace Counts

variable {store : Store} {id : RegistryId} {name : String} {held : Handle} {total : Int64}

theorem kind (counts : store.Counts id name held total) : store.kind? held = some .counter := by
  rw [kind?, counts.counter]
  rfl

theorem follow (counts : store.Counts id name held total) {route : Route}
    (leads : route.Leads id name held .counter) : route.follow store = (some held, store) :=
  follow_of_leads counts.filed counts.kind leads

/-- A step that respects the entry of a counter leaves it there, with the changes counted. -/
theorem on (counts : store.Counts id name held total) {step : Step}
    (respects : step.Respects id name held .counter) :
    (step.on store).Counts id name held ((step.changes held).foldl Change.count total) := by
  cases step with
  | other operation =>
    refine ⟨?_, metric?_perform_counter counts.counter operation⟩
    show (store.perform operation).lookup id name = some held
    rw [lookup_perform, respects, if_neg Bool.false_ne_true, counts.filed, Option.some_or]
  | use route updates =>
    have updated : (Step.use route updates).on store =
        store.performAll (updates.map (Update.on held)) := by
      rw [Step.on, useVia, counts.follow respects]
    rw [updated]
    refine ⟨(store.lookup_performAll_on held updates id name).trans counts.filed, ?_⟩
    rw [metric?_performAll_counter counts.counter, List.flatMap_map, Step.changes,
      List.filterMap_eq_flatMap_toList]
    simp only [Update.changes_on]

/-- Along a run that respects the entry of a counter it stays there, with all changes counted. -/
theorem run (counts : store.Counts id name held total) {steps : List Step}
    (respect : ∀ step ∈ steps, step.Respects id name held .counter) :
    (store.run steps).Counts id name held
      ((steps.flatMap (Step.changes held)).foldl Change.count total) := by
  induction steps generalizing store total with
  | nil => exact counts
  | cons step rest inductionHypothesis =>
    obtain ⟨first, others⟩ := List.forall_mem_cons.1 respect
    rw [List.flatMap_cons, List.foldl_append]
    exact inductionHypothesis (counts.on first) others

end Counts

/-- What a counter holds that is made, used in any way, and at some time filed under a name from
which it is not taken out again: the total of all changes. -/
theorem counts_run {store : Store} {held : Handle} (made : store.metric? held = some (.counter 0))
    {early : List Operation} {id : RegistryId} {name : String}
    (filed : (store.performAll early).lookup id name = some held) {steps : List Step}
    (respect : ∀ step ∈ steps, step.Respects id name held .counter) :
    ((store.performAll early).run steps).Counts id name held
      (Change.total
        (early.flatMap (Operation.changes held) ++ steps.flatMap (Step.changes held))) := by
  have start : (store.performAll early).Counts id name held _ :=
    ⟨filed, metric?_performAll_counter made early⟩
  rw [← Change.foldl_count, List.foldl_append]
  exact start.run respect

end Store

end Telemetry
