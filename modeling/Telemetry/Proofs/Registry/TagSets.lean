/-
This file proves what sets of tags mean for the metrics of a family that is bound
to a registry. Lists that stand for the same set of tags give the same metric,
the one that is filed under the name with the tags, whatever happens between two
uses short of taking that name out. Lists that stand for different sets give
different metrics as far as their names differ, and names differ as far as the
tags hold no commas: a tag with a comma is written like the tags that it
separates.
-/

import Telemetry.Proofs.Name.Grammar
import Telemetry.Proofs.Registry.FirstRegistrant
import Telemetry.Proofs.Store.Updates

namespace Telemetry

namespace Store

/-! ### A name that is not taken out -/

theorem grows_performAll (store : Store) (operations : List Operation) :
    Grows store (store.performAll operations) := by
  induction operations generalizing store with
  | nil => exact .refl store
  | cons operation rest inductionHypothesis =>
    exact (store.grows_perform operation).trans (inductionHypothesis _)

/-- A name keeps its handle along a run that does not take it out. -/
theorem lookup_performAll_of_kept {store : Store} {id : RegistryId} {name : String}
    {held : Handle} (taken : store.lookup id name = some held) {operations : List Operation}
    (kept : ∀ operation ∈ operations, operation.removes id name = false) :
    (store.performAll operations).lookup id name = some held := by
  induction operations generalizing store with
  | nil => exact taken
  | cons operation rest inductionHypothesis =>
    obtain ⟨first, others⟩ := List.forall_mem_cons.1 kept
    refine inductionHypothesis ?_ others
    rw [lookup_perform, first, if_neg Bool.false_ne_true, taken, Option.some_or]

end Store

open Store

namespace Tagged

/-! ### The metric for a set of tags -/

/-- The name under which the metric for a set of tags is filed. -/
def key (family : Tagged) (tags : List String) : String :=
  (Name.tagged family.base tags).written

/-- The name is free, or it holds a metric of the kind of the family. -/
def Fits (family : Tagged) (store : Store) (id : RegistryId) (name : String) : Prop :=
  ∀ held, store.lookup id name = some held → store.kind? held = some family.kind.kind

variable {family : Tagged} {store : Store} {id : RegistryId}

/-- Under a name that fits, the metric that is filed is given, or one that is made and filed. -/
theorem obtain_of_fits {name : String} (fits : family.Fits store id name) :
    let result := family.obtain store id name
    result.1 = (store.lookup id name).getD store.nextHandle ∧
      result.2.lookup id name = some result.1 ∧
      result.2.kind? result.1 = some family.kind.kind := by
  cases taken : store.lookup id name with
  | none =>
    rw [obtain_free family taken]
    refine ⟨rfl, ?_, ?_⟩
    · rw [lookup_file, if_pos ⟨rfl, rfl⟩]
    · rw [kind?_file, kind?_create, if_pos rfl]
      exact congrArg some (Metric.kind_fresh family.kind family.spec store.now)
  | some held =>
    rw [obtain_same_kind family taken (fits held taken)]
    exact ⟨rfl, taken, fits held taken⟩

theorem tag_of_bound (bound : family.bound = some id) (store : Store) (tags : List String) :
    family.tag store tags = family.obtain store id (family.key tags) := by
  rw [tag, bound]
  rfl

/-- The name of another set of tags is filed as before. -/
theorem lookup_tag_of_ne {first : List String} {name : String}
    (different : name ≠ family.key first) :
    (family.tag store first).2.lookup id name = store.lookup id name := by
  rw [lookup_tag, if_neg fun same => different same.2, Option.or_none]

/-- A second set of tags still fits when the metric for a first one has been given. -/
theorem fits_tag (bound : family.bound = some id) {first second : List String}
    (firstFits : family.Fits store id (family.key first))
    (secondFits : family.Fits store id (family.key second)) :
    family.Fits (family.tag store first).2 id (family.key second) := by
  intro held found
  by_cases same : family.key second = family.key first
  · obtain ⟨_, filed, kind⟩ := obtain_of_fits firstFits
    rw [tag_of_bound bound, same, filed] at found
    cases found
    rw [tag_of_bound bound]
    exact kind
  · rw [lookup_tag_of_ne same] at found
    exact allowsFiling_grows.registering.tag family store first held _ (secondFits held found)

/-- The metrics for two sets of tags are one exactly if the names are one, or if one metric was
filed under both names before. -/
theorem tag_eq_iff (bound : family.bound = some id) (sound : store.Sound)
    {first second : List String}
    (firstFits : family.Fits store id (family.key first))
    (secondFits : family.Fits store id (family.key second)) :
    (family.tag store first).1 = (family.tag (family.tag store first).2 second).1 ↔
      family.key first = family.key second ∨
        ∃ held, store.lookup id (family.key first) = some held ∧
          store.lookup id (family.key second) = some held := by
  obtain ⟨firstGiven, firstFiled, firstKind⟩ := obtain_of_fits firstFits
  obtain ⟨secondGiven, _, _⟩ := obtain_of_fits (fits_tag bound firstFits secondFits)
  rw [← tag_of_bound bound] at firstGiven firstFiled firstKind secondGiven
  by_cases same : family.key second = family.key first
  · rw [same, firstFiled, Option.getD_some] at secondGiven
    exact iff_of_true secondGiven.symm (.inl same.symm)
  · rw [lookup_tag_of_ne same] at secondGiven
    rw [secondGiven, or_iff_right (Ne.symm same)]
    cases secondTaken : store.lookup id (family.key second) with
    | none =>
      -- the second metric is made after the first, which is there already
      refine iff_of_false (fun equal => ?_) fun ⟨_, _, taken⟩ => nomatch taken
      rw [equal, Option.getD_none, kind?_of_not_live (not_live_nextHandle _)] at firstKind
      cases firstKind
    | some held =>
      rw [firstGiven, Option.getD_some]
      cases firstTaken : store.lookup id (family.key first) with
      | none =>
        refine iff_of_false (fun equal => ?_) fun ⟨_, taken, _⟩ => nomatch taken
        rw [Option.getD_none] at equal
        rw [← equal] at secondTaken
        exact store.not_live_nextHandle (sound id _ _ secondTaken)
      | some other =>
        rw [Option.getD_some]
        constructor
        · rintro rfl
          exact ⟨other, rfl, rfl⟩
        · rintro ⟨both, firstBoth, secondBoth⟩
          cases firstBoth
          cases secondBoth
          rfl

end Tagged

/-! ### One set of tags -/

/-- An update through any of the handles is seen through all of them, and by whoever looks the name
up. -/
def Store.SharedUnder (store : Store) (id : RegistryId) (name : String) (handles : List Handle) :
    Prop :=
  ∀ update : Update, ∀ through ∈ handles,
    let updated := store.perform (update.on through)
    let changed := (store.metric? through).map (update.effect store ·)
    (∀ handle ∈ handles, updated.metric? handle = changed) ∧
      (updated.lookup id name).bind updated.metric? = changed

theorem Store.sharedUnder_of_lookup {store : Store} {id : RegistryId} {name : String}
    {held : Handle} (taken : store.lookup id name = some held) {handles : List Handle}
    (same : ∀ handle ∈ handles, handle = held) : store.SharedUnder id name handles := by
  intro update through member updated changed
  obtain rfl := same through member
  have seen : updated.metric? through = changed := by
    rw [metric?_perform_on, if_pos rfl]
  refine ⟨fun handle other => ?_, ?_⟩
  · rw [same handle other, seen]
  · rw [lookup_perform_on, taken]
    exact seen

namespace Tagged

/-- Lists that stand for the same set of tags mean the same metric. Cleaning gives equal lists
exactly for them; a cleaned list ascends strictly and stays as it is when it is cleaned again. If a
family is bound to a registry and the name with the tags fits, then whatever is done between two
uses of the family short of taking the name out, the second use gives the metric of the first and
changes nothing. That metric is of the kind of the family and is the one that is filed under the
name, and however long the name is not taken out, all updates of it are seen through both handles
and under the name. -/
theorem same_tags_share_metric :
    (∀ first second, cleanTags first = cleanTags second ↔ Tags.Same first second) ∧
    (∀ tags, (cleanTags tags).Pairwise (· < ·) ∧ cleanTags (cleanTags tags) = cleanTags tags) ∧
    ∀ (family : Tagged) (id : RegistryId) (store : Store) (first second : List String)
      (between later : List Operation),
      family.bound = some id → Tags.Same first second →
      let key := family.key first
      family.Fits store id key →
      (∀ operation ∈ between ++ later, operation.removes id key = false) →
      let one := family.tag store first
      let met := one.2.performAll between
      let other := family.tag met second
      let final := other.2.performAll later
      family.key second = key ∧ other = (one.1, met) ∧ met.lookup id key = some one.1 ∧
        final.lookup id key = some one.1 ∧ final.kind? one.1 = some family.kind.kind ∧
        final.SharedUnder id key [one.1, other.1] := by
  refine ⟨cleanTags_eq_iff, fun tags => ⟨ascending_cleanTags tags, cleanTags_cleanTags tags⟩, ?_⟩
  intro family id store first second between later bound same key fits kept one met other final
  obtain ⟨keptBetween, keptLater⟩ := List.forall_mem_append.1 kept
  obtain ⟨_, filed, kind⟩ := obtain_of_fits fits
  rw [← tag_of_bound bound] at filed kind
  have sameKey : family.key second = key := by
    rw [Tagged.key, Name.tagged, ← (cleanTags_eq_iff first second).2 same]
    rfl
  have taken : met.lookup id key = some one.1 := lookup_performAll_of_kept filed keptBetween
  have kindMet : met.kind? one.1 = some family.kind.kind :=
    one.2.grows_performAll between one.1 _ kind
  have again : other = (one.1, met) := by
    refine (tag_of_bound bound met second).trans ?_
    rw [sameKey]
    exact obtain_same_kind family taken kindMet
  have unchanged : other.2 = met := by rw [again]
  have takenFinal : final.lookup id key = some one.1 :=
    lookup_performAll_of_kept (unchanged ▸ taken) keptLater
  have kindFinal : final.kind? one.1 = some family.kind.kind :=
    other.2.grows_performAll later one.1 _ (unchanged ▸ kindMet)
  refine ⟨sameKey, again, taken, takenFinal, kindFinal, sharedUnder_of_lookup takenFinal ?_⟩
  have sameHandle : other.1 = one.1 := by rw [again]
  exact List.forall_mem_cons.2 ⟨rfl, List.forall_mem_singleton.2 sameHandle⟩

/-- A family of counters that is bound to the registry `main`. -/
def boundCounters (base : String) : Tagged :=
  ⟨base, ⟨.counter, rfl⟩, .standard, some "main"⟩

/-- Between two uses of a family another name is filed and taken out, and after them the name with
the tags is refused to that metric. -/
theorem same_tags_share_counter :
    let family := boundCounters "jobs"
    let store := Store.starting fun _ => 0
    let first := ["b:2", " a:1"]
    let second := ["a:1", "b:2", "a:1", " "]
    let between := [.getOrRegister "main" "jobs[a:1]" (.gauge 4), .unregister "main" "jobs[a:1]"]
    let later := [.register "main" "jobs[a:1,b:2]" ⟨1⟩]
    let one := family.tag store first
    let other := family.tag (one.2.performAll between) second
    let updated := (other.2.performAll later).perform (.change other.1 (.increase 5))
    (family.bound = some "main" ∧ Tags.Same first second ∧
      family.Fits store "main" (family.key first) ∧
      ∀ operation ∈ between ++ later, operation.removes "main" (family.key first) = false) ∧
      ((updated.lookup "main" "jobs[a:1,b:2]").bind updated.metric?).map Metric.description =
        some "Counter { inner: 5 }" := by
  intro family store first second between later one other updated
  have same : Tags.Same first second := (cleanTags_eq_iff first second).1 (by decide +kernel)
  have fits : family.Fits store "main" (family.key first) := fun held found => nomatch found
  have kept : ∀ operation ∈ between ++ later,
      operation.removes "main" (family.key first) = false := by decide +kernel
  obtain ⟨_, _, _, _, _, shared⟩ :=
    same_tags_share_metric.2.2 family "main" store first second between later rfl same fits kept
  refine ⟨⟨rfl, same, fits, kept⟩, ?_⟩
  have member : other.1 ∈ [one.1, other.1] := List.mem_cons_of_mem _ List.mem_cons_self
  have seen := (shared (.change (.increase 5)) other.1 member).2
  have key : family.key first = "jobs[a:1,b:2]" := by decide +kernel
  rw [key] at seen
  exact (congrArg (Option.map Metric.description) seen).trans (by decide +kernel)

/-! ### Different sets of tags -/

/-- When two lists of tags mean different metrics, for a family that is bound to a registry in which
both names fit. The names differ exactly if commas separate different pieces in the cleaned tags;
if no tag holds a comma, that is exactly if the lists stand for different sets of tags. Each metric
is filed under its name, and they are two exactly if the names differ and no metric was filed under
both before. No update of one is then ever seen in the other. -/
theorem metrics_differ_iff (family : Tagged) {id : RegistryId} (bound : family.bound = some id)
    {store : Store} (sound : store.Sound) (first second : List String)
    (firstFits : family.Fits store id (family.key first))
    (secondFits : family.Fits store id (family.key second)) :
    let one := family.tag store first
    let other := family.tag one.2 second
    (family.key first ≠ family.key second ↔
        Name.tagPieces (cleanTags first) ≠ Name.tagPieces (cleanTags second)) ∧
      ((∀ tag ∈ first ++ second, ',' ∉ tag.toList) →
        (family.key first ≠ family.key second ↔ ¬ Tags.Same first second)) ∧
      other.2.lookup id (family.key first) = some one.1 ∧
      other.2.lookup id (family.key second) = some other.1 ∧
      (one.1 ≠ other.1 ↔ family.key first ≠ family.key second ∧
        ∀ held, store.lookup id (family.key first) = some held →
          store.lookup id (family.key second) ≠ some held) ∧
      (one.1 ≠ other.1 → ∀ (later : Store) (update : Update),
        (later.perform (update.on one.1)).metric? other.1 = later.metric? other.1 ∧
          (later.perform (update.on other.1)).metric? one.1 = later.metric? one.1) := by
  intro one other
  obtain ⟨_, firstFiled, _⟩ := obtain_of_fits firstFits
  obtain ⟨_, secondFiled, _⟩ := obtain_of_fits (fits_tag bound firstFits secondFits)
  rw [← tag_of_bound bound] at firstFiled secondFiled
  refine ⟨not_congr (Name.written_eq_iff _ _ _), fun free => not_congr ?_, ?_, secondFiled, ?_, ?_⟩
  · obtain ⟨firstFree, secondFree⟩ := List.forall_mem_append.1 free
    exact Name.written_tagged_eq_iff family.base firstFree secondFree
  · rw [lookup_tag, firstFiled, Option.some_or]
  · rw [Ne, tag_eq_iff bound sound firstFits secondFits, not_or, not_exists]
    exact and_congr_right fun _ => forall_congr' fun held => not_and
  · intro different later update
    rw [metric?_perform_on, if_neg different.symm, metric?_perform_on, if_neg different]
    exact ⟨rfl, rfl⟩

/-- An update of one of two counters leaves the other as it is. -/
theorem counters_of_two_tags_differ :
    let family := boundCounters "jobs"
    let store := Store.starting fun _ => 0
    let one := family.tag store ["b", "a"]
    let other := family.tag one.2 ["a"]
    let updated := other.2.perform (.change one.1 (.increase 5))
    (family.bound = some "main" ∧ store.Sound ∧
      family.Fits store "main" (family.key ["b", "a"]) ∧
      family.Fits store "main" (family.key ["a"])) ∧
      one.1 ≠ other.1 ∧ (updated.metric? other.1).map Metric.description =
        some "Counter { inner: 0 }" := by
  intro family store one other updated
  have sound : store.Sound := sound_starting _
  have fits (name : String) : family.Fits store "main" name := fun held found => nomatch found
  obtain ⟨_, _, _, _, differ, apart⟩ :=
    metrics_differ_iff family rfl sound ["b", "a"] ["a"] (fits _) (fits _)
  have different : one.1 ≠ other.1 :=
    differ.2 ⟨by decide +kernel, fun held found => nomatch found⟩
  have same : updated.metric? other.1 = other.2.metric? other.1 :=
    (apart different other.2 (.change (.increase 5))).1
  refine ⟨⟨rfl, sound, fits _, fits _⟩, different, ?_⟩
  rw [same]
  decide +kernel

/-- A tag with a comma is filed like the two tags that it separates: the two sets of tags differ,
but the names and the metrics are one, and an update of one is seen in the other. -/
theorem comma_joins_sets_of_tags :
    let family := boundCounters "jobs"
    let one := family.tag (Store.starting fun _ => 0) ["a,b"]
    let other := family.tag one.2 ["a", "b"]
    let updated := other.2.perform (.change one.1 (.increase 5))
    ¬ Tags.Same ["a,b"] ["a", "b"] ∧ family.key ["a,b"] = family.key ["a", "b"] ∧
      one.1 = other.1 ∧
      (updated.metric? other.1).map Metric.description = some "Counter { inner: 5 }" := by
  rw [← cleanTags_eq_iff]
  decide +kernel

end Tagged

end Telemetry
