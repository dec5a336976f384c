/-
This file proves that it does not matter in which order metrics are registered.
The order decides which handles the metrics get, and nothing else: the stores
that come of two orders are one up to a renaming of the handles, and whatever is
read under a name is the same. Two registrations that stand side by side can
change places if their names differ, since the renaming that exchanges the two
new handles takes one outcome to the other; and a renaming goes along with every
later registration.
-/

import Mathlib.Logic.Equiv.Basic
import Telemetry.Proofs.Dictionary
import Telemetry.Proofs.Registry.FirstRegistrant

namespace Telemetry

namespace Store

/-- The second store is the first with other handles. -/
structure Renamed (rename : Equiv.Perm Handle) (first second : Store) : Prop where
  now : second.now = first.now
  sources : second.sources = first.sources
  metric : ∀ handle, second.metric? (rename handle) = first.metric? handle
  lookup : ∀ id name, second.lookup id name = (first.lookup id name).map rename

variable {rename : Equiv.Perm Handle} {first second : Store}

namespace Renamed

theorem refl (store : Store) : Renamed (.refl Handle) store store :=
  ⟨rfl, rfl, fun _ => rfl, fun _ _ => Option.map_id_apply.symm⟩

theorem trans {again : Equiv.Perm Handle} {third : Store} (toSecond : Renamed rename first second)
    (toThird : Renamed again second third) : Renamed (rename.trans again) first third where
  now := toThird.now.trans toSecond.now
  sources := toThird.sources.trans toSecond.sources
  metric handle := (toThird.metric (rename handle)).trans (toSecond.metric handle)
  lookup id name := by
    rw [toThird.lookup, toSecond.lookup, Option.map_map]
    rfl

/-- The entries of a registry are the same but for the handles. -/
theorem entries (renamed : Renamed rename first second) (id : RegistryId) :
    (second.registry id).entries =
      (first.registry id).entries.map fun entry => (entry.1, rename entry.2) :=
  Dictionary.entries_eq_map (renamed.lookup id)

/-! ### Reading -/

theorem change (renamed : Renamed rename first second) (handle : Handle)
    (update : Metric → Metric) :
    Renamed rename (first.change handle update) (second.change (rename handle) update) where
  now := renamed.now
  sources := renamed.sources
  metric other := by
    simp only [metric?_change, renamed.metric, rename.apply_eq_iff_eq]
  lookup := renamed.lookup

theorem setSource (renamed : Renamed rename first second) (id : SourceId) (source : Source) :
    Renamed rename (first.setSource id source) (second.setSource id source) where
  now := renamed.now
  sources := congrArg (·.setIfInBounds id.index source) renamed.sources
  metric := renamed.metric
  lookup := renamed.lookup

/-- A metric shows the same under its other handle. -/
theorem read (renamed : Renamed rename first second) (handle : Handle) :
    (second.read (rename handle)).1 = (first.read handle).1 ∧
      Renamed rename (first.read handle).2 (second.read (rename handle)).2 := by
  have source (id : SourceId) : second.source id = first.source id := by
    rw [Store.source, Store.source, renamed.sources]
  unfold Store.read
  rw [renamed.metric]
  cases first.metric? handle with
  | none => exact ⟨rfl, renamed⟩
  | some metric =>
    cases metric with
    | counter _ | gauge _ | floatGauge _ | histogram _ => exact ⟨rfl, renamed⟩
    | functionalGauge id =>
      dsimp only [readInt]
      rw [source]
      exact ⟨rfl, renamed.setSource id _⟩
    | functionalFloatGauge id =>
      dsimp only [readFloat]
      rw [source]
      exact ⟨rfl, renamed⟩
    | meter rates | timer sample rates =>
      dsimp only
      rw [renamed.now]
      exact ⟨rfl, renamed.change handle _⟩

end Renamed

/-! ### Registering -/

theorem metric?_nextHandle (store : Store) : store.metric? store.nextHandle = none := by
  have unknown := kind?_of_not_live store.not_live_nextHandle
  rwa [kind?, Option.map_eq_none_iff] at unknown

/-- A metric is made and filed if the name is free. -/
theorem metric?_getOrRegister_free {store : Store} {id : RegistryId} {name : String}
    (free : store.lookup id name = none) (make : Unit → Metric) (handle : Handle) :
    (store.getOrRegister id name make).2.2.metric? handle =
      if handle = store.nextHandle then some (make ()) else store.metric? handle := by
  rw [getOrRegister_free free]
  exact store.metric?_create (make ()) handle

theorem nextHandle_getOrRegister_free {store : Store} {id : RegistryId} {name : String}
    (free : store.lookup id name = none) (make : Unit → Metric) :
    (store.getOrRegister id name make).2.2.nextHandle = ⟨store.metrics.size + 1⟩ := by
  rw [getOrRegister_free free, nextHandle]
  exact congrArg Handle.mk (Array.size_push _)

theorem now_getOrRegister (store : Store) (id : RegistryId) (name : String)
    (make : Unit → Metric) : (store.getOrRegister id name make).2.2.now = store.now := by
  unfold getOrRegister
  split <;> rfl

theorem sources_getOrRegister (store : Store) (id : RegistryId) (name : String)
    (make : Unit → Metric) : (store.getOrRegister id name make).2.2.sources = store.sources := by
  unfold getOrRegister
  split <;> rfl

namespace Renamed

/-- Two handles without metrics can be exchanged. -/
theorem trans_swap (renamed : Renamed rename first second) (sound : first.Sound)
    {one other : Handle} (oneDead : second.metric? one = none)
    (otherDead : second.metric? other = none) :
    Renamed (rename.trans (Equiv.swap one other)) first second where
  now := renamed.now
  sources := renamed.sources
  metric handle := by
    rw [← renamed.metric handle, Equiv.trans_apply, Equiv.swap_apply_def]
    split_ifs with isOne isOther
    · rw [isOne, oneDead, otherDead]
    · rw [isOther, oneDead, otherDead]
    · rfl
  lookup id name := by
    rw [renamed.lookup]
    refine Option.map_congr fun handle found => ?_
    have live := sound id name handle found
    rw [live_iff_isSome_kind?, kind?, Option.isSome_map, ← renamed.metric] at live
    rw [Equiv.trans_apply, Equiv.swap_apply_of_ne_of_ne] <;> intro same
    · rw [same, oneDead] at live
      cases live
    · rw [same, otherDead] at live
      cases live

/-- Registering goes along with a renaming that takes the next new handle to the next new one. -/
theorem getOrRegister_of_aligned (renamed : Renamed rename first second)
    (aligned : rename first.nextHandle = second.nextHandle) (id : RegistryId) (name : String)
    (make : Unit → Metric) :
    Renamed rename (first.getOrRegister id name make).2.2
      (second.getOrRegister id name make).2.2 := by
  cases taken : first.lookup id name with
  | some held =>
    have takenThere : second.lookup id name = some (rename held) := by
      rw [renamed.lookup, taken, Option.map_some]
    rw [getOrRegister_taken taken, getOrRegister_taken takenThere]
    exact renamed
  | none =>
    have freeThere : second.lookup id name = none := by
      rw [renamed.lookup, taken, Option.map_none]
    refine ⟨?_, ?_, fun handle => ?_, fun other wanted => ?_⟩
    · rw [now_getOrRegister, now_getOrRegister, renamed.now]
    · rw [sources_getOrRegister, sources_getOrRegister, renamed.sources]
    · simp only [metric?_getOrRegister_free taken, metric?_getOrRegister_free freeThere,
        renamed.metric, ← aligned, rename.apply_eq_iff_eq]
    · rw [lookup_getOrRegister, lookup_getOrRegister, renamed.lookup, ← aligned, Option.map_or]
      congr 1
      split <;> rfl

/-- Registering goes along with every renaming, if that is adapted to the new handles. -/
theorem exists_getOrRegister (renamed : Renamed rename first second) (sound : first.Sound)
    (id : RegistryId) (name : String) (make : Unit → Metric) :
    ∃ adapted, Renamed adapted (first.getOrRegister id name make).2.2
      (second.getOrRegister id name make).2.2 := by
  have dead : second.metric? (rename first.nextHandle) = none := by
    rw [renamed.metric, metric?_nextHandle]
  have adapted := renamed.trans_swap sound dead second.metric?_nextHandle
  exact ⟨_, adapted.getOrRegister_of_aligned (Equiv.swap_apply_left _ _) id name make⟩

end Renamed

/-- Exchanging the next two new handles leaves all handles that have been given out. -/
theorem swap_of_live {store : Store} {handle : Handle} (live : store.Live handle) :
    Equiv.swap store.nextHandle ⟨store.metrics.size + 1⟩ handle = handle :=
  Equiv.swap_apply_of_ne_of_ne (fun same => Nat.ne_of_lt live (congrArg Handle.index same))
    fun same => Nat.ne_of_lt (Nat.lt_succ_of_lt live) (congrArg Handle.index same)

/-- Two registrations under names that are free can change places: so do the two new handles. -/
theorem renamed_exchange_of_free {store : Store} (sound : store.Sound) {id : RegistryId}
    {name other : String} (different : name ≠ other) (free : store.lookup id name = none)
    (otherFree : store.lookup id other = none) (make makeOther : Unit → Metric) :
    Renamed (Equiv.swap store.nextHandle ⟨store.metrics.size + 1⟩)
      ((store.getOrRegister id name make).2.2.getOrRegister id other makeOther).2.2
      ((store.getOrRegister id other makeOther).2.2.getOrRegister id name make).2.2 := by
  have freeThen : (store.getOrRegister id other makeOther).2.2.lookup id name = none := by
    rw [lookup_getOrRegister, free, if_neg fun same => different same.2, Option.or_none]
  have otherFreeThen : (store.getOrRegister id name make).2.2.lookup id other = none := by
    rw [lookup_getOrRegister, otherFree, if_neg fun same => different same.2.symm, Option.or_none]
  refine ⟨by simp only [now_getOrRegister], by simp only [sources_getOrRegister], ?_, ?_⟩
  · intro handle
    have apart : store.nextHandle ≠ ⟨store.metrics.size + 1⟩ :=
      fun same => Nat.succ_ne_self _ (congrArg Handle.index same).symm
    rw [metric?_getOrRegister_free freeThen, metric?_getOrRegister_free otherFreeThen,
      metric?_getOrRegister_free free, metric?_getOrRegister_free otherFree,
      nextHandle_getOrRegister_free free, nextHandle_getOrRegister_free otherFree,
      Equiv.swap_apply_def]
    split_ifs <;> simp_all
  · intro registry wanted
    simp only [lookup_getOrRegister, nextHandle_getOrRegister_free free,
      nextHandle_getOrRegister_free otherFree]
    cases found : store.lookup registry wanted with
    | some held =>
      rw [Option.some_or, Option.some_or, Option.some_or, Option.some_or, Option.map_some,
        swap_of_live (sound registry wanted held found)]
    | none =>
      rw [Option.none_or, Option.none_or]
      by_cases isName : registry = id ∧ wanted = name
      · have notOther : ¬ (registry = id ∧ wanted = other) :=
          fun isOther => different (isName.2.symm.trans isOther.2)
        rw [if_pos isName, if_pos isName, if_neg notOther, if_neg notOther, Option.none_or,
          Option.some_or, Option.map_some, Equiv.swap_apply_left]
      · rw [if_neg isName, if_neg isName, Option.none_or, Option.or_none]
        split
        · rw [Option.map_some, Equiv.swap_apply_right]
        · rfl

/-- Two registrations under different names can change places. -/
theorem exists_renamed_exchange {store : Store} (sound : store.Sound) (id : RegistryId)
    {name other : String} (different : name ≠ other) (make makeOther : Unit → Metric) :
    ∃ rename, Renamed rename
      ((store.getOrRegister id name make).2.2.getOrRegister id other makeOther).2.2
      ((store.getOrRegister id other makeOther).2.2.getOrRegister id name make).2.2 := by
  -- a name that is taken stays taken, so that its registration changes nothing in either place
  cases taken : store.lookup id name with
  | some held =>
    have still : (store.getOrRegister id other makeOther).2.2.lookup id name = some held := by
      rw [lookup_getOrRegister, taken, Option.some_or]
    rw [getOrRegister_taken taken, getOrRegister_taken still]
    exact ⟨_, .refl _⟩
  | none =>
    cases otherTaken : store.lookup id other with
    | some held =>
      have still : (store.getOrRegister id name make).2.2.lookup id other = some held := by
        rw [lookup_getOrRegister, otherTaken, Option.some_or]
      rw [getOrRegister_taken otherTaken, getOrRegister_taken still]
      exact ⟨_, .refl _⟩
    | none =>
      exact ⟨_, renamed_exchange_of_free sound different taken otherTaken make makeOther⟩

/-- Register metrics one after the other, each under its name if that is free. -/
def registerAll (store : Store) (id : RegistryId) (metrics : List (String × Metric)) : Store :=
  store.performAll (metrics.map fun entry => .getOrRegister id entry.1 entry.2)

theorem sound_getOrRegister {store : Store} (sound : store.Sound) (id : RegistryId)
    (name : String) (metric : Metric) :
    (store.getOrRegister id name fun _ => metric).2.2.Sound := by
  have possible : (Operation.getOrRegister id name metric).Possible store := trivial
  have performed : (store.perform (.getOrRegister id name metric)).Sound :=
    sound_perform sound possible
  exact performed

/-- Registering further metrics goes along with a renaming. -/
theorem Renamed.exists_registerAll (renamed : Renamed rename first second) (sound : first.Sound)
    (id : RegistryId) (metrics : List (String × Metric)) :
    ∃ adapted, Renamed adapted (first.registerAll id metrics) (second.registerAll id metrics) := by
  induction metrics generalizing rename first second with
  | nil => exact ⟨rename, renamed⟩
  | cons entry rest inductionHypothesis =>
    obtain ⟨adapted, next⟩ := renamed.exists_getOrRegister sound id entry.1 fun _ => entry.2
    exact inductionHypothesis next (sound_getOrRegister sound id entry.1 entry.2)

/-- Metrics under different names can be registered in any order: the stores differ in the handles
only. -/
theorem exists_renamed_registerAll {store : Store} (sound : store.Sound) (id : RegistryId)
    {metrics reordered : List (String × Metric)} (perm : metrics.Perm reordered)
    (distinct : (metrics.map Prod.fst).Nodup) :
    ∃ rename, Renamed rename (store.registerAll id metrics) (store.registerAll id reordered) := by
  induction perm generalizing store with
  | nil => exact ⟨_, .refl store⟩
  | cons entry _ inductionHypothesis =>
    rw [List.map_cons, List.nodup_cons] at distinct
    exact inductionHypothesis (sound_getOrRegister sound id entry.1 entry.2) distinct.2
  | swap entry other rest =>
    have different : other.1 ≠ entry.1 := by
      rw [List.map_cons, List.map_cons, List.nodup_cons, List.mem_cons, not_or] at distinct
      exact distinct.1.1
    obtain ⟨_, exchanged⟩ :=
      exists_renamed_exchange sound id different (fun _ => other.2) fun _ => entry.2
    refine exchanged.exists_registerAll ?_ id rest
    exact sound_getOrRegister (sound_getOrRegister sound id other.1 other.2) id entry.1 entry.2
  | trans toMiddle _ firstHypothesis secondHypothesis =>
    obtain ⟨_, toSecond⟩ := firstHypothesis sound distinct
    obtain ⟨_, toThird⟩ := secondHypothesis sound ((toMiddle.map Prod.fst).nodup_iff.1 distinct)
    exact ⟨_, toSecond.trans toThird⟩

end Store

end Telemetry
