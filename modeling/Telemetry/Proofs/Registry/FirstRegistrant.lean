/-
This file proves that the first to register a name keeps it. The law of a single
step says what any operation does to any look-up: it takes the name out, or it
files the handle that it offers for the name if the name is free, or it leaves
the name alone. Over a whole run, what is filed under a name is therefore the
first handle that was offered for it since it was last taken out. Around this
stand the answers: what an operation gives its caller when the name is taken,
and what happens to the metrics when names are taken out.
-/

import Mathlib.Data.List.DropRight
import Telemetry.Proofs.Registry.Filing

namespace Telemetry

open Store

/-! ### What an operation does to a name -/

namespace Operation

/-- Whether the operation takes the name out of the registry. -/
def removes (id : RegistryId) (name : String) : Operation → Bool
  | .unregister other wanted => id = other && name = wanted
  | .unregisterAll other => id = other
  | .unregisterHolder other holder => id = other && holder.metricNames.contains name
  | _ => false

/-- The operations that take names out. -/
def isRemoval : Operation → Bool
  | .unregister _ _ | .unregisterAll _ | .unregisterHolder _ _ => true
  | _ => false

/-- The handle that the operation files under the name if the name is free. -/
def offer? (store : Store) (id : RegistryId) (name : String) : Operation → Option Handle
  | .register other wanted handle => if id = other ∧ name = wanted then some handle else none
  | .getOrRegister other wanted _ =>
    if id = other ∧ name = wanted then some store.nextHandle else none
  | .registerHolder other holder =>
    if id = other then Holder.offerOfFields? other store name holder.fields else none
  | .bind other family => if id = other ∧ name = family.base then some store.nextHandle else none
  | .tag family tags =>
    if family.bound = some id ∧ name = (Name.tagged family.base tags).written then
      some store.nextHandle
    else none
  | _ => none

/-- An operation is possible if the handles that it files have been given out. -/
def Possible (store : Store) : Operation → Prop
  | .register _ _ handle => store.Live handle
  | .registerHolder _ holder =>
    ∀ field ∈ holder.fields, ∀ kind handle, field.value = .plain kind handle → store.Live handle
  | _ => True

end Operation

namespace Store

/-- The law of a step: a name that is taken out is free, a taken name stays with whoever has it,
and a free name gets the handle that is offered for it. -/
theorem lookup_perform (store : Store) (operation : Operation) (id : RegistryId)
    (name : String) :
    (store.perform operation).lookup id name =
      if operation.removes id name then none
      else (store.lookup id name).or (operation.offer? store id name) := by
  cases operation with
  | register other wanted handle => exact store.lookup_register other wanted handle id name
  | getOrRegister other wanted metric =>
    exact store.lookup_getOrRegister other wanted (fun _ => metric) id name
  | registerHolder other holder =>
    exact Holder.lookup_registerFields other store holder.fields id name
  | bind other family => exact family.lookup_obtain store other family.base id name
  | tag family tags => exact family.lookup_tag store tags id name
  | unregister other wanted =>
    simp only [perform, lookup_unregister, Operation.removes, Operation.offer?, Option.or_none,
      Bool.and_eq_true, decide_eq_true_eq]
  | unregisterAll other =>
    simp only [perform, lookup_unregisterAll, Operation.removes, Operation.offer?,
      Option.or_none, decide_eq_true_eq]
  | unregisterHolder other holder =>
    simp only [perform, Operation.removes, Operation.offer?, Option.or_none,
      Bool.and_eq_true, decide_eq_true_eq, List.contains_iff_mem]
    exact store.lookup_unregisterNames other holder.metricNames id name
  | create _ | advance _ | setSource _ _ | change _ _ | observe _ _ | record _ _ | mark _ _
  | stop _ =>
    exact Option.or_none.symm
  | read handle => exact ((store.steady_read handle).lookup id name).trans Option.or_none.symm
  | collect settings other =>
    exact ((steady_collect settings store other).lookup id name).trans Option.or_none.symm
  | emit emitter =>
    exact ((steady_emitOnce emitter store).lookup id name).trans Option.or_none.symm

/-! ### Runs -/

theorem performAll_append (store : Store) (first second : List Operation) :
    store.performAll (first ++ second) = (store.performAll first).performAll second :=
  List.foldl_append

theorem performAll_concat (store : Store) (operations : List Operation) (last : Operation) :
    store.performAll (operations ++ [last]) = (store.performAll operations).perform last :=
  store.performAll_append operations [last]

/-- The first handle that a run offers for a name. -/
def firstOffer? (id : RegistryId) (name : String) (store : Store) :
    List Operation → Option Handle
  | [] => none
  | operation :: rest =>
    (operation.offer? store id name).or (firstOffer? id name (store.perform operation) rest)

theorem firstOffer?_concat (id : RegistryId) (name : String) (store : Store)
    (operations : List Operation) (last : Operation) :
    firstOffer? id name store (operations ++ [last]) =
      (firstOffer? id name store operations).or
        (last.offer? (store.performAll operations) id name) := by
  induction operations generalizing store with
  | nil => exact Option.or_none
  | cons operation rest inductionHypothesis =>
    rw [List.cons_append, firstOffer?, inductionHypothesis, firstOffer?, Option.or_assoc]
    rfl

/-- Along a run from a store in which the name is free, the name holds the first handle that was
offered for it since it was last taken out. -/
theorem lookup_performAll (store : Store) (id : RegistryId) (name : String)
    (free : store.lookup id name = none) (operations : List Operation) :
    (store.performAll operations).lookup id name =
      firstOffer? id name
        (store.performAll (operations.rdropWhile fun operation => !operation.removes id name))
        (operations.rtakeWhile fun operation => !operation.removes id name) := by
  induction operations using List.reverseRecOn with
  | nil => rw [List.rtakeWhile_nil, firstOffer?]; exact free
  | append_singleton operations last inductionHypothesis =>
    rw [performAll_concat, lookup_perform]
    by_cases removed : last.removes id name = true
    · rw [if_pos removed, List.rtakeWhile_concat_neg _ _ _ (by simp [removed]), firstOffer?]
    · rw [if_neg removed, List.rtakeWhile_concat_pos _ _ _ (by simp [removed]),
        List.rdropWhile_concat_pos _ _ _ (by simp [removed]), firstOffer?_concat,
        inductionHypothesis, ← performAll_append, List.rdropWhile_append_rtakeWhile]

/-! ### Filed handles are live -/

/-- There is a metric behind every handle that is filed. -/
def Sound (store : Store) : Prop :=
  ∀ id name handle, store.lookup id name = some handle → store.Live handle

theorem sound_starting (draws : Nat → UInt64) : (starting draws).Sound := by
  intro id name handle found
  cases found

/-- An operation loses no metric and changes no kind. -/
theorem grows_perform (store : Store) (operation : Operation) :
    Grows store (store.perform operation) := by
  cases operation with
  | advance duration => exact (store.steady_advance duration).grows
  | setSource id source => exact (store.steady_setSource id source).grows
  | change handle change =>
    exact (store.steady_change handle _ fun metric _ => metric.kind_apply _ change).grows
  | observe handle value => exact (store.steady_observe handle value).grows
  | record handle duration => exact (store.steady_record handle duration).grows
  | mark handle events => exact (store.steady_mark handle events).grows
  | read handle => exact (store.steady_read handle).grows
  | collect settings id => exact (steady_collect settings store id).grows
  | emit emitter => exact (steady_emitOnce emitter store).grows
  | _ => exact allowsFiling_grows.perform store rfl

/-- The metric that is made for a free name is there afterwards. -/
theorem live_obtain_free {store : Store} {id : RegistryId} {name : String} (family : Tagged)
    (free : store.lookup id name = none) :
    (family.obtain store id name).2.Live store.nextHandle := by
  rw [Tagged.obtain_free family free]
  exact store.live_create _

end Store

theorem Field.live_offer {field : Field} {store : Store} {id : RegistryId} {name : String}
    {handle : Handle}
    (live : ∀ kind handle, field.value = .plain kind handle → store.Live handle)
    (free : store.lookup id name = none) (offered : field.offer? store name = some handle) :
    (field.register store id).2.Live handle := by
  unfold Field.offer? at offered
  split at offered
  · rename_i value
    split at offered
    · cases offered
      exact (allowsFiling_grows.registering.registerField field store id).live (live _ _ value)
    · cases offered
  · rename_i family value
    split at offered
    · rename_i same
      cases offered
      subst same
      simp only [Field.register, value]
      exact live_obtain_free family free
    · cases offered

theorem Holder.live_offerOfFields {id : RegistryId} {store : Store} {name : String}
    {handle : Handle} {fields : List Field}
    (live : ∀ field ∈ fields, ∀ kind handle, field.value = .plain kind handle →
      store.Live handle)
    (free : store.lookup id name = none)
    (offered : offerOfFields? id store name fields = some handle) :
    (registerFields id store fields).2.Live handle := by
  induction fields generalizing store with
  | nil => cases offered
  | cons field rest inductionHypothesis =>
    have grows := allowsFiling_grows.registering.registerField field store id
    rw [offerOfFields?, Option.or_eq_some_iff] at offered
    rcases offered with first | ⟨noOffer, later⟩
    · exact (allowsFiling_grows.registering.registerFields id _ rest).live
        (Field.live_offer (live field List.mem_cons_self) free first)
    · refine inductionHypothesis (fun other member kind own value => ?_) ?_ later
      · exact grows.live (live other (List.mem_cons_of_mem _ member) kind own value)
      · have passed := field.lookup_register store id id name
        rwa [free, noOffer, ite_self, Option.or_none] at passed

namespace Store

/-- What an operation files under a free name is there afterwards. -/
theorem live_offer {store : Store} {operation : Operation} {id : RegistryId} {name : String}
    {handle : Handle} (possible : operation.Possible store)
    (free : store.lookup id name = none)
    (offered : operation.offer? store id name = some handle) :
    (store.perform operation).Live handle := by
  unfold Operation.offer? at offered
  split at offered
  · split at offered
    · cases offered
      exact (store.grows_perform _).live possible
    · cases offered
  · split at offered
    · rename_i here
      cases offered
      obtain ⟨rfl, rfl⟩ := here
      simp only [perform, getOrRegister_free free]
      exact store.live_create _
    · cases offered
  · split at offered
    · rename_i here
      subst here
      exact Holder.live_offerOfFields possible free offered
    · cases offered
  · split at offered
    · rename_i here
      cases offered
      obtain ⟨rfl, rfl⟩ := here
      exact live_obtain_free _ free
    · cases offered
  · split at offered
    · rename_i here
      cases offered
      obtain ⟨bound, rfl⟩ := here
      simp only [perform, Tagged.tag, bound]
      exact live_obtain_free _ free
    · cases offered
  · cases offered

theorem sound_perform {store : Store} {operation : Operation} (sound : store.Sound)
    (possible : operation.Possible store) : (store.perform operation).Sound := by
  intro id name handle found
  rw [lookup_perform] at found
  split at found
  · cases found
  · rcases Option.or_eq_some_iff.1 found with held | ⟨free, offered⟩
    · exact (store.grows_perform operation).live (sound id name handle held)
    · exact live_offer possible free offered

/-- A run is possible if each of its operations is, in the store that it meets. -/
def PossibleRun (store : Store) : List Operation → Prop
  | [] => True
  | operation :: rest =>
    operation.Possible store ∧ PossibleRun (store.perform operation) rest

theorem sound_performAll {store : Store} {operations : List Operation} (sound : store.Sound)
    (possible : store.PossibleRun operations) : (store.performAll operations).Sound := by
  induction operations generalizing store with
  | nil => exact sound
  | cons operation rest inductionHypothesis =>
    exact inductionHypothesis (sound_perform sound possible.1) possible.2

/-! ### A taken name -/

/-- Between the two stores a metric was made, which is filed nowhere, and nothing else happened to
the metrics and the registries. -/
structure MadeUnfiled (before after : Store) (handle : Handle) (metric : Metric) : Prop where
  registries : after.registries = before.registries
  fresh : before.metric? handle = none
  made : after.metric? handle = some metric
  others : ∀ other, other ≠ handle → after.metric? other = before.metric? other
  unfiled : ∀ id name, after.lookup id name ≠ some handle

/-- What operations that name a taken name answer, and that they leave it with whoever has it. -/
structure Kept (store : Store) (id : RegistryId) (name : String) (held : Handle) : Prop where
  register : ∀ handle, store.register id name handle = .error ⟨name⟩ ∧
    store.perform (.register id name handle) = store
  getOrRegister : ∀ make, store.getOrRegister id name make = (held, false, store)
  tag : ∀ (family : Tagged) (tags : List String), family.bound = some id →
    (Name.tagged family.base tags).written = name →
    if store.kind? held = some family.kind.kind then family.tag store tags = (held, store)
    else MadeUnfiled store (family.tag store tags).2 (family.tag store tags).1
      (family.template store.now)
  bind : ∀ family : Tagged, family.base = name →
    if store.kind? held = some family.kind.kind then
      family.bind store id = ({ family with bound := some id }, store)
    else MadeUnfiled store (family.bind store id).2 store.nextHandle (family.template store.now)
  registerHolder : ∀ holder : Holder, (holder.register store id).2.lookup id name = some held

theorem madeUnfiled_fresh {store : Store} (sound : store.Sound) (family : Tagged)
    (notice : Notice) :
    MadeUnfiled store (family.fresh (store.note notice)).2 store.nextHandle
      (family.template store.now) where
  registries := rfl
  fresh := by
    have dead := kind?_of_not_live store.not_live_nextHandle
    rwa [kind?, Option.map_eq_none_iff] at dead
  made := by
    rw [Tagged.fresh, metric?_create]
    exact if_pos rfl
  others other different := by
    rw [Tagged.fresh, metric?_create]
    exact if_neg different
  unfiled id name found := store.not_live_nextHandle (sound id name _ found)

/-- A metric with tags gets what is filed if that is of its kind, and otherwise a metric that is
filed nowhere. -/
theorem obtain_taken {store : Store} (sound : store.Sound) {id : RegistryId} {name : String}
    {held : Handle} (taken : store.lookup id name = some held) (family : Tagged) :
    if store.kind? held = some family.kind.kind then family.obtain store id name = (held, store)
    else (family.obtain store id name).1 = store.nextHandle ∧
      MadeUnfiled store (family.obtain store id name).2 store.nextHandle
        (family.template store.now) := by
  split
  · rename_i same
    exact family.obtain_same_kind taken same
  · rename_i different
    obtain ⟨kind, known⟩ := Option.isSome_iff_exists.1
      ((store.live_iff_isSome_kind? held).1 (sound id name held taken))
    rw [known, Option.some.injEq] at different
    rw [family.obtain_other_kind taken known different]
    exact ⟨rfl, madeUnfiled_fresh sound family _⟩

theorem kept_of_lookup {store : Store} (sound : store.Sound) {id : RegistryId} {name : String}
    {held : Handle} (taken : store.lookup id name = some held) : store.Kept id name held where
  register handle := by
    have refused := register_taken taken handle
    exact ⟨refused, by rw [perform, refused]; rfl⟩
  getOrRegister make := getOrRegister_taken taken make
  tag family tags bound written := by
    have obtained := obtain_taken sound taken family
    simp only [Tagged.tag, bound, written]
    split at obtained <;> rename_i kind
    · rwa [if_pos kind]
    · rw [if_neg kind, obtained.1]
      exact obtained.2
  bind family base := by
    subst base
    have obtained := obtain_taken sound taken family
    split at obtained <;> rename_i kind
    · rw [if_pos kind, Tagged.bind, obtained]
    · rw [if_neg kind]
      exact obtained.2
  registerHolder holder := by
    have filed := Holder.lookup_registerFields id store holder.fields id name
    rwa [taken, Option.some_or] at filed

/-! ### Names that are taken out -/

/-- An operation takes out exactly the names that it names: all others keep their handles, and of
the metrics exactly those that were filed under the names are stopped. A meter or timer that was
filed under one of them runs no more. -/
structure TakesOut (store : Store) (operation : Operation) : Prop where
  lookup : ∀ id name, (store.perform operation).lookup id name =
    if operation.removes id name then none else store.lookup id name
  stopped : ∀ id name handle, operation.removes id name → store.lookup id name = some handle →
    (store.perform operation).metric? handle = (store.metric? handle).map (·.stop store.now) ∧
      ∀ rates, ((store.perform operation).metric? handle).bind Metric.rates? = some rates →
        rates.isStopped
  others : ∀ handle,
    (∀ id name, operation.removes id name → store.lookup id name ≠ some handle) →
    (store.perform operation).metric? handle = store.metric? handle

/-- A metric after names were taken out. -/
theorem metric?_perform_removal (store : Store) {operation : Operation}
    (removal : operation.isRemoval) (handle : Handle) :
    ((∃ id name, operation.removes id name ∧ store.lookup id name = some handle) →
      (store.perform operation).metric? handle = (store.metric? handle).map (·.stop store.now)) ∧
    ((∀ id name, operation.removes id name → store.lookup id name ≠ some handle) →
      (store.perform operation).metric? handle = store.metric? handle) := by
  cases operation with
  | unregister id name =>
    rw [perform, metric?_unregister]
    refine ⟨?_, fun elsewhere => if_neg (elsewhere id name (by simp [Operation.removes]))⟩
    rintro ⟨other, wanted, named, found⟩
    simp only [Operation.removes, Bool.and_eq_true, decide_eq_true_eq] at named
    obtain ⟨rfl, rfl⟩ := named
    exact if_pos found
  | unregisterAll id =>
    rw [perform, metric?_unregisterAll]
    constructor
    · rintro ⟨other, wanted, named, found⟩
      simp only [Operation.removes, decide_eq_true_eq] at named
      subst named
      exact if_pos ((store.mem_values_registry other handle).2 ⟨wanted, found⟩)
    · intro elsewhere
      refine if_neg fun filed => ?_
      obtain ⟨wanted, found⟩ := (store.mem_values_registry id handle).1 filed
      exact elsewhere id wanted (by simp [Operation.removes]) found
  | unregisterHolder id holder =>
    change (_ → (store.unregisterNames id holder.metricNames).metric? handle = _) ∧
      (_ → (store.unregisterNames id holder.metricNames).metric? handle = _)
    rw [metric?_unregisterNames]
    constructor
    · rintro ⟨other, wanted, named, found⟩
      simp only [Operation.removes, Bool.and_eq_true, decide_eq_true_eq,
        List.contains_iff_mem] at named
      obtain ⟨rfl, member⟩ := named
      exact if_pos ⟨wanted, member, found⟩
    · intro elsewhere
      refine if_neg fun filed => ?_
      obtain ⟨wanted, member, found⟩ := filed
      exact elsewhere id wanted (by simp [Operation.removes, member]) found
  | _ => cases removal

theorem takesOut_of_isRemoval (store : Store) {operation : Operation}
    (removal : operation.isRemoval) : store.TakesOut operation where
  lookup id name := by
    have nothing : operation.offer? store id name = none := by
      cases operation <;> first | rfl | cases removal
    rw [lookup_perform, nothing, Option.or_none]
  stopped id name handle named found := by
    have stopped := (store.metric?_perform_removal removal handle).1 ⟨id, name, named, found⟩
    refine ⟨stopped, fun rates running => ?_⟩
    rw [stopped, Option.bind_map] at running
    obtain ⟨metric, _, own⟩ := Option.bind_eq_some_iff.1 running
    exact Metric.isStopped_of_rates?_stop own
  others handle := (store.metric?_perform_removal removal handle).2

/-! ### Whole runs -/

/-- The first to register a name keeps it. After any run from an empty store, what is filed under
a name is the first handle that was offered for it since it was last taken out; all operations that
name a taken name leave it there; and an operation that takes names out touches no others. -/
theorem first_registrant_keeps_name (draws : Nat → UInt64) (operations : List Operation)
    (possible : (starting draws).PossibleRun operations) :
    (∀ id name, ((starting draws).performAll operations).lookup id name =
      firstOffer? id name
        ((starting draws).performAll
          (operations.rdropWhile fun operation => !operation.removes id name))
        (operations.rtakeWhile fun operation => !operation.removes id name)) ∧
    (∀ id name held, ((starting draws).performAll operations).lookup id name = some held →
      ((starting draws).performAll operations).Kept id name held) ∧
    (∀ operation : Operation, operation.isRemoval →
      ((starting draws).performAll operations).TakesOut operation) := by
  have sound := sound_performAll (sound_starting draws) possible
  refine ⟨fun id name => ?_, fun id name held taken => kept_of_lookup sound taken,
    fun operation removal => takesOut_of_isRemoval _ removal⟩
  exact (starting draws).lookup_performAll id name rfl operations

/-- A gauge that comes second to a name gets it once the counter that came first is taken out, and
then keeps it against a third. -/
theorem second_registrant_keeps_freed_name :
    let run : List Operation := [.create (.counter 0), .create (.gauge 0),
      .register "main" "jobs" ⟨0⟩, .register "main" "jobs" ⟨1⟩, .unregister "main" "jobs",
      .getOrRegister "main" "load" (.counter 7), .register "main" "jobs" ⟨1⟩,
      .register "main" "jobs" ⟨0⟩]
    (starting fun _ => 0).PossibleRun run ∧
      ((starting fun _ => 0).performAll run).Kept "main" "jobs" ⟨1⟩ := by
  intro run
  have possible : (starting fun _ => 0).PossibleRun run := by
    refine ⟨trivial, trivial, ?_, ?_, trivial, trivial, ?_, ?_, trivial⟩ <;>
      exact Nat.lt_of_sub_pos (by decide)
  exact ⟨possible, (first_registrant_keeps_name _ run possible).2.1 "main" "jobs" ⟨1⟩ rfl⟩

end Store

end Telemetry
