/-
This file says what filing and taking out names does to the look-ups of all
registries: registering, asking for a metric under a name, and the same by
metrics with tags and by whole groups. One law covers all that may file: a name
that is taken stays with whoever has it, and a free name gets the handle that is
offered for it. The other law covers all that take names out: the given names
are free, all other names stay, and what was filed under the given names is
stopped. Beyond the look-ups, all of this comes down to three steps: a registry
gets another content, a metric is made, or one is stopped. A relation that allows
for these therefore allows for all filing.
-/

import Mathlib.Logic.Basic
import Telemetry.Proofs.Store.Steady

namespace Telemetry

namespace Store

variable (store : Store)

/-! ### Look-ups -/

theorem registry_setRegistry (id other : RegistryId) (registry : Registry) :
    (store.setRegistry id registry).registry other =
      if other = id then registry else store.registry other := by
  simp only [Store.registry, setRegistry, Dictionary.find?_insert]
  split <;> rfl

/-- Put a handle under a name. -/
def file (id : RegistryId) (name : String) (handle : Handle) : Store :=
  store.setRegistry id ((store.registry id).insert name handle)

theorem lookup_file (id : RegistryId) (name : String) (handle : Handle) (other : RegistryId)
    (wanted : String) :
    (store.file id name handle).lookup other wanted =
      if other = id ∧ wanted = name then some handle else store.lookup other wanted := by
  rw [lookup, file, registry_setRegistry]
  by_cases same : other = id
  · subst same
    simp only [if_true, Dictionary.find?_insert, true_and, lookup]
  · rw [if_neg same, if_neg fun both => same both.1, lookup]

theorem contains_registry (id : RegistryId) (name : String) :
    (store.registry id).contains name = (store.lookup id name).isSome :=
  Dictionary.contains_eq_isSome _ _

/-- Making a metric files nothing. -/
theorem lookup_create (metric : Metric) (id : RegistryId) (name : String) :
    (store.create metric).2.lookup id name = store.lookup id name :=
  rfl

variable {store} in
/-- An offer for a name that is taken changes nothing. -/
theorem lookup_or_of_taken {id : RegistryId} {name : String} {held : Handle}
    (taken : store.lookup id name = some held) (handle : Handle) (other : RegistryId)
    (wanted : String) :
    (store.lookup other wanted).or (if other = id ∧ wanted = name then some handle else none) =
      store.lookup other wanted := by
  by_cases here : other = id ∧ wanted = name
  · rw [here.1, here.2, taken, Option.some_or]
  · rw [if_neg here, Option.or_none]

variable {store} in
/-- An offer for a name that is free is filed under it. -/
theorem lookup_or_of_free {id : RegistryId} {name : String} (free : store.lookup id name = none)
    (handle : Handle) (other : RegistryId) (wanted : String) :
    (store.lookup other wanted).or (if other = id ∧ wanted = name then some handle else none) =
      (store.file id name handle).lookup other wanted := by
  rw [lookup_file]
  by_cases here : other = id ∧ wanted = name
  · rw [if_pos here, here.1, here.2, free, if_pos ⟨rfl, rfl⟩, Option.none_or]
  · rw [if_neg here, if_neg here, Option.or_none]

/-! ### Registering a handle -/

variable {store} in
theorem register_taken {id : RegistryId} {name : String} {held : Handle}
    (taken : store.lookup id name = some held) (handle : Handle) :
    store.register id name handle = .error ⟨name⟩ := by
  rw [register, contains_registry, taken, Option.isSome_some, if_pos rfl]

variable {store} in
theorem register_free {id : RegistryId} {name : String} (free : store.lookup id name = none)
    (handle : Handle) : store.register id name handle = .ok (store.file id name handle) := by
  rw [register, contains_registry, free, Option.isSome_none, if_neg Bool.false_ne_true, file]

/-- A taken name stays with whoever has it; a free one gets the handle. -/
theorem lookup_register (id : RegistryId) (name : String) (handle : Handle)
    (other : RegistryId) (wanted : String) :
    ((store.register id name handle).toOption.getD store).lookup other wanted =
      (store.lookup other wanted).or
        (if other = id ∧ wanted = name then some handle else none) := by
  cases taken : store.lookup id name with
  | none =>
    rw [register_free taken, lookup_or_of_free taken, Except.toOption, Option.getD_some]
  | some held =>
    rw [register_taken taken, lookup_or_of_taken taken, Except.toOption, Option.getD_none]

/-! ### Asking for a metric under a name -/

variable {store} in
theorem getOrRegister_taken {id : RegistryId} {name : String} {held : Handle}
    (taken : store.lookup id name = some held) (make : Unit → Metric) :
    store.getOrRegister id name make = (held, false, store) := by
  rw [getOrRegister, taken]

variable {store} in
theorem getOrRegister_free {id : RegistryId} {name : String}
    (free : store.lookup id name = none) (make : Unit → Metric) :
    store.getOrRegister id name make =
      (store.nextHandle, true,
        (store.create (make ())).2.file id name store.nextHandle) := by
  rw [getOrRegister, free]
  rfl

/-- A taken name stays with whoever has it; a free one gets the metric that is made. -/
theorem lookup_getOrRegister (id : RegistryId) (name : String) (make : Unit → Metric)
    (other : RegistryId) (wanted : String) :
    (store.getOrRegister id name make).2.2.lookup other wanted =
      (store.lookup other wanted).or
        (if other = id ∧ wanted = name then some store.nextHandle else none) := by
  cases taken : store.lookup id name with
  | none =>
    rw [getOrRegister_free taken, lookup_or_of_free taken, lookup_file, lookup_file,
      lookup_create]
  | some held => rw [getOrRegister_taken taken, lookup_or_of_taken taken]

theorem kind?_file (id : RegistryId) (name : String) (handle other : Handle) :
    (store.file id name handle).kind? other = store.kind? other :=
  rfl

end Store

/-! ### Metrics with tags -/

namespace Tagged

open Store

/-- The metric that is made for a set of tags. -/
def template (family : Tagged) (now : Int) : Metric :=
  .fresh family.kind family.spec now

theorem obtain_same_kind {store : Store} {id : RegistryId} {name : String} {held : Handle}
    (family : Tagged) (taken : store.lookup id name = some held)
    (kind : store.kind? held = some family.kind.kind) :
    family.obtain store id name = (held, store) := by
  simp only [Tagged.obtain, getOrRegister_taken taken, kind, if_true]

theorem obtain_other_kind {store : Store} {id : RegistryId} {name : String} {held : Handle}
    {kind : Kind} (family : Tagged) (taken : store.lookup id name = some held)
    (known : store.kind? held = some kind) (different : kind ≠ family.kind.kind) :
    family.obtain store id name =
      family.fresh (store.note (.kindMismatch name kind family.kind.kind)) := by
  simp only [Tagged.obtain, getOrRegister_taken taken, known, if_neg different]

theorem obtain_free {store : Store} {id : RegistryId} {name : String} (family : Tagged)
    (free : store.lookup id name = none) :
    family.obtain store id name =
      (store.nextHandle,
        (store.create (family.template store.now)).2.file id name store.nextHandle) := by
  have made : ((store.create (family.template store.now)).2.file id name
      store.nextHandle).kind? store.nextHandle = some family.kind.kind := by
    rw [kind?_file, kind?_create, if_pos rfl]
    exact congrArg some (Metric.kind_fresh family.kind family.spec store.now)
  simp only [Tagged.obtain, getOrRegister_free free]
  rw [template] at made
  simp only [made, if_true, template]

/-- Whatever metric is given, names are filed as by asking for a metric under the name. -/
theorem lookup_obtain (family : Tagged) (store : Store) (id : RegistryId) (name : String)
    (other : RegistryId) (wanted : String) :
    (family.obtain store id name).2.lookup other wanted =
      (store.lookup other wanted).or
        (if other = id ∧ wanted = name then some store.nextHandle else none) := by
  rw [← store.lookup_getOrRegister id name fun _ => family.template store.now]
  simp only [Tagged.obtain, template]
  split
  · rfl
  · split <;> rfl

/-- With tags, names are filed as by asking for a metric under the name with the tags, in the
registry that the family is bound to. -/
theorem lookup_tag (family : Tagged) (store : Store) (tags : List String) (other : RegistryId)
    (wanted : String) :
    (family.tag store tags).2.lookup other wanted =
      (store.lookup other wanted).or
        (if family.bound = some other ∧ wanted = (Name.tagged family.base tags).written then
          some store.nextHandle else none) := by
  unfold Tagged.tag
  cases bound : family.bound with
  | none =>
    simp only [reduceCtorEq, false_and, if_false, Option.or_none]
    exact store.lookup_create _ other wanted
  | some id =>
    simp only [lookup_obtain, Option.some.injEq, eq_comm (a := id)]

end Tagged

/-! ### Groups -/

namespace Field

open Store

/-- The handle that a field offers for a name when it is registered: a plain metric its own, and a
metric with tags the one that is made then. -/
def offer? (field : Field) (store : Store) (name : String) : Option Handle :=
  match field.value with
  | .plain _ handle => if name = field.name then some handle else none
  | .tagged family => if name = family.base then some store.nextHandle else none

theorem lookup_register (field : Field) (store : Store) (id other : RegistryId)
    (wanted : String) :
    (field.register store id).2.lookup other wanted =
      (store.lookup other wanted).or
        (if other = id then field.offer? store wanted else none) := by
  unfold Field.register Field.offer?
  cases field.value with
  | plain kind handle =>
    rw [← ite_and, ← store.lookup_register id field.name handle]
    dsimp only
    split <;> rename_i answer <;> rw [answer] <;> rfl
  | tagged family =>
    rw [← ite_and]
    exact family.lookup_obtain store id family.base other wanted

end Field

namespace Holder

open Store

/-- The handle that fields offer for a name when they are registered one after the other. -/
def offerOfFields? (id : RegistryId) (store : Store) (name : String) :
    List Field → Option Handle
  | [] => none
  | field :: rest =>
    (field.offer? store name).or (offerOfFields? id (field.register store id).2 name rest)

theorem lookup_registerFields (id : RegistryId) (store : Store) (fields : List Field)
    (other : RegistryId) (wanted : String) :
    (registerFields id store fields).2.lookup other wanted =
      (store.lookup other wanted).or
        (if other = id then offerOfFields? id store wanted fields else none) := by
  induction fields generalizing store with
  | nil => simp only [registerFields, offerOfFields?, ite_self, Option.or_none]
  | cons field rest inductionHypothesis =>
    change (registerFields id (field.register store id).2 rest).2.lookup other wanted = _
    rw [inductionHypothesis, Field.lookup_register, offerOfFields?, Option.or_assoc]
    split <;> rfl

end Holder

/-! ### Taking names out -/

namespace Store

theorem lookup_unregister (store : Store) (id : RegistryId) (name : String)
    (other : RegistryId) (wanted : String) :
    (store.unregister id name).lookup other wanted =
      if other = id ∧ wanted = name then none else store.lookup other wanted := by
  unfold unregister
  cases taken : store.lookup id name with
  | none =>
    by_cases here : other = id ∧ wanted = name
    · rw [if_pos here, here.1, here.2, taken]
    · rw [if_neg here]
  | some held =>
    rw [(steady_stop _ held).lookup, lookup, registry_setRegistry]
    by_cases same : other = id
    · subst same
      simp only [if_true, Dictionary.find?_erase, true_and, lookup]
    · rw [if_neg same, if_neg fun both => same both.1, lookup]

/-- What was filed under the name is stopped, and all other metrics stay as they are. -/
theorem metric?_unregister (store : Store) (id : RegistryId) (name : String) (handle : Handle) :
    (store.unregister id name).metric? handle =
      if store.lookup id name = some handle then (store.metric? handle).map (·.stop store.now)
      else store.metric? handle := by
  unfold unregister
  cases taken : store.lookup id name with
  | none => rfl
  | some held =>
    simp only [Option.some.injEq, eq_comm (a := held)]
    exact metric?_change _ held _ handle

theorem now_unregister (store : Store) (id : RegistryId) (name : String) :
    (store.unregister id name).now = store.now := by
  unfold unregister
  split <;> rfl

/-- Take several names out, one after the other. -/
def unregisterNames (store : Store) (id : RegistryId) (names : List String) : Store :=
  names.foldl (fun store name => store.unregister id name) store

theorem lookup_unregisterNames (store : Store) (id : RegistryId) (names : List String)
    (other : RegistryId) (wanted : String) :
    (store.unregisterNames id names).lookup other wanted =
      if other = id ∧ wanted ∈ names then none else store.lookup other wanted := by
  induction names generalizing store with
  | nil => simp only [unregisterNames, List.foldl_nil, List.not_mem_nil, and_false, if_false]
  | cons name rest inductionHypothesis =>
    change ((store.unregister id name).unregisterNames id rest).lookup other wanted = _
    rw [inductionHypothesis, lookup_unregister]
    by_cases here : other = id <;> by_cases first : wanted = name <;>
      by_cases later : wanted ∈ rest <;> simp [here, first, later]

/-- Stopping what is filed under each of several names, one after the other, stops each of these
metrics once: a metric that is stopped again stays as it is. -/
theorem metric?_unregisterNames (store : Store) (id : RegistryId) (names : List String)
    (handle : Handle) :
    (store.unregisterNames id names).metric? handle =
      if ∃ name ∈ names, store.lookup id name = some handle then
        (store.metric? handle).map (·.stop store.now)
      else store.metric? handle := by
  induction names generalizing store with
  | nil => simp only [unregisterNames, List.foldl_nil, List.not_mem_nil, false_and,
      exists_false, if_false]
  | cons name rest inductionHypothesis =>
    change ((store.unregister id name).unregisterNames id rest).metric? handle = _
    rw [inductionHypothesis, metric?_unregister, now_unregister]
    by_cases first : store.lookup id name = some handle
    · have some_name : ∃ wanted ∈ name :: rest, store.lookup id wanted = some handle :=
        ⟨name, List.mem_cons_self, first⟩
      rw [if_pos first, if_pos some_name, Option.map_map]
      split
      · congr 1
        funext metric
        exact metric.stop_stop store.now store.now
      · rfl
    · have same : (∃ wanted ∈ rest, (store.unregister id name).lookup id wanted = some handle) ↔
          ∃ wanted ∈ name :: rest, store.lookup id wanted = some handle := by
        constructor
        · rintro ⟨wanted, member, found⟩
          rw [lookup_unregister] at found
          split at found
          · cases found
          · exact ⟨wanted, List.mem_cons_of_mem _ member, found⟩
        · rintro ⟨wanted, member, found⟩
          have other : wanted ≠ name := fun equal => first (equal ▸ found)
          refine ⟨wanted, (List.mem_cons.1 member).resolve_left other, ?_⟩
          rw [lookup_unregister, if_neg fun both => other both.2, found]
      rw [if_neg first]
      exact if_congr same rfl rfl

/-! ### Taking all names out -/

theorem steady_foldl_stop (store : Store) (handles : List Handle) :
    Steady store (handles.foldl stop store) := by
  induction handles generalizing store with
  | nil => exact .refl store
  | cons handle rest inductionHypothesis =>
    exact (store.steady_stop handle).trans (inductionHypothesis _)

theorem metric?_foldl_stop (store : Store) (handles : List Handle) (other : Handle) :
    (handles.foldl stop store).metric? other =
      if other ∈ handles then (store.metric? other).map (·.stop store.now)
      else store.metric? other := by
  induction handles generalizing store with
  | nil => simp only [List.foldl_nil, List.not_mem_nil, if_false]
  | cons handle rest inductionHypothesis =>
    rw [List.foldl_cons, inductionHypothesis, stop, metric?_change]
    by_cases first : other = handle
    · rw [if_pos first, if_pos (List.mem_cons.2 (.inl first)), Option.map_map]
      split
      · congr 1
        funext metric
        exact metric.stop_stop store.now store.now
      · rfl
    · rw [if_neg first]
      refine if_congr ?_ rfl rfl
      rw [List.mem_cons, or_iff_right first]

theorem lookup_unregisterAll (store : Store) (id other : RegistryId) (wanted : String) :
    (store.unregisterAll id).lookup other wanted =
      if other = id then none else store.lookup other wanted := by
  rw [unregisterAll, (steady_foldl_stop _ _).lookup, lookup, registry_setRegistry]
  split <;> rfl

theorem mem_values_registry (store : Store) (id : RegistryId) (handle : Handle) :
    handle ∈ (store.registry id).values ↔ ∃ name, store.lookup id name = some handle := by
  simp only [Dictionary.values, List.mem_map, Prod.exists, exists_eq_right,
    Dictionary.mem_entries_iff, lookup]

theorem metric?_unregisterAll (store : Store) (id : RegistryId) (handle : Handle) :
    (store.unregisterAll id).metric? handle =
      if handle ∈ (store.registry id).values then
        (store.metric? handle).map (·.stop store.now)
      else store.metric? handle :=
  metric?_foldl_stop _ _ handle

/-! ### What filing may change -/

/-- A relation between an earlier and a later store that allows for whatever filing comes down to:
another content of a registry and a new metric. -/
structure AllowsRegistering (allows : Store → Store → Prop) : Prop extends
    AllowsNotices allows where
  setRegistry : ∀ store id registry, allows store (store.setRegistry id registry)
  create : ∀ store metric, allows store (store.create metric).2

/-- A relation between an earlier and a later store that allows for whatever filing and taking out
names come down to: another content of a registry, a new metric, and a metric that is stopped. -/
structure AllowsFiling (allows : Store → Store → Prop) : Prop extends AllowsNotices allows where
  setRegistry : ∀ store id registry, allows store (store.setRegistry id registry)
  create : ∀ store metric, allows store (store.create metric).2
  stop : ∀ store handle, allows store (store.stop handle)

end Store

/-- The operations that make and stop metrics, file names and take them out. -/
def Operation.isFiling : Operation → Bool
  | .create _ | .stop _ | .register _ _ _ | .getOrRegister _ _ _ | .unregister _ _
  | .unregisterAll _ | .registerHolder _ _ | .unregisterHolder _ _ | .bind _ _ | .tag _ _ => true
  | _ => false

namespace Store

namespace AllowsRegistering

variable {allows : Store → Store → Prop} (allowed : AllowsRegistering allows)
include allowed

theorem register (store : Store) (id : RegistryId) (name : String) (handle : Handle) :
    allows store ((store.register id name handle).toOption.getD store) := by
  unfold Store.register
  split
  · exact allowed.refl store
  · exact allowed.setRegistry store id _

theorem getOrRegister (store : Store) (id : RegistryId) (name : String) (make : Unit → Metric) :
    allows store (store.getOrRegister id name make).2.2 := by
  unfold Store.getOrRegister
  split
  · exact allowed.refl store
  · exact allowed.trans (allowed.create store _) (allowed.setRegistry _ id _)

theorem obtain (family : Tagged) (store : Store) (id : RegistryId) (name : String) :
    allows store (family.obtain store id name).2 := by
  refine allowed.trans
    (allowed.getOrRegister store id name fun _ => family.template store.now) ?_
  simp only [Tagged.obtain, Tagged.template]
  split
  · exact allowed.create _ _
  · split
    · exact allowed.refl _
    · exact allowed.trans (allowed.notices _ _) (allowed.create _ _)

theorem tag (family : Tagged) (store : Store) (tags : List String) :
    allows store (family.tag store tags).2 := by
  unfold Tagged.tag
  split
  · exact allowed.create store _
  · exact allowed.obtain family store _ _

theorem registerField (field : Field) (store : Store) (id : RegistryId) :
    allows store (field.register store id).2 := by
  unfold Field.register
  cases field.value with
  | plain kind handle =>
    have registered := allowed.register store id field.name handle
    dsimp only
    split <;> rename_i answer
    · rw [answer] at registered
      exact registered
    · exact allowed.notices store _
  | tagged family => exact allowed.obtain family store id family.base

theorem registerFields (id : RegistryId) (store : Store) (fields : List Field) :
    allows store (Holder.registerFields id store fields).2 := by
  induction fields generalizing store with
  | nil => exact allowed.refl store
  | cons field rest inductionHypothesis =>
    exact allowed.trans (allowed.registerField field store id) (inductionHypothesis _)

end AllowsRegistering

namespace AllowsFiling

variable {allows : Store → Store → Prop} (allowed : AllowsFiling allows)
include allowed

theorem registering : AllowsRegistering allows where
  toAllowsNotices := allowed.toAllowsNotices
  setRegistry := allowed.setRegistry
  create := allowed.create

theorem unregister (store : Store) (id : RegistryId) (name : String) :
    allows store (store.unregister id name) := by
  unfold Store.unregister
  split
  · exact allowed.refl store
  · exact allowed.trans (allowed.setRegistry store id _) (allowed.stop _ _)

theorem unregisterNames (store : Store) (id : RegistryId) (names : List String) :
    allows store (store.unregisterNames id names) := by
  induction names generalizing store with
  | nil => exact allowed.refl store
  | cons name rest inductionHypothesis =>
    exact allowed.trans (allowed.unregister store id name) (inductionHypothesis _)

theorem foldl_stop (store : Store) (handles : List Handle) :
    allows store (handles.foldl Store.stop store) := by
  induction handles generalizing store with
  | nil => exact allowed.refl store
  | cons handle rest inductionHypothesis =>
    exact allowed.trans (allowed.stop store handle) (inductionHypothesis _)

/-- What filing comes down to is all that an operation that files may do to a store. -/
theorem perform (store : Store) {operation : Operation} (filing : operation.isFiling) :
    allows store (store.perform operation) := by
  cases operation with
  | create metric => exact allowed.create store metric
  | stop handle => exact allowed.stop store handle
  | register id name handle => exact allowed.registering.register store id name handle
  | getOrRegister id name metric => exact allowed.registering.getOrRegister store id name _
  | unregister id name => exact allowed.unregister store id name
  | unregisterAll id =>
    exact allowed.trans (allowed.setRegistry store id _) (allowed.foldl_stop _ _)
  | registerHolder id holder => exact allowed.registering.registerFields id store holder.fields
  | unregisterHolder id holder => exact allowed.unregisterNames store id holder.metricNames
  | bind id family => exact allowed.registering.obtain family store id family.base
  | tag family tags => exact allowed.registering.tag family store tags
  | _ => cases filing

end AllowsFiling

theorem allowsFiling_grows : AllowsFiling Grows where
  refl := .refl
  trans := .trans
  notices store notices := (store.steady_notices notices).grows
  setRegistry store _ _ := .refl store
  create := grows_create
  stop store handle := (store.steady_stop handle).grows

end Store

end Telemetry
