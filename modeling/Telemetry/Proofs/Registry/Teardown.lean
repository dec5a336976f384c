/-
This file proves what becomes of the names of a group once it is unregistered.
Unregistering takes all declared names out, and updates of the metrics of the
group never file one again. But a metric with tags is still bound to the
registry after the group is unregistered: nothing undoes what binding did. So a
declared name comes back exactly when a family of the group is asked for tags
that make up the name, and no tags at all make up the name of the family itself.
-/

import Telemetry.Proofs.Statsd.Emission
import Telemetry.Proofs.Store.Routes

namespace Telemetry

open Store

/-! ### Registered groups -/

theorem Field.name_register (field : Field) (store : Store) (id : RegistryId) :
    (field.register store id).1.name = field.name := by
  unfold Field.register
  split
  · split <;> rfl
  · rfl

/-- A family in a registered field is bound to the registry. -/
theorem Field.bound_register {field : Field} {store : Store} {id : RegistryId} {family : Tagged}
    (value : (field.register store id).1.value = .tagged family) : family.bound = some id := by
  unfold Field.register at value
  split at value
  · rename_i plain
    split at value <;> exact nomatch plain.symm.trans value
  · cases value
    rfl

namespace Holder

theorem metricNames_register (holder : Holder) (store : Store) (id : RegistryId) :
    (holder.register store id).1.metricNames = holder.metricNames := by
  show (registerFields id store holder.fields).1.map _ = holder.fields.map _
  induction holder.fields generalizing store with
  | nil => rfl
  | cons field rest inductionHypothesis =>
    show (field.register store id).1.name :: _ = field.name :: _
    rw [field.name_register, inductionHypothesis]

theorem bound_of_mem_register {holder : Holder} {store : Store} {id : RegistryId} {field : Field}
    (member : field ∈ (holder.register store id).1.fields) {family : Tagged}
    (value : field.value = .tagged family) : family.bound = some id := by
  obtain ⟨fields⟩ := holder
  change field ∈ (registerFields id store fields).1 at member
  induction fields generalizing store with
  | nil => cases member
  | cons head rest inductionHypothesis =>
    rcases List.mem_cons.1 member with rfl | later
    · exact Field.bound_register value
    · exact inductionHypothesis later

theorem lookup_unregister_of_mem {holder : Holder} {name : String}
    (member : name ∈ holder.metricNames) (store : Store) (id : RegistryId) :
    (holder.unregister store id).lookup id name = none :=
  (store.lookup_unregisterNames id holder.metricNames id name).trans (if_pos ⟨rfl, member⟩)

end Holder

/-- A route to a metric of a group, or to any metric by its handle or its name: the families that
are asked for tags are those in the fields of the group. -/
def Route.IsOf (holder : Holder) : Route → Prop
  | .kept _ | .filed _ _ => True
  | .tagged family _ => ∃ field ∈ holder.fields, field.value = .tagged family

/-! ### The names that come back -/

/-- The tags make up no more than the base exactly if all of them are blank. -/
theorem Tagged.key_eq_base_iff (family : Tagged) (tags : List String) :
    family.key tags = family.base ↔ ∀ tag ∈ tags, trimmed tag = "" := by
  have cleaned : cleanTags tags = [] ↔ ∀ tag ∈ tags, trimmed tag = "" := by
    rw [List.eq_nil_iff_forall_not_mem]
    constructor
    · intro clean tag given
      by_contra nonempty
      exact clean _ (mem_cleanTags.2 ⟨nonempty, tag, given, rfl⟩)
    · intro blank tag member
      obtain ⟨nonempty, given, own, rfl⟩ := mem_cleanTags.1 member
      exact nonempty (blank given own)
  rw [← cleaned]
  constructor
  · exact fun same => by_contra fun nonempty => Name.written_ne_base family.base nonempty same
  · intro clean
    rw [key, Name.tagged, clean]
    rfl

/-- Once a registered group is unregistered, its declared names are gone, and they stay away through
all uses of the group but one kind: a declared name is there again exactly if a family in a field of
the group was asked for tags that make up that name. Tags make up the base of a family exactly if
all of them are blank. -/
theorem declared_name_returns_iff (holder : Holder) (store : Store) (id : RegistryId)
    (between : List Operation) {uses : List (Route × List Update)}
    (own : ∀ use ∈ uses, use.1.IsOf (holder.register store id).1) :
    let registered := (holder.register store id).1
    let torn := registered.unregister ((holder.register store id).2.performAll between) id
    let final := torn.useAllVia uses
    registered.metricNames = holder.metricNames ∧
      (∀ name ∈ holder.metricNames, torn.lookup id name = none ∧
        ((final.lookup id name).isSome ↔
          ∃ family tags updates, (.tagged family tags, updates) ∈ uses ∧
            family.key tags = name)) ∧
      ∀ family tags, Tagged.key family tags = family.base ↔ ∀ tag ∈ tags, trimmed tag = "" := by
  intro registered torn final
  have names : registered.metricNames = holder.metricNames := holder.metricNames_register store id
  refine ⟨names, fun name declared => ?_, Tagged.key_eq_base_iff⟩
  have gone : torn.lookup id name = none :=
    Holder.lookup_unregister_of_mem (names ▸ declared) _ id
  refine ⟨gone, ?_⟩
  rw [isSome_lookup_useAllVia, gone, Option.isSome_none, or_iff_right Bool.false_ne_true]
  constructor
  · rintro ⟨⟨route, updates⟩, member, files⟩
    cases route with
    | kept _ | filed _ _ => cases files
    | tagged family tags => exact ⟨family, tags, updates, member, files.2⟩
  · rintro ⟨family, tags, updates, member, key⟩
    obtain ⟨field, inside, value⟩ := own _ member
    exact ⟨_, member, Holder.bound_of_mem_register inside value, key⟩

/-- A group with a gauge and a family of counters. -/
def serverMetrics (load : Handle) : Holder where
  fields := [⟨"load", "load", .plain .gauge load⟩,
    ⟨"responses", "responses", .tagged { Tagged.boundCounters "responses" with bound := none }⟩]

/-- Setting the gauge and counting with a tag bring no declared name back; a blank tag brings back
the name of the family, and not that of the gauge. -/
theorem blank_tag_brings_name_back :
    let store := ((Store.starting fun _ => 0).create (.gauge 0)).2
    let registered := ((serverMetrics ⟨0⟩).register store "main").1
    let torn := registered.unregister ((serverMetrics ⟨0⟩).register store "main").2 "main"
    let family := Tagged.boundCounters "responses"
    let uses := [(Route.kept ⟨0⟩, [Update.change (.set 4)]),
      (.tagged family ["code:500"], [.change (.increase 1)]), (.tagged family [" "], [])]
    (∀ use ∈ uses, use.1.IsOf registered) ∧
      ((torn.useAllVia uses).lookup "main" "load").isSome = false ∧
      ((torn.useAllVia uses).lookup "main" "responses").isSome = true := by
  intro store registered torn family uses
  have isOf (tags : List String) : (Route.tagged family tags).IsOf registered :=
    ⟨_, List.mem_cons_of_mem _ List.mem_cons_self, rfl⟩
  have own : ∀ use ∈ uses, use.1.IsOf registered :=
    List.forall_mem_cons.2 ⟨trivial, List.forall_mem_cons.2 ⟨isOf _,
      List.forall_mem_singleton.2 (isOf _)⟩⟩
  obtain ⟨_, returns, _⟩ := declared_name_returns_iff (serverMetrics ⟨0⟩) store "main" [] own
  refine ⟨own, ?_, ?_⟩
  · have apart : family.key ["code:500"] ≠ "load" ∧ family.key [" "] ≠ "load" := by
      decide +kernel
    rw [Bool.eq_false_iff]
    intro present
    obtain ⟨other, tags, updates, member, key⟩ := (returns "load" (by decide)).2.1 present
    simp only [uses, List.mem_cons, List.not_mem_nil, or_false, Prod.mk.injEq, reduceCtorEq,
      false_and, false_or, Route.tagged.injEq] at member
    rcases member with ⟨⟨rfl, rfl⟩, _⟩ | ⟨⟨rfl, rfl⟩, _⟩
    · exact apart.1 key
    · exact apart.2 key
  · refine (returns "responses" (by decide)).2.2 ⟨family, [" "], [], ?_, by decide +kernel⟩
    exact List.mem_cons_of_mem _ (List.mem_cons_of_mem _ List.mem_cons_self)

/-- A group is registered and unregistered. A use of its family without tags then files the declared
name again, and an emission sends it. -/
theorem unregistered_name_returns :
    let store := ((Store.starting fun _ => 0).create (.gauge 0)).2
    let registered := ((serverMetrics ⟨0⟩).register store "main").1
    let torn := registered.unregister ((serverMetrics ⟨0⟩).register store "main").2 "main"
    let family := Tagged.boundCounters "responses"
    let final := torn.useVia (.tagged family []) [.change (.increase 1)]
    let emitter : Statsd.Emitter := { Statsd.plainEmitter "" with registry := "main" }
    registered.fields.map (·.value) = [.plain .gauge ⟨0⟩, .tagged family] ∧
      (torn.registry "main").keys = [] ∧ (final.registry "main").keys = ["responses"] ∧
      (emitter.emitOnce final).1.client.sink.wire.delivered = ["responses:1|c".toList] := by
  refine ⟨rfl, ?_, ?_, ?_⟩ <;> decide +kernel

end Telemetry
