/-
This file holds the ways in which a caller gets hold of a metric: it keeps a
handle, it looks a name up, or it asks a family for a list of tags. Only the last
can file a name, and files at most the one name that its registry, its base and
its tags make up. All ways that lead to one entry of a registry give the metric
that is filed there, and change nothing, as long as the entry is there.
-/

import Telemetry.Proofs.Registry.TagSets

namespace Telemetry

/-- A way to get hold of a metric. -/
inductive Route
  | kept (handle : Handle)
  | filed (id : RegistryId) (name : String)
  | tagged (family : Tagged) (tags : List String)
deriving Repr

namespace Route

/-- What the route gives, and the store afterwards. -/
def follow (store : Store) : Route → Option Handle × Store
  | .kept handle => (some handle, store)
  | .filed id name => (store.lookup id name, store)
  | .tagged family tags => (some (family.tag store tags).1, (family.tag store tags).2)

/-- Whether the route files the name if it is free. -/
def Files (id : RegistryId) (name : String) : Route → Prop
  | .kept _ | .filed _ _ => False
  | .tagged family tags => family.bound = some id ∧ family.key tags = name

/-- Whether the route is one to the metric `held` that is filed under the name: the handle itself,
the name, or a family of the right kind that is bound to the registry and whose base and tags make
up the name, given in whatever list. -/
def Leads (id : RegistryId) (name : String) (held : Handle) (kind : Kind) : Route → Prop
  | .kept handle => handle = held
  | .filed other wanted => other = id ∧ wanted = name
  | .tagged family tags => family.bound = some id ∧ family.kind.kind = kind ∧
      ∃ given, Tags.Same tags given ∧ (Name.tagged family.base given).written = name

end Route

namespace Tagged

theorem key_eq_of_same (family : Tagged) {first second : List String}
    (same : Tags.Same first second) : family.key first = family.key second := by
  rw [key, key, Name.tagged, Name.tagged, (cleanTags_eq_iff first second).2 same]

end Tagged

namespace Store

/-- Get hold of a metric and update it. -/
def useVia (store : Store) (route : Route) (updates : List Update) : Store :=
  let next := (route.follow store).2
  match (route.follow store).1 with
  | none => next
  | some handle => next.performAll (updates.map (Update.on handle))

theorem lookup_performAll_on (store : Store) (handle : Handle) (updates : List Update)
    (id : RegistryId) (name : String) :
    (store.performAll (updates.map (Update.on handle))).lookup id name = store.lookup id name := by
  induction updates generalizing store with
  | nil => rfl
  | cons update rest inductionHypothesis =>
    exact (inductionHypothesis _).trans (store.lookup_perform_on handle update id name)

/-- Updates file nothing, so a use files what its route files. -/
theorem lookup_useVia (store : Store) (route : Route) (updates : List Update) (id : RegistryId)
    (name : String) :
    (store.useVia route updates).lookup id name = (route.follow store).2.lookup id name := by
  unfold useVia
  dsimp only
  split
  · rfl
  · exact lookup_performAll_on _ _ updates id name

/-- Of all names a use files at most the one that its route files. -/
theorem lookup_useVia_of_not_files (store : Store) {route : Route} {id : RegistryId} {name : String}
    (elsewhere : ¬ route.Files id name) (updates : List Update) :
    (store.useVia route updates).lookup id name = store.lookup id name := by
  rw [lookup_useVia]
  cases route with
  | kept _ | filed _ _ => rfl
  | tagged family tags =>
    show (family.tag store tags).2.lookup id name = _
    rw [Tagged.lookup_tag, if_neg fun both => elsewhere ⟨both.1, both.2.symm⟩, Option.or_none]

/-- A route that files a name leaves a metric under it. -/
theorem lookup_useVia_of_files (store : Store) {route : Route} {id : RegistryId} {name : String}
    (files : route.Files id name) (updates : List Update) :
    (store.useVia route updates).lookup id name =
      some ((store.lookup id name).getD store.nextHandle) := by
  rw [lookup_useVia]
  cases route with
  | kept _ | filed _ _ => cases files
  | tagged family tags =>
    show (family.tag store tags).2.lookup id name = _
    rw [Tagged.lookup_tag, if_pos ⟨files.1, files.2.symm⟩]
    cases store.lookup id name <;> rfl

/-- Get hold of metrics and update them, one after the other. -/
def useAllVia (store : Store) (uses : List (Route × List Update)) : Store :=
  uses.foldl (fun store use => store.useVia use.1 use.2) store

/-- After uses a name holds a metric if it held one before or if one of the routes files it. -/
theorem isSome_lookup_useAllVia (store : Store) (uses : List (Route × List Update))
    (id : RegistryId) (name : String) :
    ((store.useAllVia uses).lookup id name).isSome ↔
      (store.lookup id name).isSome ∨ ∃ use ∈ uses, use.1.Files id name := by
  induction uses generalizing store with
  | nil => simp [useAllVia]
  | cons use rest inductionHypothesis =>
    refine (inductionHypothesis (store.useVia use.1 use.2)).trans ?_
    simp only [List.mem_cons, exists_eq_or_imp, ← or_assoc]
    refine or_congr_left ?_
    by_cases files : use.1.Files id name
    · rw [lookup_useVia_of_files store files]
      exact iff_of_true rfl (.inr files)
    · rw [lookup_useVia_of_not_files store files, or_iff_left files]

/-- All routes to an entry give its metric and change nothing. -/
theorem follow_of_leads {store : Store} {id : RegistryId} {name : String} {held : Handle}
    {kind : Kind} (filed : store.lookup id name = some held) (known : store.kind? held = some kind)
    {route : Route} (leads : route.Leads id name held kind) :
    route.follow store = (some held, store) := by
  cases route with
  | kept handle =>
    obtain rfl : handle = held := leads
    rfl
  | filed other wanted =>
    obtain ⟨rfl, rfl⟩ := leads
    rw [Route.follow, filed]
  | tagged family tags =>
    obtain ⟨bound, sameKind, given, same, written⟩ := leads
    have key : family.key tags = name := (family.key_eq_of_same same).trans written
    have given : family.tag store tags = (held, store) := by
      rw [Tagged.tag_of_bound bound, key]
      exact family.obtain_same_kind filed (known.trans (congrArg some sameKind.symm))
    rw [Route.follow, given]

end Store

end Telemetry
