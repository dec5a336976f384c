/-
This file proves what it means that the entries of a map or the items of a list
are read. Entries are visited in their order, every one of them has a text as
its key, and no visit fails, so a map makes the changes of its entries one after
the other; items are converted one by one. The places that a failure names make
no difference to a reading that succeeds.
-/

import Mathlib.Data.List.Forall2
import Telemetry.Config.Node
import Telemetry.Proofs.Steps

namespace Telemetry.Config

variable {State Value : Type} {visit : State → String → Node → Result State} {state final : State}

@[simp] theorem within_eq_ok_iff {place : Place} {result : Result Value} {value : Value} :
    within place result = .ok value ↔ result = .ok value := by
  cases result <;> simp [within]

theorem foldEntries_nil_eq_ok_iff : foldEntries visit state [] = .ok final ↔ state = final := by
  simp [foldEntries, walkEntries]

/-- The entries of a map are read if the first one is and then the rest are. -/
theorem foldEntries_cons_eq_ok_iff {entry : Node × Node} {rest : List (Node × Node)} :
    foldEntries visit state (entry :: rest) = .ok final ↔
      ∃ key next, entry.1 = .text key ∧ visit state key entry.2 = .ok next ∧
        foldEntries visit next rest = .ok final := by
  obtain ⟨node, value⟩ := entry
  cases node with
  | text key =>
    cases visited : visit state key value with
    | ok next => simp [foldEntries, walkEntries, visited, within]
    | error failure => simp [foldEntries, walkEntries, visited, within]
  | int | real | bool | null | invalid | list | map => simp [foldEntries, walkEntries]

/-! ### Lists -/

/-- What holds of all values that are related to something holds of the values of a list. -/
theorem forall_mem_of_forall₂ {Item : Type} {Related : Item → Value → Prop} {Holds : Value → Prop}
    (holds : ∀ item value, Related item value → Holds value) {items : List Item}
    {values : List Value} (related : List.Forall₂ Related items values) :
    ∀ value ∈ values, Holds value := by
  induction related with
  | nil => exact nofun
  | cons first _ inductionHypothesis =>
    exact List.forall_mem_cons.2 ⟨holds _ _ first, inductionHypothesis⟩

/-- The items of a list; a single value is a list of one. -/
def Node.items : Node → List Node
  | .list items => items
  | single => [single]

theorem forall₂_of_convertFrom {convert : Node → Result Value} {index : Nat} {items : List Node}
    {values : List Value} (read : Node.convertFrom convert index items = .ok values) :
    List.Forall₂ (fun item value => convert item = .ok value) items values := by
  induction items generalizing index values with
  | nil =>
    cases read
    exact .nil
  | cons item rest inductionHypothesis =>
    obtain ⟨value, converted, read⟩ := bind_eq_ok_iff.1 read
    obtain ⟨others, readRest, read⟩ := bind_eq_ok_iff.1 read
    cases read
    exact .cons (within_eq_ok_iff.1 converted) (inductionHypothesis readRest)

/-- The values of a list that is read are those of its items. -/
theorem forall₂_of_asList {convert : Node → Result Value} {node : Node} {values : List Value}
    (read : node.asList convert = .ok values) :
    List.Forall₂ (fun item value => convert item = .ok value) node.items values := by
  have single (read : (convert node >>= fun value => .ok [value]) = .ok values) :
      List.Forall₂ (fun item value => convert item = .ok value) [node] values := by
    obtain ⟨value, converted, read⟩ := bind_eq_ok_iff.1 read
    cases read
    exact .cons converted .nil
  cases node with
  | list items => exact forall₂_of_convertFrom read
  | text | int | real | bool | null | invalid | map => exact single read

/-- What holds of every converted item holds of all values of a list. -/
theorem holds_of_asList {convert : Node → Result Value} {Holds : Value → Prop}
    (each : ∀ item value, convert item = .ok value → Holds value) {node : Node}
    {values : List Value} (read : node.asList convert = .ok values) :
    ∀ value ∈ values, Holds value :=
  forall_mem_of_forall₂ each (forall₂_of_asList read)

/-! ### Changes -/

section Changes

variable {Change : Type} (read : String → Node → Result (List Change))

/-- The changes that an entry makes, if it can be read. -/
def changes? (entry : Node × Node) : Option (List Change) :=
  match entry.1 with
  | .text key => (read key entry.2).toOption
  | _ => none

/-- The changes that an entry makes; one that cannot be read makes none. -/
def changesOf (entry : Node × Node) : List Change :=
  (changes? read entry).getD []

variable {read} {changes more : List Change} {entry : Node × Node} {entries : List (Node × Node)}

theorem changes?_eq_some_iff :
    changes? read entry = some more ↔ ∃ key, entry.1 = .text key ∧ read key entry.2 = .ok more := by
  obtain ⟨node, value⟩ := entry
  cases node with
  | text key => cases found : read key value <;> simp [changes?, found, Except.toOption]
  | int | real | bool | null | invalid | list | map => simp [changes?]

theorem foldEntries_append_eq_ok_iff {final : List Change} :
    foldEntries
        (fun changes key node => do
          let more ← read key node
          .ok (changes ++ more)) changes entries = .ok final ↔
      (∀ entry ∈ entries, (changes? read entry).isSome) ∧
        final = changes ++ entries.flatMap (changesOf read) := by
  induction entries generalizing changes with
  | nil =>
    rw [foldEntries_nil_eq_ok_iff, List.flatMap_nil, List.append_nil]
    exact ⟨fun same => ⟨nofun, same.symm⟩, fun same => same.2.symm⟩
  | cons entry rest inductionHypothesis =>
    rw [foldEntries_cons_eq_ok_iff, List.forall_mem_cons, List.flatMap_cons, changesOf]
    constructor
    · rintro ⟨key, next, text, visited, readRest⟩
      obtain ⟨more, readEntry, appended⟩ := bind_eq_ok_iff.1 visited
      cases appended
      obtain ⟨others, rfl⟩ := inductionHypothesis.1 readRest
      rw [changes?_eq_some_iff.2 ⟨key, text, readEntry⟩]
      exact ⟨⟨rfl, others⟩, List.append_assoc _ _ _⟩
    · rintro ⟨⟨own, others⟩, rfl⟩
      obtain ⟨more, found⟩ := Option.isSome_iff_exists.1 own
      obtain ⟨key, text, readEntry⟩ := changes?_eq_some_iff.1 found
      refine ⟨key, changes ++ more, text, bind_eq_ok_iff.2 ⟨more, readEntry, rfl⟩, ?_⟩
      rw [inductionHypothesis, found]
      exact ⟨others, (List.append_assoc _ _ _).symm⟩

/-- The entries of a map can be read if each of them can, and then they make their changes one
after the other. -/
theorem gatherEntries_eq_ok_iff :
    gatherEntries read entries = .ok changes ↔
      (∀ entry ∈ entries, (changes? read entry).isSome) ∧
        changes = entries.flatMap (changesOf read) :=
  foldEntries_append_eq_ok_iff

/-- What holds of the changes that every entry makes holds of the changes that a map makes. -/
theorem holds_of_gatherEntries {Holds : Change → Prop}
    (each : ∀ key node changes, read key node = .ok changes → ∀ change ∈ changes, Holds change)
    (gathered : gatherEntries read entries = .ok changes) : ∀ change ∈ changes, Holds change := by
  obtain ⟨readable, rfl⟩ := gatherEntries_eq_ok_iff.1 gathered
  intro change member
  obtain ⟨entry, inMap, own⟩ := List.mem_flatMap.1 member
  obtain ⟨more, found⟩ := Option.isSome_iff_exists.1 (readable entry inMap)
  obtain ⟨key, -, told⟩ := changes?_eq_some_iff.1 found
  rw [changesOf, found] at own
  exact each key entry.2 more told change own

end Changes

end Telemetry.Config
