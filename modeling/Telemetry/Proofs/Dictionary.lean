/-
This file proves that a dictionary is determined by what look-ups find in it. Its
entries ascend strictly by key, so there is one list of them for every way in
which look-ups can answer, and whatever relates the answers of two dictionaries
relates their entries one by one. Putting a value under a key that has none adds
one entry.
-/

import Mathlib.Data.List.Forall2
import Mathlib.Data.List.Sort
import Telemetry.Dictionary

namespace Telemetry.Dictionary

/-- Entries that ascend strictly by key are determined by which entries there are. -/
theorem entries_eq_of_mem_iff {Value : Type} {first second : List (String × Value)}
    (firstAscends : first.Pairwise fun one other => one.1 < other.1)
    (secondAscends : second.Pairwise fun one other => one.1 < other.1)
    (same : ∀ entry, entry ∈ first ↔ entry ∈ second) : first = second := by
  have : Std.Antisymm fun one other : String × Value => one.1 < other.1 :=
    ⟨fun _ _ below above => absurd above (String.lt_asymm below)⟩
  have : Std.Irrefl fun one other : String × Value => one.1 < other.1 :=
    ⟨fun _ => String.lt_irrefl _⟩
  exact firstAscends.eq_of_mem_iff secondAscends same

/-- A value under a new key is one more entry. -/
theorem perm_insert {Value : Type} {dictionary : Dictionary Value} {key : String}
    (fresh : dictionary.contains key = false) (value : Value) :
    (dictionary.insert key value).entries.Perm ((key, value) :: dictionary.entries) := by
  obtain ⟨entries, ascending⟩ := dictionary
  change entries.any (fun entry => entry.1 = key) = false at fresh
  change (insertEntry key value entries).Perm ((key, value) :: entries)
  induction entries with
  | nil => exact .refl _
  | cons head rest inductionHypothesis =>
    rw [List.any_cons, Bool.or_eq_false_iff, decide_eq_false_iff_not] at fresh
    obtain ⟨different, freshRest⟩ := fresh
    rw [insertEntry, if_neg (Ne.symm different)]
    split
    · exact .refl _
    · exact ((inductionHypothesis (List.Pairwise.of_cons ascending) freshRest).cons head).trans
        (.swap _ _ _)

/-- If look-ups in a second dictionary find the changed values of the first, its entries are those
of the first with the values changed. -/
theorem entries_eq_map {Value Changed : Type} {first : Dictionary Value}
    {second : Dictionary Changed} {change : Value → Changed}
    (lookups : ∀ key, second.find? key = (first.find? key).map change) :
    second.entries = first.entries.map fun entry => (entry.1, change entry.2) := by
  have ascending : (first.entries.map fun entry => (entry.1, change entry.2)).Pairwise
      fun one other => one.1 < other.1 :=
    List.pairwise_map.2 first.ascending
  refine entries_eq_of_mem_iff second.ascending ascending fun (key, value) => ?_
  rw [mem_entries_iff, lookups, Option.map_eq_some_iff, List.mem_map]
  constructor
  · rintro ⟨original, found, rfl⟩
    exact ⟨(key, original), mem_entries_iff.2 found, rfl⟩
  · rintro ⟨⟨_, original⟩, member, same⟩
    cases same
    exact ⟨original, mem_entries_iff.1 member, rfl⟩

theorem mem_keys_iff {Value : Type} (dictionary : Dictionary Value) (key : String) :
    key ∈ dictionary.keys ↔ (dictionary.find? key).isSome := by
  rw [keys, List.mem_map]
  constructor
  · rintro ⟨entry, member, rfl⟩
    rw [mem_entries_iff.1 member, Option.isSome_some]
  · intro found
    obtain ⟨value, found⟩ := Option.isSome_iff_exists.1 found
    exact ⟨(key, value), mem_entries_iff.2 found, rfl⟩

/-- If what look-ups find in two dictionaries is related, so are their entries, one by one. -/
theorem forall₂_entries {First Second : Type} {Related : First → Second → Prop}
    {first : Dictionary First} {second : Dictionary Second}
    (lookups : ∀ key, Option.Rel Related (first.find? key) (second.find? key)) :
    List.Forall₂ (fun one other => one.1 = other.1 ∧ Related one.2 other.2) first.entries
      second.entries := by
  have : Std.Antisymm fun one other : String => one < other :=
    ⟨fun _ _ below above => absurd above (String.lt_asymm below)⟩
  have : Std.Irrefl fun one other : String => one < other := ⟨String.lt_irrefl⟩
  have keys : first.keys = second.keys := by
    refine (List.pairwise_map.2 first.ascending).eq_of_mem_iff
      (List.pairwise_map.2 second.ascending) fun key => ?_
    change key ∈ first.keys ↔ key ∈ second.keys
    rw [mem_keys_iff, mem_keys_iff]
    have related := lookups key
    generalize first.find? key = one at related ⊢
    generalize second.find? key = other at related ⊢
    cases related <;> rfl
  have sameKeys : List.Forall₂ (fun one other => one.1 = other.1) first.entries second.entries := by
    have same : List.Forall₂ Eq first.keys second.keys := by rw [List.forall₂_eq_eq_eq, keys]
    exact List.forall₂_map_right_iff.1 (List.forall₂_map_left_iff.1 same)
  rw [List.forall₂_iff_zip] at sameKeys ⊢
  refine ⟨sameKeys.1, fun {one other} member => ?_⟩
  have same := sameKeys.2 member
  refine ⟨same, ?_⟩
  obtain ⟨firstMember, secondMember⟩ := List.of_mem_zip member
  have related := lookups one.1
  rw [mem_entries_iff.1 firstMember, same, mem_entries_iff.1 secondMember] at related
  cases related with
  | some related => exact related

/-- In whatever order the entries are listed, sorting them by key brings back their own order. -/
theorem mergeSort_eq_entries {Value : Type} {dictionary : Dictionary Value}
    {listed : List (String × Value)} (perm : listed.Perm dictionary.entries) :
    (listed.mergeSort fun first second => decide (first.1 ≤ second.1)) = dictionary.entries := by
  have sortedPerm := (List.mergeSort_perm listed fun first second =>
    decide (first.1 ≤ second.1)).trans perm
  have transitive (first second third : String × Value) (below : decide (first.1 ≤ second.1))
      (above : decide (second.1 ≤ third.1)) : decide (first.1 ≤ third.1) :=
    decide_eq_true (String.le_trans (of_decide_eq_true below) (of_decide_eq_true above))
  have total (first second : String × Value) :
      (decide (first.1 ≤ second.1) || decide (second.1 ≤ first.1)) = true := by
    rw [Bool.or_eq_true, decide_eq_true_eq, decide_eq_true_eq]
    exact String.le_total first.1 second.1
  have ascending : dictionary.entries.Pairwise fun first second => decide (first.1 ≤ second.1) :=
    dictionary.ascending.imp fun below => decide_eq_true (String.not_lt.1 (String.lt_asymm below))
  refine List.Perm.eq_of_pairwise (fun first second firstIn secondIn below above => ?_)
    (List.pairwise_mergeSort transitive total listed) ascending sortedPerm
  have key := String.le_antisymm (of_decide_eq_true below) (of_decide_eq_true above)
  have value := mem_entries_iff.1 (sortedPerm.mem_iff.1 firstIn)
  rw [key, mem_entries_iff.1 secondIn, Option.some.injEq] at value
  exact Prod.ext key value.symm

end Telemetry.Dictionary
