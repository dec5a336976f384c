/-
This file proves that nothing is lost or doubled when a list is put into groups,
one for each key.
-/

import Mathlib.Data.List.Perm.Basic

namespace Telemetry

variable {Key Item : Type} [DecidableEq Key]

/-- What is put into groups by a key is all there, once, if no group is made twice or left out. -/
theorem perm_flatMap_filter (keyOf : Item → Key) {keys : List Key} (distinct : keys.Nodup)
    {items : List Item} (all : ∀ item ∈ items, keyOf item ∈ keys) :
    (keys.flatMap fun key => items.filter fun item => keyOf item = key).Perm items := by
  induction keys generalizing items with
  | nil =>
    cases items with
    | nil => exact .refl _
    | cons item rest => nomatch all item List.mem_cons_self
  | cons key keys inductionHypothesis =>
    obtain ⟨new, distinct⟩ := List.nodup_cons.1 distinct
    have later : ∀ item ∈ items.filter fun item => ¬ keyOf item = key, keyOf item ∈ keys := by
      intro item member
      obtain ⟨own, different⟩ := List.mem_filter.1 member
      exact (List.mem_cons.1 (all item own)).resolve_left (of_decide_eq_true different)
    -- to the other groups it is the same whether the first is taken away before
    have same : (keys.flatMap fun other => items.filter fun item => keyOf item = other).Perm
        (items.filter fun item => ¬ keyOf item = key) := by
      refine .trans (.flatMap_left _ fun other member => .of_eq ?_)
        (inductionHypothesis distinct later)
      rw [List.filter_filter]
      refine List.filter_congr fun item _ => ?_
      have different : other ≠ key := fun equal => new (equal ▸ member)
      by_cases own : keyOf item = other
      · simp [own, different]
      · simp [own]
    rw [List.flatMap_cons]
    refine (same.append_left _).trans ?_
    simpa using List.filter_append_perm (fun item => decide (keyOf item = key)) items

end Telemetry
