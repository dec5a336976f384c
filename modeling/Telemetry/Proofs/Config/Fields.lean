/-
This file proves that entries which set different fields can be read in any
order. What an entry changes depends on the entry alone, and each change writes
one field of a state: it gives the field its value and leaves the others as they
are. So changes of different fields can trade places, and with them the entries
that make them. An entry that cannot be read makes the reading fail wherever it
stands.
-/

import Mathlib.Data.List.Pairwise
import Mathlib.Data.List.Perm.Basic
import Telemetry.Proofs.Config.Entries

namespace Telemetry.Config

/-! ### Fields -/

/-- How the fields of a state are read and written: a change writes one field with its value and no
other, and the fields are all that there is to a state. -/
structure Fields (State Change Field : Type) where
  apply : State → Change → State
  Value : Field → Type
  get : State → (field : Field) → Value field
  field : Change → Field
  value : (change : Change) → Value (field change)
  ext : ∀ {first second : State}, (∀ field, get first field = get second field) → first = second
  get_written : ∀ state change, get (apply state change) (field change) = value change
  get_other : ∀ state {change other}, other ≠ field change →
    get (apply state change) other = get state other

namespace Fields

variable {State Change Field : Type} (fields : Fields State Change Field)
  {first second changes : List Change}

/-- Changes of different fields can be made in either order. -/
theorem apply_apply {one other : Change} (different : fields.field one ≠ fields.field other)
    (state : State) :
    fields.apply (fields.apply state one) other = fields.apply (fields.apply state other) one := by
  refine fields.ext fun field => ?_
  by_cases written : field = fields.field one
  · subst written
    rw [fields.get_other _ different, fields.get_written, fields.get_written]
  · rw [fields.get_other _ written]
    by_cases later : field = fields.field other
    · subst later
      rw [fields.get_written, fields.get_written]
    · rw [fields.get_other _ later, fields.get_other _ later, fields.get_other _ written]

theorem foldl_apply_apply {one : Change} (other : fields.field one ∉ changes.map fields.field)
    (state : State) :
    changes.foldl fields.apply (fields.apply state one) =
      fields.apply (changes.foldl fields.apply state) one := by
  induction changes generalizing state with
  | nil => rfl
  | cons change rest inductionHypothesis =>
    rw [List.map_cons, List.mem_cons, not_or] at other
    rw [List.foldl_cons, fields.apply_apply other.1, inductionHypothesis other.2, List.foldl_cons]

/-- Changes of some fields can be made before or after changes of others. -/
theorem foldl_foldl (apart : (first.map fields.field).Disjoint (second.map fields.field))
    (state : State) :
    second.foldl fields.apply (first.foldl fields.apply state) =
      first.foldl fields.apply (second.foldl fields.apply state) := by
  induction first generalizing state with
  | nil => rfl
  | cons change rest inductionHypothesis =>
    rw [List.map_cons, List.disjoint_cons_left] at apart
    rw [List.foldl_cons, List.foldl_cons, inductionHypothesis apart.2,
      fields.foldl_apply_apply apart.1]

/-- A field that no change writes is as before. -/
theorem get_foldl {field : Field} (unset : field ∉ changes.map fields.field) (state : State) :
    fields.get (changes.foldl fields.apply state) field = fields.get state field := by
  induction changes generalizing state with
  | nil => rfl
  | cons change rest inductionHypothesis =>
    rw [List.map_cons, List.mem_cons, not_or] at unset
    rw [List.foldl_cons, inductionHypothesis unset.2, fields.get_other _ unset.1]

end Fields

/-! ### States -/

namespace Fields

variable {State Change Field : Type} (fields : Fields State Change Field)
  (read : String → Node → Result (List Change))

/-- The fields that an entry sets. -/
def setBy (entry : Node × Node) : List Field :=
  (changesOf read entry).map fields.field

/-- No two entries set the same field. -/
def SetOnce (entries : List (Node × Node)) : Prop :=
  (entries.map (fields.setBy read)).Pairwise List.Disjoint

/-- The state that the entries of a map lead to. -/
def settle (start : State) (entries : List (Node × Node)) : Result State := do
  let changes ← gatherEntries read entries
  .ok (changes.foldl fields.apply start)

variable {read} {start final : State} {entries reordered : List (Node × Node)}

theorem settle_eq_ok_iff :
    fields.settle read start entries = .ok final ↔
      (∀ entry ∈ entries, (changes? read entry).isSome) ∧
        entries.foldl (fun state entry => (changesOf read entry).foldl fields.apply state) start =
          final := by
  rw [settle, bind_eq_ok_iff]
  constructor
  · rintro ⟨changes, gathered, made⟩
    obtain ⟨each, rfl⟩ := gatherEntries_eq_ok_iff.1 gathered
    cases made
    exact ⟨each, List.foldl_flatMap.symm⟩
  · rintro ⟨each, rfl⟩
    refine ⟨_, gatherEntries_eq_ok_iff.2 ⟨each, rfl⟩, ?_⟩
    rw [List.foldl_flatMap]

/-- Entries that set different fields lead to the same state in every order. -/
theorem settle_perm (once : fields.SetOnce read entries) (perm : entries.Perm reordered) :
    fields.settle read start reordered = .ok final ↔
      fields.settle read start entries = .ok final := by
  let visit (state : State) (entry : Node × Node) : State :=
    (changesOf read entry).foldl fields.apply state
  let Swap (one other : Node × Node) : Prop :=
    ∀ state, visit (visit state one) other = visit (visit state other) one
  have : Std.Symm Swap := ⟨fun _ _ swap state => (swap state).symm⟩
  have swaps : entries.Pairwise Swap :=
    (List.pairwise_map.1 once).imp fun apart state => fields.foldl_foldl apart state
  have commute : ∀ one ∈ entries, ∀ other ∈ entries, Swap one other :=
    fun one member other otherMember =>
      swaps.forall_of_forall (fun _ _ _ => rfl) member otherMember
  have same : reordered.foldl visit start = entries.foldl visit start :=
    (perm.foldl_eq' commute start).symm
  rw [settle_eq_ok_iff, settle_eq_ok_iff]
  refine and_congr (forall_congr' fun entry => by rw [perm.mem_iff]) ?_
  change reordered.foldl visit start = final ↔ entries.foldl visit start = final
  rw [same]

/-- A field that no entry sets is as at the start. -/
theorem get_settle (settled : fields.settle read start entries = .ok final) {field : Field}
    (unset : ∀ entry ∈ entries, field ∉ fields.setBy read entry) :
    fields.get final field = fields.get start field := by
  obtain ⟨changes, gathered, made⟩ := bind_eq_ok_iff.1 settled
  obtain ⟨-, rfl⟩ := gatherEntries_eq_ok_iff.1 gathered
  cases made
  refine fields.get_foldl ?_ start
  rw [List.map_flatMap, List.mem_flatMap]
  exact fun ⟨entry, member, own⟩ => unset entry member own

end Fields

end Telemetry.Config
