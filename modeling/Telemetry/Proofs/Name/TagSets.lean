/-
This file proves that cleaning brings a list of tags into the one form of the
set of tags that it stands for: the trimmed tags without the empty ones. The
cleaned list ascends strictly and holds exactly these tags, so two lists are
cleaned to the same list exactly if they stand for the same set, and a cleaned
list stays as it is when it is cleaned again.
-/

import Mathlib.Data.List.Sort
import Telemetry.Name
import Telemetry.Proofs.Text.Trimming

namespace Telemetry

open Text

/-! ### Single tags -/

/-- A tag in its one form: not empty and without blanks at its ends. -/
structure IsTag (tag : String) : Prop where
  nonempty : tag ≠ ""
  isTrimmed : IsTrimmed tag.toList

theorem IsTag.trimmed_eq {tag : String} (clean : IsTag tag) : trimmed tag = tag := by
  rw [trimmed, trim_eq_self clean.isTrimmed, String.ofList_toList]

theorem isTag_trimmed {text : String} (nonempty : trimmed text ≠ "") : IsTag (trimmed text) := by
  refine ⟨nonempty, ?_⟩
  rw [trimmed, String.toList_ofList]
  exact isTrimmed_trim text.toList

/-! ### Sets of tags -/

/-- The list of texts stands for the tag, among others. -/
def Tags.StandFor (tags : List String) (tag : String) : Prop :=
  tag ≠ "" ∧ ∃ given ∈ tags, trimmed given = tag

/-- The two lists stand for the same set of tags. -/
def Tags.Same (first second : List String) : Prop :=
  ∀ tag, StandFor first tag ↔ StandFor second tag

namespace Tags

theorem StandFor.isTag {tags : List String} {tag : String} (member : StandFor tags tag) :
    IsTag tag := by
  obtain ⟨nonempty, given, _, rfl⟩ := member
  exact isTag_trimmed nonempty

end Tags

/-! ### The cleaned list -/

theorem mem_insertDistinct {text tag : String} {tags : List String} :
    tag ∈ insertDistinct text tags ↔ tag = text ∨ tag ∈ tags := by
  induction tags with
  | nil => exact List.mem_singleton.trans (or_iff_left List.not_mem_nil).symm
  | cons head rest inductionHypothesis =>
    unfold insertDistinct
    split
    · exact List.mem_cons
    · split
      · rename_i same
        rw [same, List.mem_cons, ← or_assoc, or_self]
      · rw [List.mem_cons, inductionHypothesis, List.mem_cons, or_left_comm]

theorem ascending_insertDistinct (text : String) {tags : List String}
    (ascending : tags.Pairwise (· < ·)) : (insertDistinct text tags).Pairwise (· < ·) := by
  induction tags with
  | nil => exact List.pairwise_singleton _ text
  | cons head rest inductionHypothesis =>
    obtain ⟨below, ascendingRest⟩ := List.pairwise_cons.1 ascending
    unfold insertDistinct
    split
    · rename_i smaller
      have belowAll : ∀ tag ∈ head :: rest, text < tag :=
        List.forall_mem_cons.2
          ⟨smaller, fun tag member => String.lt_trans smaller (below tag member)⟩
      exact List.pairwise_cons.2 ⟨belowAll, ascending⟩
    · split
      · exact ascending
      · rename_i notSmaller different
        refine List.pairwise_cons.2 ⟨fun tag member => ?_, inductionHypothesis ascendingRest⟩
        rcases mem_insertDistinct.1 member with rfl | member
        · refine Decidable.byContradiction fun notBelow => different ?_
          exact String.le_antisymm (String.not_lt.1 notBelow) (String.not_lt.1 notSmaller)
        · exact below tag member

/-- The cleaned list ascends strictly, so that it holds every tag once. -/
theorem ascending_cleanTags (tags : List String) : (cleanTags tags).Pairwise (· < ·) := by
  unfold cleanTags
  induction (tags.map trimmed).filter (· ≠ "") with
  | nil => exact .nil
  | cons tag rest inductionHypothesis => exact ascending_insertDistinct tag inductionHypothesis

/-- The cleaned list holds exactly the tags that the list stands for. -/
theorem mem_cleanTags {tags : List String} {tag : String} :
    tag ∈ cleanTags tags ↔ Tags.StandFor tags tag := by
  have members (texts : List String) : tag ∈ texts.foldr insertDistinct [] ↔ tag ∈ texts := by
    induction texts with
    | nil => exact Iff.rfl
    | cons text rest inductionHypothesis =>
      rw [List.foldr_cons, mem_insertDistinct, inductionHypothesis, List.mem_cons]
  rw [cleanTags, members, List.mem_filter, List.mem_map, decide_eq_true_eq, and_comm]
  rfl

theorem isTag_of_mem_cleanTags {tags : List String} : ∀ tag ∈ cleanTags tags, IsTag tag :=
  fun _ member => (mem_cleanTags.1 member).isTag

/-- Lists that ascend strictly are equal if they hold the same texts. -/
theorem cleanTags_eq_iff (first second : List String) :
    cleanTags first = cleanTags second ↔ Tags.Same first second := by
  constructor
  · intro same tag
    rw [← mem_cleanTags, same, mem_cleanTags]
  · intro same
    refine (ascending_cleanTags first).eq_of_mem_iff (ascending_cleanTags second) fun tag => ?_
    rw [mem_cleanTags, mem_cleanTags]
    exact same tag

/-- A cleaned list stands for the same tags as before. -/
theorem same_cleanTags (tags : List String) : Tags.Same (cleanTags tags) tags := by
  intro tag
  constructor
  · rintro ⟨_, given, member, rfl⟩
    rw [(isTag_of_mem_cleanTags given member).trimmed_eq]
    exact mem_cleanTags.1 member
  · intro member
    exact ⟨member.1, tag, mem_cleanTags.2 member, member.isTag.trimmed_eq⟩

theorem cleanTags_cleanTags (tags : List String) : cleanTags (cleanTags tags) = cleanTags tags :=
  (cleanTags_eq_iff _ _).2 (same_cleanTags tags)

end Telemetry
