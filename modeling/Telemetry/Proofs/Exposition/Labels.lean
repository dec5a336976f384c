/-
This file proves the order and the shape of the labels of a series. Label lists
are compared lexicographically, pair by pair; sorting by that comparison leaves
lists that all differ strictly ascending. The labels of a series ascend by name,
have valid names, and in a summary none of them is the one that tells the
quantiles apart.
-/

import Telemetry.Exposition.Collector
import Telemetry.Proofs.Exposition.Names

namespace Telemetry.Exposition

/-! ### The order of label lists -/

namespace Labels

/-- Whether the first pair stands before the second: by label, then by value. -/
def PairBefore : String × String → String × String → Prop :=
  Prod.Lex (· < ·) (· < ·)

/-- Whether the first labels stand before the second: lexicographically, pair by pair. -/
def Before : Labels → Labels → Prop :=
  List.Lex PairBefore

theorem pairBefore_iff {first second : String × String} :
    PairBefore first second ↔
      first.1 < second.1 ∨ first.1 = second.1 ∧ first.2 < second.2 :=
  Prod.lex_def

theorem pairBefore_trans {first second third : String × String}
    (toSecond : PairBefore first second) (toThird : PairBefore second third) :
    PairBefore first third := by
  rw [pairBefore_iff] at *
  rcases toSecond with below | ⟨same, below⟩ <;> rcases toThird with above | ⟨equal, above⟩
  · exact .inl (String.lt_trans below above)
  · exact .inl (equal ▸ below)
  · exact .inl (same ▸ above)
  · exact .inr ⟨same.trans equal, String.lt_trans below above⟩

/-- Of two texts one is below the other, or they are equal. -/
theorem lt_or_eq_or_gt (first second : String) :
    first < second ∨ first = second ∨ second < first := by
  by_cases below : first < second
  · exact .inl below
  · by_cases above : second < first
    · exact .inr (.inr above)
    · exact .inr (.inl (String.le_antisymm (String.not_lt.1 above) (String.not_lt.1 below)))

theorem pairBefore_or_eq_or_after (first second : String × String) :
    PairBefore first second ∨ first = second ∨ PairBefore second first := by
  simp only [pairBefore_iff, Prod.ext_iff]
  rcases lt_or_eq_or_gt first.1 second.1 with below | same | above
  · exact .inl (.inl below)
  · rcases lt_or_eq_or_gt first.2 second.2 with below | equal | above
    · exact .inl (.inr ⟨same, below⟩)
    · exact .inr (.inl ⟨same, equal⟩)
    · exact .inr (.inr (.inr ⟨same.symm, above⟩))
  · exact .inr (.inr (.inl above))

theorem atMost_cons (first second : String × String) (firstRest secondRest : Labels) :
    Labels.atMost (first :: firstRest) (second :: secondRest) ↔
      PairBefore first second ∨ first = second ∧ firstRest.atMost secondRest := by
  rw [pairBefore_iff, Prod.ext_iff, Labels.atMost]
  rcases lt_or_eq_or_gt first.1 second.1 with below | same | above
  · simp [below]
  · rcases lt_or_eq_or_gt first.2 second.2 with below | equal | above
    · simp only [same, below, String.lt_irrefl, if_false, if_true, true_and, false_or, true_or]
    · simp only [same, equal, String.lt_irrefl, if_false, true_and, false_or, and_false]
    · have different : first.2 ≠ second.2 := fun equal => String.lt_irrefl _ (equal ▸ above)
      simp only [same, above, String.lt_irrefl, String.lt_asymm above, different, if_false,
        if_true, and_false, false_and, or_self, Bool.false_eq_true]
  · have different : first.1 ≠ second.1 := fun equal => String.lt_irrefl _ (equal ▸ above)
    simp [above, String.lt_asymm above, different]

/-- Labels stand at or before others exactly if they are the same or stand before them. -/
theorem atMost_iff {first second : Labels} :
    first.atMost second ↔ first = second ∨ Before first second := by
  induction first generalizing second with
  | nil =>
    cases second with
    | nil => simp [Labels.atMost]
    | cons head rest => simp [Labels.atMost, Before]
  | cons head rest inductionHypothesis =>
    cases second with
    | nil => simp [Labels.atMost, Before]
    | cons other more =>
      rw [atMost_cons, inductionHypothesis, Before, List.cons_lex_cons_iff, List.cons.injEq,
        and_or_left, or_left_comm]

theorem before_trans {first second third : Labels} (toSecond : Before first second)
    (toThird : Before second third) : Before first third :=
  List.lex_trans pairBefore_trans toSecond toThird

theorem not_before_self (labels : Labels) : ¬ Before labels labels :=
  List.lex_irrefl (fun pair same => by
    rcases pairBefore_iff.1 same with below | ⟨_, below⟩ <;> exact String.lt_irrefl _ below) labels

theorem atMost_trans (first second third : Labels) (toSecond : first.atMost second)
    (toThird : second.atMost third) : first.atMost third := by
  rw [atMost_iff] at *
  rcases toSecond with rfl | below
  · exact toThird
  · rcases toThird with rfl | above
    · exact .inr below
    · exact .inr (before_trans below above)

theorem atMost_total (first second : Labels) :
    (first.atMost second || second.atMost first) = true := by
  rw [Bool.or_eq_true]
  induction first generalizing second with
  | nil => exact .inl rfl
  | cons head rest inductionHypothesis =>
    cases second with
    | nil => exact .inr rfl
    | cons other more =>
      rw [atMost_cons, atMost_cons]
      rcases pairBefore_or_eq_or_after head other with below | rfl | above
      · exact .inl (.inl below)
      · exact (inductionHypothesis more).imp (.inr ⟨rfl, ·⟩) (.inr ⟨rfl, ·⟩)
      · exact .inr (.inl above)

end Labels

/-- If no two series of a family have the same labels, sorting them leaves the labels strictly
ascending. -/
theorem ascending_sorted {family : Family}
    (distinct : (family.series.map Series.labels).Nodup) :
    family.sorted.series.Pairwise fun first second =>
      Labels.Before first.labels second.labels := by
  have ordered : family.sorted.series.Pairwise fun first second =>
      first.labels.atMost second.labels :=
    List.pairwise_mergeSort
      (fun first second third =>
        Labels.atMost_trans first.labels second.labels third.labels)
      (fun first second => Labels.atMost_total first.labels second.labels) family.series
  have different : family.sorted.series.Pairwise fun first second =>
      first.labels ≠ second.labels := by
    rw [← List.pairwise_map]
    exact ((List.mergeSort_perm _ _).map Series.labels).nodup_iff.2 distinct
  refine (ordered.and different).imp fun both => ?_
  exact (Labels.atMost_iff.1 both.1).resolve_left both.2

/-! ### The labels of a series -/

/-- Whether all labels of a dictionary have valid names. -/
def LabelsValid (labels : Dictionary String) : Prop :=
  ∀ label ∈ labels.entries, IsLabelName label.1

theorem labelsValid_insert {labels : Dictionary String} (valid : LabelsValid labels)
    {name : String} (nameValid : IsLabelName name) (value : String) :
    LabelsValid (labels.insert name value) := by
  intro label member
  rcases Dictionary.fst_of_mem_insertEntry member with same | old
  · rwa [same]
  · exact valid label old

theorem labelsValid_addLabel {labels : Dictionary String} (valid : LabelsValid labels)
    (label : String × String) : LabelsValid (addLabel labels label) := by
  unfold addLabel
  dsimp only
  split
  · exact valid
  · rename_i nonempty
    exact labelsValid_insert valid (isLabelName_labelName nonempty) _

theorem labelsValid_foldl_addLabel {labels : Dictionary String} (valid : LabelsValid labels)
    (more : List (String × String)) : LabelsValid (more.foldl addLabel labels) := by
  induction more generalizing labels with
  | nil => exact valid
  | cons label rest inductionHypothesis =>
    exact inductionHypothesis (labelsValid_addLabel valid label)

theorem isLabelName_exportedQuantileLabel : IsLabelName exportedQuantileLabel := by
  decide

theorem labelsValid_reserveQuantile {labels : Dictionary String} (valid : LabelsValid labels) :
    LabelsValid (reserveQuantile labels) := by
  unfold reserveQuantile
  split
  · exact valid
  · have others : LabelsValid (labels.erase quantileLabel) := fun label member =>
      valid label (List.mem_filter.1 member).1
    unfold Dictionary.insertIfNew
    split
    · exact others
    · exact labelsValid_insert others isLabelName_exportedQuantileLabel _

/-- After the label of the quantiles is moved away, it is not there. -/
theorem find?_reserveQuantile (labels : Dictionary String) :
    (reserveQuantile labels).find? quantileLabel = none := by
  unfold reserveQuantile
  split
  · assumption
  · unfold Dictionary.insertIfNew
    split
    · rw [Dictionary.find?_erase, if_pos rfl]
    · have different : quantileLabel ≠ exportedQuantileLabel := by decide
      rw [Dictionary.find?_insert, if_neg different, Dictionary.find?_erase, if_pos rfl]

/-- The labels of a series before any is moved away for a summary. -/
def gatheredLabels (settings : Settings) (tags : List String) : Dictionary String :=
  (tags.filterMap tagPair?).foldl addLabel (settings.labels.entries.foldl addLabel .empty)

theorem labelsValid_gatheredLabels (settings : Settings) (tags : List String) :
    LabelsValid (gatheredLabels settings tags) := by
  refine labelsValid_foldl_addLabel (labelsValid_foldl_addLabel ?_ _) _
  intro label member
  cases member

theorem seriesLabels_eq (settings : Settings) (tags : List String) (summary : Bool) :
    seriesLabels settings tags summary =
      (if summary then reserveQuantile (gatheredLabels settings tags)
        else gatheredLabels settings tags).entries :=
  rfl

theorem ascending_seriesLabels (settings : Settings) (tags : List String) (summary : Bool) :
    (seriesLabels settings tags summary).Pairwise fun first second => first.1 < second.1 := by
  rw [seriesLabels_eq]
  exact Dictionary.ascending _

theorem isLabelName_of_mem_seriesLabels {settings : Settings} {tags : List String}
    {summary : Bool} {label : String × String}
    (member : label ∈ seriesLabels settings tags summary) : IsLabelName label.1 := by
  rw [seriesLabels_eq] at member
  have valid := labelsValid_gatheredLabels settings tags
  split at member
  · exact labelsValid_reserveQuantile valid label member
  · exact valid label member

/-- No label of a summary is the one that tells the quantiles apart. -/
theorem ne_quantileLabel_of_mem_seriesLabels {settings : Settings} {tags : List String}
    {label : String × String} (member : label ∈ seriesLabels settings tags true) :
    label.1 ≠ quantileLabel := by
  intro same
  have found : (reserveQuantile (gatheredLabels settings tags)).find? label.1 = some label.2 :=
    Dictionary.mem_entries_iff.1 member
  rw [same, find?_reserveQuantile] at found
  cases found

end Telemetry.Exposition
