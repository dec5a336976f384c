/-
This file says which of several labels with one name a series shows. Labels come
from the settings and from the tags, and their names are made valid first, so
different labels can meet under one name. Then the last one is shown, which is
that of a tag if there is one. In a summary a label `quantile` moves to another
name, where it only stands in for labels that are named so from the start. This
is where the settings can win over a tag.
-/

import Mathlib.Data.List.Basic
import Mathlib.Data.List.Find
import Mathlib.Data.List.Induction
import Telemetry.Proofs.Exposition.Labels

namespace Telemetry.Exposition

/-! ### Sources of labels -/

/-- Where a label of a series comes from. -/
inductive LabelOrigin
  | settings
  | tag
deriving DecidableEq, Repr

/-- A label as it is given. -/
structure LabelSource where
  origin : LabelOrigin
  name : String
  value : String
deriving DecidableEq, Repr

namespace LabelSource

/-- The valid name; it is empty if nothing in the given one is valid. -/
def label (source : LabelSource) : String :=
  labelName source.name

/-- The name under which the label is shown. -/
def key (summary : Bool) (source : LabelSource) : String :=
  if summary ∧ source.label = quantileLabel then exportedQuantileLabel else source.label

/-- Labels with one more. -/
def add (labels : Dictionary String) (source : LabelSource) : Dictionary String :=
  addLabel labels (source.name, source.value)

end LabelSource

/-- All labels of a series as they are given: those of the settings, then those of the tags that are
pairs. -/
def labelSources (settings : Settings) (tags : List String) : List LabelSource :=
  settings.labels.entries.map (fun label => ⟨.settings, label.1, label.2⟩) ++
    (tags.filterMap tagPair?).map fun pair => ⟨.tag, pair.1, pair.2⟩

/-- The last source that is named so from the start. -/
def lastNamed? (key : String) (sources : List LabelSource) : Option LabelSource :=
  sources.reverse.find? fun source => source.label = key

/-- The source that is shown under a name: the last one that is named so from the start, or else the
last one that is moved there. -/
def exposed? (summary : Bool) (key : String) (sources : List LabelSource) : Option LabelSource :=
  if key = "" then none
  else
    (sources.reverse.find? fun source => source.key summary = key ∧ source.label = key).or
      (sources.reverse.find? fun source => source.key summary = key)

/-! ### Labels that are gathered -/

theorem gatheredLabels_eq (settings : Settings) (tags : List String) :
    gatheredLabels settings tags = (labelSources settings tags).foldl LabelSource.add .empty := by
  rw [labelSources, List.foldl_append, List.foldl_map, List.foldl_map]
  rfl

theorem find?_add (labels : Dictionary String) (source : LabelSource) (key : String) :
    (source.add labels).find? key =
      if key ≠ "" ∧ source.label = key then some source.value else labels.find? key := by
  show (addLabel labels (source.name, source.value)).find? key = _
  unfold addLabel
  dsimp only
  rw [← LabelSource.label]
  split
  · rename_i invalid
    rw [invalid, if_neg fun both => both.1 both.2.symm]
  · rename_i valid
    rw [Dictionary.find?_insert]
    refine if_congr ⟨?_, fun both => both.2.symm⟩ rfl rfl
    rintro rfl
    exact ⟨valid, rfl⟩

/-- Of all labels with one valid name the last is gathered. -/
theorem find?_foldl_add (sources : List LabelSource) {key : String} (nonempty : key ≠ "") :
    (sources.foldl LabelSource.add .empty).find? key = (lastNamed? key sources).map (·.value) := by
  induction sources using List.reverseRecOn with
  | nil => rfl
  | append_singleton sources last inductionHypothesis =>
    rw [List.foldl_concat, find?_add, inductionHypothesis,
      lastNamed?, lastNamed?, List.reverse_concat, List.find?_cons]
    by_cases same : last.label = key <;> simp [nonempty, same]

/-- Nothing is gathered under the empty name. -/
theorem find?_foldl_add_empty (sources : List LabelSource) :
    (sources.foldl LabelSource.add .empty).find? "" = none := by
  induction sources using List.reverseRecOn with
  | nil => rfl
  | append_singleton sources last inductionHypothesis =>
    rw [List.foldl_concat, find?_add, inductionHypothesis,
      if_neg fun both => both.1 rfl]

/-! ### Labels of a summary -/

theorem find?_insertIfNew (labels : Dictionary String) (key value wanted : String) :
    (labels.insertIfNew key value).find? wanted =
      if wanted = key then (labels.find? key).or (some value) else labels.find? wanted := by
  unfold Dictionary.insertIfNew
  rw [Dictionary.contains_eq_isSome]
  cases found : labels.find? key with
  | none =>
    rw [Option.isSome_none, if_neg Bool.false_ne_true, Dictionary.find?_insert, Option.none_or]
  | some old =>
    rw [Option.isSome_some, if_pos rfl, Option.some_or]
    split
    · rename_i same
      rw [same, found]
    · rfl

theorem exportedQuantileLabel_ne : exportedQuantileLabel ≠ quantileLabel := by
  decide

/-- A label that is moved only stands in for one that was there. -/
theorem find?_reserveQuantile_of_ne (labels : Dictionary String) {key : String}
    (other : key ≠ quantileLabel) :
    (reserveQuantile labels).find? key =
      if key = exportedQuantileLabel then (labels.find? key).or (labels.find? quantileLabel)
      else labels.find? key := by
  unfold reserveQuantile
  cases found : labels.find? quantileLabel with
  | none =>
    dsimp only
    rw [Option.or_none, ite_self]
  | some value =>
    dsimp only
    rw [find?_insertIfNew, Dictionary.find?_erase, Dictionary.find?_erase, if_neg other,
      if_neg exportedQuantileLabel_ne]
    split
    · rename_i same
      rw [same]
    · rfl

/-! ### The source that is shown -/

/-- The labels of a series before they are listed. -/
def shownLabels (settings : Settings) (tags : List String) (summary : Bool) : Dictionary String :=
  if summary then reserveQuantile (gatheredLabels settings tags) else gatheredLabels settings tags

namespace LabelSource

theorem key_of_ne (summary : Bool) {source : LabelSource} (other : source.label ≠ quantileLabel) :
    source.key summary = source.label :=
  if_neg fun both => other both.2

theorem key_of_eq {source : LabelSource} (same : source.label = quantileLabel) :
    source.key true = exportedQuantileLabel :=
  if_pos ⟨rfl, same⟩

theorem key_eq_of_label_eq_exported (summary : Bool) {source : LabelSource}
    (named : source.label = exportedQuantileLabel) :
    source.key summary = exportedQuantileLabel := by
  rw [key_of_ne, named]
  rw [named]
  exact exportedQuantileLabel_ne

theorem key_false (source : LabelSource) : source.key false = source.label :=
  if_neg fun both => Bool.false_ne_true both.1

theorem key_true_ne (source : LabelSource) : source.key true ≠ quantileLabel := by
  by_cases same : source.label = quantileLabel
  · rw [key_of_eq same]
    exact exportedQuantileLabel_ne
  · rwa [key_of_ne true same]

theorem key_true_eq_exported_iff (source : LabelSource) :
    source.key true = exportedQuantileLabel ↔
      source.label = exportedQuantileLabel ∨ source.label = quantileLabel := by
  by_cases same : source.label = quantileLabel
  · simp only [key_of_eq same, same, or_true]
  · rw [key_of_ne true same, or_iff_left same]

/-- Only to the label that takes the place of `quantile` are sources moved. -/
theorem key_true_eq_iff_of_ne (source : LabelSource) {key : String} (notMoved : key ≠ quantileLabel)
    (other : key ≠ exportedQuantileLabel) : source.key true = key ↔ source.label = key := by
  by_cases same : source.label = quantileLabel
  · rw [key_of_eq same, same]
    exact iff_of_false other.symm notMoved.symm
  · rw [key_of_ne true same]

end LabelSource

theorem exposed?_of_key_iff {summary : Bool} {key : String} {sources : List LabelSource}
    (nonempty : key ≠ "")
    (stays : ∀ source : LabelSource, source.key summary = key ↔ source.label = key) :
    exposed? summary key sources = lastNamed? key sources := by
  simp only [exposed?, if_neg nonempty, stays, and_self, Option.or_self, lastNamed?]

/-- In a summary no source is shown as `quantile`. -/
theorem exposed?_quantile (sources : List LabelSource) :
    exposed? true quantileLabel sources = none := by
  simp [exposed?, LabelSource.key_true_ne]

theorem exposed?_exported (sources : List LabelSource) :
    exposed? true exportedQuantileLabel sources =
      (lastNamed? exportedQuantileLabel sources).or (lastNamed? quantileLabel sources) := by
  have nonempty : exportedQuantileLabel ≠ "" := by decide
  have first (source : LabelSource) : (source.key true = exportedQuantileLabel ∧
      source.label = exportedQuantileLabel) ↔ source.label = exportedQuantileLabel := by
    rw [source.key_true_eq_exported_iff]
    exact ⟨And.right, fun named => ⟨.inl named, named⟩⟩
  simp only [exposed?, if_neg nonempty, first, lastNamed?]
  cases found : sources.reverse.find? fun source => source.label = exportedQuantileLabel with
  | some source => rw [Option.some_or, Option.some_or]
  | none =>
    rw [Option.none_or, Option.none_or]
    refine List.find?_congr fun source member => decide_eq_decide.2 ?_
    have other := List.find?_eq_none.1 found source member
    rw [source.key_true_eq_exported_iff]
    exact or_iff_right (of_decide_eq_false (Bool.not_eq_true _ ▸ other))

/-- A series shows the value of the exposed source. -/
theorem find?_shownLabels (settings : Settings) (tags : List String) (summary : Bool)
    (key : String) :
    (shownLabels settings tags summary).find? key =
      (exposed? summary key (labelSources settings tags)).map (·.value) := by
  have gathered (key : String) (nonempty : key ≠ "") : (gatheredLabels settings tags).find? key =
      (lastNamed? key (labelSources settings tags)).map (·.value) := by
    rw [gatheredLabels_eq, find?_foldl_add _ nonempty]
  have gatheredEmpty : (gatheredLabels settings tags).find? "" = none := by
    rw [gatheredLabels_eq, find?_foldl_add_empty]
  cases summary with
  | false =>
    show (gatheredLabels settings tags).find? key = _
    by_cases empty : key = ""
    · rw [empty, gatheredEmpty, exposed?, if_pos rfl, Option.map_none]
    · rw [gathered key empty, exposed?_of_key_iff empty fun source => by rw [source.key_false]]
  | true =>
    show (reserveQuantile (gatheredLabels settings tags)).find? key = _
    by_cases empty : key = ""
    · rw [empty, find?_reserveQuantile_of_ne _ (by decide), if_neg (by decide), gatheredEmpty,
        exposed?, if_pos rfl, Option.map_none]
    by_cases moved : key = quantileLabel
    · rw [moved, find?_reserveQuantile, exposed?_quantile, Option.map_none]
    rw [find?_reserveQuantile_of_ne _ moved]
    split
    · rename_i same
      rw [same, gathered _ (by decide), gathered _ (by decide), exposed?_exported, Option.map_or]
    · rename_i other
      rw [gathered key empty,
        exposed?_of_key_iff empty fun source => source.key_true_eq_iff_of_ne moved other]

theorem mem_seriesLabels_iff {settings : Settings} {tags : List String} {summary : Bool}
    {key value : String} :
    (key, value) ∈ seriesLabels settings tags summary ↔
      (exposed? summary key (labelSources settings tags)).map (·.value) = some value := by
  rw [seriesLabels_eq, ← find?_shownLabels, ← Dictionary.mem_entries_iff]
  rfl

/-! ### Tags before settings -/

section Sources

variable {settings : Settings} {tags : List String} {sources : List LabelSource} {summary : Bool}
  {key : String} {source : LabelSource}

theorem isSome_exposed?_iff :
    (exposed? summary key sources).isSome ↔
      key ≠ "" ∧ ∃ source ∈ sources, source.key summary = key := by
  unfold exposed?
  split
  · rename_i empty
    simp [empty]
  · rename_i nonempty
    rw [Option.isSome_or, Bool.or_eq_true, List.find?_isSome, List.find?_isSome]
    simp only [List.mem_reverse, decide_eq_true_eq, and_iff_right nonempty, ne_eq]
    exact or_iff_right_of_imp fun ⟨source, member, has, _⟩ => ⟨source, member, has⟩

theorem of_find?_reverse {wanted : LabelSource → Prop} [DecidablePred wanted]
    (last : (sources.reverse.find? fun source => wanted source) = some source) :
    source ∈ sources ∧ wanted source := by
  have has := List.find?_some (p := fun source => wanted source) last
  exact ⟨List.mem_reverse.1 (List.mem_of_find?_eq_some last), of_decide_eq_true has⟩

/-- The exposed source is the last that is named so from the start, or no source is named so and it
is the last that has the key. -/
theorem exposed?_cases (exposed : exposed? summary key sources = some source) :
    (sources.reverse.find? fun source => source.key summary = key ∧ source.label = key) =
        some source ∨
      (∀ other ∈ sources, other.key summary = key → other.label ≠ key) ∧
        (sources.reverse.find? fun source => source.key summary = key) = some source := by
  unfold exposed? at exposed
  split at exposed
  · cases exposed
  · rw [Option.or_eq_some_iff] at exposed
    rcases exposed with last | ⟨unnamed, last⟩
    · exact .inl last
    · refine .inr ⟨fun other member has named => ?_, last⟩
      exact List.find?_eq_none.1 unnamed other (List.mem_reverse.2 member)
        (decide_eq_true ⟨has, named⟩)

theorem mem_of_exposed? (exposed : exposed? summary key sources = some source) :
    source ∈ sources ∧ source.key summary = key := by
  rcases exposed?_cases exposed with last | ⟨-, last⟩
  · exact (of_find?_reverse last).imp_right And.left
  · exact of_find?_reverse last

/-- Of sources with a property the last is that of a tag if any is. -/
theorem origin_of_find? {wanted : LabelSource → Prop} [DecidablePred wanted]
    (last : ((labelSources settings tags).reverse.find? fun source => wanted source) =
      some source) :
    source.origin = .tag ↔
      ∃ tag ∈ labelSources settings tags, tag.origin = .tag ∧ wanted tag := by
  obtain ⟨given, has⟩ := of_find?_reverse last
  refine ⟨fun own => ⟨source, given, own, has⟩, ?_⟩
  rintro ⟨tag, member, own, tagHas⟩
  rw [labelSources, List.mem_append] at member
  rcases member with fixed | tagged
  · obtain ⟨label, -, rfl⟩ := List.mem_map.1 fixed
    cases own
  · rw [labelSources, List.reverse_append, List.find?_append] at last
    cases found : (((tags.filterMap tagPair?).map fun pair =>
        LabelSource.mk .tag pair.1 pair.2).reverse.find? fun source => wanted source) with
    | none =>
      exact absurd (decide_eq_true tagHas)
        (List.find?_eq_none.1 found tag (List.mem_reverse.2 tagged))
    | some first =>
      rw [found, Option.some_or, Option.some.injEq] at last
      obtain ⟨pair, -, rfl⟩ := List.mem_map.1 (of_find?_reverse found).1
      rw [← last]

/-- The settings win over tags that are moved to the key: in a summary they have a label that is
named as the one that takes the place of `quantile`, and no tag is named so. -/
structure SettingsWin (sources : List LabelSource) (summary : Bool) (key : String) : Prop where
  inSummary : summary = true
  takesPlace : key = exportedQuantileLabel
  setting : ∃ source ∈ sources, source.origin = .settings ∧ source.label = key
  noTag : ∀ source ∈ sources, source.origin = .tag → source.label ≠ key

/-- The exposed source is a tag exactly if some tag has the key and the settings do not win. -/
theorem origin_of_exposed?
    (exposed : exposed? summary key (labelSources settings tags) = some source) :
    source.origin = .tag ↔
      (∃ tag ∈ labelSources settings tags, tag.origin = .tag ∧ tag.key summary = key) ∧
        ¬ SettingsWin (labelSources settings tags) summary key := by
  rcases exposed?_cases exposed with last | ⟨unnamed, last⟩ <;> rw [origin_of_find? last]
  · obtain ⟨given, sourceHas, named⟩ := of_find?_reverse last
    constructor
    · rintro ⟨tag, member, own, has, tagNamed⟩
      exact ⟨⟨tag, member, own, has⟩, fun win => win.noTag tag member own tagNamed⟩
    · rintro ⟨⟨tag, member, own, has⟩, lost⟩
      by_contra noTag
      have unnamed (other : LabelSource) (inside : other ∈ labelSources settings tags)
          (own : other.origin = .tag) (has : other.key summary = key) : other.label ≠ key :=
        fun named => noTag ⟨other, inside, own, has, named⟩
      -- A tag that has the key and is not named so is one that a summary has moved there.
      have moved := unnamed tag member own has
      unfold LabelSource.key at has
      split at has
      · rename_i inSummary
        refine lost ⟨inSummary.1, has.symm, ⟨source, given, ?_, named⟩, ?_⟩
        · cases origin : source.origin with
          | settings => rfl
          | tag => exact absurd named (unnamed source given origin sourceHas)
        · intro other inside origin otherNamed
          refine unnamed other inside origin ?_ otherNamed
          rw [LabelSource.key_eq_of_label_eq_exported summary (otherNamed.trans has.symm), has]
      · exact moved has
  · refine (and_iff_left fun win => ?_).symm
    obtain ⟨fixed, member, -, named⟩ := win.setting
    refine unnamed fixed member ?_ named
    rw [LabelSource.key_eq_of_label_eq_exported summary (named.trans win.takesPlace),
      win.takesPlace]

end Sources

/-- A series shows one label for each name that some source has, and in general the one of a tag, if
a tag has the name. There is one exception, and it is the only one: in a summary a label of the
settings that is named as the one that takes the place of `quantile` stands against a tag that is
moved there, if no tag is named so. -/
theorem tag_labels_win_iff (settings : Settings) (tags : List String) (summary : Bool) :
    let labels := seriesLabels settings tags summary
    let sources := labelSources settings tags
    (labels.Pairwise fun first second => first.1 < second.1) ∧
      ∀ key,
        (∀ value, (key, value) ∈ labels ↔
          (exposed? summary key sources).map (·.value) = some value) ∧
        ((exposed? summary key sources).isSome ↔
          key ≠ "" ∧ ∃ source ∈ sources, source.key summary = key) ∧
        ∀ source, exposed? summary key sources = some source →
          source ∈ sources ∧ source.key summary = key ∧
            (source.origin = .tag ↔
              (∃ tag ∈ sources, tag.origin = .tag ∧ tag.key summary = key) ∧
                ¬ SettingsWin sources summary key) := by
  intro labels sources
  refine ⟨ascending_seriesLabels settings tags summary, fun key =>
    ⟨fun value => mem_seriesLabels_iff, isSome_exposed?_iff, fun source exposed => ?_⟩⟩
  obtain ⟨member, has⟩ := mem_of_exposed? exposed
  exact ⟨member, has, origin_of_exposed? exposed⟩

/-- In a summary the settings win over the only tag with the name, whose value is lost. -/
theorem settings_win_over_quantile_tag :
    let settings := Settings.standard.withLabels [("exported_quantile", "static")]
    let tag : LabelSource := ⟨.tag, "quantile", "p"⟩
    labelSources settings ["quantile:p"] = [⟨.settings, "exported_quantile", "static"⟩, tag] ∧
      tag.key true = "exported_quantile" ∧
      seriesLabels settings ["quantile:p"] true = [("exported_quantile", "static")] := by
  decide +kernel

end Telemetry.Exposition
