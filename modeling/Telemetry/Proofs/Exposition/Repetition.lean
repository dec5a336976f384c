/-
This file proves exactly when an exposition repeats a series, which is when two
lines have the same name and the same set of labels. Within a family that can
only happen if a summary writes one quantile twice. Across families it can only
happen if one goes under the name that another derives for its sums or counts,
and both have a series with the same labels.
-/

import Telemetry.Proofs.Dictionary
import Telemetry.Proofs.Exposition.Conservation
import Telemetry.Proofs.Exposition.Lines

namespace Telemetry.Exposition

/-! ### Lines that repeat each other -/

/-- Two lines repeat each other if they have the same name and the same set of labels. -/
def SampleLine.Repeats (first second : SampleLine) : Prop :=
  first.name = second.name ∧ ∀ label, label ∈ first.labels ↔ label ∈ second.labels

/-- Sets of labels are compared by looking up each label of the one in the other. -/
instance (first second : SampleLine) : Decidable (first.Repeats second) :=
  decidable_of_iff (first.name = second.name ∧ first.labels ⊆ second.labels ∧
    second.labels ⊆ first.labels)
    (and_congr_right' ⟨fun both _ => ⟨(both.1 ·), (both.2 ·)⟩,
      fun same => ⟨fun _ => (same _).1, fun _ => (same _).2⟩⟩)

/-- No line repeats another. -/
def Distinct (lines : List SampleLine) : Prop :=
  lines.Pairwise fun first second => ¬ first.Repeats second

instance (lines : List SampleLine) : Decidable (Distinct lines) :=
  inferInstanceAs (Decidable (lines.Pairwise _))

theorem SampleLine.Repeats.symm {first second : SampleLine} (same : first.Repeats second) :
    second.Repeats first :=
  ⟨same.1.symm, fun label => (same.2 label).symm⟩

/-! ### The lines of a series -/

/-- A series whose labels ascend strictly, and in a summary leave the label of the quantiles
free. -/
structure Series.Tidy (series : Series) : Prop where
  ascending : series.labels.Pairwise fun first second => first.1 < second.1
  quantile : series.value.isSummary → ∀ label ∈ series.labels, label.1 ≠ quantileLabel

/-- How a line comes from a series of a family: it shows the number, one of the quantiles, the sum
or the count. -/
inductive Series.Shows (series : Series) (family : String) : SampleLine → Prop
  | number (single : series.value.isSummary = false) (text : List Char) :
    Shows series family ⟨family, series.labels, text⟩
  | quantile (summary : series.value.isSummary) (item : Float × Float) :
    Shows series family (quantileLine family series.labels item)
  | sum (summary : series.value.isSummary) (text : List Char) :
    Shows series family ⟨sumName family, series.labels, text⟩
  | count (summary : series.value.isSummary) (text : List Char) :
    Shows series family ⟨countName family, series.labels, text⟩

theorem shows_of_mem_sampleLines {series : Series} {family : String} {line : SampleLine}
    (member : line ∈ series.sampleLines family) : series.Shows family line := by
  obtain ⟨labels, value⟩ := series
  cases value with
  | single value =>
    rw [List.mem_singleton.1 member]
    exact .number rfl _
  | summary quantiles sum count =>
    rcases List.mem_append.1 member with shown | last
    · obtain ⟨item, _, rfl⟩ := List.mem_map.1 shown
      exact .quantile rfl item
    · rcases List.mem_cons.1 last with rfl | last
      · exact .sum rfl _
      · rw [List.mem_singleton.1 last]
        exact .count rfl _

/-- A series of single numbers in a family that goes under the name that another family derives for
the sums or the counts of its summaries. -/
def Series.Hides (number : Series) (numberFamily : String) (summary : Series)
    (summaryFamily : String) : Prop :=
  number.value.isSummary = false ∧ summary.value.isSummary = true ∧
    (numberFamily = sumName summaryFamily ∨ numberFamily = countName summaryFamily)

/-- Behind labels that leave the label of the quantiles free, equal sets of labels mean equal texts
of the quantile, and the labels before it are the same. -/
theorem eq_of_mem_concat_iff {first second : Series} (firstTidy : first.Tidy)
    (firstSummary : first.value.isSummary) (secondTidy : second.Tidy)
    (secondSummary : second.value.isSummary) {text other : String}
    (same : ∀ label, label ∈ first.labels ++ [(quantileLabel, text)] ↔
      label ∈ second.labels ++ [(quantileLabel, other)]) :
    first.labels = second.labels ∧ text = other := by
  have free (series : Series) (tidy : series.Tidy) (summary : series.value.isSummary)
      (text : String) : (quantileLabel, text) ∉ series.labels :=
    fun member => tidy.quantile summary _ member rfl
  have texts : text = other := by
    have member := (same (quantileLabel, text)).1 (List.mem_append_right _ List.mem_cons_self)
    rcases List.mem_append.1 member with old | last
    · exact absurd old (free second secondTidy secondSummary text)
    · exact congrArg Prod.snd (List.mem_singleton.1 last)
  subst texts
  refine ⟨Dictionary.entries_eq_of_mem_iff firstTidy.ascending secondTidy.ascending ?_, rfl⟩
  intro label
  have both := same label
  simp only [List.mem_append, List.mem_singleton] at both
  by_cases quantile : label = (quantileLabel, text)
  · subst quantile
    exact iff_of_false (free first firstTidy firstSummary text)
      (free second secondTidy secondSummary text)
  · simpa only [quantile, or_false] using both

theorem not_mem_iff_concat {series : Series} (tidy : series.Tidy)
    (summary : series.value.isSummary) {labels : Labels} {text : String} :
    ¬ ∀ label, label ∈ labels ++ [(quantileLabel, text)] ↔ label ∈ series.labels := by
  intro same
  have member := (same (quantileLabel, text)).1 (List.mem_append_right _ List.mem_cons_self)
  exact tidy.quantile summary _ member rfl

/-- If a line of one series repeats a line of another, both have the same labels, and they are of
one family or one hides the other. -/
theorem labels_eq_of_repeats {first second : Series} {firstFamily secondFamily : String}
    (firstTidy : first.Tidy) (secondTidy : second.Tidy)
    (alike : firstFamily = secondFamily → first.value.isSummary = second.value.isSummary)
    {line other : SampleLine} (shown : first.Shows firstFamily line)
    (otherShown : second.Shows secondFamily other) (same : line.Repeats other) :
    first.labels = second.labels ∧
      (firstFamily = secondFamily ∨ first.Hides firstFamily second secondFamily ∨
        second.Hides secondFamily first firstFamily) := by
  obtain ⟨names, labels⟩ := same
  have plain := Dictionary.entries_eq_of_mem_iff firstTidy.ascending secondTidy.ascending
  cases shown with
  | number single =>
    cases otherShown with
    | number => exact ⟨plain labels, .inl names⟩
    | quantile summary =>
      have mixed := alike names
      rw [single, summary] at mixed
      cases mixed
    | sum summary => exact ⟨plain labels, .inr (.inl ⟨single, summary, .inl names⟩)⟩
    | count summary => exact ⟨plain labels, .inr (.inl ⟨single, summary, .inr names⟩)⟩
  | quantile summary =>
    cases otherShown with
    | number single =>
      have mixed := alike names
      rw [single, summary] at mixed
      cases mixed
    | quantile otherSummary =>
      exact ⟨(eq_of_mem_concat_iff firstTidy summary secondTidy otherSummary labels).1,
        .inl names⟩
    | sum otherSummary | count otherSummary =>
      exact absurd labels (not_mem_iff_concat secondTidy otherSummary)
  | sum summary =>
    cases otherShown with
    | number single =>
      exact ⟨plain labels, .inr (.inr ⟨single, summary, .inl names.symm⟩)⟩
    | quantile =>
      exact absurd (fun label => (labels label).symm) (not_mem_iff_concat firstTidy summary)
    | sum => exact ⟨plain labels, .inl (sumName_injective names)⟩
    | count => exact absurd names (sumName_ne_countName _ _)
  | count summary =>
    cases otherShown with
    | number single =>
      exact ⟨plain labels, .inr (.inr ⟨single, summary, .inr names.symm⟩)⟩
    | quantile =>
      exact absurd (fun label => (labels label).symm) (not_mem_iff_concat firstTidy summary)
    | sum => exact absurd names.symm (sumName_ne_countName _ _)
    | count => exact ⟨plain labels, .inl (countName_injective names)⟩

/-- Within a series lines repeat each other only where one quantile is written twice. -/
theorem distinct_sampleLines_iff {series : Series} (tidy : series.Tidy) (family : String) :
    Distinct (series.sampleLines family) ↔ series.value.quantileTexts.Nodup := by
  obtain ⟨labels, value⟩ := series
  cases value with
  | single value => exact iff_of_true (List.pairwise_singleton _ _) .nil
  | summary quantiles sum count =>
    have quantile (first second : Float × Float) :
        ¬ (quantileLine family labels first).Repeats (quantileLine family labels second) ↔
          writeNumber first.1 ≠ writeNumber second.1 := by
      refine not_congr ⟨fun same => ?_, fun same => ⟨rfl, fun label => ?_⟩⟩
      · exact String.ofList_injective (eq_of_mem_concat_iff tidy rfl tidy rfl same.2).2
      · rw [quantileLine, quantileLine, same]
    have ends : Distinct [⟨sumName family, labels, writeNumber sum⟩,
        ⟨countName family, labels, Decimal.digits count⟩] :=
      List.pairwise_pair.2 fun same => sumName_ne_countName _ _ same.1
    have apart : ∀ line ∈ quantiles.map (quantileLine family labels),
        ∀ last ∈ ([⟨sumName family, labels, writeNumber sum⟩,
          ⟨countName family, labels, Decimal.digits count⟩] : List SampleLine),
        ¬ line.Repeats last := by
      intro line member last lastMember same
      obtain ⟨item, _, rfl⟩ := List.mem_map.1 member
      simp only [List.mem_cons, List.not_mem_nil, or_false] at lastMember
      rcases lastMember with rfl | rfl
      · exact ne_sumName _ same.1
      · exact ne_countName _ same.1
    unfold Distinct Series.sampleLines SeriesValue.quantileTexts List.Nodup
    rw [List.pairwise_append, List.pairwise_map, List.pairwise_map]
    simp only [quantile]
    exact ⟨fun all => all.1, fun distinct => ⟨distinct, ends, apart⟩⟩

/-- A series that hides another with the same labels repeats one of its lines. -/
theorem Series.Hides.exists_repeats {number summary : Series} {numberFamily summaryFamily : String}
    (hides : number.Hides numberFamily summary summaryFamily)
    (same : number.labels = summary.labels) :
    ∃ line ∈ number.sampleLines numberFamily, ∃ other ∈ summary.sampleLines summaryFamily,
      line.Repeats other := by
  obtain ⟨labels, value⟩ := number
  obtain ⟨summaryLabels, summaryValue⟩ := summary
  obtain ⟨single, isSummary, derived⟩ := hides
  subst same
  cases value with
  | summary => cases single
  | single value =>
    cases summaryValue with
    | single => cases isSummary
    | summary quantiles sum count =>
      refine ⟨_, List.mem_singleton_self _, ?_⟩
      rcases derived with rfl | rfl
      · refine ⟨⟨sumName summaryFamily, labels, writeNumber sum⟩, ?_, rfl, fun _ => Iff.rfl⟩
        simp [Series.sampleLines]
      · refine ⟨⟨countName summaryFamily, labels, Decimal.digits count⟩, ?_, rfl, fun _ => Iff.rfl⟩
        simp [Series.sampleLines]

/-! ### The lines of families -/

namespace Family

/-- A family of single numbers goes under the name that another derives for the sums or the counts
of its summaries, and both have a series with the same labels. -/
def Hides (numbers summaries : Family) : Prop :=
  numbers.type ≠ .summary ∧ summaries.type = .summary ∧
    (numbers.name = sumName summaries.name ∨ numbers.name = countName summaries.name) ∧
    ∃ number ∈ numbers.series, ∃ summary ∈ summaries.series, number.labels = summary.labels

namespace WellShaped

variable {family other : Family}

theorem tidy (shaped : family.WellShaped) {series : Series} (member : series ∈ family.series) :
    series.Tidy :=
  ⟨shaped.ascendingLabels series member, fun summary =>
    shaped.quantile ((shaped.value series member).1 summary) series member⟩

theorem isSummary_eq (shaped : family.WellShaped) {series : Series}
    (member : series ∈ family.series) :
    series.value.isSummary = decide (family.type = .summary) := by
  rw [Bool.eq_iff_iff, shaped.value series member, decide_eq_true_iff]

/-- Within a family lines repeat each other only where a summary writes one quantile twice. -/
theorem distinct_iff (shaped : family.WellShaped) :
    Distinct family.sampleLines ↔ ∀ series ∈ family.series, series.value.quantileTexts.Nodup := by
  have apart : family.series.Pairwise fun first second =>
      ∀ line ∈ first.sampleLines family.name, ∀ other ∈ second.sampleLines family.name,
        ¬ line.Repeats other := by
    refine shaped.ascending.imp_of_mem ?_
    intro first second firstIn secondIn below line shown other otherShown same
    have labels := (labels_eq_of_repeats (shaped.tidy firstIn) (shaped.tidy secondIn)
      (fun _ => (shaped.isSummary_eq firstIn).trans (shaped.isSummary_eq secondIn).symm)
      (shows_of_mem_sampleLines shown) (shows_of_mem_sampleLines otherShown) same).1
    rw [labels] at below
    exact Labels.not_before_self _ below
  unfold Distinct sampleLines
  rw [List.pairwise_flatMap]
  have each : (∀ series ∈ family.series, Distinct (series.sampleLines family.name)) ↔
      ∀ series ∈ family.series, series.value.quantileTexts.Nodup :=
    forall₂_congr fun series member => distinct_sampleLines_iff (shaped.tidy member) family.name
  exact (and_iff_left apart).trans each

theorem hides_of_series (shaped : family.WellShaped) (otherShaped : other.WellShaped)
    {number summary : Series} (numberIn : number ∈ family.series)
    (summaryIn : summary ∈ other.series)
    (hides : number.Hides family.name summary other.name)
    (labels : number.labels = summary.labels) : family.Hides other := by
  obtain ⟨single, isSummary, derived⟩ := hides
  rw [shaped.isSummary_eq numberIn, decide_eq_false_iff_not] at single
  rw [otherShaped.isSummary_eq summaryIn, decide_eq_true_iff] at isSummary
  exact ⟨single, isSummary, derived, number, numberIn, summary, summaryIn, labels⟩

theorem exists_repeats_of_hides (shaped : family.WellShaped) (otherShaped : other.WellShaped)
    (hides : family.Hides other) :
    ∃ line ∈ family.sampleLines, ∃ otherLine ∈ other.sampleLines, line.Repeats otherLine := by
  obtain ⟨single, isSummary, derived, number, numberIn, summary, summaryIn, labels⟩ := hides
  have hidesSeries : number.Hides family.name summary other.name := by
    refine ⟨?_, ?_, derived⟩
    · rw [shaped.isSummary_eq numberIn, decide_eq_false single]
    · rw [otherShaped.isSummary_eq summaryIn, decide_eq_true isSummary]
  obtain ⟨line, shown, otherLine, otherShown, same⟩ := hidesSeries.exists_repeats labels
  exact ⟨line, List.mem_flatMap.2 ⟨number, numberIn, shown⟩, otherLine,
    List.mem_flatMap.2 ⟨summary, summaryIn, otherShown⟩, same⟩

/-- Lines of families with different names repeat each other only if one hides the other. -/
theorem repeats_iff (shaped : family.WellShaped) (otherShaped : other.WellShaped)
    (different : family.name ≠ other.name) :
    (∃ line ∈ family.sampleLines, ∃ otherLine ∈ other.sampleLines, line.Repeats otherLine) ↔
      family.Hides other ∨ other.Hides family := by
  constructor
  · rintro ⟨line, lineIn, otherLine, otherLineIn, same⟩
    obtain ⟨series, seriesIn, shown⟩ := List.mem_flatMap.1 lineIn
    obtain ⟨otherSeries, otherSeriesIn, otherShown⟩ := List.mem_flatMap.1 otherLineIn
    obtain ⟨labels, sameName | hides | hidden⟩ := labels_eq_of_repeats (shaped.tidy seriesIn)
      (otherShaped.tidy otherSeriesIn) (fun sameName => absurd sameName different)
      (shows_of_mem_sampleLines shown) (shows_of_mem_sampleLines otherShown) same
    · exact absurd sameName different
    · exact .inl (hides_of_series shaped otherShaped seriesIn otherSeriesIn hides labels)
    · exact .inr (hides_of_series otherShaped shaped otherSeriesIn seriesIn hidden labels.symm)
  · rintro (hides | hidden)
    · exact exists_repeats_of_hides shaped otherShaped hides
    · obtain ⟨otherLine, otherIn, line, lineIn, same⟩ :=
        exists_repeats_of_hides otherShaped shaped hidden
      exact ⟨line, lineIn, otherLine, otherIn, same.symm⟩

end WellShaped

end Family

/-- The lines of families are distinct exactly if no summary writes one quantile twice and no family
hides another. -/
theorem distinct_iff_of_wellShaped {families : List Family}
    (ascending : families.Pairwise fun first second => first.name < second.name)
    (shaped : ∀ family ∈ families, family.WellShaped) :
    Distinct (families.flatMap Family.sampleLines) ↔
      (∀ family ∈ families, ∀ series ∈ family.series, series.value.quantileTexts.Nodup) ∧
        ∀ numbers ∈ families, ∀ summaries ∈ families, ¬ numbers.Hides summaries := by
  have each : (∀ family ∈ families, Distinct family.sampleLines) ↔
      ∀ family ∈ families, ∀ series ∈ family.series, series.value.quantileTexts.Nodup :=
    forall₂_congr fun family member => (shaped family member).distinct_iff
  have across : (families.Pairwise fun first second =>
      ∀ line ∈ first.sampleLines, ∀ other ∈ second.sampleLines, ¬ line.Repeats other) ↔
      ∀ numbers ∈ families, ∀ summaries ∈ families, ¬ numbers.Hides summaries := by
    constructor
    · intro apart
      have apartEither : families.Pairwise fun first second =>
          ¬ first.Hides second ∧ ¬ second.Hides first := by
        refine (ascending.and apart).imp_of_mem fun {first second} firstIn secondIn both => ?_
        rw [← not_or, ← (shaped first firstIn).repeats_iff (shaped second secondIn)
          (String.ne_of_lt both.1)]
        rintro ⟨line, lineIn, other, otherIn, same⟩
        exact both.2 line lineIn other otherIn same
      have self (family : Family) : ¬ family.Hides family := fun hides => hides.1 hides.2.1
      have all := apartEither.forall_of_forall_of_flip (fun family _ => ⟨self family, self family⟩)
        (apartEither.imp And.symm)
      exact fun numbers numbersIn summaries summariesIn => (all numbersIn summariesIn).1
    · intro free
      refine ascending.imp_of_mem fun {first second} firstIn secondIn below => ?_
      intro line lineIn other otherIn same
      rcases ((shaped first firstIn).repeats_iff (shaped second secondIn)
        (String.ne_of_lt below)).1 ⟨line, lineIn, other, otherIn, same⟩ with hides | hidden
      · exact free first firstIn second secondIn hides
      · exact free second secondIn first firstIn hidden
  unfold Distinct
  rw [List.pairwise_flatMap]
  exact and_congr each across

/-- Where the settings choose no quantile of histograms or timers twice, no summary writes one
twice. -/
theorem nodup_quantileTexts_collect {settings : Settings}
    (histograms : (settings.histogramQuantiles.map writeNumber).Nodup)
    (timers : (settings.timerQuantiles.map writeNumber).Nodup) (store : Store) (id : RegistryId) :
    ∀ family ∈ (collect settings store id).1, ∀ series ∈ family.series,
      series.value.quantileTexts.Nodup := by
  intro family familyIn series seriesIn
  have listed : (family.name, family.type, series) ∈
      (collect settings store id).1.flatMap Family.listed :=
    List.mem_flatMap.2 ⟨family, familyIn, List.mem_map_of_mem seriesIn⟩
  obtain ⟨offer, offerTaken, same⟩ :=
    List.mem_map.1 ((listed_collect settings store id).mem_iff.1 listed)
  obtain ⟨-, -, rfl⟩ : offer.family = family.name ∧ offer.type = family.type ∧
      offer.series = series := by
    simpa [Offer.listed] using same
  have chosen := quantileTexts_of_mem_offered
    (mem_offers_of_mem_taken settings store id offerTaken)
  simp only [List.mem_cons, List.not_mem_nil, or_false] at chosen
  rcases chosen with nothing | histogram | timer
  · exact nothing ▸ .nil
  · exact histogram ▸ histograms
  · exact timer ▸ timers

/-- No line of a collection repeats another exactly if no summary writes one quantile twice and no
family goes under a name that another derives for its sums or counts while both have a series with
the same labels. -/
theorem distinct_collect_iff (settings : Settings) (store : Store) (id : RegistryId) :
    Distinct ((collect settings store id).1.flatMap Family.sampleLines) ↔
      (∀ family ∈ (collect settings store id).1, ∀ series ∈ family.series,
        series.value.quantileTexts.Nodup) ∧
      ∀ numbers ∈ (collect settings store id).1, ∀ summaries ∈ (collect settings store id).1,
        ¬ numbers.Hides summaries :=
  distinct_iff_of_wellShaped (ascending_collect settings store id)
    (wellShaped_collect settings store id)

/-- A store with a histogram and a counter that goes under the name for the sum of the histogram. -/
def crowdedStore : Store :=
  Store.performAll (.starting fun _ => 0)
    [.getOrRegister "" "x" (.histogram (.empty (.uniform 1) 0)),
      .getOrRegister "" "x_sum" (.counter 0)]

/-- Lines are repeated when a counter goes under the name for the sum of a histogram, and when the
settings choose a quantile twice. -/
theorem collect_repeats_sum_and_quantile :
    ¬ Distinct ((collect .standard crowdedStore "").1.flatMap Family.sampleLines) ∧
      ¬ Distinct ((collect (Settings.standard.withHistogramQuantiles [0.5, 0.5]).1
        (crowdedStore.unregister "" "x_sum") "").1.flatMap Family.sampleLines) := by
  decide +kernel

end Telemetry.Exposition
