/-
This file proves what a collection gives. The families ascend by name and each is
of a valid shape: names and labels are valid, the series ascend strictly by their
labels, and summaries stand in families of summaries only. The books balance as
well: every series that an entry of the registry is due stands once in the family
of its name, or it was refused with one warning because an entry of a smaller
name is in its way.
-/

import Telemetry.Proofs.Exposition.Offers
import Telemetry.Proofs.Grouping

namespace Telemetry.Exposition

/-! ### Notices of a collection -/

/-- The notices of a level. -/
def ofLevel (level : Level) (notices : List Notice) : List Notice :=
  notices.filter fun notice => notice.level = level

theorem ofLevel_append (level : Level) (first second : List Notice) :
    ofLevel level (first ++ second) = ofLevel level first ++ ofLevel level second :=
  List.filter_append _ _

theorem level_of_objection? {taken : List Offer} {offer : Offer} {notice : Notice}
    (refused : objection? taken offer = some notice) : notice.level = .warning := by
  unfold objection? at refused
  split at refused
  · cases refused
  · split at refused
    · cases refused
      rfl
    · split at refused
      · cases refused
        rfl
      · cases refused

theorem level_of_mem_refusedAfter {taken offers : List Offer} {refusal : Offer × Notice}
    (member : refusal ∈ refusedAfter taken offers) : refusal.2.level = .warning := by
  induction offers generalizing taken with
  | nil => cases member
  | cons offer rest inductionHypothesis =>
    unfold refusedAfter at member
    split at member
    · exact inductionHypothesis member
    · rcases List.mem_cons.1 member with rfl | later
      · exact level_of_objection? ‹_›
      · exact inductionHypothesis later

theorem ofLevel_refusals (level : Level) (taken offers : List Offer) :
    ofLevel level ((refusedAfter taken offers).map Prod.snd) =
      if level = .warning then (refusedAfter taken offers).map Prod.snd else [] := by
  have all {notice : Notice} (member : notice ∈ (refusedAfter taken offers).map Prod.snd) :
      notice.level = .warning := by
    obtain ⟨refusal, refused, rfl⟩ := List.mem_map.1 member
    exact level_of_mem_refusedAfter refused
  split
  · rename_i warning
    exact List.filter_eq_self.2 fun notice member => by simp [all member, warning]
  · rename_i other
    exact List.filter_eq_nil_iff.2 fun notice member => by simp [all member, Ne.symm other]

theorem ofLevel_unnamed (level : Level) (name : String) :
    ofLevel level (unnamed name) = if level = .warning then [] else unnamed name := by
  unfold unnamed
  split <;> cases level <;> rfl

/-! ### Collecting -/

theorem toContribution_offersOf (settings : Settings) (store : Store) (name : String)
    (handle : Handle) :
    (offersOf settings store name handle).map Offer.toContribution =
      (entryContributions settings store name handle).1 := by
  rw [offersOf, List.map_map]
  exact List.map_id _

/-- Collecting an entry adds what it offers and notes what is refused, then the rest follows. -/
theorem collectEntries_cons (settings : Settings) (families : Families) (store : Store)
    (name : String) (handle : Handle) (rest : List (String × Handle)) :
    let added := families.addAll ((offersOf settings store name handle).map Offer.toContribution)
    let next := (entryContributions settings store name handle).2
    collectEntries settings families store ((name, handle) :: rest) =
      collectEntries settings added.1 (next.noting (store.notices ++ unnamed name ++ added.2))
        rest := by
  intro added next
  have noted : next.noteAll added.2 = next.noting (store.notices ++ unnamed name ++ added.2) := by
    rw [← notices_entryContributions settings store name handle]
    rfl
  rw [← noted, collectEntries]
  simp only [added, next, toContribution_offersOf]

/-- The entries of a registry make the families of what is taken of their offers. -/
theorem madeOf_collectEntries (settings : Settings) {families : Families} {taken : List Offer}
    (made : families.MadeOf taken) (store : Store) (entries : List (String × Handle)) :
    (collectEntries settings families store entries).1.MadeOf
      (takenAfter taken (offered settings store entries)) := by
  induction entries generalizing families taken store with
  | nil => exact made
  | cons entry rest inductionHypothesis =>
    obtain ⟨name, handle⟩ := entry
    have added := (made.addAll (offersOf settings store name handle)).1
    rw [collectEntries_cons, offered, takenAfter_append, ← offered_noting]
    exact inductionHypothesis added _

/-- For every offer that is refused there is a warning, and for every name without a valid character
a lesser notice. -/
theorem ofLevel_collectEntries (settings : Settings) {families : Families} {taken : List Offer}
    (made : families.MadeOf taken) (store : Store) (entries : List (String × Handle))
    (level : Level) :
    ofLevel level (collectEntries settings families store entries).2.notices =
      ofLevel level store.notices ++
        if level = .warning then
          (refusedAfter taken (offered settings store entries)).map Prod.snd
        else entries.flatMap fun entry => unnamed entry.1 := by
  induction entries generalizing families taken store with
  | nil => simp [collectEntries, offered, refusedAfter]
  | cons entry rest inductionHypothesis =>
    obtain ⟨name, handle⟩ := entry
    obtain ⟨added, noticed⟩ := made.addAll (offersOf settings store name handle)
    rw [collectEntries_cons, inductionHypothesis added, offered_noting, Store.noting,
      ofLevel_append, ofLevel_append, noticed, ofLevel_refusals, ofLevel_unnamed, offered,
      refusedAfter_append, List.map_append, List.flatMap_cons]
    cases level <;> simp

/-! ### The shape of families -/

/-- A heading whose family and labels have valid names. The labels ascend, and those of a summary
leave the label of the quantiles free. -/
structure Heading.Valid (heading : Heading) : Prop where
  family : IsMetricName heading.family
  ascending : heading.labels.Pairwise fun first second => first.1 < second.1
  labels : ∀ label ∈ heading.labels, IsLabelName label.1
  quantile : heading.type = .summary → ∀ label ∈ heading.labels, label.1 ≠ quantileLabel

theorem isSampled_of_mem_seriesOf {kind : Kind} {series : String × FamilyType}
    (member : series ∈ seriesOf kind) (summary : series.2 = .summary) : kind.isSampled := by
  have all : (seriesOf kind).all fun series => series.2 ≠ .summary || kind.isSampled := by
    cases kind <;> decide
  simpa [summary] using List.all_eq_true.1 all series member

theorem isMetricChar_of_mem_seriesOf {kind : Kind} {series : String × FamilyType}
    (member : series ∈ seriesOf kind) : series.1.toList.all isMetricChar := by
  have all : (seriesOf kind).all fun series => series.1.toList.all isMetricChar := by
    cases kind <;> decide
  exact List.all_eq_true.1 all series member

/-- Whatever an entry is due has a valid heading. -/
theorem valid_of_mem_headings {settings : Settings} {store : Store} {entry : String × Handle}
    {heading : Heading} (member : heading ∈ headings settings store entry) : heading.Valid := by
  unfold headings at member
  split at member
  · cases member
  · rename_i named
    obtain ⟨kind, _, own⟩ := List.mem_flatMap.1 member
    obtain ⟨series, ofKind, rfl⟩ := List.mem_map.1 own
    exact {
      family := (isMetricName_metricName named).append (isMetricChar_of_mem_seriesOf ofKind)
      ascending := ascending_seriesLabels _ _ _
      labels := fun label => isLabelName_of_mem_seriesLabels
      quantile := by
        intro summary label labelMember
        rw [isSampled_of_mem_seriesOf ofKind summary] at labelMember
        exact ne_quantileLabel_of_mem_seriesLabels labelMember }

theorem valid_of_mem_offered {settings : Settings} {store : Store}
    {entries : List (String × Handle)} {offer : Offer}
    (member : offer ∈ offered settings store entries) : offer.heading.Valid := by
  have due : offer.heading ∈ entries.flatMap (headings settings store) := by
    rw [← heading_offered]
    exact List.mem_map_of_mem member
  obtain ⟨entry, _, own⟩ := List.mem_flatMap.1 due
  exact valid_of_mem_headings own

/-- A family that can be written so that it is understood: its name and the names of labels are
valid, it holds summaries exactly if it is of that type, and the labels of a summary leave the label
of the quantiles free. -/
structure Family.Writable (family : Family) : Prop where
  name : IsMetricName family.name
  value : ∀ series ∈ family.series, series.value.isSummary ↔ family.type = .summary
  labels : ∀ series ∈ family.series, ∀ label ∈ series.labels, IsLabelName label.1
  quantile : family.type = .summary →
    ∀ series ∈ family.series, ∀ label ∈ series.labels, label.1 ≠ quantileLabel

/-- The shape of a family that a collection gives: besides, it is not empty, its series ascend
strictly by their labels, and the labels of each ascend strictly by name. -/
structure Family.WellShaped (family : Family) : Prop extends family.Writable where
  nonempty : family.series ≠ []
  ascending : family.series.Pairwise fun first second =>
    Labels.Before first.labels second.labels
  ascendingLabels : ∀ series ∈ family.series,
    series.labels.Pairwise fun first second => first.1 < second.1

theorem exists_of_mem_sorted {taken : List Offer} {name : String} {family : Family}
    (made : familyOf? taken name = some family) {series : Series}
    (member : series ∈ family.sorted.series) :
    ∃ offer ∈ taken, offer.family = name ∧ offer.series = series := by
  obtain ⟨founder, found, rfl⟩ := Option.map_eq_some_iff.1 made
  obtain ⟨offer, own, rfl⟩ := List.mem_map.1 (List.mem_mergeSort.1 member)
  obtain ⟨offerTaken, same⟩ := List.mem_filter.1 own
  exact ⟨offer, offerTaken, of_decide_eq_true same, rfl⟩

/-- The family of a name that valid offers make up is well-shaped once its series are sorted. -/
theorem wellShaped_sorted {taken : List Offer} (agreeing : Agreeing taken)
    (valid : ∀ offer ∈ taken, offer.heading.Valid)
    (summaries : ∀ offer ∈ taken, offer.value.isSummary ↔ offer.type = .summary) {name : String}
    {family : Family} (made : familyOf? taken name = some family) :
    family.sorted.WellShaped := by
  have origin {series : Series} (member : series ∈ family.sorted.series) :=
    exists_of_mem_sorted made member
  obtain ⟨founder, found, rfl⟩ := Option.map_eq_some_iff.1 made
  obtain ⟨founderTaken, founderFamily⟩ := mem_of_founder? found
  have type {offer : Offer} (member : offer ∈ taken) (own : offer.family = name) :
      offer.type = founder.type :=
    agreeing.type offer member founder founderTaken (own.trans founderFamily.symm)
  constructor
  case toWritable =>
    constructor
    case name => exact founderFamily ▸ (valid founder founderTaken).family
    case value =>
      intro series member
      obtain ⟨offer, offerTaken, own, rfl⟩ := origin member
      exact type offerTaken own ▸ summaries offer offerTaken
    case labels =>
      intro series member
      obtain ⟨offer, offerTaken, own, rfl⟩ := origin member
      exact (valid offer offerTaken).labels
    case quantile =>
      intro summary series member
      obtain ⟨offer, offerTaken, own, rfl⟩ := origin member
      exact (valid offer offerTaken).quantile ((type offerTaken own).trans summary)
  case nonempty =>
    have member : founder.series ∈
        (taken.filter fun offer => offer.family = name).map Offer.series :=
      List.mem_map_of_mem (List.mem_filter.2 ⟨founderTaken, decide_eq_true founderFamily⟩)
    exact List.ne_nil_of_mem (List.mem_mergeSort.2 member)
  case ascending =>
    apply ascending_sorted
    rw [List.map_map, List.Nodup, List.pairwise_map, List.pairwise_filter]
    refine agreeing.labels.imp fun different first second => different ?_
    exact (of_decide_eq_true first).trans (of_decide_eq_true second).symm
  case ascendingLabels =>
    intro series member
    obtain ⟨offer, offerTaken, own, rfl⟩ := origin member
    exact (valid offer offerTaken).ascending

/-! ### What the families hold -/

/-- The series of a family, each with the name and the type of the family. -/
def Family.listed (family : Family) : List (String × FamilyType × Series) :=
  family.series.map fun series => (family.name, family.type, series)

/-- The series of an offer, with the name and the type of its family. -/
def Offer.listed (offer : Offer) : String × FamilyType × Series :=
  (offer.family, offer.type, offer.series)

theorem listed_sorted_perm {taken : List Offer} (agreeing : Agreeing taken) {name : String}
    {family : Family} (made : familyOf? taken name = some family) :
    family.sorted.listed.Perm
      ((taken.filter fun offer => offer.family = name).map Offer.listed) := by
  obtain ⟨founder, found, rfl⟩ := Option.map_eq_some_iff.1 made
  obtain ⟨founderTaken, founderFamily⟩ := mem_of_founder? found
  refine ((List.mergeSort_perm _ _).map _).trans (.of_eq ?_)
  rw [List.map_map]
  refine List.map_congr_left fun offer member => ?_
  obtain ⟨offerTaken, own⟩ := List.mem_filter.1 member
  have family : offer.family = name := of_decide_eq_true own
  have type : offer.type = founder.type :=
    agreeing.type offer offerTaken founder founderTaken (family.trans founderFamily.symm)
  simp only [Function.comp_apply, Offer.listed, family, type]
  rfl

/-- The families hold what is taken, once, under its family and with its type. -/
theorem listed_perm {families : Families} {taken : List Offer} (agreeing : Agreeing taken)
    (made : families.MadeOf taken) :
    ((families.values.map Family.sorted).flatMap Family.listed).Perm
      (taken.map Offer.listed) := by
  have groups (entry : String × Family) (member : entry ∈ families.entries) :
      familyOf? taken entry.1 = some entry.2 := by
    rw [← made entry.1]
    exact Dictionary.mem_entries_iff.1 member
  have distinct : families.keys.Nodup :=
    List.pairwise_map.2 (families.ascending.imp fun below => String.ne_of_lt below)
  have all (offer : Offer) (member : offer ∈ taken) : offer.family ∈ families.keys := by
    obtain ⟨founder, found⟩ := exists_founder? member
    have here : families.find? offer.family = _ := made offer.family
    rw [familyOf?, found] at here
    exact List.mem_map_of_mem (Dictionary.mem_entries_iff.2 here)
  have byName := (perm_flatMap_filter (fun offer => offer.family) distinct all).map Offer.listed
  refine .trans ?_ byName
  rw [List.map_flatMap, Dictionary.keys, Dictionary.values, List.map_map, List.flatMap_map,
    List.flatMap_map]
  exact List.Perm.flatMap_left _ fun entry member =>
    listed_sorted_perm agreeing (groups entry member)

/-! ### Collections -/

section Collection

variable (settings : Settings) (store : Store) (id : RegistryId)

/-- What the entries of a registry offer, in the order of their names. -/
def offers : List Offer :=
  offered settings store (store.registry id).entries

/-- The offers that a collection takes. -/
def taken : List Offer :=
  takenAfter [] (offers settings store id)

/-- The offers that a collection refuses, with their notices. -/
def refused : List (Offer × Notice) :=
  refusedAfter [] (offers settings store id)

theorem agreeing_taken : Agreeing (taken settings store id) :=
  agreeing_nil.takenAfter _

theorem mem_offers_of_mem_taken {offer : Offer} (member : offer ∈ taken settings store id) :
    offer ∈ offers settings store id := by
  have split := taken_refused_perm [] (offers settings store id)
  exact split.mem_iff.1 (List.mem_append_left _ member)

/-- A collection gives the families that are made of what it takes, in the order of their names. -/
theorem collect_eq :
    ∃ families : Families, families.MadeOf (taken settings store id) ∧
      (collect settings store id).1 = families.values.map Family.sorted :=
  ⟨_, madeOf_collectEntries settings madeOf_empty store _, rfl⟩

theorem ascending_collect :
    (collect settings store id).1.Pairwise fun first second => first.name < second.name := by
  obtain ⟨families, made, same⟩ := collect_eq settings store id
  have name {entry : String × Family} (member : entry ∈ families.entries) :
      entry.2.name = entry.1 := by
    have own := (made entry.1).symm.trans (Dictionary.mem_entries_iff.1 member)
    obtain ⟨founder, _, equal⟩ := Option.map_eq_some_iff.1 own
    exact congrArg Family.name equal.symm
  rw [same, List.pairwise_map, Dictionary.values, List.pairwise_map]
  refine families.ascending.imp_of_mem fun {first second} firstIn secondIn below => ?_
  show first.2.name < second.2.name
  rw [name firstIn, name secondIn]
  exact below

theorem wellShaped_collect : ∀ family ∈ (collect settings store id).1, family.WellShaped := by
  obtain ⟨families, made, same⟩ := collect_eq settings store id
  intro family member
  rw [same, Dictionary.values, List.map_map] at member
  obtain ⟨entry, entryIn, rfl⟩ := List.mem_map.1 member
  refine wellShaped_sorted (agreeing_taken settings store id) (fun offer offerTaken => ?_)
    (fun offer offerTaken => ?_) ((made entry.1).symm.trans (Dictionary.mem_entries_iff.1 entryIn))
  · exact valid_of_mem_offered (mem_offers_of_mem_taken settings store id offerTaken)
  · exact isSummary_of_mem_offered (mem_offers_of_mem_taken settings store id offerTaken)

theorem listed_collect :
    ((collect settings store id).1.flatMap Family.listed).Perm
      ((taken settings store id).map Offer.listed) := by
  obtain ⟨families, made, same⟩ := collect_eq settings store id
  rw [same]
  exact listed_perm (agreeing_taken settings store id) made

/-- For every offer that is refused, one that was taken from an entry of a smaller name is in its
way. -/
theorem exists_bars_of_mem_refused {offer : Offer} {notice : Notice}
    (member : (offer, notice) ∈ refused settings store id) :
    ∃ rival ∈ taken settings store id, rival.entry < offer.entry ∧ rival.Bars offer notice := by
  obtain ⟨rival, rivalTaken, before, bars⟩ := exists_bars_of_mem_refusedAfter agreeing_nil
    (pairwise_offered settings store (store.registry id).ascending) member
  exact ⟨rival, rivalTaken, before.resolve_right fun own => own.2 bars.1, bars⟩

end Collection

/-- A collection gives well-shaped families in the order of their names, and nothing vanishes
silently. The entries of the registry offer each series that they are due once; every offer is
taken or refused, once; the families hold exactly what is taken; and what is refused has one warning
each, and one offer that was taken from an entry of a smaller name is in its way. -/
theorem collect_conserves (settings : Settings) (store : Store) (id : RegistryId) :
    (collect settings store id).1.Pairwise (fun first second => first.name < second.name) ∧
      (∀ family ∈ (collect settings store id).1, family.WellShaped) ∧
      (offers settings store id).map Offer.heading =
        (store.registry id).entries.flatMap (headings settings store) ∧
      (taken settings store id ++ (refused settings store id).map Prod.fst).Perm
        (offers settings store id) ∧
      ((collect settings store id).1.flatMap Family.listed).Perm
        ((taken settings store id).map Offer.listed) ∧
      ofLevel .warning (collect settings store id).2.notices =
        ofLevel .warning store.notices ++ (refused settings store id).map Prod.snd ∧
      ∀ offer notice, (offer, notice) ∈ refused settings store id →
        ∃ rival ∈ taken settings store id, rival.entry < offer.entry ∧ rival.Bars offer notice :=
  ⟨ascending_collect settings store id, wellShaped_collect settings store id,
    heading_offered settings store _, taken_refused_perm [] _, listed_collect settings store id,
    ofLevel_collectEntries settings madeOf_empty store _ .warning,
    fun _ _ member => exists_bars_of_mem_refused settings store id member⟩

end Telemetry.Exposition
