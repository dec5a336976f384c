/-
This file proves what the entries of a registry offer. How many series an entry
offers, and of which families, types and labels, is settled by its name and by
the kind of its metric; only the values are read. What was noted before does not
matter for what is read, so the offers of all entries can be listed before any of
them is taken or refused.
-/

import Telemetry.Exposition.SampleLine
import Telemetry.Proofs.Exposition.Families
import Telemetry.Proofs.Exposition.Labels
import Telemetry.Proofs.Store.Steady

namespace Telemetry

namespace Exposition

/-! ### Notices do not matter -/

theorem readForExposition_noting (store : Store) (notices : List Notice) (handle : Handle) :
    readForExposition (store.noting notices) handle =
      ((readForExposition store handle).1, (readForExposition store handle).2.noting notices) := by
  have same : (store.noting notices).metric? handle = store.metric? handle := rfl
  unfold readForExposition
  rw [same, store.read_noting]
  split <;> rfl

/-- The notice about a name without a valid character. -/
def unnamed (name : String) : List Notice :=
  if metricName (Name.read name).base = "" then [.noValidChar name] else []

theorem entryContributions_noting (settings : Settings) (store : Store) (notices : List Notice)
    (name : String) (handle : Handle) :
    entryContributions settings (store.noting notices) name handle =
      ((entryContributions settings store name handle).1,
        (entryContributions settings store name handle).2.noting (notices ++ unnamed name)) := by
  have same : (store.noting notices).kind? handle = store.kind? handle := rfl
  unfold entryContributions unnamed
  dsimp only
  by_cases empty : metricName (Name.read name).base = ""
  · simp only [if_pos empty]
    rfl
  · simp only [if_neg empty, List.append_nil, same, readForExposition_noting]
    cases store.kind? handle with
    | none => rfl
    | some kind =>
      dsimp only
      rcases readForExposition store handle with ⟨reading, next⟩
      cases reading <;> rfl

/-- An entry is noted only if its name holds no valid character. -/
theorem notices_entryContributions (settings : Settings) (store : Store) (name : String)
    (handle : Handle) :
    (entryContributions settings store name handle).2.notices =
      store.notices ++ unnamed name := by
  have same : store.noting store.notices = store := rfl
  have noted := entryContributions_noting settings store store.notices name handle
  rw [same] at noted
  exact congrArg (·.2.notices) noted

/-! ### What an entry offers -/

/-- What is known of an offer before its value is read. -/
structure Heading where
  entry : String
  family : String
  help : String
  type : FamilyType
  labels : Labels

/-- The heading of an offer. -/
def Offer.heading (offer : Offer) : Heading :=
  ⟨offer.entry, offer.family, offer.help, offer.type, offer.labels⟩

/-- The series of a kind: what stands behind the base in the name of the family, and the type. -/
def seriesOf : Kind → List (String × FamilyType)
  | .counter => [("", .untyped)]
  | .gauge | .floatGauge | .functionalGauge | .functionalFloatGauge => [("", .gauge)]
  | .histogram => [("_max", .untyped), ("_min", .untyped), ("", .summary)]
  | .meter => [("_count", .untyped)]
  | .timer => [("_max_seconds", .untyped), ("_min_seconds", .untyped), ("_seconds", .summary)]

/-- The headings that an entry of the given kind is due: one for each series of the kind. -/
def headingsOf (settings : Settings) (entry : String) (kind : Kind) : List Heading :=
  let parsed := Name.read entry
  (seriesOf kind).map fun series =>
    ⟨entry, metricName parsed.base ++ series.1, kind.word, series.2,
      seriesLabels settings parsed.tags kind.isSampled⟩

/-- The headings that an entry is due. An entry whose name holds no valid character is due none. -/
def headings (settings : Settings) (store : Store) (entry : String × Handle) : List Heading :=
  if metricName (Name.read entry.1).base = "" then []
  else (store.kind? entry.2).toList.flatMap (headingsOf settings entry.1)

/-- What an entry offers when it is read. -/
def offersOf (settings : Settings) (store : Store) (name : String) (handle : Handle) :
    List Offer :=
  (entryContributions settings store name handle).1.map fun item => ⟨item, name⟩

/-- A metric shows what its kind calls for. -/
theorem exists_reading {store : Store} {handle : Handle} {kind : Kind}
    (known : store.kind? handle = some kind) :
    ∃ reading, (readForExposition store handle).1 = some reading ∧
      ∀ settings base labels entry,
        (contributions settings base kind labels reading).map
            (fun item => (Offer.mk item entry).heading) =
          (seriesOf kind).map fun series =>
            ⟨entry, base ++ series.1, kind.word, series.2, labels⟩ := by
  obtain ⟨metric, found, rfl⟩ := Option.map_eq_some_iff.1 known
  unfold readForExposition Store.read
  rw [found]
  cases metric <;> exact ⟨_, rfl, fun _ _ _ _ => rfl⟩

/-- An entry offers exactly what it is due. -/
theorem heading_offersOf (settings : Settings) (store : Store) (name : String)
    (handle : Handle) :
    (offersOf settings store name handle).map Offer.heading =
      headings settings store (name, handle) := by
  unfold offersOf entryContributions headings
  dsimp only
  by_cases empty : metricName (Name.read name).base = ""
  · simp only [if_pos empty, List.map_nil]
  · simp only [if_neg empty]
    cases known : store.kind? handle with
    | none => rfl
    | some kind =>
      obtain ⟨reading, shown, due⟩ := exists_reading known
      generalize readForExposition store handle = answer at shown
      obtain ⟨read, next⟩ := answer
      obtain rfl : read = some reading := shown
      rw [List.map_map]
      exact (due _ _ _ _).trans (List.append_nil _).symm

/-! ### What all entries offer -/

/-- What the entries of a registry offer, each read after those before it. -/
def offered (settings : Settings) (store : Store) : List (String × Handle) → List Offer
  | [] => []
  | (name, handle) :: rest =>
    offersOf settings store name handle ++
      offered settings (entryContributions settings store name handle).2 rest

theorem offered_noting (settings : Settings) (store : Store) (notices : List Notice)
    (entries : List (String × Handle)) :
    offered settings (store.noting notices) entries = offered settings store entries := by
  induction entries generalizing store notices with
  | nil => rfl
  | cons entry rest inductionHypothesis =>
    simp only [offered, offersOf, entryContributions_noting, inductionHypothesis]

theorem headings_steady {before after : Store} (steady : Store.Steady before after)
    (settings : Settings) : headings settings after = headings settings before := by
  funext entry
  rw [headings, headings, steady.kind]

/-- All entries together offer exactly what they are due. -/
theorem heading_offered (settings : Settings) (store : Store) (entries : List (String × Handle)) :
    (offered settings store entries).map Offer.heading =
      entries.flatMap (headings settings store) := by
  induction entries generalizing store with
  | nil => rfl
  | cons entry rest inductionHypothesis =>
    obtain ⟨name, handle⟩ := entry
    rw [offered, List.map_append, heading_offersOf, inductionHypothesis,
      headings_steady (store.steady_entryContributions settings name handle),
      List.flatMap_cons]

/-! ### The values of offers -/

theorem exists_reading_of_mem_entryContributions {settings : Settings} {store : Store}
    {name : String} {handle : Handle} {item : Contribution}
    (member : item ∈ (entryContributions settings store name handle).1) :
    ∃ base kind labels reading, item ∈ contributions settings base kind labels reading := by
  unfold entryContributions at member
  dsimp only at member
  split at member
  · cases member
  · split at member
    · cases member
    · split at member
      · cases member
      · exact ⟨_, _, _, _, member⟩

/-- Every offer comes from a reading of a metric. -/
theorem exists_reading_of_mem_offered {settings : Settings} {store : Store}
    {entries : List (String × Handle)} {offer : Offer}
    (member : offer ∈ offered settings store entries) :
    ∃ base kind labels reading,
      offer.toContribution ∈ contributions settings base kind labels reading := by
  induction entries generalizing store with
  | nil => cases member
  | cons entry rest inductionHypothesis =>
    rcases List.mem_append.1 member with own | later
    · obtain ⟨item, itemMember, rfl⟩ := List.mem_map.1 own
      exact exists_reading_of_mem_entryContributions itemMember
    · exact inductionHypothesis later

/-- Whether a value is a summary. -/
def SeriesValue.isSummary : SeriesValue → Bool
  | .single _ => false
  | .summary _ _ _ => true

/-- The value of an offer is a summary exactly if its type says so. -/
theorem isSummary_of_mem_offered {settings : Settings} {store : Store}
    {entries : List (String × Handle)} {offer : Offer}
    (member : offer ∈ offered settings store entries) :
    offer.value.isSummary ↔ offer.type = .summary := by
  obtain ⟨base, kind, labels, reading, own⟩ := exists_reading_of_mem_offered member
  generalize offer.toContribution = item at own ⊢
  cases reading <;>
    simp only [contributions, List.mem_cons, List.not_mem_nil, or_false] at own <;>
    rcases own with rfl | rfl | rfl <;>
    simp [SeriesValue.isSummary, summary]

/-- The texts of the quantiles that a value shows. -/
def SeriesValue.quantileTexts : SeriesValue → List (List Char)
  | .single _ => []
  | .summary quantiles _ _ => quantiles.map fun item => writeNumber item.1

/-- A summary shows the quantiles that the settings choose for histograms or for timers. -/
theorem quantileTexts_of_mem_offered {settings : Settings} {store : Store}
    {entries : List (String × Handle)} {offer : Offer}
    (member : offer ∈ offered settings store entries) :
    offer.value.quantileTexts ∈
      [[], settings.histogramQuantiles.map writeNumber,
        settings.timerQuantiles.map writeNumber] := by
  obtain ⟨base, kind, labels, reading, own⟩ := exists_reading_of_mem_offered member
  generalize offer.toContribution = item at own ⊢
  cases reading <;>
    simp only [contributions, List.mem_cons, List.not_mem_nil, or_false] at own <;>
    rcases own with rfl | rfl | rfl <;>
    simp [SeriesValue.quantileTexts, summary, Function.comp_def]

/-! ### The order of offers -/

/-- A heading stands before those of later entries, and before those of its own entry that are of
other families. -/
def Heading.Precedes (first second : Heading) : Prop :=
  first.entry < second.entry ∨ first.entry = second.entry ∧ first.family ≠ second.family

theorem pairwise_headingsOf (settings : Settings) (entry : String) (kind : Kind) :
    (headingsOf settings entry kind).Pairwise Heading.Precedes := by
  have distinct : ((seriesOf kind).map Prod.fst).Nodup := by
    cases kind <;> decide
  unfold headingsOf
  dsimp only
  rw [List.pairwise_map]
  refine (List.pairwise_map.1 distinct).imp fun different => .inr ⟨rfl, fun same => different ?_⟩
  exact (String.append_right_inj _).1 same

theorem entry_of_mem_headings {settings : Settings} {store : Store} {entry : String × Handle}
    {heading : Heading} (member : heading ∈ headings settings store entry) :
    heading.entry = entry.1 := by
  unfold headings at member
  split at member
  · cases member
  · obtain ⟨kind, _, own⟩ := List.mem_flatMap.1 member
    obtain ⟨series, _, rfl⟩ := List.mem_map.1 own
    rfl

theorem pairwise_headings (settings : Settings) (store : Store) (entry : String × Handle) :
    (headings settings store entry).Pairwise Heading.Precedes := by
  unfold headings
  split
  · exact .nil
  · cases store.kind? entry.2 with
    | none => exact .nil
    | some kind =>
      rw [Option.toList_some, List.flatMap_singleton]
      exact pairwise_headingsOf settings entry.1 kind

/-- Offers come in the order of their entries, and those of one entry are of different families. -/
theorem pairwise_offered (settings : Settings) (store : Store) {entries : List (String × Handle)}
    (ascending : entries.Pairwise fun first second => first.1 < second.1) :
    (offered settings store entries).Pairwise fun first second =>
      first.heading.Precedes second.heading := by
  rw [← List.pairwise_map, heading_offered, List.pairwise_flatMap]
  refine ⟨fun entry _ => pairwise_headings settings store entry, ascending.imp ?_⟩
  intro first second below heading member other otherMember
  refine .inl ?_
  rw [entry_of_mem_headings member, entry_of_mem_headings otherMember]
  exact below

end Exposition

end Telemetry
