/-
This file says what a plan for a structure has in it. A field that is annotated
as a metric either has a flaw or describes a metric, and never both. A structure
with flawed fields has no plan, only one fault for each flawed field. Otherwise
the plan has the metrics of the annotated fields in the order of the fields, and
if no two fields share a name, every field is set up by what it is itself.
-/

import Mathlib.Data.List.Forall2
import Mathlib.Data.List.Nodup
import Telemetry.Blueprint.Plan

namespace Telemetry.Blueprint

/-! ### Single fields -/

namespace Member

/-- Whether a field is annotated as a metric. -/
def isAnnotated (member : Member) : Bool :=
  member.annotations.any Annotation.isMetric

/-- The first annotation of a field that makes it a metric says the given things. -/
def IsLabelled (member : Member) (labelling : Labelling) : Prop :=
  ∃ given, member.annotations.find? Annotation.isMetric = some given ∧
    given.labelling = .ok labelling

/-- What can be wrong with a field that is annotated as a metric: the annotation cannot be read, it
gives no name or an empty one, or the type is not that of a metric. -/
inductive Flaw (member : Member) : Fault → Prop
  | unreadable {given : Annotation} {fault : Fault}
    (first : member.annotations.find? Annotation.isMetric = some given)
    (wrong : given.labelling = .error fault) : Flaw member fault
  | missingName {labelling : Labelling} (labelled : member.IsLabelled labelling)
    (absent : labelling.name = none) : Flaw member (.missingName member.name)
  | emptyName {labelling : Labelling} (labelled : member.IsLabelled labelling)
    (empty : labelling.name = some "") : Flaw member (.emptyName member.name)
  | notMetric {labelling : Labelling} {name : String} (labelled : member.IsLabelled labelling)
    (named : labelling.name = some name) (nonempty : name ≠ "")
    (wrong : classify member.type = .error .notMetric) : Flaw member (.notMetric member.name)
  | taggedFunctional {labelling : Labelling} {name : String} {kind : Kind}
    (labelled : member.IsLabelled labelling) (named : labelling.name = some name)
    (nonempty : name ≠ "") (wrong : classify member.type = .error (.taggedFunctional kind)) :
    Flaw member (.taggedFunctional member.name kind)

/-- A field that is annotated as a metric and has a flaw. -/
def IsBad (member : Member) : Prop :=
  ∃ fault, member.Flaw fault

/-- The field describes the metric: it has its name and its sample from the annotation and its kind
from the type. -/
structure Holds (member : Member) (metric : MetricField) : Prop where
  field : metric.field = member.name
  labelled : member.IsLabelled ⟨some metric.name, metric.sample⟩
  named : metric.name ≠ ""
  kind : classify member.type = .ok metric.kind

variable {member : Member}

theorem isAnnotated_eq_false_iff :
    member.isAnnotated = false ↔ member.annotations.find? Annotation.isMetric = none := by
  rw [isAnnotated, List.any_eq_false, List.find?_eq_none]

theorem isAnnotated_of_find? {given : Annotation}
    (first : member.annotations.find? Annotation.isMetric = some given) :
    member.isAnnotated = true :=
  List.any_eq_true.2 ⟨given, List.mem_of_find?_eq_some first, List.find?_some first⟩

theorem kind_eq_ok_iff {kind : FieldKind} :
    member.kind = .ok kind ↔ classify member.type = .ok kind := by
  rw [Member.kind]
  split <;> simp_all

theorem metric?_of_isLabelled {labelling : Labelling} (labelled : member.IsLabelled labelling) :
    member.metric? =
      match labelling.name with
      | none => .error (.missingName member.name)
      | some name =>
        if name = "" then .error (.emptyName member.name)
        else member.kind.map fun kind => some ⟨member.name, name, kind, labelling.sample⟩ := by
  obtain ⟨given, first, read⟩ := labelled
  rw [metric?, first]
  dsimp only
  rw [read]
  dsimp only [bind, Except.bind]
  cases labelling.name with
  | none => rfl
  | some name =>
    dsimp only
    split
    · rfl
    · cases member.kind <;> rfl

theorem Flaw.metric?_eq {fault : Fault} (flaw : member.Flaw fault) :
    member.metric? = .error fault := by
  cases flaw with
  | unreadable first wrong =>
    rw [metric?, first]
    dsimp only
    rw [wrong]
    rfl
  | missingName labelled absent => rw [metric?_of_isLabelled labelled, absent]
  | emptyName labelled empty =>
    rw [metric?_of_isLabelled labelled, empty]
    exact if_pos rfl
  | notMetric labelled named nonempty wrong | taggedFunctional labelled named nonempty wrong =>
    rw [metric?_of_isLabelled labelled, named]
    dsimp only
    rw [if_neg nonempty, Member.kind, wrong]
    rfl

theorem Holds.metric?_eq {metric : MetricField} (holds : member.Holds metric) :
    member.metric? = .ok (some metric) := by
  obtain ⟨field, name, kind, sample⟩ := metric
  obtain ⟨rfl, labelled, named, kind⟩ := holds
  rw [metric?_of_isLabelled labelled]
  dsimp only at named ⊢
  rw [if_neg named, kind_eq_ok_iff.2 kind]
  rfl

/-- A field that is annotated has a flaw or describes a metric. -/
theorem exists_flaw_or_holds (annotated : member.isAnnotated = true) :
    (∃ fault, member.Flaw fault) ∨ ∃ metric, member.Holds metric := by
  cases first : member.annotations.find? Annotation.isMetric with
  | none =>
    rw [isAnnotated_eq_false_iff.2 first] at annotated
    cases annotated
  | some given =>
    cases read : given.labelling with
    | error fault => exact .inl ⟨fault, .unreadable first read⟩
    | ok labelling =>
      have labelled : member.IsLabelled labelling := ⟨given, first, read⟩
      cases named : labelling.name with
      | none => exact .inl ⟨_, .missingName labelled named⟩
      | some name =>
        by_cases empty : name = ""
        · exact .inl ⟨_, .emptyName labelled (empty ▸ named)⟩
        · cases classified : classify member.type with
          | error fault =>
            cases fault with
            | notMetric => exact .inl ⟨_, .notMetric labelled named empty classified⟩
            | taggedFunctional kind =>
              exact .inl ⟨_, .taggedFunctional labelled named empty classified⟩
          | ok kind =>
            obtain ⟨ownName, sample⟩ := labelling
            cases named
            exact .inr ⟨⟨member.name, name, kind, sample⟩, rfl, labelled, empty, classified⟩

theorem metric?_of_not_isAnnotated (free : member.isAnnotated = false) :
    member.metric? = .ok none := by
  rw [metric?, isAnnotated_eq_false_iff.1 free]

theorem Holds.isAnnotated {metric : MetricField} (holds : member.Holds metric) :
    member.isAnnotated = true := by
  obtain ⟨given, first, -⟩ := holds.labelled
  exact isAnnotated_of_find? first

/-- What the annotations of a field come to: nothing, a flaw or a metric. -/
theorem metric?_cases (member : Member) :
    (member.isAnnotated = false ∧ member.metric? = .ok none) ∨
    (∃ fault, member.Flaw fault ∧ member.metric? = .error fault) ∨
    ∃ metric, member.Holds metric ∧ member.metric? = .ok (some metric) := by
  cases annotated : member.isAnnotated with
  | false => exact .inl ⟨rfl, metric?_of_not_isAnnotated annotated⟩
  | true =>
    rcases exists_flaw_or_holds annotated with ⟨fault, flaw⟩ | ⟨metric, holds⟩
    · exact .inr (.inl ⟨fault, flaw, flaw.metric?_eq⟩)
    · exact .inr (.inr ⟨metric, holds, holds.metric?_eq⟩)

theorem flaw_iff {fault : Fault} : member.Flaw fault ↔ member.metric? = .error fault := by
  refine ⟨Flaw.metric?_eq, fun failed => ?_⟩
  rcases member.metric?_cases with ⟨-, own⟩ | ⟨other, flaw, own⟩ | ⟨metric, -, own⟩
  · cases own.symm.trans failed
  · cases own.symm.trans failed
    exact flaw
  · cases own.symm.trans failed

theorem holds_iff {metric : MetricField} :
    member.Holds metric ↔ member.metric? = .ok (some metric) := by
  refine ⟨Holds.metric?_eq, fun found => ?_⟩
  rcases member.metric?_cases with ⟨-, own⟩ | ⟨fault, -, own⟩ | ⟨other, holds, own⟩
  · cases own.symm.trans found
  · cases own.symm.trans found
  · cases own.symm.trans found
    exact holds

theorem isBad_iff : member.IsBad ↔ member.metric?.isOk = false := by
  simp only [IsBad, flaw_iff]
  cases member.metric? <;> simp [Except.isOk, Except.toBool]

instance : DecidablePred IsBad :=
  fun _ => decidable_of_iff _ isBad_iff.symm

end Member

/-! ### Whole structures -/

/-- There is one fault for each field with a flaw, in the order of the fields. -/
theorem forall₂_flaw_gatherMetrics (members : List Member) :
    List.Forall₂ Member.Flaw (members.filter (·.IsBad)) (gatherMetrics members).2 := by
  induction members with
  | nil => exact .nil
  | cons member rest inductionHypothesis =>
    rw [gatherMetrics, List.filter_cons]
    cases found : member.metric? with
    | ok metric? =>
      have sound : ¬ member.IsBad := by simp [Member.isBad_iff, found, Except.isOk, Except.toBool]
      cases metric? <;> simpa [sound] using inductionHypothesis
    | error fault =>
      have flaw := Member.flaw_iff.2 found
      have bad : member.IsBad := ⟨fault, flaw⟩
      simpa [bad] using List.Forall₂.cons flaw inductionHypothesis

/-- If no field has a flaw, there is one metric for each annotated field, in the order of the
fields. -/
theorem forall₂_holds_gatherMetrics {members : List Member}
    (sound : ∀ member ∈ members, ¬ member.IsBad) :
    List.Forall₂ Member.Holds (members.filter (·.isAnnotated)) (gatherMetrics members).1 := by
  induction members with
  | nil => exact .nil
  | cons member rest inductionHypothesis =>
    have later := inductionHypothesis fun other inside =>
      sound other (List.mem_cons_of_mem _ inside)
    rw [gatherMetrics, List.filter_cons]
    cases annotated : member.isAnnotated with
    | false => simpa [Member.metric?_of_not_isAnnotated annotated] using later
    | true =>
      rcases Member.exists_flaw_or_holds annotated with bad | ⟨metric, holds⟩
      · exact absurd bad (sound member List.mem_cons_self)
      · simpa [holds.metric?_eq] using List.Forall₂.cons holds later

theorem mem_gatherMetrics_iff {members : List Member} {metric : MetricField} :
    metric ∈ (gatherMetrics members).1 ↔ ∃ member ∈ members, member.Holds metric := by
  simp only [Member.holds_iff]
  induction members with
  | nil => simp [gatherMetrics]
  | cons member rest inductionHypothesis =>
    rw [gatherMetrics]
    cases found : member.metric? with
    | error fault => simp [inductionHypothesis, found]
    | ok metric? => cases metric? <;> simp [inductionHypothesis, found, eq_comm]

/-! ### How fields are set up -/

/-- How a field is set up, given the names of all fields. A functional gauge takes its value from
the field that is named as its accessor, if there is one, and otherwise from a method. -/
inductive Member.IsSetUp (fields : List String) (member : Member) : Setup → Prop
  | plainValue (free : member.isAnnotated = false) : IsSetUp fields member .plainValue
  | tagged {kind : StoredKind} (annotated : member.isAnnotated = true)
    (classified : classify member.type = .ok (.tagged kind)) : IsSetUp fields member .tagged
  | sampled {kind : Kind} (annotated : member.isAnnotated = true)
    (classified : classify member.type = .ok (.plain kind)) (sampled : kind.isSampled = true) :
    IsSetUp fields member .sampled
  | fresh {kind : Kind} (annotated : member.isAnnotated = true)
    (classified : classify member.type = .ok (.plain kind)) (plain : kind.isSampled = false)
    (stored : kind.isFunctional = false) : IsSetUp fields member .fresh
  | fromField {kind : Kind} {type : ValueType} (annotated : member.isAnnotated = true)
    (classified : classify member.type = .ok (.plain kind))
    (computed : computedType? kind = some type)
    (present : accessorName (unescaped member.name) ∈ fields) :
    IsSetUp fields member (.fromField type)
  | fromMethod {kind : Kind} {type : ValueType} (annotated : member.isAnnotated = true)
    (classified : classify member.type = .ok (.plain kind))
    (computed : computedType? kind = some type)
    (absent : accessorName (unescaped member.name) ∉ fields) :
    IsSetUp fields member (.fromMethod type)

theorem Member.Holds.isSetUp {member : Member} {metric : MetricField}
    (holds : member.Holds metric) (fields : List String) :
    member.IsSetUp fields (metric.setup fields) := by
  have annotated := holds.isAnnotated
  have classified := holds.kind
  have field := holds.field
  rw [MetricField.setup]
  cases kind : metric.kind with
  | tagged stored => exact .tagged annotated (kind ▸ classified)
  | plain plain =>
    rw [kind] at classified
    dsimp only
    cases computed : computedType? plain with
    | some type =>
      dsimp only
      rw [field]
      split
      · rename_i present
        exact .fromField annotated classified computed (List.contains_iff_mem.1 present)
      · rename_i absent
        exact .fromMethod annotated classified computed fun present =>
          absent (List.contains_iff_mem.2 present)
    | none =>
      dsimp only
      split
      · rename_i sampled
        exact .sampled annotated classified sampled
      · rename_i unsampled
        exact .fresh annotated classified (Bool.eq_false_iff.2 unsampled)
          (isFunctional_of_computedType? computed)

/-- A field is set up as a metric exactly if it is annotated. -/
theorem Member.IsSetUp.isAnnotated_eq {fields : List String} {member : Member} {setup : Setup}
    (isSetUp : member.IsSetUp fields setup) :
    member.isAnnotated = decide (setup ≠ .plainValue) := by
  cases isSetUp with
  | plainValue free => exact free
  | tagged annotated | sampled annotated | fresh annotated | fromField annotated
  | fromMethod annotated => exact annotated

/-- If no two fields share a name, looking up the metric of a field finds its own. -/
theorem isSetUp_setupOf {members : List Member} (distinct : (members.map (·.name)).Nodup)
    (sound : ∀ member ∈ members, ¬ member.IsBad) {member : Member} (inside : member ∈ members)
    (fields : List String) :
    member.IsSetUp fields (setupOf fields (gatherMetrics members).1 member.name) := by
  -- A metric is looked up by the name of its field, so only distinct names make it the own one.
  have own {metric : MetricField}
      (found : (gatherMetrics members).1.find? (fun metric => metric.field = member.name) =
        some metric) : member.Holds metric := by
    obtain ⟨other, insideToo, holds⟩ := mem_gatherMetrics_iff.1 (List.mem_of_find?_eq_some found)
    have sameName : other.name = member.name :=
      holds.field.symm.trans (by simpa using List.find?_some found)
    exact List.inj_on_of_nodup_map distinct insideToo inside sameName ▸ holds
  rw [setupOf]
  cases found : (gatherMetrics members).1.find? fun metric => metric.field = member.name with
  | some metric => exact (own found).isSetUp fields
  | none =>
    cases annotated : member.isAnnotated with
    | false => exact .plainValue annotated
    | true =>
      rcases Member.exists_flaw_or_holds annotated with bad | ⟨metric, holds⟩
      · exact absurd bad (sound member inside)
      · have listed := mem_gatherMetrics_iff.2 ⟨member, inside, holds⟩
        exact absurd (decide_eq_true holds.field) (List.find?_eq_none.1 found metric listed)

/-! ### Plans -/

theorem faults_eq_nil_iff {members : List Member} :
    (gatherMetrics members).2 = [] ↔ ∀ member ∈ members, ¬ member.IsBad := by
  have length := (forall₂_flaw_gatherMetrics members).length_eq
  rw [← List.length_eq_zero_iff, ← length, List.length_eq_zero_iff, List.filter_eq_nil_iff]
  simp only [decide_eq_true_eq]

/-- The plan that a structure without flawed fields has. -/
def planned (members : List Member) : Plan :=
  let metrics := (gatherMetrics members).1
  let fields := members.map (·.name)
  ⟨metrics, fields.map fun field => (field, setupOf fields metrics field)⟩

theorem plan_of_sound {members : List Member} (sound : ∀ member ∈ members, ¬ member.IsBad) :
    plan (.named members) = .ok (planned members) :=
  if_pos (List.isEmpty_iff.2 (faults_eq_nil_iff.2 sound))

theorem plan_of_isBad {members : List Member} (bad : ∃ member ∈ members, member.IsBad) :
    plan (.named members) = .error (gatherMetrics members).2 := by
  refine if_neg fun empty => ?_
  obtain ⟨member, inside, flawed⟩ := bad
  exact faults_eq_nil_iff.1 (List.isEmpty_iff.1 empty) member inside flawed

/-- If no two fields share a name, each is set up by what it is itself. -/
theorem forall₂_isSetUp_planned {members : List Member}
    (distinct : (members.map (·.name)).Nodup) (sound : ∀ member ∈ members, ¬ member.IsBad) :
    List.Forall₂
      (fun member setup => setup.1 = member.name ∧
        member.IsSetUp (members.map (·.name)) setup.2)
      members (planned members).setups := by
  rw [planned, List.map_map]
  exact List.forall₂_map_right_iff.2 (List.forall₂_same.2 fun member inside =>
    ⟨rfl, isSetUp_setupOf distinct sound inside _⟩)

/-- The fields that are set up as metrics are the annotated ones, in order. -/
theorem map_fst_filter_setups {fields : List String} {members : List Member}
    {setups : List (String × Setup)}
    (own : List.Forall₂
      (fun member setup => setup.1 = member.name ∧ member.IsSetUp fields setup.2)
      members setups) :
    (setups.filter (·.2 ≠ .plainValue)).map Prod.fst =
      (members.filter (·.isAnnotated)).map (·.name) := by
  induction own with
  | nil => rfl
  | cons head _ inductionHypothesis =>
    rw [List.filter_cons, List.filter_cons, head.2.isAnnotated_eq]
    split
    · rw [List.map_cons, List.map_cons, inductionHypothesis, head.1]
    · exact inductionHypothesis

end Telemetry.Blueprint
