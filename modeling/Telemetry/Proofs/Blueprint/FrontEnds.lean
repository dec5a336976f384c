/-
This file compares the two ways to a group of metrics. A planned structure makes
its metrics itself, and its declarations can be made into a group as well. Both
read the same types, names and samples: they fail for the first description of a
sample that is faulty, or they come to the same fields, and the metrics behind
these differ at most in the source that a functional gauge reads.
-/

import Telemetry.Blueprint.Populate
import Telemetry.Proofs.Blueprint.Plans
import Telemetry.Proofs.Holder.Population

namespace Telemetry

open Store

/-! ### Written types -/

namespace FieldKind

/-- A type with tags is read by its parts. -/
theorem read_of_argument? {text : String} (outer inner : List Char) {kind : StoredKind}
    (parts : argument? (Text.trim text.toList) = some (outer, inner))
    (tagged : lastSegment outer = "Tagged".toList) (named : ofPath? inner = some kind.kind) :
    read text = .ok (.tagged kind) := by
  simp only [read, parts, tagged, named, Kind.stored?, kind.stored]
  rfl

/-- The written form of a type reads as that type. -/
theorem read_written (kind : FieldKind) : read kind.written = .ok kind := by
  cases kind with
  | plain kind => cases kind <;> rfl
  | tagged stored =>
    refine read_of_argument? "Tagged".toList stored.kind.word.toList ?_ rfl ?_
    · rw [written, String.toList_append, String.toList_append]
      cases stored.kind <;> rfl
    · cases stored.kind <;> rfl

end FieldKind

/-! ### Stores that differ in sources only -/

/-- The metrics are the same, or they are functional gauges of one kind. -/
def Metric.SameButSource (first second : Metric) : Prop :=
  first.kind = second.kind ∧ (first.kind.isFunctional = false → first = second)

namespace Store

/-- The stores are the same, except that functional gauges may read other sources. -/
structure SameButSources (first second : Store) : Prop where
  rest : second = { first with metrics := second.metrics }
  size : second.metrics.size = first.metrics.size
  metric : ∀ handle, Option.Rel Metric.SameButSource (first.metric? handle) (second.metric? handle)

namespace SameButSources

theorem refl (store : Store) : SameButSources store store := by
  refine ⟨rfl, rfl, fun handle => ?_⟩
  cases store.metric? handle with
  | none => exact .none
  | some metric => exact .some ⟨rfl, fun _ => rfl⟩

variable {first second : Store} (same : SameButSources first second)

include same

theorem now : second.now = first.now := by
  rw [same.rest]

theorem nextHandle : second.nextHandle = first.nextHandle :=
  congrArg Handle.mk same.size

theorem create {one other : Metric} (alike : one.SameButSource other) :
    SameButSources (first.create one).2 (second.create other).2 := by
  refine ⟨?_, ?_, fun handle => ?_⟩
  · exact congrArg (fun store : Store => { store with metrics := second.metrics.push other })
      same.rest
  · simp only [Store.create, Array.size_push, same.size]
  · rw [metric?_create, metric?_create, same.nextHandle]
    split
    · exact .some alike
    · exact same.metric handle

end SameButSources

end Store

namespace Blueprint

/-! ### Single fields -/

namespace MetricField

variable (metric : MetricField)

theorem kind_declaration : metric.declaration.kind = .ok metric.kind := by
  have read : FieldKind.read metric.declaration.type = .ok metric.kind :=
    FieldKind.read_written metric.kind
  rw [Declaration.kind, read]

end MetricField

theorem freshMetric_stored (sources : String → SourceId) (store : Store) (field : String)
    (kind : StoredKind) (spec : Sample.Spec) :
    freshMetric sources store field kind.kind spec = .fresh kind spec store.now := by
  obtain ⟨kind, stored⟩ := kind
  cases kind with
  | functionalGauge | functionalFloatGauge => nomatch stored
  | _ => rfl

/-- A metric that is made from a declaration is the one that the plan makes, but for its source. -/
theorem sameButSource_of_starts {accessors : Dictionary Accessor} {field : String}
    {spec : Sample.Spec} {store : Store} {kind : Kind} {metric : Metric}
    (starts : Starts accessors field spec store.now kind metric) (sources : String → SourceId)
    (other : String) : metric.SameButSource (freshMetric sources store other kind spec) := by
  cases starts with
  | functionalGauge | functionalFloatGauge => exact ⟨rfl, nofun⟩
  | fresh kind =>
    rw [freshMetric_stored]
    exact ⟨rfl, fun _ => rfl⟩

/-- Both ways make the same field of a metric, in stores that differ in sources only. -/
theorem exists_same_field {metric : MetricField} {spec : Sample.Spec}
    (told : metric.declaration.sampleSpec = .ok spec) {accessors : Dictionary Accessor}
    (supplied : metric.declaration.HasSource accessors) (sources : String → SourceId)
    {first second : Store} (same : SameButSources first second) :
    ∃ field runtime derived,
      Field.ofDeclaration metric.declaration accessors first = .ok (field, runtime) ∧
        buildField sources second (metric, spec) = (field, derived) ∧
        SameButSources runtime derived := by
  have read := metric.kind_declaration
  rw [buildField]
  dsimp only
  cases kind : metric.kind with
  | tagged stored =>
    rw [kind] at read
    exact ⟨_, first, second, Field.ofDeclaration_tagged told first read, rfl, same⟩
  | plain plain =>
    rw [kind] at read
    obtain ⟨one, starts, made⟩ := Field.ofDeclaration_plain told first read supplied
    rw [← same.now] at starts
    have alike := sameButSource_of_starts starts sources metric.field
    refine ⟨_, _, _, made, ?_, same.create alike⟩
    dsimp only [MetricField.declaration]
    rw [← same.nextHandle]
    rfl

/-! ### Whole groups -/

/-- Both ways fail alike, or come to the same fields in stores that differ in sources only. -/
theorem populateFields_planned {metrics : List MetricField} {accessors : Dictionary Accessor}
    (supplied : ∀ metric ∈ metrics, metric.declaration.HasSource accessors)
    (sources : String → SourceId) {first second : Store} (same : SameButSources first second) :
    (∃ error, readSpecs metrics = .error error ∧
      Holder.populateFields accessors first (metrics.map MetricField.declaration) =
        .error error) ∨
    ∃ specified fields runtime derived, readSpecs metrics = .ok specified ∧
      buildFields sources second specified = (fields, derived) ∧
      Holder.populateFields accessors first (metrics.map MetricField.declaration) =
        .ok (fields, runtime) ∧
      SameButSources runtime derived := by
  -- The plan reads all descriptions before it makes a field, the group reads each one when its turn
  -- comes, so the induction is on the metrics for both and the stores change along with it.
  induction metrics generalizing first second with
  | nil => exact .inr ⟨[], [], first, second, rfl, rfl, rfl, same⟩
  | cons metric rest inductionHypothesis =>
    have suppliedHere := supplied metric List.mem_cons_self
    rw [readSpecs, List.map_cons, Holder.populateFields]
    cases told : metric.declaration.sampleSpec with
    | error error =>
      have refused : metric.declaration.refusal? accessors = some error := by
        rw [Declaration.refusal?, Declaration.validate_eq_error_iff.2 told]
      exact .inl ⟨error, rfl, by rw [Field.ofDeclaration_eq_error_iff.2 refused]; rfl⟩
    | ok spec =>
      obtain ⟨field, runtime, derived, made, built, sameThen⟩ :=
        exists_same_field told suppliedHere sources same
      rw [made]
      have suppliedRest := fun other inside => supplied other (List.mem_cons_of_mem _ inside)
      rcases inductionHypothesis suppliedRest sameThen with
        ⟨error, failed, failedToo⟩ |
        ⟨specified, fields, runtime, derived, succeeded, builtToo, madeToo, sameAfter⟩
      · exact .inl ⟨error, by simp only [bind, Except.bind, failed],
          by simp only [bind, Except.bind, failedToo]⟩
      · exact .inr ⟨(metric, spec) :: specified, field :: fields, runtime, derived,
          by simp only [bind, Except.bind, succeeded],
          by simp only [buildFields, built, builtToo],
          by simp only [bind, Except.bind, madeToo], sameAfter⟩

/-- How making the metrics of a plan compares with making a group from its declarations: both come
to the same fields, which are as declared, or both fail for the first description of a sample that
is faulty. -/
inductive Plan.PopulatesAlike (made : Plan) (accessors : Dictionary Accessor)
    (sources : String → SourceId) (store : Store) : Prop
  | succeed {holder : Holder} {runtime derived : Store}
    (declared : Holder.populate made.declarations accessors store = .ok (holder, runtime))
    (planned : made.populate sources store = .ok (holder, derived))
    (same : SameButSources runtime derived)
    (fields : List.Forall₂ (IsMade accessors store.now runtime) made.declarations holder.fields)
  | fail {before after : List Declaration} {declaration : Declaration} {text : String}
    {fault : Sample.SpecError} (split : made.declarations = before ++ declaration :: after)
    (sound : ∀ earlier ∈ before, ∃ spec, earlier.sampleSpec = .ok spec)
    (described : declaration.sample = some text) (faulty : Sample.Spec.read text = .error fault)
    (declared : Holder.populate made.declarations accessors store =
      .error (.invalidSample declaration.field fault))
    (planned : made.populate sources store = .error (.invalidSample declaration.field fault))

/-- If the kind of a declaration is known and its source is there, only its sample can be faulty. -/
theorem exists_fault_of_refusal? {declaration : Declaration} {accessors : Dictionary Accessor}
    {kind : FieldKind} {error : DefinitionError} (read : declaration.kind = .ok kind)
    (supplied : declaration.HasSource accessors)
    (refused : declaration.refusal? accessors = some error) :
    ∃ text fault, declaration.sample = some text ∧ Sample.Spec.read text = .error fault ∧
      error = .invalidSample declaration.field fault := by
  refine Declaration.exists_fault_of_sampleSpec_error read ?_
  cases valid : declaration.validate with
  | ok kind =>
    rw [Declaration.refusal?_eq_none_iff.2 ⟨⟨kind, valid⟩, supplied⟩] at refused
    cases refused
  | error other =>
    rw [Declaration.refusal?, valid] at refused
    cases refused
    exact Declaration.validate_eq_error_iff.1 valid

/-- If every functional gauge has its source, the two ways to a group agree. -/
theorem Plan.populatesAlike (made : Plan) {accessors : Dictionary Accessor}
    (supplied : ∀ declaration ∈ made.declarations, declaration.HasSource accessors)
    (sources : String → SourceId) (store : Store) :
    made.PopulatesAlike accessors sources store := by
  have suppliedMetrics : ∀ metric ∈ made.metrics, metric.declaration.HasSource accessors :=
    fun metric inside => supplied _ (List.mem_map_of_mem inside)
  have run := Holder.populateFields_cases made.declarations accessors store
  rcases populateFields_planned suppliedMetrics sources (.refl store) with
    ⟨error, failed, failedToo⟩ |
    ⟨specified, fields, runtime, derived, succeeded, built, madeToo, same⟩
  · rw [declarations, failedToo] at run
    rcases run with ⟨other, refused, own⟩ | ⟨-, fields, populated, own, -⟩
    · cases own
      obtain ⟨before, declaration, after, split, refused, earlier⟩ :=
        List.findSome?_eq_some_iff.1 refused
      have inside : declaration ∈ made.declarations := by
        rw [declarations, split]
        exact List.mem_append_right _ List.mem_cons_self
      obtain ⟨metric, -, rfl⟩ := List.mem_map.1 inside
      obtain ⟨text, fault, described, faulty, rfl⟩ :=
        exists_fault_of_refusal? metric.kind_declaration (supplied _ inside) refused
      refine .fail split (fun one member => ?_) described faulty ?_ ?_
      · obtain ⟨⟨kind, valid⟩, -⟩ := Declaration.refusal?_eq_none_iff.1 (earlier one member)
        exact (Declaration.validate_eq_ok_iff.1 valid).2
      · rw [Holder.populate, declarations, failedToo]
        rfl
      · rw [Plan.populate, failed]
        rfl
    · cases own
  · rw [declarations, madeToo] at run
    rcases run with ⟨error, -, own⟩ | ⟨-, others, populated, own, -, areMade⟩
    · cases own
    · cases own
      refine .succeed ?_ ?_ same areMade
      · rw [Holder.populate, declarations, madeToo]
        rfl
      · simp only [Plan.populate, succeeded, built, bind, Except.bind]

/-! ### Plans and declarations -/

/-- The declaration says what the field says: its name and its sample as the annotation has them,
and the kind of its type. -/
structure Member.Declares (member : Member) (declaration : Declaration) : Prop where
  field : declaration.field = member.name
  labelled : member.IsLabelled ⟨some declaration.name, declaration.sample⟩
  named : declaration.name ≠ ""
  kind : ∃ kind, classify member.type = .ok kind ∧ declaration.kind = .ok kind

theorem Member.Holds.declares {member : Member} {metric : MetricField}
    (holds : member.Holds metric) : member.Declares metric.declaration :=
  ⟨holds.field, holds.labelled, holds.named, metric.kind, holds.kind, metric.kind_declaration⟩

theorem map_field_of_declares {members : List Member} {declarations : List Declaration}
    (declares : List.Forall₂ Member.Declares members declarations) :
    declarations.map (·.field) = members.map (·.name) := by
  induction declares with
  | nil => rfl
  | cons own _ inductionHypothesis =>
    rw [List.map_cons, List.map_cons, own.field, inductionHypothesis]

/-- The plan lists the annotated fields in order: as declarations, as what is visited, and, if no
two fields share a name, as what is set up as a metric. -/
structure Plan.Lists (members : List Member) (made : Plan) : Prop where
  declarations : List.Forall₂ Member.Declares (members.filter (·.isAnnotated)) made.declarations
  visits : made.visits = made.declarations.map fun declaration =>
    (declaration.name, declaration.field)
  setups : made.setups.map Prod.fst = members.map (·.name)
  initialised : (members.map (·.name)).Nodup →
    List.Forall₂ (fun member setup => member.IsSetUp (members.map (·.name)) setup.2) members
      made.setups ∧
    (made.setups.filter (·.2 ≠ .plainValue)).map Prod.fst = made.declarations.map (·.field)

theorem lists_planned {members : List Member} (sound : ∀ member ∈ members, ¬ member.IsBad) :
    (planned members).Lists members := by
  have declares : List.Forall₂ Member.Declares (members.filter (·.isAnnotated))
      (planned members).declarations :=
    List.forall₂_map_right_iff.2
      ((forall₂_holds_gatherMetrics sound).imp fun _ _ => Member.Holds.declares)
  refine ⟨declares, ?_, ?_, fun distinct => ?_⟩
  · rw [Plan.declarations, List.map_map]
    rfl
  · rw [planned, List.map_map]
    exact List.map_id _
  · have own := forall₂_isSetUp_planned distinct sound
    refine ⟨own.imp fun _ _ both => both.2, ?_⟩
    rw [map_fst_filter_setups own, map_field_of_declares declares]

end Blueprint

end Telemetry
