/-
This file says which groups of metrics can be made from declarations, and what is
in them. Whether a declaration is refused does not depend on the store: it has to
pass its own check, and a functional gauge needs an accessor that is named after
its field and gives numbers of its type. If one declaration of a group is
refused, the group is, for the reason of the first that is. Otherwise every
declaration has its field, in the order of the declarations. What a family makes
later, for whatever tags, keeps the sample that was declared for it.
-/

import Mathlib.Data.List.Forall2
import Telemetry.Blueprint.Plan
import Telemetry.Holder
import Telemetry.Proofs.Registry.Reordering
import Telemetry.Proofs.Steps

namespace Telemetry

open Blueprint (computedType? isFunctional_of_computedType?)

/-! ### Reasons to refuse a declaration -/

namespace Declaration

/-- A functional gauge has an accessor that is named after its field and gives numbers of its
type. -/
def HasSource (accessors : Dictionary Accessor) (declaration : Declaration) : Prop :=
  ∀ kind, declaration.kind = .ok (.plain kind) → ∀ type, computedType? kind = some type →
    ∃ source, accessors.find? (accessorName declaration.field) = some ⟨type, source⟩

/-- The declaration passes its check and has the source that it needs. -/
def Passes (accessors : Dictionary Accessor) (declaration : Declaration) : Prop :=
  (∃ kind, declaration.validate = .ok kind) ∧ declaration.HasSource accessors

/-- Why an accessor cannot be the source of a functional gauge: it is missing, or it gives numbers
of another type. -/
def sourceRefusal? (accessors : Dictionary Accessor) (declaration : Declaration)
    (type : ValueType) : Option DefinitionError :=
  let name := accessorName declaration.field
  match accessors.find? name with
  | none => some (.missingSource declaration.field name)
  | some accessor =>
    if accessor.returns = type then none
    else some (.wrongSource declaration.field name type.word)

/-- Why no field can be made of a declaration: it does not pass its check, or it is a functional
gauge without a source. -/
def refusal? (accessors : Dictionary Accessor) (declaration : Declaration) :
    Option DefinitionError :=
  match declaration.validate with
  | .error error => some error
  | .ok (.plain kind) => (computedType? kind).bind (declaration.sourceRefusal? accessors)
  | .ok (.tagged _) => none

/-- The sample that the declaration describes, or the standard one if it describes none. -/
def Describes (declaration : Declaration) (spec : Sample.Spec) : Prop :=
  match declaration.sample with
  | none => spec = .standard
  | some text => Sample.Spec.read text = .ok spec

variable {declaration : Declaration} {accessors : Dictionary Accessor} {kind : FieldKind}
  {spec : Sample.Spec} {error : DefinitionError}

theorem sampleSpec_of_kind_error (wrong : declaration.kind = .error error) :
    declaration.sampleSpec = .error error := by
  rw [sampleSpec, wrong]
  rfl

/-- A declaration fails its check exactly if its sample cannot be told, for the same reason. -/
theorem validate_eq_error_iff :
    declaration.validate = .error error ↔ declaration.sampleSpec = .error error := by
  rw [validate, bind_eq_error_iff]
  cases read : declaration.kind with
  | error other => simp [sampleSpec_of_kind_error read]
  | ok kind => simp [bind_eq_error_iff]

theorem validate_eq_ok_iff :
    declaration.validate = .ok kind ↔
      declaration.kind = .ok kind ∧ ∃ spec, declaration.sampleSpec = .ok spec := by
  rw [validate, bind_eq_ok_iff]
  cases declaration.kind with
  | error other => simp
  | ok other => simp [bind_eq_ok_iff, and_comm]

theorem describes_of_sampleSpec (read : declaration.kind = .ok kind)
    (told : declaration.sampleSpec = .ok spec) (sampled : kind.kind.isSampled) :
    declaration.Describes spec := by
  obtain ⟨same, sameRead, told⟩ := bind_eq_ok_iff.1 told
  cases read.symm.trans sameRead
  rw [Describes]
  cases described : declaration.sample with
  | none =>
    rw [described] at told
    cases told
    rfl
  | some text =>
    simp only [described, if_pos sampled] at told
    cases parsed : Sample.Spec.read text with
    | error fault => rw [parsed] at told; cases told
    | ok other =>
      rw [parsed] at told
      cases told
      exact parsed

theorem sourceRefusal?_eq_none_iff (type : ValueType) :
    declaration.sourceRefusal? accessors type = none ↔
      ∃ source, accessors.find? (accessorName declaration.field) = some ⟨type, source⟩ := by
  rw [sourceRefusal?]
  cases accessors.find? (accessorName declaration.field) with
  | none => simp
  | some accessor =>
    obtain ⟨returns, source⟩ := accessor
    simp

/-- There is no reason to refuse a declaration exactly if it passes. -/
theorem refusal?_eq_none_iff :
    declaration.refusal? accessors = none ↔ declaration.Passes accessors := by
  rw [refusal?, Passes]
  cases valid : declaration.validate with
  | error error => simp
  | ok kind =>
    simp only [HasSource, (validate_eq_ok_iff.1 valid).1]
    cases kind with
    | tagged kind => simp
    | plain kind =>
      simp only [Except.ok.injEq, exists_eq', true_and, FieldKind.plain.injEq, forall_eq']
      cases computedType? kind with
      | none => simp
      | some type => simp [sourceRefusal?_eq_none_iff]

theorem field_of_kind_error (wrong : declaration.kind = .error error) :
    error.field = declaration.field := by
  unfold kind at wrong
  split at wrong <;> cases wrong <;> rfl

/-- If the type of a declaration can be read, only its description of a sample can be faulty. -/
theorem exists_fault_of_sampleSpec_error (read : declaration.kind = .ok kind)
    (wrong : declaration.sampleSpec = .error error) :
    ∃ text fault, declaration.sample = some text ∧ Sample.Spec.read text = .error fault ∧
      error = .invalidSample declaration.field fault := by
  rw [sampleSpec, read] at wrong
  dsimp only [bind, Except.bind] at wrong
  split at wrong
  · cases wrong
  · rename_i text described
    split at wrong
    · cases faulty : Sample.Spec.read text with
      | ok spec => rw [faulty] at wrong; cases wrong
      | error fault =>
        rw [faulty] at wrong
        cases wrong
        exact ⟨text, fault, described, faulty, rfl⟩
    · cases wrong

theorem field_of_sampleSpec_error (wrong : declaration.sampleSpec = .error error) :
    error.field = declaration.field := by
  rcases bind_eq_error_iff.1 wrong with unread | ⟨kind, read, -⟩
  · exact field_of_kind_error unread
  · obtain ⟨text, fault, -, -, rfl⟩ := exists_fault_of_sampleSpec_error read wrong
    rfl

/-- The reason to refuse a declaration names its field. -/
theorem field_of_refusal? (refused : declaration.refusal? accessors = some error) :
    error.field = declaration.field := by
  unfold refusal? at refused
  split at refused
  · rename_i invalid
    cases refused
    exact field_of_sampleSpec_error (validate_eq_error_iff.1 invalid)
  · obtain ⟨type, -, unsupplied⟩ := Option.bind_eq_some_iff.1 refused
    unfold sourceRefusal? at unsupplied
    dsimp only at unsupplied
    split at unsupplied
    · cases unsupplied
      rfl
    · split at unsupplied <;> cases unsupplied
      rfl
  · cases refused

end Declaration

/-! ### What families make -/

namespace Store

/-- The second store has the metrics of the first and perhaps new ones, all like the given one. -/
def AddsOnly (made : Metric) (before after : Store) : Prop :=
  ∀ handle metric, after.metric? handle = some metric →
    before.metric? handle = some metric ∨ metric = made

namespace AddsOnly

variable {made : Metric}

theorem refl (store : Store) : AddsOnly made store store :=
  fun _ _ found => .inl found

theorem trans {first second third : Store} (toSecond : AddsOnly made first second)
    (toThird : AddsOnly made second third) : AddsOnly made first third :=
  fun handle metric found => (toThird handle metric found).elim (toSecond handle metric) .inr

theorem create (store : Store) : AddsOnly made store (store.create made).2 := by
  intro handle metric found
  rw [metric?_create] at found
  split at found
  · exact .inr (Option.some.inj found).symm
  · exact .inl found

theorem getOrRegister (store : Store) (id : RegistryId) (name : String) :
    AddsOnly made store (store.getOrRegister id name fun _ => made).2.2 := by
  unfold Store.getOrRegister
  split
  · exact refl store
  · exact create store

end AddsOnly

end Store

namespace Tagged

open Store

variable (family : Tagged) (store : Store)

variable {store} in
theorem addsOnly_fresh {before : Store} (now : before.now = store.now) :
    AddsOnly (family.template store.now) before (family.fresh before).2 :=
  now ▸ .create before

/-- Asking for a metric under a name adds only metrics as the family makes them. -/
theorem addsOnly_obtain (id : RegistryId) (name : String) :
    AddsOnly (family.template store.now) store (family.obtain store id name).2 := by
  have filed : AddsOnly (family.template store.now) store
      (store.getOrRegister id name fun _ => family.template store.now).2.2 :=
    .getOrRegister store id name
  have now := store.now_getOrRegister id name fun _ => family.template store.now
  simp only [Tagged.obtain]
  split
  · exact filed.trans (family.addsOnly_fresh now)
  · split
    · exact filed
    · exact filed.trans (family.addsOnly_fresh now)

theorem addsOnly_tag (tags : List String) :
    AddsOnly (family.template store.now) store (family.tag store tags).2 := by
  unfold Tagged.tag
  split
  · exact family.addsOnly_fresh rfl
  · exact family.addsOnly_obtain store _ _

end Tagged

/-! ### Declared fields -/

namespace Store

/-- The second store is the first with more metrics behind the others. -/
def Extends (before after : Store) : Prop :=
  ∃ made, after = { before with metrics := before.metrics ++ made }

namespace Extends

theorem refl (store : Store) : Extends store store :=
  ⟨#[], by rw [Array.append_empty]⟩

theorem trans {first second third : Store} (toSecond : Extends first second)
    (toThird : Extends second third) : Extends first third := by
  obtain ⟨made, rfl⟩ := toSecond
  obtain ⟨more, rfl⟩ := toThird
  exact ⟨made ++ more, by rw [Array.append_assoc]⟩

theorem create (store : Store) (metric : Metric) : Extends store (store.create metric).2 :=
  ⟨#[metric], by rw [Array.append_singleton]; rfl⟩

theorem now {before after : Store} (extended : Extends before after) : after.now = before.now := by
  obtain ⟨made, rfl⟩ := extended
  rfl

theorem metric? {before after : Store} (extended : Extends before after) {handle : Handle}
    {metric : Metric} (found : before.metric? handle = some metric) :
    after.metric? handle = some metric := by
  obtain ⟨made, rfl⟩ := extended
  obtain ⟨inside, -⟩ := Array.getElem?_eq_some_iff.1 found
  exact (Array.getElem?_append_left inside).trans found

end Extends

theorem metric?_nextHandle_create (store : Store) (metric : Metric) :
    (store.create metric).2.metric? store.nextHandle = some metric := by
  rw [metric?_create, if_pos rfl]

end Store

open Store

/-- The metric that a plain field starts with: a functional gauge reads the source of the accessor
that is named after the field, and any other metric is new. -/
inductive Starts (accessors : Dictionary Accessor) (field : String) (spec : Sample.Spec)
    (now : Int) : Kind → Metric → Prop
  | functionalGauge {source : SourceId}
    (own : accessors.find? (accessorName field) = some ⟨.int, source⟩) :
    Starts accessors field spec now .functionalGauge (.functionalGauge source)
  | functionalFloatGauge {source : SourceId}
    (own : accessors.find? (accessorName field) = some ⟨.float, source⟩) :
    Starts accessors field spec now .functionalFloatGauge (.functionalFloatGauge source)
  | fresh (kind : StoredKind) : Starts accessors field spec now kind.kind (.fresh kind spec now)

/-- What is in a field that is made with a given sample. A family is bound to nothing, and wherever
it is bound later, it adds only metrics with that sample. -/
inductive Holds (accessors : Dictionary Accessor) (now : Int) (store : Store)
    (declaration : Declaration) (spec : Sample.Spec) : FieldValue → Prop
  | plain {kind : Kind} {handle : Handle} {metric : Metric}
    (found : store.metric? handle = some metric)
    (starts : Starts accessors declaration.field spec now kind metric) :
    Holds accessors now store declaration spec (.plain kind handle)
  | tagged (kind : StoredKind)
    (adds : ∀ (bound : Option RegistryId) (later : Store),
      let family : Tagged := ⟨declaration.name, kind, spec, bound⟩
      let made := Metric.fresh kind spec later.now
      (∀ tags, AddsOnly made later (family.tag later tags).2) ∧
        ∀ id, AddsOnly made later (family.bind later id).2) :
    Holds accessors now store declaration spec (.tagged (.unbound declaration.name kind spec))

/-- A field as it is declared: under the declared names, of the declared kind, and with the declared
sample if it keeps one. -/
structure IsMade (accessors : Dictionary Accessor) (now : Int) (store : Store)
    (declaration : Declaration) (made : Field) : Prop where
  field : made.field = declaration.field
  name : made.name = declaration.name
  kind : declaration.kind = .ok made.value.kind
  value : ∃ spec, (made.value.kind.kind.isSampled → declaration.Describes spec) ∧
    Holds accessors now store declaration spec made.value

theorem IsMade.extend {accessors : Dictionary Accessor} {now : Int} {store later : Store}
    {declaration : Declaration} {made : Field} (known : IsMade accessors now store declaration made)
    (extended : Extends store later) : IsMade accessors now later declaration made := by
  obtain ⟨ownField, ownName, value⟩ := made
  obtain ⟨field, name, kind, spec, described, holds⟩ := known
  refine ⟨field, name, kind, spec, described, ?_⟩
  cases holds with
  | plain found starts => exact .plain (extended.metric? found) starts
  | tagged stored adds => exact .tagged stored adds

namespace Field

variable {declaration : Declaration} {accessors : Dictionary Accessor}

/-- Once the type of a declaration is read, making a field with tags does not fail. -/
theorem withTags_of_kind (kind : StoredKind) (spec : Sample.Spec) :
    withTags declaration kind.kind spec =
      .ok ⟨declaration.field, declaration.name, .tagged (.unbound declaration.name kind spec)⟩ := by
  rw [withTags, Kind.stored?, dif_pos kind.stored]

section Sound

variable {spec : Sample.Spec} (told : declaration.sampleSpec = .ok spec) (store : Store)

include told

theorem ofDeclaration_tagged {kind : StoredKind} (read : declaration.kind = .ok (.tagged kind)) :
    ofDeclaration declaration accessors store =
      .ok (⟨declaration.field, declaration.name, .tagged (.unbound declaration.name kind spec)⟩,
        store) := by
  rw [ofDeclaration, read, told]
  show (withTags declaration kind.kind spec).map _ = _
  rw [withTags_of_kind]
  rfl

theorem ofDeclaration_stored (kind : StoredKind)
    (read : declaration.kind = .ok (.plain kind.kind)) :
    ofDeclaration declaration accessors store =
      .ok (⟨declaration.field, declaration.name, .plain kind.kind store.nextHandle⟩,
        (store.create (.fresh kind spec store.now)).2) := by
  rw [ofDeclaration, read, told]
  obtain ⟨kind, stored⟩ := kind
  cases kind with
  | functionalGauge | functionalFloatGauge => nomatch stored
  | _ => rfl

theorem ofDeclaration_of_sourceRefusal? {kind : Kind} {type : ValueType} {error : DefinitionError}
    (read : declaration.kind = .ok (.plain kind)) (computed : computedType? kind = some type)
    (refused : declaration.sourceRefusal? accessors type = some error) :
    ofDeclaration declaration accessors store = .error error := by
  rw [Declaration.sourceRefusal?] at refused
  rw [ofDeclaration, read, told]
  dsimp only [bind, Except.bind] at refused ⊢
  cases found : accessors.find? (accessorName declaration.field) with
  | none =>
    rw [found] at refused
    cases refused
    cases kind with
    | functionalGauge | functionalFloatGauge => rfl
    | _ => cases computed
  | some accessor =>
    simp only [found] at refused
    split at refused
    · cases refused
    · rename_i other
      cases refused
      cases kind with
      | functionalGauge | functionalFloatGauge =>
        cases computed
        exact if_neg other
      | _ => cases computed

theorem ofDeclaration_of_source {kind : Kind} {type : ValueType} {source : SourceId}
    (read : declaration.kind = .ok (.plain kind)) (computed : computedType? kind = some type)
    (own : accessors.find? (accessorName declaration.field) = some ⟨type, source⟩) :
    ∃ metric, Starts accessors declaration.field spec store.now kind metric ∧
      ofDeclaration declaration accessors store =
        .ok (⟨declaration.field, declaration.name, .plain kind store.nextHandle⟩,
          (store.create metric).2) := by
  rw [ofDeclaration, read, told]
  dsimp only [bind, Except.bind]
  cases kind with
  | functionalGauge =>
    cases computed
    rw [own]
    exact ⟨_, .functionalGauge own, rfl⟩
  | functionalFloatGauge =>
    cases computed
    rw [own]
    exact ⟨_, .functionalFloatGauge own, rfl⟩
  | _ => cases computed

/-- A plain metric is made behind everything else. -/
theorem ofDeclaration_plain {kind : Kind} (read : declaration.kind = .ok (.plain kind))
    (supplied : declaration.HasSource accessors) :
    ∃ metric, Starts accessors declaration.field spec store.now kind metric ∧
      ofDeclaration declaration accessors store =
        .ok (⟨declaration.field, declaration.name, .plain kind store.nextHandle⟩,
          (store.create metric).2) := by
  cases computed : computedType? kind with
  | none =>
    have stored := isFunctional_of_computedType? computed
    exact ⟨_, .fresh ⟨kind, stored⟩, ofDeclaration_stored told store ⟨kind, stored⟩ read⟩
  | some type =>
    obtain ⟨source, own⟩ := supplied kind read type computed
    exact ofDeclaration_of_source told store read computed own

theorem isMade_plain {kind : Kind} {metric : Metric}
    (read : declaration.kind = .ok (.plain kind))
    (starts : Starts accessors declaration.field spec store.now kind metric) :
    IsMade accessors store.now (store.create metric).2 declaration
      ⟨declaration.field, declaration.name, .plain kind store.nextHandle⟩ :=
  ⟨rfl, rfl, read, spec, Declaration.describes_of_sampleSpec read told,
    .plain (store.metric?_nextHandle_create metric) starts⟩

theorem isMade_tagged {kind : StoredKind} (read : declaration.kind = .ok (.tagged kind)) :
    IsMade accessors store.now store declaration
      ⟨declaration.field, declaration.name, .tagged (.unbound declaration.name kind spec)⟩ := by
  refine ⟨rfl, rfl, read, spec, Declaration.describes_of_sampleSpec read told,
    .tagged kind fun bound later => ?_⟩
  intro family made
  exact ⟨family.addsOnly_tag later, fun id => family.addsOnly_obtain later id family.base⟩

end Sound

/-- What a declaration comes to in a store: it is refused, or its field is made behind everything
else. -/
theorem ofDeclaration_cases (declaration : Declaration) (accessors : Dictionary Accessor)
    (store : Store) :
    (∃ error, declaration.refusal? accessors = some error ∧
      ofDeclaration declaration accessors store = .error error) ∨
    (declaration.refusal? accessors = none ∧ ∃ made created,
      ofDeclaration declaration accessors store = .ok (made, created) ∧ Extends store created ∧
        IsMade accessors store.now created declaration made) := by
  cases told : declaration.sampleSpec with
  | error error =>
    refine .inl ⟨error, ?_, ?_⟩
    · rw [Declaration.refusal?, Declaration.validate_eq_error_iff.2 told]
    · rw [ofDeclaration, bind_eq_error_iff]
      rcases bind_eq_error_iff.1 told with unread | ⟨kind, read, -⟩
      · exact .inl unread
      · exact .inr ⟨kind, read, by rw [told]; rfl⟩
  | ok spec =>
    obtain ⟨kind, read, -⟩ := bind_eq_ok_iff.1 told
    have valid := Declaration.validate_eq_ok_iff.2 ⟨read, spec, told⟩
    cases kind with
    | tagged kind =>
      exact .inr ⟨by rw [Declaration.refusal?, valid], _, _, ofDeclaration_tagged told store read,
        .refl store, isMade_tagged told store read⟩
    | plain kind =>
      cases refused : declaration.refusal? accessors with
      | some error =>
        rw [Declaration.refusal?, valid] at refused
        obtain ⟨type, computed, unsupplied⟩ := Option.bind_eq_some_iff.1 refused
        exact .inl ⟨error, rfl,
          ofDeclaration_of_sourceRefusal? told store read computed unsupplied⟩
      | none =>
        obtain ⟨-, supplied⟩ := Declaration.refusal?_eq_none_iff.1 refused
        obtain ⟨metric, starts, made⟩ := ofDeclaration_plain told store read supplied
        exact .inr ⟨rfl, _, _, made, .create store metric, isMade_plain told store read starts⟩

/-- A declaration is refused in every store or in none, and always for the same reason. -/
theorem ofDeclaration_eq_error_iff {store : Store} {error : DefinitionError} :
    ofDeclaration declaration accessors store = .error error ↔
      declaration.refusal? accessors = some error := by
  rcases ofDeclaration_cases declaration accessors store with
    ⟨other, refused, failed⟩ | ⟨sound, made, created, succeeded, -⟩
  · rw [refused, failed, Except.error.injEq, Option.some.injEq]
  · simp [sound, succeeded]

end Field

/-! ### Groups -/

namespace Holder

/-- A list of declarations comes to the first reason to refuse one of them, or to a field for
each. -/
theorem populateFields_cases (declarations : List Declaration)
    (accessors : Dictionary Accessor) (store : Store) :
    (∃ error, declarations.findSome? (·.refusal? accessors) = some error ∧
      populateFields accessors store declarations = .error error) ∨
    (declarations.findSome? (·.refusal? accessors) = none ∧ ∃ fields populated,
      populateFields accessors store declarations = .ok (fields, populated) ∧
        Extends store populated ∧
        List.Forall₂ (IsMade accessors store.now populated) declarations fields) := by
  induction declarations generalizing store with
  | nil => exact .inr ⟨rfl, [], store, rfl, .refl store, .nil⟩
  | cons declaration rest inductionHypothesis =>
    rw [populateFields, List.findSome?_cons]
    rcases Field.ofDeclaration_cases declaration accessors store with
      ⟨error, refused, failed⟩ | ⟨sound, field, created, made, createdExtends, isMade⟩
    · exact .inl ⟨error, by rw [refused], by rw [failed]; rfl⟩
    · rw [sound, made]
      rcases inductionHypothesis created with
        ⟨error, refused, failed⟩ | ⟨allSound, fields, populated, allMade, extended, areMade⟩
      · exact .inl ⟨error, refused, by simp only [bind, Except.bind, failed]⟩
      · rw [createdExtends.now] at areMade
        exact .inr ⟨allSound, field :: fields, populated,
          by simp only [bind, Except.bind, allMade], createdExtends.trans extended,
          .cons (isMade.extend extended) areMade⟩

/-- Making a group agrees with the check of its declarations. It succeeds exactly if every
declaration passes its check and, if it is a functional gauge, has its source. Then every
declaration has its field, in order, and nothing else has changed. Otherwise the first declaration
that does not pass says why, with its field, whatever the store. That a family of functional gauges
is asked for is noticed when the type is read, never when the family is made. -/
theorem populate_agrees_with_check (declarations : List Declaration)
    (accessors : Dictionary Accessor) (store : Store) :
    let outcome := populate declarations accessors store
    ((∃ holder populated, outcome = .ok (holder, populated)) ↔
      ∀ declaration ∈ declarations, declaration.Passes accessors) ∧
    (∀ holder populated, outcome = .ok (holder, populated) →
      Extends store populated ∧
        List.Forall₂ (IsMade accessors store.now populated) declarations holder.fields) ∧
    (∀ error, outcome = .error error →
      ∃ before declaration after, declarations = before ++ declaration :: after ∧
        (∀ earlier ∈ before, earlier.Passes accessors) ∧
        declaration.refusal? accessors = some error ∧ error.field = declaration.field ∧
        ∀ other, Field.ofDeclaration declaration accessors other = .error error) ∧
    (∀ declaration ∈ declarations, ∀ kind, declaration.kind = .ok (.tagged kind) →
      ∀ spec error, Field.withTags declaration kind.kind spec ≠ .error error) := by
  intro outcome
  have never (declaration : Declaration) (kind : StoredKind) (spec : Sample.Spec)
      (error : DefinitionError) : Field.withTags declaration kind.kind spec ≠ .error error := by
    rw [Field.withTags_of_kind]
    exact nofun
  rcases populateFields_cases declarations accessors store with
    ⟨error, refused, failed⟩ | ⟨sound, fields, populated, made, extended, areMade⟩
  · have failed : outcome = .error error := by
      simp only [outcome, populate, failed, bind, Except.bind]
    obtain ⟨before, declaration, after, split, ownRefused, earlier⟩ :=
      List.findSome?_eq_some_iff.1 refused
    refine ⟨⟨?_, fun all => ?_⟩, ?_, ?_, fun declaration _ kind _ => never declaration kind⟩
    · rintro ⟨holder, populated, succeeded⟩
      cases failed.symm.trans succeeded
    · have inside : declaration ∈ declarations := by simp [split]
      rw [Declaration.refusal?_eq_none_iff.2 (all declaration inside)] at ownRefused
      cases ownRefused
    · intro holder populated succeeded
      cases failed.symm.trans succeeded
    · intro other failedSo
      cases failed.symm.trans failedSo
      exact ⟨before, declaration, after, split,
        fun one member => Declaration.refusal?_eq_none_iff.1 (earlier one member), ownRefused,
        Declaration.field_of_refusal? ownRefused,
        fun _ => Field.ofDeclaration_eq_error_iff.2 ownRefused⟩
  · have succeeded : outcome = .ok (⟨fields⟩, populated) := by
      simp only [outcome, populate, made, bind, Except.bind]
    have all (declaration : Declaration) (member : declaration ∈ declarations) :
        declaration.Passes accessors :=
      Declaration.refusal?_eq_none_iff.1 (List.findSome?_eq_none_iff.1 sound declaration member)
    refine ⟨⟨fun _ => all, fun _ => ⟨_, _, succeeded⟩⟩, ?_, ?_,
      fun declaration _ kind _ => never declaration kind⟩
    · intro holder other succeededSo
      cases succeeded.symm.trans succeededSo
      exact ⟨extended, areMade⟩
    · intro error failed
      cases succeeded.symm.trans failed

end Holder

end Telemetry
