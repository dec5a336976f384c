/-
This file says all that registering and unregistering a group does. Registering
files the names that were free, each for the first field that declares it, and
touches nothing that is filed already. Unregistering takes exactly the declared
names out and stops what was filed under them. Families of a group that was made
from declarations are filed under the names that were declared for their fields,
so which names a group files can be read off its fields.
-/

import Telemetry.Blueprint.Populate
import Telemetry.Proofs.Holder.Population
import Telemetry.Proofs.Registry.Teardown
import Telemetry.Proofs.Store.Keeping

namespace Telemetry

open Store

/-! ### Groups that are made from declarations -/

/-- A family in the field is filed under the name that was declared for the field. -/
def Field.IsNamed (field : Field) : Prop :=
  ∀ family, field.value = .tagged family → family.base = field.name

namespace Holder

/-- The group was made from declarations or by a plan, and perhaps registered since. -/
inductive Built : Holder → Prop
  | declared {declarations : List Declaration} {accessors : Dictionary Accessor}
    {store populated : Store} {holder : Holder}
    (made : populate declarations accessors store = .ok (holder, populated)) : Built holder
  | planned {plan : Blueprint.Plan} {sources : String → SourceId} {store populated : Store}
    {holder : Holder} (made : plan.populate sources store = .ok (holder, populated)) :
    Built holder
  | registered {holder : Holder} (built : Built holder) (store : Store) (id : RegistryId) :
    Built (holder.register store id).1

end Holder

namespace Field

theorem isNamed_of_isMade {accessors : Dictionary Accessor} {now : Int} {store : Store}
    {declaration : Declaration} {made : Field}
    (known : IsMade accessors now store declaration made) : made.IsNamed := by
  intro family value
  obtain ⟨spec, -, holds⟩ := known.value
  rw [value] at holds
  rw [known.name]
  cases holds with
  | tagged _ _ => rfl

theorem isNamed_buildField (sources : String → SourceId) (store : Store)
    (specified : Blueprint.SpecifiedField) :
    (Blueprint.buildField sources store specified).1.IsNamed := by
  intro family value
  unfold Blueprint.buildField at value ⊢
  dsimp only at value ⊢
  split at value
  · cases value
    rfl
  · cases value

/-- Registering binds a family and leaves its name alone. -/
theorem isNamed_register {field : Field} (named : field.IsNamed) (store : Store)
    (id : RegistryId) : (field.register store id).1.IsNamed := by
  intro bound value
  rw [field.name_register]
  unfold register at value
  split at value
  · rename_i plain
    split at value <;> exact nomatch plain.symm.trans value
  · rename_i family own
    cases value
    exact named family own

end Field

namespace Holder

theorem isNamed_of_mem_registerFields {id : RegistryId} {store : Store} {fields : List Field}
    (named : ∀ field ∈ fields, field.IsNamed) :
    ∀ field ∈ (registerFields id store fields).1, field.IsNamed := by
  induction fields generalizing store with
  | nil => exact nofun
  | cons field rest inductionHypothesis =>
    obtain ⟨first, others⟩ := List.forall_mem_cons.1 named
    exact List.forall_mem_cons.2 ⟨Field.isNamed_register first store id, inductionHypothesis others⟩

theorem isNamed_of_mem_buildFields {sources : String → SourceId} {store : Store}
    {specified : List Blueprint.SpecifiedField} :
    ∀ field ∈ (Blueprint.buildFields sources store specified).1, field.IsNamed := by
  induction specified generalizing store with
  | nil => exact nofun
  | cons first rest inductionHypothesis =>
    exact List.forall_mem_cons.2 ⟨Field.isNamed_buildField sources store first, inductionHypothesis⟩

/-- In a group that was made from declarations all families are named after their fields. -/
theorem Built.isNamed {holder : Holder} (built : holder.Built) :
    ∀ field ∈ holder.fields, field.IsNamed := by
  induction built with
  | @declared declarations accessors store populated holder made =>
    have areMade := ((populate_agrees_with_check declarations accessors store).2.1 _ _ made).2
    have named := areMade.flip.imp fun field declaration known =>
      And.intro (Field.isNamed_of_isMade known) known
    exact ((List.forall₂_and_left _ _).1 named).1
  | planned made =>
    obtain ⟨specified, -, made⟩ := bind_eq_ok_iff.1 made
    cases made
    exact isNamed_of_mem_buildFields
  | registered _ store id inductionHypothesis =>
    exact isNamed_of_mem_registerFields inductionHypothesis

end Holder

/-! ### Names that are filed -/

theorem Field.isSome_offer?_iff {field : Field} (named : field.IsNamed) (store : Store)
    (name : String) : (field.offer? store name).isSome ↔ name = field.name := by
  unfold offer?
  split
  · split <;> simp [*]
  · rename_i family value
    rw [named family value]
    split <;> simp [*]

namespace Holder

/-- Fields offer exactly the names that are declared for them. -/
theorem isSome_offerOfFields?_iff {id : RegistryId} {store : Store} {name : String}
    {fields : List Field} (named : ∀ field ∈ fields, field.IsNamed) :
    (offerOfFields? id store name fields).isSome ↔ name ∈ fields.map (·.name) := by
  induction fields generalizing store with
  | nil => simp [offerOfFields?]
  | cons field rest inductionHypothesis =>
    obtain ⟨first, others⟩ := List.forall_mem_cons.1 named
    rw [offerOfFields?, Option.isSome_or, Bool.or_eq_true, Field.isSome_offer?_iff first,
      inductionHypothesis others, List.map_cons, List.mem_cons]

theorem lookup_register (holder : Holder) (store : Store) (id other : RegistryId)
    (name : String) :
    (holder.register store id).2.lookup other name =
      (store.lookup other name).or
        (if other = id then offerOfFields? id store name holder.fields else none) :=
  lookup_registerFields id store holder.fields other name

variable {holder : Holder} (named : ∀ field ∈ holder.fields, field.IsNamed)
include named

/-- Of a registry that a group is registered in exactly the declared names are taken besides those
that were. -/
theorem isSome_lookup_register_iff (store : Store) (id : RegistryId) (name : String) :
    ((holder.register store id).2.lookup id name).isSome ↔
      (store.lookup id name).isSome ∨ name ∈ holder.metricNames := by
  rw [lookup_register, if_pos rfl, Option.isSome_or, Bool.or_eq_true,
    isSome_offerOfFields?_iff named, metricNames]

/-- If all declared names are taken, registering a group changes no entry. -/
theorem lookup_register_of_taken {store : Store} {id : RegistryId}
    (taken : ∀ name ∈ holder.metricNames, (store.lookup id name).isSome) (other : RegistryId)
    (name : String) : (holder.register store id).2.lookup other name = store.lookup other name := by
  rw [lookup_register]
  split
  · rename_i same
    subst same
    cases found : store.lookup other name with
    | some handle => exact Option.some_or
    | none =>
      rw [Option.none_or, ← Option.not_isSome_iff_eq_none, isSome_offerOfFields?_iff named]
      intro declared
      have present := taken name declared
      rw [found] at present
      cases present
  · exact Option.or_none

end Holder

/-! ### New names -/

/-- What a field puts under a name that was free: a plain metric itself, and a family a metric that
is made for it, of its kind and with its sample. -/
def Field.Supplies (before after : Store) (field : Field) (filed : Handle) : Prop :=
  match field.value with
  | .plain _ handle => filed = handle
  | .tagged family =>
    before.metric? filed = none ∧ after.metric? filed = some (family.template before.now)

/-- Registering takes no time. -/
theorem Store.allowsRegistering_now :
    AllowsRegistering fun before after => after.now = before.now where
  refl _ := rfl
  trans toSecond toThird := toThird.trans toSecond
  notices _ _ := rfl
  setRegistry _ _ _ := rfl
  create _ _ := rfl

namespace Field

/-- All metrics are kept while groups are registered. -/
theorem keeps_register (field : Field) (store : Store) (id : RegistryId) :
    Keeps (fun _ => True) store (field.register store id).2 :=
  Keeps.allowsRegistering.registerField field store id

theorem now_register (field : Field) (store : Store) (id : RegistryId) :
    (field.register store id).2.now = store.now :=
  allowsRegistering_now.registerField field store id

theorem Supplies.keep {before after later : Store} {field : Field} {filed : Handle}
    (supplies : field.Supplies before after filed) (keeps : Keeps (fun _ => True) after later) :
    field.Supplies before later filed := by
  unfold Supplies at supplies ⊢
  split
  · rename_i plain
    rwa [plain] at supplies
  · rename_i family own
    rw [own] at supplies
    exact ⟨supplies.1, keeps _ _ trivial supplies.2⟩

theorem Supplies.since {first before after : Store} {field : Field} {filed : Handle}
    (supplies : field.Supplies before after filed) (keeps : Keeps (fun _ => True) first before)
    (now : before.now = first.now) : field.Supplies first after filed := by
  unfold Supplies at supplies ⊢
  split
  · rename_i plain
    rwa [plain] at supplies
  · rename_i family own
    rw [own, now] at supplies
    refine ⟨Option.eq_none_iff_forall_ne_some.2 fun metric found => ?_, supplies.2⟩
    cases supplies.1.symm.trans (keeps _ _ trivial found)

theorem exists_supplies_register {field : Field} (named : field.IsNamed) {store : Store}
    {id : RegistryId} (free : store.lookup id field.name = none) :
    ∃ filed, (field.register store id).2.lookup id field.name = some filed ∧
      field.Supplies store (field.register store id).2 filed := by
  rw [lookup_register, free, Option.none_or, if_pos rfl]
  unfold offer? Supplies register
  cases value : field.value with
  | plain kind handle => exact ⟨handle, if_pos rfl, rfl⟩
  | tagged family =>
    have base := named family value
    have dead : store.metric? store.nextHandle = none := by
      rw [← Option.map_eq_none_iff]
      exact kind?_of_not_live store.not_live_nextHandle
    refine ⟨store.nextHandle, if_pos base.symm, dead, ?_⟩
    show (family.obtain store id family.base).2.metric? store.nextHandle = _
    rw [base, Tagged.obtain_free family free]
    exact store.metric?_nextHandle_create _

end Field

namespace Holder

/-- A free name goes to the first field that declares it. -/
theorem exists_supplies_registerFields {id : RegistryId} {store : Store} {field : Field}
    {earlier later : List Field} (named : ∀ other ∈ earlier ++ field :: later, other.IsNamed)
    (first : ∀ other ∈ earlier, other.name ≠ field.name)
    (free : store.lookup id field.name = none) :
    ∃ filed,
      (registerFields id store (earlier ++ field :: later)).2.lookup id field.name = some filed ∧
      field.Supplies store (registerFields id store (earlier ++ field :: later)).2 filed := by
  induction earlier generalizing store with
  | nil =>
    obtain ⟨filed, found, supplies⟩ :=
      Field.exists_supplies_register (named field List.mem_cons_self) free
    refine ⟨filed, ?_, supplies.keep (Keeps.allowsRegistering.registerFields id _ later)⟩
    show (registerFields id (field.register store id).2 later).2.lookup id field.name = _
    rw [lookup_registerFields, found, Option.some_or]
  | cons head rest inductionHypothesis =>
    obtain ⟨headNamed, others⟩ := List.forall_mem_cons.1 named
    obtain ⟨different, restDifferent⟩ := List.forall_mem_cons.1 first
    have stillFree : (head.register store id).2.lookup id field.name = none := by
      rw [Field.lookup_register, free, Option.none_or, if_pos rfl,
        ← Option.not_isSome_iff_eq_none, Field.isSome_offer?_iff headNamed]
      exact Ne.symm different
    obtain ⟨filed, found, supplies⟩ := inductionHypothesis others restDifferent stillFree
    exact ⟨filed, found, supplies.since (head.keeps_register store id) (head.now_register store id)⟩

/-! ### Groups as a whole -/

/-- What registering a group does. All declared names are taken then. What was filed stays where and
as it was, a free name goes to the first field that declares it, all families are bound, and
registering once more files nothing. -/
structure RegisteredAs (holder : Holder) (id : RegistryId) (before : Store) (registered : Holder)
    (after : Store) : Prop where
  keys : ∀ name, name ∈ (after.registry id).keys ↔
    name ∈ (before.registry id).keys ∨ name ∈ holder.metricNames
  entries : ∀ other name handle, before.lookup other name = some handle →
    after.lookup other name = some handle
  elsewhere : ∀ other name, other ≠ id → after.lookup other name = before.lookup other name
  metrics : Keeps (fun _ => True) before after
  new : ∀ earlier field later, holder.fields = earlier ++ field :: later →
    (∀ other ∈ earlier, other.name ≠ field.name) → before.lookup id field.name = none →
    ∃ filed, after.lookup id field.name = some filed ∧ field.Supplies before after filed
  bound : ∀ field ∈ registered.fields, ∀ family, field.value = .tagged family →
    family.bound = some id
  again : ∀ other name,
    (registered.register after id).2.lookup other name = after.lookup other name

/-- What unregistering a group does. The declared names are free then, whoever had them, and all
other names stay. Meters and timers that were filed under the declared names are stopped, and
nothing else happens to any metric. -/
structure UnregisteredAs (holder : Holder) (id : RegistryId) (before after : Store) : Prop where
  keys : ∀ name, name ∈ (after.registry id).keys ↔
    name ∈ (before.registry id).keys ∧ name ∉ holder.metricNames
  entries : ∀ other name, (other = id → name ∉ holder.metricNames) →
    after.lookup other name = before.lookup other name
  stopped : ∀ name ∈ holder.metricNames, ∀ handle, before.lookup id name = some handle →
    ∀ metric rates, before.metric? handle = some metric → metric.rates? = some rates →
      after.metric? handle = some (metric.stop before.now) ∧
        ∀ current, (metric.stop before.now).rates? = some current → current.isStopped
  metrics : ∀ handle, after.metric? handle = before.metric? handle ∨
    ∃ name ∈ holder.metricNames, before.lookup id name = some handle ∧
      ∃ metric rates, before.metric? handle = some metric ∧ metric.rates? = some rates

theorem registeredAs_register {holder : Holder} (named : ∀ field ∈ holder.fields, field.IsNamed)
    (store : Store) (id : RegistryId) :
    holder.RegisteredAs id store (holder.register store id).1 (holder.register store id).2 where
  keys name := by
    rw [Dictionary.mem_keys_iff, Dictionary.mem_keys_iff]
    exact isSome_lookup_register_iff named store id name
  entries other name handle found := by
    rw [lookup_register, found, Option.some_or]
  elsewhere other name different := by
    rw [lookup_register, if_neg different, Option.or_none]
  metrics := Keeps.allowsRegistering.registerFields id store holder.fields
  new earlier field later split first free := by
    show ∃ filed, (registerFields id store holder.fields).2.lookup id field.name = _ ∧
      field.Supplies store (registerFields id store holder.fields).2 filed
    rw [split] at named ⊢
    exact exists_supplies_registerFields named first free
  bound _ member _ value := bound_of_mem_register member value
  again := by
    refine lookup_register_of_taken (isNamed_of_mem_registerFields named) fun name declared => ?_
    rw [holder.metricNames_register] at declared
    exact (isSome_lookup_register_iff named store id name).2 (.inr declared)

theorem unregisteredAs_unregister (holder : Holder) (store : Store) (id : RegistryId) :
    holder.UnregisteredAs id store (holder.unregister store id) := by
  have lookup := store.lookup_unregisterNames id holder.metricNames
  have metric? := store.metric?_unregisterNames id holder.metricNames
  change ∀ other wanted, (holder.unregister store id).lookup other wanted = _ at lookup
  change ∀ handle, (holder.unregister store id).metric? handle = _ at metric?
  constructor
  case keys =>
    intro name
    rw [Dictionary.mem_keys_iff, Dictionary.mem_keys_iff]
    change ((holder.unregister store id).lookup id name).isSome ↔
      (store.lookup id name).isSome ∧ _
    rw [lookup]
    by_cases declared : name ∈ holder.metricNames <;> simp [declared]
  case entries =>
    intro other name spared
    rw [lookup, if_neg fun both => spared both.1 both.2]
  case stopped =>
    intro name declared handle filed metric rates found own
    refine ⟨?_, fun current => Metric.isStopped_of_rates?_stop⟩
    rw [metric?, if_pos ⟨name, declared, filed⟩, found, Option.map_some]
  case metrics =>
    intro handle
    rw [metric?]
    split
    · rename_i filed
      obtain ⟨name, declared, filed⟩ := filed
      cases found : store.metric? handle with
      | none => exact .inl rfl
      | some metric =>
        cases own : metric.rates? with
        | some rates => exact .inr ⟨name, declared, filed, metric, rates, rfl, own⟩
        | none =>
          have rest : metric.IsAtRest := fun rates other => nomatch own.symm.trans other
          exact .inl (congrArg some (metric.stop_of_isAtRest rest store.now))
    · exact .inl rfl

/-- Registering a group that was made from declarations and unregistering it do what they should and
nothing else, whatever is filed before and whatever is done in between. -/
theorem register_unregister_exact {holder : Holder} (built : holder.Built) (store : Store)
    (id : RegistryId) :
    let registered := (holder.register store id).1
    let after := (holder.register store id).2
    holder.RegisteredAs id store registered after ∧
      ∀ between : List Operation,
        let used := after.performAll between
        holder.UnregisteredAs id used (registered.unregister used id) := by
  intro registered after
  refine ⟨registeredAs_register built.isNamed store id, fun between => ?_⟩
  intro used
  have same : registered.unregister used id = holder.unregister used id := by
    rw [Holder.unregister, Holder.unregister, holder.metricNames_register]
  rw [same]
  exact holder.unregisteredAs_unregister used id

/-- Of two fields with one name the first has it, and a name that is taken by another metric stays
with that. Unregistering takes both names out but leaves what was filed with tags. -/
theorem first_of_repeated_names_registered :
    let store := (starting fun _ => 0).performAll [.getOrRegister "main" "load" (.gauge 3)]
    let declarations : List Declaration :=
      [⟨"first", "jobs", "Counter", none⟩, ⟨"second", "jobs", "Tagged<Meter>", none⟩,
        ⟨"third", "load", "Tagged<Counter>", none⟩]
    let family : Tagged := ⟨"load", ⟨.counter, rfl⟩, .standard, some "main"⟩
    ∃ holder populated, populate declarations .empty store = .ok (holder, populated) ∧
      let registered := (holder.register populated "main").1
      let after := (holder.register populated "main").2
      let used := after.performAll [.tag family ["host:a"]]
      let torn := registered.unregister used "main"
      after.lookup "main" "jobs" = some ⟨1⟩ ∧ after.lookup "main" "load" = some ⟨0⟩ ∧
        "jobs" ∉ (torn.registry "main").keys ∧ "load" ∉ (torn.registry "main").keys ∧
        torn.lookup "main" "load[host:a]" = used.lookup "main" "load[host:a]" := by
  intro store declarations family
  let holder : Holder := ⟨[⟨"first", "jobs", .plain .counter ⟨1⟩⟩,
    ⟨"second", "jobs", .tagged (.unbound "jobs" ⟨.meter, rfl⟩ .standard)⟩,
    ⟨"third", "load", .tagged (.unbound "load" ⟨.counter, rfl⟩ .standard)⟩]⟩
  let populated := (store.create (.counter 0)).2
  have made : populate declarations .empty store = .ok (holder, populated) := rfl
  obtain ⟨registers, unregisters⟩ := register_unregister_exact (.declared made) populated "main"
  have torn := unregisters [.tag family ["host:a"]]
  obtain ⟨filed, found, own⟩ := registers.new [] _ _ rfl nofun (by decide +kernel)
  refine ⟨holder, populated, made, found.trans (congrArg some own),
    registers.entries "main" "load" ⟨0⟩ (by decide +kernel), fun kept => ?_, fun kept => ?_,
    torn.entries "main" _ fun _ => by decide +kernel⟩
  · exact ((torn.keys "jobs").1 kept).2 (by decide)
  · exact ((torn.keys "load").1 kept).2 (by decide)

end Holder

end Telemetry
