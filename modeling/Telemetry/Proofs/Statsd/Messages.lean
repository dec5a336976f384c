/-
This file proves what the text of an emission is. Every entry of the registry
sends the statistics of its kind, each as one message that carries the tags of
the client and those of the entry's own name, and the entries follow each other
in the order of the bytes of their names. How the sink cuts this text into
batches and datagrams leaves no trace in it. Neither does the order in which the
metrics were registered, since nothing of it is left in a registry but the
handles, which no message shows.
-/

import Telemetry.Proofs.Name.Grammar
import Telemetry.Proofs.Registry.Reordering
import Telemetry.Proofs.Statsd.Emission
import Telemetry.Proofs.Text.ByteOrder

namespace Telemetry.Statsd

open Decimal Text

/-! ### Statistics -/

/-- What a message tells of a metric. -/
inductive Statistic
  | total
  | level
  | average
  | count
  | greatest
  | median
  | least
  | sum
  | percentile95
  | rate1
  | rate5
  | rate15
deriving DecidableEq, Repr

namespace Statistic

/-- What the message puts behind the base of the name. -/
def suffix : Statistic → String
  | .total | .level => ""
  | .average => ".avg"
  | .count => ".count"
  | .greatest => ".max"
  | .median => ".median"
  | .least => ".min"
  | .sum => ".sum"
  | .percentile95 => ".95percentile"
  | .rate1 => ".rate1"
  | .rate5 => ".rate5"
  | .rate15 => ".rate15"

/-- The type of the message: only the total of a counter counts. -/
def type : Statistic → LineType
  | .total => .count
  | _ => .gauge

/-- The statistics of a kind in the order in which they are sent. -/
def ofKind : Kind → List Statistic
  | .counter => [.total]
  | .gauge | .floatGauge | .functionalGauge | .functionalFloatGauge => [.level]
  | .histogram | .timer =>
    [.average, .count, .greatest, .median, .least, .sum, .percentile95]
  | .meter => [.average, .count, .rate1, .rate5, .rate15]

/-- A whole number as the value of a statistic. -/
def whole (statistic : Statistic) (value : Int64) : Statistic × List Char :=
  (statistic, writeInt value.toInt)

/-- A floating point number as the value of a statistic. -/
def number (statistic : Statistic) (value : Float) : Statistic × List Char :=
  (statistic, Line.numberStyle.write (decodeFloat value))

/-- The statistics of a sample with their values. -/
def ofSample (values : Sample.Snapshot) : List (Statistic × List Char) :=
  [average.number values.mean, count.whole values.count, greatest.whole values.greatest,
    median.number (Sample.percentile values.values 0.5), least.whole values.least,
    sum.whole values.sum, percentile95.number (Sample.percentile values.values 0.95)]

/-- The statistics of a meter with their values. -/
def ofMeter (rates : Meter.Snapshot Float) : List (Statistic × List Char) :=
  [average.number rates.meanRate, count.whole rates.count, rate1.number rates.rate1,
    rate5.number rates.rate5, rate15.number rates.rate15]

/-- The statistics of what a metric shows, with their values. -/
def ofReading : Reading → List (Statistic × List Char)
  | .count value => [total.whole value]
  | .level value => [level.whole value]
  | .floatLevel value => [level.number value]
  | .histogram values | .timer values _ => ofSample values
  | .meter rates => ofMeter rates

/-- A metric shows the statistics of its kind. -/
theorem map_fst_ofReading (store : Store) (handle : Handle) :
    (store.read handle).1.map (fun reading => (ofReading reading).map Prod.fst) =
      (store.kind? handle).map ofKind := by
  unfold Store.read Store.kind?
  cases store.metric? handle with
  | none => rfl
  | some metric => cases metric <;> rfl

/-- The line of a statistic under a base. -/
def line (base : String) (shown : Statistic × List Char) : Line :=
  ⟨base ++ shown.1.suffix, shown.2, shown.1.type⟩

theorem readingLines_eq (base : String) (reading : Reading) :
    readingLines base reading = (ofReading reading).map (line base) := by
  have plain : base ++ "" = base := String.append_empty
  cases reading with
  | histogram values | timer values _ | meter rates => rfl
  | count value | level value | floatLevel value =>
    simp only [ofReading, List.map_singleton, line, whole, number, suffix, plain]
    rfl

end Statistic

/-! ### Tags -/

namespace TagGroup

/-- The tags of a group: what commas separate in its text, if there is any. -/
def tags (group : TagGroup) : List (List Char) :=
  if group.text = [] then [] else pieces ',' group.text

theorem text_foldl_append (group : TagGroup) (nonempty : group.text ≠ [])
    (texts : List (List Char)) :
    (texts.foldl append group).text = glue ',' (group.text :: texts) := by
  induction texts generalizing group with
  | nil => rfl
  | cons text rest inductionHypothesis =>
    have added : (group.append text).text = group.text ++ ',' :: text := by
      rw [append, if_neg fun empty => nonempty (List.isEmpty_iff.1 empty)]
    have still : (group.append text).text ≠ [] := by
      rw [added]
      exact List.append_ne_nil_of_left_ne_nil nonempty _
    rw [List.foldl_cons, inductionHypothesis _ still, added, glue_cons_append]

/-- Single tags that are added one after the other are the tags of the group. -/
theorem tags_foldl_append {texts : List (List Char)} (nonempty : ∀ text ∈ texts, text ≠ [])
    (free : ∀ text ∈ texts, ',' ∉ text) : (texts.foldl append empty).tags = texts := by
  cases texts with
  | nil => rfl
  | cons text rest =>
    have first : text ≠ [] := nonempty text List.mem_cons_self
    have whole : ((text :: rest).foldl append empty).text = glue ',' (text :: rest) :=
      text_foldl_append ⟨text⟩ first rest
    have parts : pieces ',' (glue ',' (text :: rest)) = text :: rest := by
      rw [pieces_glue (List.cons_ne_nil text rest), flatMap_pieces_of_not_mem free]
    rw [tags, whole, parts, if_neg]
    intro noParts
    rw [noParts] at parts
    exact first (List.cons.inj parts).1.symm

/-- The tags of a group of single tags are these tags. -/
theorem tags_ofTags {own : List String} (single : ∀ tag ∈ own, IsSingleTag tag) :
    (ofTags own).tags = own.map String.toList := by
  have same : (own.map String.toList).foldl append empty = ofTags own := List.foldl_map
  rw [← same, tags_foldl_append]
  · refine List.forall_mem_map.2 fun tag member empty => ?_
    exact (single tag member).nonempty (String.toList_inj.1 empty)
  · exact List.forall_mem_map.2 fun tag member => (single tag member).commaFree

end TagGroup

/-- Tags as a message carries them: behind a mark, if there are any, and with single commas between
them. -/
def tagsWritten (tags : List (List Char)) : List Char :=
  if tags = [] then [] else '|' :: '#' :: glue ',' tags

/-- The tags that a line carries are those of its groups in their order. -/
theorem tagsText_eq (groups : List TagGroup) :
    Line.tagsText groups = tagsWritten (groups.flatMap TagGroup.tags) := by
  have parts : groups.flatMap TagGroup.tags =
      ((groups.map TagGroup.text).filter (!·.isEmpty)).flatMap (pieces ',') := by
    induction groups with
    | nil => rfl
    | cons group rest inductionHypothesis =>
      rw [List.flatMap_cons, inductionHypothesis, List.map_cons, TagGroup.tags]
      cases group.text <;> rfl
  rw [tagsWritten, parts, glue_flatMap_pieces]
  unfold Line.tagsText
  dsimp only
  cases (groups.map TagGroup.text).filter (!·.isEmpty) with
  | nil => rfl
  | cons text rest =>
    rw [List.isEmpty_cons, if_neg Bool.false_ne_true, if_neg]
    exact List.append_ne_nil_of_left_ne_nil (pieces_ne_nil ',' text) _

/-! ### Messages -/

/-- The message of a statistic under a base. -/
def message (namePrefix base : String) (tags : List (List Char))
    (shown : Statistic × List Char) : List Char :=
  (if namePrefix = "" then [] else namePrefix.toList ++ ['.']) ++
    base.toList ++ shown.1.suffix.toList ++ ':' :: shown.2 ++
    '|' :: shown.1.type.letter :: tagsWritten tags

namespace Shown

/-- The messages of an entry: its statistics, with the tags of the client and those of the name. -/
def report (namePrefix : String) (group : TagGroup) (shown : Shown) : List (List Char) :=
  (Statistic.ofReading shown.reading).map
    (message namePrefix shown.name.base (group.tags ++ shown.name.tags.map String.toList))

theorem exists_name_of_mem {store : Store} {entries : List (String × Handle)} {shown : Shown}
    (member : shown ∈ shownBy store entries) : ∃ text, shown.name = Name.read text := by
  induction entries generalizing store with
  | nil => cases member
  | cons entry rest inductionHypothesis =>
    rcases List.mem_append.1 member with own | later
    · obtain ⟨reading, _, rfl⟩ := Option.map_eq_some_iff.1 (Option.mem_toList.1 own)
      exact ⟨entry.1, rfl⟩
    · exact inductionHypothesis later

theorem messages_eq_report (client : Client) {shown : Shown} {text : String}
    (read : shown.name = Name.read text) :
    shown.messages client = shown.report client.namePrefix client.tags := by
  have tags : [client.tags, .ofTags shown.name.tags].flatMap TagGroup.tags =
      client.tags.tags ++ shown.name.tags.map String.toList := by
    rw [List.flatMap_cons, List.flatMap_singleton, TagGroup.tags_ofTags]
    intro tag member
    rw [read] at member
    exact Name.isSingleTag_of_mem_read member
  rw [messages, lines, Statistic.readingLines_eq, List.map_map, report]
  refine List.map_congr_left fun statistic _ => ?_
  rw [Function.comp_apply, Line.body, Statistic.line, groups, tagsText_eq, tags,
    String.toList_append, message, Line.prefixText]
  simp only [List.append_assoc]

end Shown

/-- The messages of all entries of a registry in their order, each with its line break. -/
def report (namePrefix : String) (group : TagGroup) (store : Store) (id : RegistryId) :
    List Char :=
  unlines ((shownBy store (store.registry id).entries).flatMap (Shown.report namePrefix group))

theorem unlines_messages (client : Client) (store : Store) (id : RegistryId) :
    unlines ((shownBy store (store.registry id).entries).flatMap (Shown.messages client)) =
      report client.namePrefix client.tags store id := by
  refine congrArg unlines (List.flatMap_congr fun shown member => ?_)
  obtain ⟨_, read⟩ := Shown.exists_name_of_mem member
  exact Shown.messages_eq_report client read

/-! ### The text of an emission -/

/-- The text of what is done with the sink are the messages, each with its line break. -/
theorem Shown.text_uses (client : Client) (all : List Shown) :
    ((all.flatMap uses).map client.onSink).flatMap Sink.Use.text =
      unlines (all.flatMap (messages client)) := by
  rw [List.flatMap_map, unlines, List.flatMap_assoc, List.flatMap_assoc]
  refine List.flatMap_congr fun shown _ => ?_
  rw [uses, messages, List.flatMap_map, List.flatMap_map]
  rfl

/-- A sink that has gathered nothing, over a wire that takes everything. -/
structure Sink.IsReady (sink : Sink) : Prop where
  reliable : ∀ place datagram, sink.wire.accepts place datagram = true
  nothing : sink.pending = []

/-- What an emission sends, cut into datagrams in whatever way, is the report of the registry. -/
theorem unlines_emitOnce (emitter : Emitter) (store : Store)
    (ready : emitter.client.sink.IsReady) :
    let client := emitter.client
    let after := (emitter.emitOnce store).1.client.sink
    (∃ datagrams, after.wire.delivered = client.sink.wire.delivered ++ datagrams ∧
      unlines datagrams = report client.namePrefix client.tags store emitter.registry) ∧
      after.pending = [] := by
  intro client after
  let shown := shownBy store (store.registry emitter.registry).entries
  have ended : ∀ use ∈ (shown.flatMap Shown.uses).map client.onSink, IsEnded use.text :=
    List.forall_mem_map.2 fun use _ => client.isEnded_onSink use
  obtain ⟨datagrams, delivered, text⟩ :=
    client.sink.unlines_delivered_useAll_flush ready.reliable ready.nothing ended
  have run : after = client.sink.useAll _ := emitter.sink_emitOnce store
  rw [← run] at delivered
  refine ⟨⟨datagrams, delivered, ?_⟩, ?_⟩
  · rw [text, Shown.text_uses, unlines_messages]
  · rw [run, Sink.pending_useAll_flush]

/-- The report of a registry does not depend on the handles of the metrics. -/
theorem report_renamed {rename : Equiv.Perm Handle} {first second : Store}
    (renamed : Store.Renamed rename first second) (namePrefix : String) (group : TagGroup)
    (id : RegistryId) : report namePrefix group second id = report namePrefix group first id := by
  have same (entries : List (String × Handle)) :
      shownBy second (entries.map fun entry => (entry.1, rename entry.2)) =
        shownBy first entries := by
    induction entries generalizing first second with
    | nil => rfl
    | cons entry rest inductionHypothesis =>
      obtain ⟨reading, next⟩ := renamed.read entry.2
      rw [List.map_cons, shownBy, shownBy]
      dsimp only
      rw [reading, inductionHypothesis next]
  rw [report, renamed.entries, same, report]

/-- What one emission sends. Through a sink that has gathered nothing, over a wire that takes
everything, the datagrams with a line break behind each are the report of the registry, whatever the
sizes of the sink are, and nothing is gathered afterwards. The report goes through the entries in
the order of the bytes of their names, and for each live entry tells the statistics of its kind in
their order, under the base and with the tags that are read from its own name. It is the same for
all stores that differ in their handles only, and so for metrics that are registered in another
order. -/
theorem emission_reports_registry :
    (∀ (emitter : Emitter) (store : Store), emitter.client.sink.IsReady →
      let client := emitter.client
      let after := (emitter.emitOnce store).1.client.sink
      (∃ datagrams, after.wire.delivered = client.sink.wire.delivered ++ datagrams ∧
        unlines datagrams = report client.namePrefix client.tags store emitter.registry) ∧
        after.pending = []) ∧
    (∀ (store : Store) (id : RegistryId),
      let entries := (store.registry id).entries
      (∀ name handle, (name, handle) ∈ entries ↔ store.lookup id name = some handle) ∧
        entries.Pairwise (fun first second => bytes first.1 < bytes second.1) ∧
        (shownBy store entries).map
            (fun shown => (shown.name, (Statistic.ofReading shown.reading).map Prod.fst)) =
          entries.filterMap fun entry =>
            (store.kind? entry.2).map fun kind => (Name.read entry.1, Statistic.ofKind kind)) ∧
    (∀ (namePrefix : String) (group : TagGroup) (id : RegistryId),
      (∀ rename first second, Store.Renamed rename first second →
        report namePrefix group second id = report namePrefix group first id) ∧
      ∀ (store : Store) (metrics reordered : List (String × Metric)), store.Sound →
        metrics.Perm reordered → (metrics.map Prod.fst).Nodup →
        report namePrefix group (store.registerAll id reordered) id =
          report namePrefix group (store.registerAll id metrics) id) := by
  refine ⟨unlines_emitOnce, fun store id => ⟨?_, ?_, ?_⟩, fun namePrefix group id => ⟨?_, ?_⟩⟩
  · exact fun name handle => Dictionary.mem_entries_iff
  · exact (store.registry id).ascending.imp bytes_lt_iff.2
  · refine map_shownBy _ (fun name kind => (name, Statistic.ofKind kind)) ?_ store _
    intro store handle name
    have kinds := congrArg (Option.map (Prod.mk name)) (Statistic.map_fst_ofReading store handle)
    rwa [Option.map_map, Option.map_map] at kinds
  · exact fun rename first second renamed => report_renamed renamed namePrefix group id
  · intro store metrics reordered sound perm distinct
    obtain ⟨_, renamed⟩ := Store.exists_renamed_registerAll sound id perm distinct
    exact report_renamed renamed namePrefix group id

/-- A counter and a gauge are sent in the order of their names, through a small sink and through a
large one, and whichever is registered first. -/
theorem emission_reports_two_metrics :
    let emitter (cacheSize limit : Nat) : Emitter :=
      ⟨"main", (Client.starting "app" (.starting cacheSize limit .accepting) 0).withTagValue "x"⟩
    let empty := Store.starting fun _ => 0
    let metrics := [("up[z]", Metric.gauge 3), ("jobs[host:a]", .counter 7)]
    let reordered := [("jobs[host:a]", Metric.counter 7), ("up[z]", .gauge 3)]
    let sent (cacheSize limit : Nat) (metrics : List (String × Metric)) :=
      ((emitter cacheSize limit).emitOnce
        (empty.registerAll "main" metrics)).1.client.sink.wire.delivered
    ((∀ cacheSize limit, (emitter cacheSize limit).client.sink.IsReady) ∧ empty.Sound ∧
        metrics.Perm reordered ∧ (metrics.map Prod.fst).Nodup) ∧
      unlines (sent 8 16 metrics) =
        "app.jobs:7|c|#x,host:a\napp.up:3|g|#x,z\n".toList ∧
      unlines (sent 1024 1432 reordered) = unlines (sent 8 16 metrics) := by
  intro emitter empty metrics reordered sent
  have ready (cacheSize limit : Nat) : (emitter cacheSize limit).client.sink.IsReady :=
    ⟨fun _ _ => rfl, rfl⟩
  have sound : empty.Sound := Store.sound_starting _
  have perm : metrics.Perm reordered := .swap _ _ _
  have distinct : (metrics.map Prod.fst).Nodup := by decide
  obtain ⟨sends, _, same⟩ := emission_reports_registry
  have text (cacheSize limit : Nat) (metrics : List (String × Metric)) :
      unlines (sent cacheSize limit metrics) =
        report "app" ⟨['x']⟩ (empty.registerAll "main" metrics) "main" := by
    obtain ⟨⟨datagrams, delivered, shown⟩, _⟩ :=
      sends (emitter cacheSize limit) (empty.registerAll "main" metrics) (ready cacheSize limit)
    exact (congrArg unlines delivered).trans shown
  refine ⟨⟨ready, sound, perm, distinct⟩, ?_, ?_⟩
  · rw [text]
    decide +kernel
  · rw [text, text]
    exact (same "app" ⟨['x']⟩ "main").2 empty metrics reordered sound perm distinct

end Telemetry.Statsd
