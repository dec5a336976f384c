/-
This file proves that the total of a counter reaches both exporters. Reading the
entries before it leaves a counter as it is, so an emission sends its total as a
message of its own, between those of smaller and of greater names, and a
collection exposes it unless an entry of a smaller name is in its way. Neither
takes anything from the total: what was sent or exposed before does not matter.
-/

import Telemetry.Proofs.Exposition.Conservation
import Telemetry.Proofs.Statsd.Messages
import Telemetry.Proofs.Store.Counting

namespace Telemetry

open Store

/-! ### Emissions -/

namespace Statsd

open Text

/-- Among what the entries of a registry show is the total of each counter. -/
theorem exists_shownBy_counter {store : Store} {entries : List (String × Handle)} {name : String}
    {held : Handle} (member : (name, held) ∈ entries) {total : Int64}
    (counter : store.metric? held = some (.counter total)) :
    ∃ before behind,
      shownBy store entries = before ++ ⟨Name.read name, .count total⟩ :: behind := by
  induction entries generalizing store with
  | nil => cases member
  | cons entry rest inductionHypothesis =>
    rcases List.mem_cons.1 member with rfl | later
    · refine ⟨[], shownBy (store.read held).2 rest, ?_⟩
      have shown : (store.read held).1 = some (.count total) := by
        rw [Store.read, counter]
      rw [shownBy]
      dsimp only
      rw [shown]
      rfl
    · obtain ⟨before, behind, split⟩ :=
        inductionHypothesis later
          (KeepsCounters.allowsReading.read store entry.2 held total counter)
      rw [shownBy]
      dsimp only
      rw [split, ← List.append_assoc]
      exact ⟨_, behind, rfl⟩

/-- The message of a counter. -/
def counterMessage (client : Client) (name : Name) (total : Int64) : List Char :=
  message client.namePrefix name.base (client.tags.tags ++ name.tags.map String.toList)
    (Statistic.total.whole total)

/-- An emission sends the total of a counter under its name: it gives the message to the sink as a
line of its own, between what other entries show, and if the sink has gathered nothing and the wire
takes everything, the message is delivered in the same place. -/
def Emitter.SendsTotal (emitter : Emitter) (store : Store) (name : Name) (total : Int64) : Prop :=
  let client := emitter.client
  let after := (emitter.emitOnce store).1.client.sink
  let line := counterMessage client name total ++ ['\n']
  let given := fun shown : List Shown => (shown.flatMap Shown.uses).map client.onSink
  let report := fun shown : List Shown =>
    unlines (shown.flatMap (Shown.report client.namePrefix client.tags))
  ∃ before behind,
    shownBy store (store.registry emitter.registry).entries =
      before ++ ⟨name, .count total⟩ :: behind ∧
    after = client.sink.useAll (given before ++ .emit line :: (given behind ++ [.flush])) ∧
    (client.sink.IsReady → ∃ datagrams,
      after.wire.delivered = client.sink.wire.delivered ++ datagrams ∧
        unlines datagrams = report before ++ line ++ report behind)

/-- A counter is given to the sink as one line, which is its message with a line break. -/
theorem onSink_uses_counter (client : Client) (name : String) (total : Int64) :
    (Shown.uses ⟨Name.read name, .count total⟩).map client.onSink =
      [.emit (counterMessage client (Name.read name) total ++ ['\n'])] := by
  let shown : Shown := ⟨Name.read name, .count total⟩
  have messages : shown.messages client = [counterMessage client (Name.read name) total] :=
    Shown.messages_eq_report client (rfl : shown.name = Name.read name)
  have body := List.singleton_inj.1 messages
  rw [← body]
  rfl

theorem sendsTotal_of_counts {store : Store} {emitter : Emitter} {name : String} {held : Handle}
    {total : Int64} (counts : store.Counts emitter.registry name held total) :
    emitter.SendsTotal store (Name.read name) total := by
  have member : (name, held) ∈ (store.registry emitter.registry).entries :=
    Dictionary.mem_entries_iff.2 counts.filed
  obtain ⟨before, behind, split⟩ := exists_shownBy_counter member counts.counter
  refine ⟨before, behind, split, ?_, fun ready => ?_⟩
  · rw [Emitter.sink_emitOnce, split, List.flatMap_append, List.flatMap_cons, List.map_append,
      List.map_append, onSink_uses_counter, List.append_assoc, List.append_assoc]
    rfl
  · obtain ⟨⟨datagrams, delivered, text⟩, _⟩ := unlines_emitOnce emitter store ready
    refine ⟨datagrams, delivered, text.trans ?_⟩
    have own : Shown.report emitter.client.namePrefix emitter.client.tags
        ⟨Name.read name, .count total⟩ =
          [counterMessage emitter.client (Name.read name) total] := rfl
    rw [report, split, List.flatMap_append, List.flatMap_cons, own, unlines_append, unlines_append,
      unlines_cons, ← List.append_assoc]
    rfl

end Statsd

/-! ### Collections -/

namespace Exposition

/-- What the entry of a counter offers, if its base holds a valid character. -/
def counterOffer (settings : Settings) (entry : String) (total : Int64) : Offer where
  entry := entry
  family := metricName (Name.read entry).base
  help := Kind.counter.word
  type := .untyped
  labels := seriesLabels settings (Name.read entry).tags false
  value := .single (number total)

/-- Among what the entries of a registry offer is the total of each counter. -/
theorem counterOffer_mem_offered {settings : Settings} {store : Store}
    {entries : List (String × Handle)} {name : String} {held : Handle}
    (member : (name, held) ∈ entries) {total : Int64}
    (counter : store.metric? held = some (.counter total))
    (named : metricName (Name.read name).base ≠ "") :
    counterOffer settings name total ∈ offered settings store entries := by
  induction entries generalizing store with
  | nil => cases member
  | cons entry rest inductionHypothesis =>
    obtain ⟨entryName, handle⟩ := entry
    rw [offered, List.mem_append]
    rcases List.mem_cons.1 member with same | later
    · left
      cases same
      have kind : store.kind? held = some .counter := by
        rw [kind?, counter]
        rfl
      have shown : readForExposition store held = (some (.count total), store) := by
        rw [readForExposition, counter, Store.read, counter]
      have own : offersOf settings store name held = [counterOffer settings name total] := by
        simp only [offersOf, entryContributions, if_neg named, kind, shown, contributions,
          List.map_singleton, String.append_empty]
        rfl
      rw [own]
      exact List.mem_singleton_self _
    · right
      exact inductionHypothesis later
        (KeepsCounters.allowsReading.exposition.entryContributions settings store entryName handle
          held total counter)

/-- An offer is in the way of a counter if it comes from an entry of a smaller name, is for the
family of the counter, and is of another type or has the labels of the counter. -/
def Offer.Obstructs (rival : Offer) (settings : Settings) (name : String) : Prop :=
  rival.entry < name ∧ rival.family = metricName (Name.read name).base ∧
    (rival.type ≠ .untyped ∨ rival.labels = seriesLabels settings (Name.read name).tags false)

/-- A collection exposes the total of a counter under its name: its family is untyped and holds a
series with its labels and the total as a floating point number. -/
def ExposesTotal (settings : Settings) (store : Store) (id : RegistryId) (name : Name)
    (total : Int64) : Prop :=
  ∃ family ∈ (collect settings store id).1,
    family.name = metricName name.base ∧ family.type = .untyped ∧
      ⟨seriesLabels settings name.tags false, .single (number total)⟩ ∈ family.series

theorem exposesTotal_of_counts {settings : Settings} {store : Store} {id : RegistryId}
    {name : String} {held : Handle} {total : Int64} (counts : store.Counts id name held total)
    (named : metricName (Name.read name).base ≠ "")
    (free : ∀ rival ∈ taken settings store id, ¬ rival.Obstructs settings name) :
    ExposesTotal settings store id (Name.read name) total := by
  let offer := counterOffer settings name total
  have offered : offer ∈ offers settings store id :=
    counterOffer_mem_offered (Dictionary.mem_entries_iff.2 counts.filed) counts.counter named
  have decided := (taken_refused_perm [] (offers settings store id)).mem_iff.2 offered
  rcases List.mem_append.1 decided with accepted | dropped
  · have listed : offer.listed ∈ (collect settings store id).1.flatMap Family.listed :=
      (listed_collect settings store id).mem_iff.2 (List.mem_map_of_mem accepted)
    obtain ⟨family, collected, own⟩ := List.mem_flatMap.1 listed
    obtain ⟨series, member, same⟩ := List.mem_map.1 own
    obtain ⟨familyName, rest⟩ := Prod.mk.inj same
    obtain ⟨type, sameSeries⟩ := Prod.mk.inj rest
    rw [sameSeries] at member
    exact ⟨family, collected, familyName, type, member⟩
  · obtain ⟨⟨_, notice⟩, refused, rfl⟩ := List.mem_map.1 dropped
    obtain ⟨rival, rivalTaken, smaller, family, conflict⟩ :=
      exists_bars_of_mem_refused settings store id refused
    refine absurd ⟨smaller, family, ?_⟩ (free rival rivalTaken)
    exact conflict.imp And.left fun both => both.2.1

end Exposition

namespace Store

/-! ### Whole runs -/

end Store

end Telemetry
