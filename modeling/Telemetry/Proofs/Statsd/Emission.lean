/-
This file proves what one emission sends. It is a run of the client: the entries
of the registry are read in their order, the lines of what each shows are sent,
and what is gathered is flushed. Over a wire that takes everything the datagrams
therefore come apart into the lines that the messages of the entries hold, and
these are the messages themselves exactly if no base and no tag holds a line
break: nothing on the way from a name to the wire takes one out.
-/

import Telemetry.Proofs.Statsd.Failures
import Telemetry.Proofs.Store.Steady

namespace Telemetry.Statsd

open Text

/-! ### What the entries show -/

/-- What an entry shows: its name and what its metric shows when it is read. -/
structure Shown where
  name : Name
  reading : Reading

/-- What entries show that are read in their order. -/
def shownBy (store : Store) : List (String × Handle) → List Shown
  | [] => []
  | entry :: rest =>
    let (reading, next) := store.read entry.2
    (reading.map (Shown.mk (Name.read entry.1))).toList ++ shownBy next rest

namespace Shown

variable (client : Client) (shown : Shown)

def lines : List Line :=
  readingLines shown.name.base shown.reading

def groups : List TagGroup :=
  [.ofTags shown.name.tags]

/-- The messages of the entry without the line breaks behind them. -/
def messages : List (List Char) :=
  shown.lines.map (Line.body client.namePrefix (client.tags :: shown.groups))

end Shown

theorem shownBy_noting (store : Store) (notices : List Notice) (entries : List (String × Handle)) :
    shownBy (store.noting notices) entries = shownBy store entries := by
  induction entries generalizing store with
  | nil => rfl
  | cons entry rest inductionHypothesis =>
    rw [shownBy, shownBy, store.read_noting]
    dsimp only
    rw [inductionHypothesis]

/-! ### The emission as a run of the client -/

/-- What is done with the client for the entry. -/
def Shown.uses (shown : Shown) : List Client.Use :=
  shown.lines.map (.send shown.groups)

theorem Client.useAll_append (client : Client) (first second : List (Int × Client.Use)) :
    client.useAll (first ++ second) = (client.useAll first).useAll second :=
  List.foldl_append

theorem Client.fst_sendAll (client : Client) (now : Int) (groups : List TagGroup)
    (lines : List Line) :
    (client.sendAll now groups lines).1 =
      client.useAll ((lines.map (Use.send groups)).map (Prod.mk now)) := by
  induction lines generalizing client with
  | nil => rfl
  | cons line rest inductionHypothesis => exact inductionHypothesis _

namespace Emitter

theorem emitEntry_spec (client : Client) (store : Store) (entry : String × Handle) :
    let shown := ((store.read entry.2).1.map (Shown.mk (Name.read entry.1))).toList
    let after := emitEntry client store entry.1 entry.2
    after.1 = client.useAll ((shown.flatMap Shown.uses).map (Prod.mk store.now)) ∧
      ∃ notices, after.2 = (store.read entry.2).2.noting notices := by
  unfold emitEntry
  dsimp only
  split
  · rename_i next read
    rw [read]
    exact ⟨rfl, next.notices, rfl⟩
  · rename_i reading next read
    rw [read, Option.map_some, Option.toList_some, List.flatMap_singleton]
    exact ⟨client.fst_sendAll store.now _ _, _, rfl⟩

theorem emitEntries_spec (client : Client) (store : Store) (entries : List (String × Handle)) :
    let after := emitEntries client store entries
    after.1 = client.useAll (((shownBy store entries).flatMap Shown.uses).map (Prod.mk store.now)) ∧
      after.2.now = store.now := by
  induction entries generalizing client store with
  | nil => exact ⟨rfl, rfl⟩
  | cons entry rest inductionHypothesis =>
    obtain ⟨sent, notices, next⟩ := emitEntry_spec client store entry
    show (emitEntries (emitEntry client store entry.1 entry.2).1
          (emitEntry client store entry.1 entry.2).2 rest).1 = _ ∧
        (emitEntries (emitEntry client store entry.1 entry.2).1
          (emitEntry client store entry.1 entry.2).2 rest).2.now = _
    generalize emitEntry client store entry.1 entry.2 = after at sent next ⊢
    obtain ⟨laterSent, laterTime⟩ := inductionHypothesis after.1 after.2
    have sameTime : after.2.now = store.now := by
      rw [next]
      exact store.now_read entry.2
    refine ⟨laterSent.trans ?_, laterTime.trans sameTime⟩
    -- what sending has noted so far does not matter for what is read next
    rw [sameTime, next, shownBy_noting, sent, ← Client.useAll_append, ← List.map_append,
      ← List.flatMap_append]
    rfl

/-- An emission sends the lines of what the entries show, one entry after the other, and flushes. -/
theorem client_emitOnce (emitter : Emitter) (store : Store) :
    let shown := shownBy store (store.registry emitter.registry).entries
    (emitter.emitOnce store).1.client =
      emitter.client.useAll
        ((shown.flatMap Shown.uses ++ [Client.Use.flush]).map (Prod.mk store.now)) := by
  intro shown
  obtain ⟨sent, sameTime⟩ :=
    emitEntries_spec emitter.client store (store.registry emitter.registry).entries
  rw [List.map_append, Client.useAll_append, ← sent]
  show ((emitEntries _ _ _).1.flush (emitEntries _ _ _).2.now).1 = _
  rw [sameTime]
  rfl

theorem sink_emitOnce (emitter : Emitter) (store : Store) :
    let shown := shownBy store (store.registry emitter.registry).entries
    (emitter.emitOnce store).1.client.sink =
      emitter.client.sink.useAll
        ((shown.flatMap Shown.uses).map emitter.client.onSink ++ [.flush]) := by
  intro shown
  rw [client_emitOnce, Client.sink_useAll, List.map_map, List.map_append]
  rfl

end Emitter

/-! ### Messages and lines -/

theorem length_readingLines (store : Store) (handle : Handle) (base : String) :
    (store.read handle).1.map (fun reading => (readingLines base reading).length) =
      (store.kind? handle).map linesOfKind := by
  unfold Store.read Store.kind?
  cases store.metric? handle with
  | none => rfl
  | some metric => cases metric <;> rfl

/-- What the name of an entry and the kind of its metric decide does not depend on what is read. -/
theorem map_shownBy {Value : Type} (ofShown : Shown → Value) (ofKind : Name → Kind → Value)
    (decided : ∀ (store : Store) (handle : Handle) (name : Name),
      (store.read handle).1.map (fun reading => ofShown ⟨name, reading⟩) =
        (store.kind? handle).map (ofKind name))
    (store : Store) (entries : List (String × Handle)) :
    (shownBy store entries).map ofShown =
      entries.filterMap fun entry => (store.kind? entry.2).map (ofKind (Name.read entry.1)) := by
  induction entries generalizing store with
  | nil => rfl
  | cons entry rest inductionHypothesis =>
    have own := decided store entry.2 (Name.read entry.1)
    have later := inductionHypothesis (store.read entry.2).2
    -- reading may change states, which decide values, but no kind
    simp only [(store.steady_read entry.2).kind] at later
    rw [shownBy]
    dsimp only
    rw [List.map_append, later, List.filterMap_cons, ← own]
    cases (store.read entry.2).1 <;> rfl

/-- The names of the entries and the numbers of their messages do not depend on what is read. -/
theorem messages_shownBy (client : Client) (store : Store) (entries : List (String × Handle)) :
    (shownBy store entries).map (fun shown => (shown.name, (shown.messages client).length)) =
      entries.filterMap fun entry =>
        (store.kind? entry.2).map fun kind => (Name.read entry.1, linesOfKind kind) := by
  refine map_shownBy _ (fun name kind => (name, linesOfKind kind)) (fun store handle name => ?_)
    store entries
  have number := congrArg (Option.map (Prod.mk name)) (length_readingLines store handle name.base)
  rw [Option.map_map, Option.map_map] at number
  simp only [Shown.messages, List.length_map]
  exact number

namespace Shown

/-- How many line breaks the base and the tags hold. -/
def breaks (shown : Shown) : Nat :=
  shown.name.base.toList.count '\n' + (shown.name.tags.map fun tag => tag.toList.count '\n').sum

variable {client : Client} {shown : Shown}

/-- A message holds the line breaks of the base and of the tags, and no others if there are none in
the prefix and the tags of the client. -/
theorem count_message (prefixFree : '\n' ∉ client.namePrefix.toList)
    (tagsFree : '\n' ∉ client.tags.text) {message : List Char}
    (member : message ∈ shown.messages client) : message.count '\n' = shown.breaks := by
  obtain ⟨line, own, rfl⟩ := List.mem_map.1 member
  obtain ⟨name, value⟩ := isAbout_of_mem_readingLines shown.name.base shown.reading line own
  rw [Line.count_body, name, List.count_eq_zero.2 prefixFree, List.count_eq_zero.2 value, groups,
    List.map_cons, List.map_singleton, List.sum_cons, List.sum_singleton,
    List.count_eq_zero.2 tagsFree, TagGroup.count_ofTags, Nat.zero_add, Nat.add_zero, Nat.zero_add]
  rfl

theorem messages_ne_nil (client : Client) (shown : Shown) : shown.messages client ≠ [] := by
  obtain ⟨name, reading⟩ := shown
  cases reading <;> exact List.cons_ne_nil _ _

theorem lines_uses (client : Client) (all : List Shown) :
    ((all.flatMap uses).map client.onSink).flatMap Sink.Use.lines =
      (all.flatMap (messages client)).flatMap (pieces '\n') := by
  rw [List.flatMap_map, List.flatMap_assoc, List.flatMap_assoc]
  refine List.flatMap_congr fun shown _ => ?_
  rw [uses, messages, List.flatMap_map, List.flatMap_map]
  exact List.flatMap_congr fun line _ => client.lines_onSink shown.groups line

/-- The messages of all entries are free of line breaks if and only if the bases and the tags
are. -/
theorem newline_not_mem_messages_iff (prefixFree : '\n' ∉ client.namePrefix.toList)
    (tagsFree : '\n' ∉ client.tags.text) (all : List Shown) :
    (∀ message ∈ all.flatMap (messages client), '\n' ∉ message) ↔
      ∀ shown ∈ all, shown.breaks = 0 := by
  constructor
  · intro free shown member
    obtain ⟨message, own⟩ := List.exists_mem_of_ne_nil _ (shown.messages_ne_nil client)
    rw [← count_message prefixFree tagsFree own]
    exact List.count_eq_zero.2 (free message (List.mem_flatMap_of_mem member own))
  · intro clean message member
    obtain ⟨shown, ofAll, own⟩ := List.mem_flatMap.1 member
    rw [← List.count_eq_zero, count_message prefixFree tagsFree own]
    exact clean shown ofAll

end Shown

/-- What one emission over a wire that takes everything puts on it, through a client that has
gathered nothing and whose prefix and tags hold no line break. The messages are those of the live
entries in their order, as many for each as its kind takes, and the datagrams come apart into the
lines that the messages hold: one for each message, and one more for each line break in the base or
in a tag. So every line is one message if and only if no base and no tag holds a line break. -/
theorem lines_emitOnce_iff (emitter : Emitter) (store : Store)
    (reliable : ∀ place datagram, emitter.client.sink.wire.accepts place datagram = true)
    (nothing : emitter.client.sink.pending = [])
    (prefixFree : '\n' ∉ emitter.client.namePrefix.toList)
    (tagsFree : '\n' ∉ emitter.client.tags.text) :
    let client := emitter.client
    let entries := (store.registry emitter.registry).entries
    let shown := shownBy store entries
    let messages := shown.flatMap (Shown.messages client)
    ∃ datagrams,
      (emitter.emitOnce store).1.client.sink.wire.delivered =
          client.sink.wire.delivered ++ datagrams ∧
        let lines := datagrams.flatMap (pieces '\n')
        lines = messages.flatMap (pieces '\n') ∧
          shown.map (fun entry => (entry.name, (entry.messages client).length)) =
            entries.filterMap (fun entry =>
              (store.kind? entry.2).map fun kind => (Name.read entry.1, linesOfKind kind)) ∧
          (∀ entry ∈ shown, ∀ message ∈ entry.messages client,
            (pieces '\n' message).length = entry.breaks + 1) ∧
          (lines.length = messages.length ↔ ∀ entry ∈ shown, entry.breaks = 0) ∧
          (lines = messages ↔ ∀ entry ∈ shown, entry.breaks = 0) := by
  intro client entries shown messages
  have clean : (∀ message ∈ messages, '\n' ∉ message) ↔ ∀ entry ∈ shown, entry.breaks = 0 :=
    Shown.newline_not_mem_messages_iff prefixFree tagsFree shown
  have ended : ∀ use ∈ (shown.flatMap Shown.uses).map client.onSink, IsEnded use.text :=
    List.forall_mem_map.2 fun use _ => client.isEnded_onSink use
  obtain ⟨datagrams, delivered, lines⟩ :=
    client.sink.lines_delivered_useAll reliable nothing ended
  rw [Shown.lines_uses] at lines
  refine ⟨datagrams, ?_, lines, messages_shownBy client store entries, ?_, ?_, ?_⟩
  · rw [Emitter.client_emitOnce, Client.sink_useAll, List.map_map, ← delivered, List.map_append]
    rfl
  · intro entry _ message member
    rw [length_pieces, Shown.count_message prefixFree tagsFree member]
  · rw [lines, length_flatMap_pieces_eq_iff]
    exact clean
  · refine ⟨fun same => clean.1 ?_, fun free => lines.trans ?_⟩
    · rw [← length_flatMap_pieces_eq_iff, ← lines, same]
    · exact flatMap_pieces_of_not_mem (clean.2 free)

/-- An emitter for the standard registry, over a wire that takes everything. -/
def plainEmitter (namePrefix : String) : Emitter :=
  ⟨"", .starting namePrefix (.starting 512 1432 .accepting) 0⟩

/-- A counter with a tag sends one line. -/
theorem lines_emitOnce_tagged :
    let emitter := plainEmitter "app"
    let store := Store.performAll (.starting fun _ => 0)
      [.getOrRegister "" "jobs[host:a]" (.counter 7)]
    ((∀ place datagram, emitter.client.sink.wire.accepts place datagram = true) ∧
      emitter.client.sink.pending = [] ∧ '\n' ∉ emitter.client.namePrefix.toList ∧
      '\n' ∉ emitter.client.tags.text) ∧
      ∃ datagrams, (emitter.emitOnce store).1.client.sink.wire.delivered = [] ++ datagrams ∧
        datagrams.flatMap (pieces '\n') = ["app.jobs:7|c|#host:a".toList] := by
  intro emitter store
  have prefixFree : '\n' ∉ emitter.client.namePrefix.toList := by decide
  have tagsFree : '\n' ∉ emitter.client.tags.text := List.not_mem_nil
  refine ⟨⟨fun _ _ => rfl, rfl, prefixFree, tagsFree⟩, ?_⟩
  obtain ⟨datagrams, delivered, _, _, _, _, each⟩ :=
    lines_emitOnce_iff emitter store (fun _ _ => rfl) rfl prefixFree tagsFree
  have clean : ∀ shown ∈ shownBy store (store.registry "").entries, shown.breaks = 0 := by
    decide +kernel
  exact ⟨datagrams, delivered, (each.2 clean).trans (by decide +kernel)⟩

/-- A line break in a base and one in a tag each forge a line: two counters send four lines. -/
theorem names_forge_lines :
    let emitter := plainEmitter ""
    let store := Store.performAll (.starting fun _ => 0)
      [.getOrRegister "" "a:1|c\nb" (.counter 7), .getOrRegister "" "c[x\nd:2|c]" (.counter 8)]
    (store.registry "").entries.map (fun entry => store.kind? entry.2) =
        [some .counter, some .counter] ∧
      (emitter.emitOnce store).1.client.sink.wire.delivered.flatMap (pieces '\n') =
        ["a:1|c".toList, "b:7|c".toList, "c:8|c|#x".toList, "d:2|c".toList] := by
  decide +kernel

end Telemetry.Statsd
