/-
This file proves that failed sends only drop. Whatever pattern of datagrams the
wire refuses, the lines that arrive are some of the lines that were sent, in
their order, each at most once and never cut. Of a batch, the datagrams before
the first refused one arrive and the rest are lost. A batch that fails leaves
nothing behind: the client goes on as one that has never sent anything over the
same wire, and has counted one failure. What the wire does decides nothing else,
since the sink forgets a batch before it knows what became of it.
-/

import Mathlib.Data.List.Flatten
import Telemetry.Proofs.Statsd.Batches
import Telemetry.Proofs.Statsd.Lines

namespace Telemetry.Statsd

open Text

/-! ### Batches that fail -/

namespace Batch

variable (limit : Nat) (accepts : Nat → List Char → Bool) (batch : Batch)

/-- A batch fails exactly if something of it is lost. -/
theorem failed_iff : batch.failed limit accepts ↔ batch.lost limit accepts ≠ [] := by
  rw [failed, lost, Ne, List.map_eq_nil_iff, List.dropWhile_eq_nil_iff, List.any_eq_true,
    not_forall]
  refine exists_congr fun offer => ?_
  rw [Classical.not_imp, Bool.not_eq_true', Bool.not_eq_true]

theorem taken_sublist : (batch.taken limit accepts).Sublist (pack limit batch.lines) := by
  rw [← batch.taken_append_lost limit accepts]
  exact List.sublist_append_left _ _

end Batch

namespace Sink

variable (sink : Sink)

theorem fst_use (use : Use) :
    (sink.use use).1 =
      !(sink.batch? use).any (Batch.failed sink.segmentLimit sink.wire.accepts) := by
  cases sending : sink.batch? use with
  | none =>
    rw [use_of_gathering sink sending]
    rfl
  | some batch =>
    obtain ⟨_, wire, used, _⟩ := use_of_sending sink sending
    rw [used]
    rfl

/-- The lines that arrive are some of those that were gathered and emitted, in their order. -/
theorem sublist_delivered_useAll (pending : IsEnded sink.pending) {uses : List Use}
    (ended : ∀ use ∈ uses, IsEnded use.text) :
    ((sink.batches uses).flatMap (Batch.taken sink.segmentLimit sink.wire.accepts)
        |>.flatMap (pieces '\n')).Sublist (linesOf sink.pending ++ uses.flatMap Use.lines) := by
  have lines := (sink.lines_useAll pending ended).2
  have each : ∀ batch ∈ sink.batches uses,
      ((batch.taken sink.segmentLimit sink.wire.accepts).flatMap (pieces '\n')).Sublist
        batch.lines := by
    intro batch member
    have arrived :=
      (batch.taken_sublist sink.segmentLimit sink.wire.accepts).flatMap (pieces '\n')
    rwa [flatMap_pieces_pack _ fun _ => sink.newline_not_mem_of_mem_batches member] at arrived
  rw [List.flatMap_assoc, ← lines]
  exact (List.Sublist.flatMap_right _ each).trans (List.sublist_append_left _ _)

end Sink

/-! ### What is done with a client -/

/-- What is done with a client. -/
inductive Client.Use
  | send (groups : List TagGroup) (line : Line)
  | flush

namespace Client

/-- The client after a use. -/
def use (client : Client) (now : Int) : Use → Client
  | .send groups line => (client.send now groups line).1
  | .flush => (client.flush now).1

/-- The client after uses at given times. -/
def useAll (client : Client) (uses : List (Int × Use)) : Client :=
  uses.foldl (fun current timed => current.use timed.1 timed.2) client

/-- What a use of the client does with its sink. -/
def onSink (client : Client) : Use → Sink.Use
  | .send groups line => .emit (line.written client.namePrefix (client.tags :: groups))
  | .flush => .flush

/-- The client with nothing sent so far, over the given wire. -/
def anew (client : Client) (wire : Wire) : Client :=
  { client with sink := .starting client.sink.cacheSize client.sink.segmentLimit wire }

variable (client : Client)

theorem isEnded_onSink (use : Use) : IsEnded (client.onSink use).text := by
  cases use with
  | send groups line => exact isEnded_concat _
  | flush => exact nofun

/-- What a line sends are the pieces of its body: one message, if it holds no line break. -/
theorem lines_onSink (groups : List TagGroup) (line : Line) :
    (client.onSink (.send groups line)).lines =
      pieces '\n' (line.body client.namePrefix (client.tags :: groups)) :=
  linesOf_concat _

theorem afterSend_spec (now : Int) (outcome : Bool × Sink) :
    let after := (client.afterSend now outcome).1
    after.sink = outcome.2 ∧ after.namePrefix = client.namePrefix ∧ after.tags = client.tags ∧
      after.sendErrors = client.sendErrors + if outcome.1 then 0 else 1 := by
  obtain ⟨taken, sink⟩ := outcome
  cases taken with
  | true => exact ⟨rfl, rfl, rfl, rfl⟩
  | false =>
    simp only [afterSend, noteFailure, Bool.false_eq_true, if_false]
    split <;> exact ⟨rfl, rfl, rfl, rfl⟩

/-- A use of a client is a use of its sink; if that fails, one more failure is counted. -/
theorem use_spec (now : Int) (use : Use) :
    let after := client.use now use
    let outcome := client.sink.use (client.onSink use)
    after.sink = outcome.2 ∧ after.namePrefix = client.namePrefix ∧ after.tags = client.tags ∧
      after.sendErrors = client.sendErrors + if outcome.1 then 0 else 1 := by
  cases use <;> exact client.afterSend_spec now _

theorem onSink_use (now : Int) (use : Use) : (client.use now use).onSink = client.onSink := by
  obtain ⟨_, sameName, sameTags, _⟩ := client.use_spec now use
  funext other
  cases other <;> simp only [onSink, sameName, sameTags]

theorem sendErrors_use (now : Int) (use : Use) :
    (client.use now use).sendErrors = client.sendErrors +
      (client.sink.batch? (client.onSink use)).toList.countP
        (Batch.failed client.sink.segmentLimit client.sink.wire.accepts) := by
  obtain ⟨_, _, _, counted⟩ := client.use_spec now use
  rw [counted, Sink.fst_use]
  cases client.sink.batch? (client.onSink use) with
  | none => rfl
  | some batch =>
    rw [Option.toList_some, List.countP_singleton, Option.any_some]
    cases batch.failed client.sink.segmentLimit client.sink.wire.accepts <;> rfl

theorem onSink_useAll (uses : List (Int × Use)) : (client.useAll uses).onSink = client.onSink := by
  induction uses generalizing client with
  | nil => rfl
  | cons timed rest inductionHypothesis =>
    exact (inductionHypothesis _).trans (client.onSink_use timed.1 timed.2)

theorem sink_useAll (uses : List (Int × Use)) :
    (client.useAll uses).sink =
      client.sink.useAll (uses.map fun timed => client.onSink timed.2) := by
  induction uses generalizing client with
  | nil => rfl
  | cons timed rest inductionHypothesis =>
    have later := inductionHypothesis (client.use timed.1 timed.2)
    rw [onSink_use, (client.use_spec timed.1 timed.2).1] at later
    exact later

theorem sendErrors_useAll (uses : List (Int × Use)) :
    (client.useAll uses).sendErrors = client.sendErrors +
      (client.sink.batches (uses.map fun timed => client.onSink timed.2)).countP
        (Batch.failed client.sink.segmentLimit client.sink.wire.accepts) := by
  induction uses generalizing client with
  | nil => rfl
  | cons timed rest inductionHypothesis =>
    obtain ⟨_, sameLimit, sameAccepts⟩ := client.sink.use_settings
      (client.onSink timed.2)
    have later := inductionHypothesis (client.use timed.1 timed.2)
    rw [onSink_use, (client.use_spec timed.1 timed.2).1, sameLimit, sameAccepts, sendErrors_use,
      Nat.add_assoc, ← List.countP_append] at later
    exact later

/-- After a use that sends, the client is as one that has sent nothing yet over the same wire. -/
theorem sink_use_of_sending {now : Int} {use : Use} {batch : Batch}
    (sending : client.sink.batch? (client.onSink use) = some batch) :
    (client.use now use).sink = (client.anew (client.use now use).sink.wire).sink := by
  obtain ⟨_, wire, used, _⟩ := Sink.use_of_sending client.sink sending
  rw [(client.use_spec now use).1, used]
  rfl

theorem sink_anew_useAll (uses : List (Int × Use)) (wire : Wire) :
    ((client.useAll uses).anew wire).sink = (client.anew wire).sink := by
  obtain ⟨cacheSize, limit, _⟩ := client.sink.useAll_settings
    (uses.map fun timed => client.onSink timed.2)
  rw [anew, sink_useAll, cacheSize, limit]
  rfl

/-- After a use that sends, nothing of what was done before matters but what the wire has become. -/
theorem sink_useAll_of_sending {uses : List (Int × Use)} {now : Int} {use : Use} {batch : Batch}
    (sending : (client.useAll uses).sink.batch? (client.onSink use) = some batch) :
    let after := (client.useAll uses).use now use
    after.sink.pending = [] ∧
      ∀ later, (after.useAll later).sink = ((client.anew after.sink.wire).useAll later).sink := by
  intro after
  rw [← client.onSink_useAll uses] at sending
  have fresh : after.sink = (client.anew after.sink.wire).sink :=
    (sink_use_of_sending _ sending).trans (client.sink_anew_useAll uses _)
  have onSinkAfter : after.onSink = (client.anew after.sink.wire).onSink :=
    (onSink_use _ now use).trans (client.onSink_useAll uses)
  refine ⟨congrArg Sink.pending fresh, fun later => ?_⟩
  rw [sink_useAll, sink_useAll, onSinkAfter, ← fresh]

/-- Whatever became of earlier batches, less than the cache holds is gathered after a line, or
nothing. -/
theorem pending_use_send (uses : List (Int × Use)) (now : Int) (groups : List TagGroup)
    (line : Line) :
    let after := (client.useAll uses).use now (.send groups line)
    after.sink.pending = [] ∨ byteLength after.sink.pending < client.sink.cacheSize := by
  intro after
  have bound := (client.useAll uses).sink.pending_emit
    (line.written (client.useAll uses).namePrefix ((client.useAll uses).tags :: groups))
  have settings := client.sink.useAll_settings (uses.map fun timed => client.onSink timed.2)
  rw [← sink_useAll] at settings
  rw [((client.useAll uses).use_spec now (.send groups line)).1]
  rwa [settings.1] at bound

/-- Failed sends only drop. For every client that begins with nothing sent, over a wire that refuses
datagrams in any pattern: the lines that arrive are some of those that were sent, in their order,
each once and whole, and a line without line breaks inside is one message. The batches and what is
still gathered are all the lines that were sent; of each batch the datagrams before the first
refused one arrive and the rest is lost, so a batch fails exactly if something of it is lost. After
a failed batch the client is, whatever is done later, as one that has sent nothing over the same
wire; the bound on gathered text holds after every line; and the failures counted are the failed
batches. -/
theorem failures_only_drop (namePrefix : String) (tags : TagGroup) (cacheSize limit : Nat)
    (accepts : Nat → List Char → Bool) (began : Int) (uses : List (Int × Use)) :
    let sink := Sink.starting cacheSize limit (.starting accepts)
    let client := { starting namePrefix sink began with tags }
    let final := client.useAll uses
    let batches := sink.batches (uses.map fun timed => client.onSink timed.2)
    let sent := uses.flatMap fun timed => (client.onSink timed.2).lines
    (final.sink.wire.delivered.flatMap (pieces '\n')).Sublist sent ∧
      (∀ groups line, '\n' ∉ line.body namePrefix (tags :: groups) →
        (client.onSink (.send groups line)).lines = [line.body namePrefix (tags :: groups)]) ∧
      batches.flatMap Batch.lines ++ linesOf final.sink.pending = sent ∧
      final.sink.wire.delivered = batches.flatMap (Batch.taken limit accepts) ∧
      (∀ batch ∈ batches,
        batch.taken limit accepts ++ batch.lost limit accepts = pack limit batch.lines ∧
          (batch.failed limit accepts ↔ batch.lost limit accepts ≠ [])) ∧
      (∀ now use batch, final.sink.batch? (client.onSink use) = some batch →
        batch.failed limit accepts →
        let after := final.use now use
        after.sink.pending = [] ∧
          ∀ later, (after.useAll later).sink =
            ((client.anew after.sink.wire).useAll later).sink) ∧
      (∀ now groups line, (final.use now (.send groups line)).sink.pending = [] ∨
        byteLength (final.use now (.send groups line)).sink.pending < cacheSize) ∧
      final.sendErrors = batches.countP (Batch.failed limit accepts) := by
  intro sink client final batches sent
  have ended : ∀ use ∈ uses.map fun timed => client.onSink timed.2, IsEnded use.text := by
    intro use member
    obtain ⟨timed, _, rfl⟩ := List.mem_map.1 member
    exact client.isEnded_onSink timed.2
  have nothing : IsEnded sink.pending := nofun
  have same : final.sink = sink.useAll (uses.map fun timed => client.onSink timed.2) :=
    client.sink_useAll uses
  have emitted : (uses.map fun timed => client.onSink timed.2).flatMap Sink.Use.lines = sent :=
    List.flatMap_map (fun timed : Int × Use => client.onSink timed.2) Sink.Use.lines uses
  have delivered : final.sink.wire.delivered = batches.flatMap (Batch.taken limit accepts) := by
    rw [same, Sink.delivered_useAll]
    rfl
  refine ⟨?_, fun groups line free => ?_, ?_, delivered,
    fun batch _ => ⟨batch.taken_append_lost limit accepts, batch.failed_iff limit accepts⟩,
    fun now use batch sending _ => client.sink_useAll_of_sending sending,
    client.pending_use_send uses, ?_⟩
  · rw [delivered, ← emitted]
    exact sink.sublist_delivered_useAll nothing ended
  · exact (client.lines_onSink groups line).trans (pieces_of_not_mem free)
  · rw [same, ← emitted]
    exact (sink.lines_useAll nothing ended).2
  · rw [← Nat.zero_add (batches.countP _)]
    exact client.sendErrors_useAll uses

end Client

end Telemetry.Statsd
