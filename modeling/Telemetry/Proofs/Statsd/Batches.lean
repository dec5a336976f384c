/-
This file proves that a sink loses nothing by gathering. A run of a sink is a
list of uses: texts are emitted and gathered text is flushed. Whenever a use
sends, it sends all that is gathered as one batch, and whatever comes of it,
nothing is gathered afterwards. The batches of a run and what is still gathered
are therefore the emitted lines in their order, each once, and of each batch the
wire has taken the datagrams before the first that it refused. If it refuses
none, the datagrams and what is still gathered make up the emitted text.
-/

import Mathlib.Data.List.TakeWhile
import Telemetry.Proofs.Statsd.Datagrams
import Telemetry.Statsd.Sink

namespace Telemetry.Statsd

open Text

/-! ### What is done with a sink -/

/-- What is done with a sink. -/
inductive Sink.Use
  | emit (text : List Char)
  | flush
deriving DecidableEq, Repr

namespace Sink

namespace Use

/-- The text that is emitted. -/
def text : Use → List Char
  | .emit text => text
  | .flush => []

/-- The lines that are emitted. -/
def lines (use : Use) : List (List Char) :=
  linesOf use.text

/-- What is emitted is one message: it ends with a line break and holds none before. -/
def IsWhole : Use → Prop
  | .emit text => ∃ body, '\n' ∉ body ∧ body ++ ['\n'] = text
  | .flush => True

theorem IsWhole.isEnded {use : Use} (whole : use.IsWhole) : IsEnded use.text := by
  cases use with
  | emit text =>
    obtain ⟨body, _, rfl⟩ := whole
    exact isEnded_concat body
  | flush => exact nofun

end Use

/-- Whether what was sent was taken, and the sink after a use. -/
def use (sink : Sink) : Use → Bool × Sink
  | .emit text => sink.emit text
  | .flush => sink.flush

/-- The sink after a run of uses. -/
def useAll (sink : Sink) (uses : List Use) : Sink :=
  uses.foldl (fun current use => (current.use use).2) sink

end Sink

/-! ### Batches -/

/-- Lines that are sent together, and how many datagrams the wire was offered before them. -/
structure Batch where
  lines : List (List Char)
  place : Nat
deriving DecidableEq, Repr

namespace Batch

variable (limit : Nat) (accepts : Nat → List Char → Bool) (batch : Batch)

/-- The datagrams of the batch with their places among all that the wire is offered. -/
def offers : List (List Char × Nat) :=
  (pack limit batch.lines).zipIdx batch.place

/-- The datagrams before the first that is refused. -/
def taken : List (List Char) :=
  ((batch.offers limit).takeWhile fun offer => accepts offer.2 offer.1).map Prod.fst

/-- The datagrams from the first on that is refused. -/
def lost : List (List Char) :=
  ((batch.offers limit).dropWhile fun offer => accepts offer.2 offer.1).map Prod.fst

/-- Whether a datagram is refused. -/
def failed : Bool :=
  (batch.offers limit).any fun offer => !accepts offer.2 offer.1

theorem taken_append_lost :
    batch.taken limit accepts ++ batch.lost limit accepts = pack limit batch.lines := by
  rw [taken, lost, ← List.map_append, List.takeWhile_append_dropWhile, offers, List.zipIdx_map_fst]

variable {limit accepts batch}

theorem taken_of_reliable (reliable : ∀ place datagram, accepts place datagram = true) :
    batch.taken limit accepts = pack limit batch.lines := by
  rw [taken, List.takeWhile_eq_self_iff.2 fun offer _ => reliable offer.2 offer.1, offers,
    List.zipIdx_map_fst]

end Batch

/-- The wire takes datagrams up to the first that it refuses. -/
theorem Wire.offerAll_spec (wire : Wire) (datagrams : List (List Char)) :
    let accepted (offer : List Char × Nat) := wire.accepts offer.2 offer.1
    let offers := datagrams.zipIdx wire.offered
    let (all, after) := wire.offerAll datagrams
    all = !(offers.any fun offer => !accepted offer) ∧
      after.delivered = wire.delivered ++ (offers.takeWhile accepted).map Prod.fst ∧
      after.accepts = wire.accepts := by
  induction datagrams generalizing wire with
  | nil => exact ⟨rfl, (List.append_nil _).symm, rfl⟩
  | cons datagram rest inductionHypothesis =>
    cases taken : wire.accepts wire.offered datagram with
    | true =>
      have later := inductionHypothesis (wire.offer datagram).2
      simp only [offerAll, offer, taken, List.zipIdx_cons] at later ⊢
      simpa [taken] using later
    | false => simp [offerAll, offer, taken, List.zipIdx_cons]

namespace Sink

variable (sink : Sink)

/-- The text that a use sends, if it sends. -/
def sends? : Use → Option (List Char)
  | .emit text =>
    if sink.cacheSize ≤ byteLength (sink.pending ++ text) then some (sink.pending ++ text) else none
  | .flush => if sink.pending.isEmpty then none else some sink.pending

/-- The batch that a use sends, if it sends. -/
def batch? (use : Use) : Option Batch :=
  (sink.sends? use).map fun text => ⟨linesOf text, sink.wire.offered⟩

/-- A use that does not send only gathers. -/
theorem use_of_gathering {use : Use} (gathering : sink.batch? use = none) :
    sink.use use = (true, { sink with pending := sink.pending ++ use.text }) := by
  rw [batch?, Option.map_eq_none_iff] at gathering
  cases use with
  | emit text =>
    have small : ¬ sink.cacheSize ≤ byteLength (sink.pending ++ text) := by
      intro large
      rw [sends?, if_pos large] at gathering
      cases gathering
    exact if_neg small
  | flush =>
    have empty : sink.pending.isEmpty = true := by
      by_contra gathered
      rw [sends?, if_neg gathered] at gathering
      cases gathering
    rw [Sink.use, flush, if_pos empty, Use.text, List.append_nil]

/-- A use that sends leaves nothing gathered. What it sends is all that was gathered, and of that
the wire takes the datagrams before the first that it refuses. -/
theorem use_of_sending {use : Use} {batch : Batch} (sending : sink.batch? use = some batch) :
    batch.lines = linesOf (sink.pending ++ use.text) ∧
      ∃ wire, sink.use use =
          (!batch.failed sink.segmentLimit sink.wire.accepts, { sink with pending := [], wire }) ∧
        wire.delivered =
          sink.wire.delivered ++ batch.taken sink.segmentLimit sink.wire.accepts ∧
        wire.accepts = sink.wire.accepts := by
  obtain ⟨text, sent, rfl⟩ := Option.map_eq_some_iff.1 sending
  have whole : sink.pending ++ use.text = text ∧
      sink.use use = { sink with pending := text }.sendPending := by
    cases use with
    | emit added =>
      rw [sends?, Option.ite_none_right_eq_some] at sent
      obtain ⟨large, same⟩ := sent
      cases same
      exact ⟨rfl, if_pos large⟩
    | flush =>
      rw [sends?, Option.ite_none_left_eq_some] at sent
      obtain ⟨gathered, same⟩ := sent
      cases same
      exact ⟨List.append_nil _, if_neg gathered⟩
  obtain ⟨rfl, used⟩ := whole
  have offered := sink.wire.offerAll_spec (segments sink.segmentLimit (sink.pending ++ use.text))
  exact ⟨rfl, (sink.wire.offerAll (segments sink.segmentLimit (sink.pending ++ use.text))).2,
    used.trans (Prod.ext offered.1 rfl), offered.2⟩

/-- A use changes neither the sizes nor how the wire decides. -/
theorem use_settings (use : Use) :
    (sink.use use).2.cacheSize = sink.cacheSize ∧
      (sink.use use).2.segmentLimit = sink.segmentLimit ∧
      (sink.use use).2.wire.accepts = sink.wire.accepts := by
  cases sending : sink.batch? use with
  | none =>
    rw [use_of_gathering sink sending]
    exact ⟨rfl, rfl, rfl⟩
  | some batch =>
    obtain ⟨_, wire, used, _, accepts⟩ := use_of_sending sink sending
    rw [used]
    exact ⟨rfl, rfl, accepts⟩

theorem delivered_use (use : Use) :
    (sink.use use).2.wire.delivered =
      sink.wire.delivered ++
        (sink.batch? use).toList.flatMap (Batch.taken sink.segmentLimit sink.wire.accepts) := by
  cases sending : sink.batch? use with
  | none =>
    rw [use_of_gathering sink sending]
    exact (List.append_nil _).symm
  | some batch =>
    obtain ⟨_, wire, used, delivered, _⟩ := use_of_sending sink sending
    rw [used, Option.toList_some, List.flatMap_singleton]
    exact delivered

theorem isEnded_pending_use (pending : IsEnded sink.pending) {use : Use}
    (ended : IsEnded use.text) : IsEnded (sink.use use).2.pending := by
  cases sending : sink.batch? use with
  | none =>
    rw [use_of_gathering sink sending]
    exact pending.append ended
  | some batch =>
    obtain ⟨_, wire, used, _⟩ := use_of_sending sink sending
    rw [used]
    exact nofun

/-- What a use sends and what is gathered after it are the lines that were gathered before it and
those that it emits. -/
theorem lines_use (pending : IsEnded sink.pending) (use : Use) :
    (sink.batch? use).toList.flatMap Batch.lines ++ linesOf (sink.use use).2.pending =
      linesOf sink.pending ++ use.lines := by
  rw [Use.lines, ← linesOf_append pending]
  cases sending : sink.batch? use with
  | none =>
    rw [use_of_gathering sink sending]
    rfl
  | some batch =>
    obtain ⟨lines, wire, used, _⟩ := use_of_sending sink sending
    rw [used, Option.toList_some, List.flatMap_singleton, lines]
    exact List.append_nil _

/-! ### Runs -/

/-- The batches that a run of uses sends. -/
def batches (sink : Sink) : List Use → List Batch
  | [] => []
  | use :: rest => (sink.batch? use).toList ++ (sink.use use).2.batches rest

theorem useAll_settings (uses : List Use) :
    (sink.useAll uses).cacheSize = sink.cacheSize ∧
      (sink.useAll uses).segmentLimit = sink.segmentLimit ∧
      (sink.useAll uses).wire.accepts = sink.wire.accepts := by
  induction uses generalizing sink with
  | nil => exact ⟨rfl, rfl, rfl⟩
  | cons use rest inductionHypothesis =>
    obtain ⟨cacheSize, limit, accepts⟩ := sink.use_settings use
    obtain ⟨cacheSizeAll, limitAll, acceptsAll⟩ := inductionHypothesis (sink.use use).2
    exact ⟨cacheSizeAll.trans cacheSize, limitAll.trans limit, acceptsAll.trans accepts⟩

/-- The wire has taken of every batch what stands before the first refused datagram. -/
theorem delivered_useAll (uses : List Use) :
    (sink.useAll uses).wire.delivered =
      sink.wire.delivered ++
        (sink.batches uses).flatMap (Batch.taken sink.segmentLimit sink.wire.accepts) := by
  induction uses generalizing sink with
  | nil => exact (List.append_nil _).symm
  | cons use rest inductionHypothesis =>
    obtain ⟨_, limit, accepts⟩ := sink.use_settings use
    have later := inductionHypothesis (sink.use use).2
    rw [limit, accepts, delivered_use, List.append_assoc, ← List.flatMap_append] at later
    exact later

/-- The batches of a run and what is gathered after it are the lines that were gathered before it
and those that it emits. -/
theorem lines_useAll (pending : IsEnded sink.pending) {uses : List Use}
    (ended : ∀ use ∈ uses, IsEnded use.text) :
    IsEnded (sink.useAll uses).pending ∧
      (sink.batches uses).flatMap Batch.lines ++ linesOf (sink.useAll uses).pending =
        linesOf sink.pending ++ uses.flatMap Use.lines := by
  induction uses generalizing sink with
  | nil => exact ⟨pending, (List.append_nil _).symm⟩
  | cons use rest inductionHypothesis =>
    obtain ⟨first, others⟩ := List.forall_mem_cons.1 ended
    obtain ⟨stillEnded, later⟩ := inductionHypothesis (sink.use use).2
      (sink.isEnded_pending_use pending first) others
    refine ⟨stillEnded, ?_⟩
    calc (sink.batches (use :: rest)).flatMap Batch.lines ++
          linesOf (sink.useAll (use :: rest)).pending
        = (sink.batch? use).toList.flatMap Batch.lines ++
            (((sink.use use).2.batches rest).flatMap Batch.lines ++
              linesOf ((sink.use use).2.useAll rest).pending) := by
          rw [batches, List.flatMap_append, List.append_assoc]
          rfl
      _ = (sink.batch? use).toList.flatMap Batch.lines ++ linesOf (sink.use use).2.pending ++
            rest.flatMap Use.lines := by
          rw [later, List.append_assoc]
      _ = linesOf sink.pending ++ (use :: rest).flatMap Use.lines := by
          rw [sink.lines_use pending, List.append_assoc, List.flatMap_cons]

theorem newline_not_mem_of_mem_batches {uses : List Use} {batch : Batch}
    (sent : batch ∈ sink.batches uses) {line : List Char} (member : line ∈ batch.lines) :
    '\n' ∉ line := by
  induction uses generalizing sink with
  | nil => cases sent
  | cons use rest inductionHypothesis =>
    rcases List.mem_append.1 sent with now | later
    · obtain ⟨text, _, rfl⟩ := Option.map_eq_some_iff.1 (Option.mem_toList.1 now)
      exact newline_not_mem_of_mem_linesOf member
    · exact inductionHypothesis _ later

/-- After text is emitted, less is gathered than the cache holds, or nothing. -/
theorem pending_emit (text : List Char) :
    (sink.emit text).2.pending = [] ∨ byteLength (sink.emit text).2.pending < sink.cacheSize := by
  by_cases large : sink.cacheSize ≤ byteLength (sink.pending ++ text)
  · exact .inl (by rw [emit, if_pos large]; rfl)
  · exact .inr (by rw [emit, if_neg large]; exact Nat.lt_of_not_le large)

theorem pending_flush : sink.flush.2.pending = [] := by
  unfold flush
  split
  · exact List.isEmpty_iff.1 ‹_›
  · rfl

/-- A run that ends with a flush leaves nothing. -/
theorem pending_useAll_flush (uses : List Use) :
    (sink.useAll (uses ++ [.flush])).pending = [] := by
  rw [useAll, List.foldl_append]
  exact pending_flush _

/-! ### Wires that refuse nothing -/

section Reliable

variable (reliable : ∀ place datagram, sink.wire.accepts place datagram = true)

include reliable

/-- If nothing is refused, every batch is delivered in the datagrams that its lines are packed
into. -/
theorem delivered_of_reliable (uses : List Use) :
    (sink.useAll uses).wire.delivered =
      sink.wire.delivered ++
        (sink.batches uses).flatMap fun batch => pack sink.segmentLimit batch.lines := by
  rw [sink.delivered_useAll uses]
  refine congrArg (sink.wire.delivered ++ ·) (List.flatMap_congr fun batch _ => ?_)
  exact Batch.taken_of_reliable reliable

/-- If nothing is refused, the datagrams and what is still gathered make up what was emitted. -/
theorem unlines_delivered_useAll (pending : IsEnded sink.pending) {uses : List Use}
    (ended : ∀ use ∈ uses, IsEnded use.text) :
    unlines (sink.useAll uses).wire.delivered ++ (sink.useAll uses).pending =
      unlines sink.wire.delivered ++ sink.pending ++ uses.flatMap Use.text := by
  obtain ⟨stillEnded, lines⟩ := sink.lines_useAll pending ended
  have sent : unlines ((sink.batches uses).flatMap fun batch =>
      pack sink.segmentLimit batch.lines) = unlines ((sink.batches uses).flatMap Batch.lines) := by
    rw [unlines, unlines, List.flatMap_assoc, List.flatMap_assoc]
    exact List.flatMap_congr fun batch _ => unlines_pack sink.segmentLimit batch.lines
  have emitted : unlines (uses.flatMap Use.lines) = uses.flatMap Use.text := by
    rw [unlines, List.flatMap_assoc]
    exact List.flatMap_congr fun use member => unlines_linesOf (ended use member)
  calc unlines (sink.useAll uses).wire.delivered ++ (sink.useAll uses).pending
      = unlines sink.wire.delivered ++ unlines ((sink.batches uses).flatMap Batch.lines ++
          linesOf (sink.useAll uses).pending) := by
        rw [sink.delivered_of_reliable reliable, unlines_append, sent, unlines_append,
          unlines_linesOf stillEnded, List.append_assoc]
    _ = unlines sink.wire.delivered ++ sink.pending ++ uses.flatMap Use.text := by
        rw [lines, unlines_append, unlines_linesOf pending, emitted, List.append_assoc]

/-- If nothing is refused, the datagrams of a run that ends with a flush, each with a line break,
make up what it emits. -/
theorem unlines_delivered_useAll_flush (nothing : sink.pending = []) {uses : List Use}
    (ended : ∀ use ∈ uses, IsEnded use.text) :
    ∃ datagrams,
      (sink.useAll (uses ++ [.flush])).wire.delivered = sink.wire.delivered ++ datagrams ∧
        unlines datagrams = uses.flatMap Use.text := by
  have endedAll : ∀ use ∈ uses ++ [.flush], IsEnded use.text :=
    List.forall_mem_append.2 ⟨ended, List.forall_mem_singleton.2 nofun⟩
  have empty : IsEnded sink.pending := by
    rw [nothing]
    exact nofun
  have delivered := sink.delivered_of_reliable reliable (uses ++ [.flush])
  have text := sink.unlines_delivered_useAll reliable empty endedAll
  rw [pending_useAll_flush, nothing, delivered, unlines_append, List.append_nil, List.append_nil,
    List.append_cancel_left_eq, List.flatMap_append] at text
  exact ⟨_, delivered, text.trans (List.append_nil _)⟩

/-- If nothing is refused, the datagrams of a run that ends with a flush come apart into the lines
that it emits. -/
theorem lines_delivered_useAll (nothing : sink.pending = []) {uses : List Use}
    (ended : ∀ use ∈ uses, IsEnded use.text) :
    ∃ datagrams,
      (sink.useAll (uses ++ [.flush])).wire.delivered = sink.wire.delivered ++ datagrams ∧
        datagrams.flatMap (pieces '\n') = uses.flatMap Use.lines := by
  refine ⟨_, sink.delivered_of_reliable reliable _, ?_⟩
  have endedAll : ∀ use ∈ uses ++ [.flush], IsEnded use.text :=
    List.forall_mem_append.2 ⟨ended, List.forall_mem_singleton.2 nofun⟩
  have empty : IsEnded sink.pending := by
    rw [nothing]
    exact nofun
  have noLines : linesOf [] = [] := rfl
  have flushed : Use.lines .flush = [] := rfl
  have lines := (sink.lines_useAll empty endedAll).2
  rw [pending_useAll_flush, nothing, List.flatMap_append, List.flatMap_singleton, flushed, noLines,
    List.append_nil, List.append_nil, List.nil_append] at lines
  rw [List.flatMap_assoc, ← lines]
  refine List.flatMap_congr fun batch member => ?_
  exact flatMap_pieces_pack _ fun _ => sink.newline_not_mem_of_mem_batches member

end Reliable

/-- A sink whose datagrams are taken loses, repeats, reorders and splits nothing. After every run of
emitted messages and flushes, the datagrams and what is still gathered make up the messages. The
lines of the batches and those still gathered are the messages in their order; each batch goes out
as a division of its lines within the limit, and no such division takes fewer datagrams. Whatever is
done next, less than the cache holds is gathered after an emission, or nothing, and nothing after a
flush. -/
theorem gathering_loses_nothing (cacheSize limit : Nat) {uses : List Use}
    (whole : ∀ use ∈ uses, use.IsWhole) :
    let sink := starting cacheSize limit .accepting
    let final := sink.useAll uses
    unlines final.wire.delivered ++ final.pending = uses.flatMap Use.text ∧
      (sink.batches uses).flatMap Batch.lines ++ linesOf final.pending =
        uses.flatMap Use.lines ∧
      final.wire.delivered = (sink.batches uses).flatMap (fun batch => pack limit batch.lines) ∧
      (∀ batch ∈ sink.batches uses, ∃ groups, IsDivision limit batch.lines groups ∧
        pack limit batch.lines = groups.map (glue '\n') ∧
        ∀ others, IsDivision limit batch.lines others → groups.length ≤ others.length) ∧
      (∀ text, (final.emit text).2.pending = [] ∨
        byteLength (final.emit text).2.pending < cacheSize) ∧
      final.flush.2.pending = [] := by
  intro sink final
  have reliable (place : Nat) (datagram : List Char) :
      sink.wire.accepts place datagram = true := rfl
  have ended : ∀ use ∈ uses, IsEnded use.text := fun use member => (whole use member).isEnded
  have nothing : IsEnded sink.pending := nofun
  refine ⟨sink.unlines_delivered_useAll reliable nothing ended, (sink.lines_useAll nothing ended).2,
    sink.delivered_of_reliable reliable uses, ?_, ?_, final.pending_flush⟩
  · intro batch _
    obtain ⟨groups, division, packed⟩ := exists_division_pack limit batch.lines
    refine ⟨groups, division, packed, fun others other => ?_⟩
    rw [← List.length_map (glue '\n'), ← packed]
    exact length_pack_le other
  · intro text
    have bound := final.pending_emit text
    rwa [(sink.useAll_settings uses).1] at bound

/-- A second message fills the cache, and both go out in one datagram. -/
theorem gathering_two_messages :
    let uses := [Use.emit "a:1|c\n".toList, .emit "b:2|c\n".toList, .flush]
    let final := (starting 10 64 .accepting).useAll uses
    (∀ use ∈ uses, use.IsWhole) ∧ final.wire.delivered = ["a:1|c\nb:2|c".toList] ∧
      unlines final.wire.delivered ++ final.pending = uses.flatMap Use.text := by
  intro uses final
  have whole : ∀ use ∈ uses, use.IsWhole := by
    simp only [uses, List.forall_mem_cons]
    exact ⟨⟨"a:1|c".toList, by decide, by decide⟩, ⟨"b:2|c".toList, by decide, by decide⟩, trivial,
      nofun⟩
  exact ⟨whole, by decide, (gathering_loses_nothing 10 64 whole).1⟩

end Sink

end Telemetry.Statsd
