/-
This file proves how far whatever reads a store can change it. A collection and
an emission do nothing to a store but read its metrics and put down notices, one
entry after the other. A relation that links a store to what becomes of it when
one metric is read, and when something is noted, therefore links it to what
becomes of it when a whole registry is collected or sent.
-/

import Telemetry.Operation

namespace Telemetry

namespace Store

/-- A relation between an earlier and a later store that allows for standing still, for a second
step after a first, and for notices. -/
structure AllowsNotices (allows : Store → Store → Prop) : Prop where
  refl : ∀ store, allows store store
  trans : ∀ {first second third}, allows first second → allows second third → allows first third
  notices : ∀ (store : Store) (notices : List Notice), allows store { store with notices }

/-- The relation also allows for a reading. -/
structure AllowsReading (allows : Store → Store → Prop) : Prop extends AllowsNotices allows where
  read : ∀ store handle, allows store (store.read handle).2

/-- The relation also allows for a reading for an exposition, which applies no ticks to meters. -/
structure AllowsExposition (allows : Store → Store → Prop) : Prop extends
    AllowsNotices allows where
  read : ∀ store handle, allows store (Exposition.readForExposition store handle).2

variable {allows : Store → Store → Prop}

theorem AllowsNotices.noteAll (allowed : AllowsNotices allows) (store : Store)
    (notices : List Notice) : allows store (store.noteAll notices) :=
  allowed.notices store _

theorem AllowsReading.exposition (allowed : AllowsReading allows) : AllowsExposition allows where
  toAllowsNotices := allowed.toAllowsNotices
  read store handle := by
    unfold Exposition.readForExposition
    split
    · exact allowed.refl store
    · exact allowed.read store handle

namespace AllowsExposition

variable (allowed : AllowsExposition allows) (settings : Exposition.Settings)
include allowed

theorem entryContributions (store : Store) (name : String) (handle : Handle) :
    allows store (Exposition.entryContributions settings store name handle).2 := by
  have reading := allowed.read store handle
  unfold Exposition.entryContributions
  dsimp only
  split
  · exact allowed.notices store _
  · split
    · exact allowed.refl store
    · split <;> rename_i shown <;> rw [shown] at reading <;> exact reading

theorem collectEntries (families : Exposition.Families) (store : Store)
    (entries : List (String × Handle)) :
    allows store (Exposition.collectEntries settings families store entries).2 := by
  induction entries generalizing families store with
  | nil => exact allowed.refl store
  | cons entry rest inductionHypothesis =>
    obtain ⟨name, handle⟩ := entry
    have reading := allowed.entryContributions settings store name handle
    simp only [Exposition.collectEntries]
    exact allowed.trans (allowed.trans reading (allowed.noteAll _ _)) (inductionHypothesis _ _)

/-- What reading for an exposition may do to a store is all that a collection may do to it. -/
theorem collect (store : Store) (id : RegistryId) :
    allows store (Exposition.collect settings store id).2 :=
  allowed.collectEntries settings _ store _

end AllowsExposition

namespace AllowsReading

variable (allowed : AllowsReading allows)
include allowed

theorem emitEntry (client : Statsd.Client) (store : Store) (name : String) (handle : Handle) :
    allows store (Statsd.Emitter.emitEntry client store name handle).2 := by
  have reading := allowed.read store handle
  unfold Statsd.Emitter.emitEntry
  dsimp only
  split <;> rename_i shown <;> rw [shown] at reading
  · exact reading
  · exact allowed.trans reading (allowed.noteAll _ _)

theorem emitEntries (client : Statsd.Client) (store : Store) (entries : List (String × Handle)) :
    allows store (Statsd.Emitter.emitEntries client store entries).2 := by
  induction entries generalizing client store with
  | nil => exact allowed.refl store
  | cons entry rest inductionHypothesis =>
    exact allowed.trans (allowed.emitEntry client store entry.1 entry.2) (inductionHypothesis _ _)

/-- What reading may do to a store is all that an emission may do to it. -/
theorem emitOnce (emitter : Statsd.Emitter) (store : Store) :
    allows store (emitter.emitOnce store).2 :=
  allowed.trans (allowed.emitEntries emitter.client store _) (allowed.noteAll _ _)

end AllowsReading

end Store

end Telemetry
