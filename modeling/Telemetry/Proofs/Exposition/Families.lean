/-
This file proves what becomes of contributions that are offered to families one
after the other. Whether one is refused can be told from those that were taken
before it: its family has another type, or one in the family has the same labels.
The families hold exactly what was taken, in its order, and for everything that
was refused there is one notice.
-/

import Mathlib.Data.List.Perm.Basic
import Telemetry.Exposition.Collector

namespace Telemetry.Exposition

/-- A contribution, with the name of the entry that it comes from. -/
structure Offer extends Contribution where
  entry : String

/-- The series that is offered. -/
def Offer.series (offer : Offer) : Series :=
  ⟨offer.labels, offer.value⟩

/-! ### Taking and refusing -/

/-- The first offer that was taken in a family. It gives the family its type and its help. -/
def founder? (taken : List Offer) (family : String) : Option Offer :=
  taken.find? fun offer => offer.family = family

/-- The notice with which an offer is refused, given those that were taken before it. -/
def objection? (taken : List Offer) (offer : Offer) : Option Notice :=
  match founder? taken offer.family with
  | none => none
  | some founder =>
    if founder.type ≠ offer.type then
      some (.typeConflict offer.family founder.type offer.type offer.help)
    else if ∃ rival ∈ taken, rival.family = offer.family ∧ rival.labels = offer.labels then
      some (.labelConflict offer.family offer.labels)
    else none

/-- The offers that are taken, behind those that were taken before. -/
def takenAfter (taken : List Offer) : List Offer → List Offer
  | [] => taken
  | offer :: rest =>
    match objection? taken offer with
    | none => takenAfter (taken ++ [offer]) rest
    | some _ => takenAfter taken rest

/-- The offers that are refused, given those that were taken before, each with its notice. -/
def refusedAfter (taken : List Offer) : List Offer → List (Offer × Notice)
  | [] => []
  | offer :: rest =>
    match objection? taken offer with
    | none => refusedAfter (taken ++ [offer]) rest
    | some notice => (offer, notice) :: refusedAfter taken rest

/-- Every offer is either taken or refused, once. -/
theorem taken_refused_perm (taken offers : List Offer) :
    (takenAfter taken offers ++ (refusedAfter taken offers).map Prod.fst).Perm
      (taken ++ offers) := by
  induction offers generalizing taken with
  | nil => exact .refl _
  | cons offer rest inductionHypothesis =>
    unfold takenAfter refusedAfter
    cases objection? taken offer with
    | none => simpa using inductionHypothesis (taken ++ [offer])
    | some notice =>
      rw [List.map_cons]
      refine List.perm_middle.trans (.trans ?_ List.perm_middle.symm)
      exact (inductionHypothesis taken).cons offer

theorem takenAfter_append (taken first second : List Offer) :
    takenAfter taken (first ++ second) = takenAfter (takenAfter taken first) second := by
  induction first generalizing taken with
  | nil => rfl
  | cons offer rest inductionHypothesis =>
    simp only [List.cons_append, takenAfter]
    cases objection? taken offer with
    | none => exact inductionHypothesis _
    | some notice => exact inductionHypothesis _

theorem refusedAfter_append (taken first second : List Offer) :
    refusedAfter taken (first ++ second) =
      refusedAfter taken first ++ refusedAfter (takenAfter taken first) second := by
  induction first generalizing taken with
  | nil => rfl
  | cons offer rest inductionHypothesis =>
    simp only [List.cons_append, takenAfter, refusedAfter]
    cases objection? taken offer with
    | none => exact inductionHypothesis _
    | some notice => exact congrArg _ (inductionHypothesis _)

/-! ### The offers that are taken -/

/-- Offers of one family have one type, and no two of them have the same labels. -/
structure Agreeing (taken : List Offer) : Prop where
  type : ∀ first ∈ taken, ∀ second ∈ taken,
    first.family = second.family → first.type = second.type
  labels : taken.Pairwise fun first second =>
    first.family = second.family → first.labels ≠ second.labels

theorem agreeing_nil : Agreeing [] :=
  ⟨fun _ member => (nomatch member), .nil⟩

theorem exists_founder? {taken : List Offer} {rival : Offer} (member : rival ∈ taken) :
    ∃ founder, founder? taken rival.family = some founder := by
  cases found : founder? taken rival.family with
  | none => exact absurd (decide_eq_true rfl) (List.find?_eq_none.1 found rival member)
  | some founder => exact ⟨founder, rfl⟩

theorem mem_of_founder? {taken : List Offer} {family : String} {founder : Offer}
    (found : founder? taken family = some founder) : founder ∈ taken ∧ founder.family = family :=
  ⟨List.mem_of_find?_eq_some found, by simpa using List.find?_some found⟩

/-- An offer to which there is no objection has the type of its family and labels of its own. -/
theorem agrees_of_objection?_none {taken : List Offer} (agreeing : Agreeing taken)
    {offer : Offer} (fine : objection? taken offer = none) {rival : Offer}
    (member : rival ∈ taken) (family : rival.family = offer.family) :
    rival.type = offer.type ∧ rival.labels ≠ offer.labels := by
  obtain ⟨founder, found⟩ := exists_founder? member
  obtain ⟨founderTaken, founderFamily⟩ := mem_of_founder? found
  rw [family] at found
  unfold objection? at fine
  rw [found] at fine
  dsimp only at fine
  split at fine
  · cases fine
  · rename_i type
    split at fine
    · cases fine
    · rename_i free
      refine ⟨?_, fun labels => free ⟨rival, member, family, labels⟩⟩
      rw [agreeing.type rival member founder founderTaken founderFamily.symm]
      exact not_not.1 type

theorem Agreeing.concat {taken : List Offer} (agreeing : Agreeing taken) {offer : Offer}
    (fine : objection? taken offer = none) : Agreeing (taken ++ [offer]) := by
  refine ⟨fun first firstTaken second secondTaken family => ?_, ?_⟩
  · simp only [List.mem_append, List.mem_singleton] at firstTaken secondTaken
    rcases firstTaken with firstOld | rfl <;> rcases secondTaken with secondOld | rfl
    · exact agreeing.type first firstOld second secondOld family
    · exact (agrees_of_objection?_none agreeing fine firstOld family).1
    · exact (agrees_of_objection?_none agreeing fine secondOld family.symm).1.symm
    · rfl
  · rw [List.pairwise_append]
    refine ⟨agreeing.labels, List.pairwise_singleton _ _, fun rival member other only family => ?_⟩
    rw [List.mem_singleton] at only
    subst only
    exact (agrees_of_objection?_none agreeing fine member family).2

/-- The offers that are taken agree with each other. -/
theorem Agreeing.takenAfter {taken : List Offer} (agreeing : Agreeing taken)
    (offers : List Offer) : Agreeing (takenAfter taken offers) := by
  induction offers generalizing taken with
  | nil => exact agreeing
  | cons offer rest inductionHypothesis =>
    unfold Exposition.takenAfter
    split
    · exact inductionHypothesis (agreeing.concat ‹_›)
    · exact inductionHypothesis agreeing

theorem mem_takenAfter_of_mem {taken : List Offer} {rival : Offer} (member : rival ∈ taken)
    (offers : List Offer) : rival ∈ takenAfter taken offers := by
  induction offers generalizing taken with
  | nil => exact member
  | cons offer rest inductionHypothesis =>
    unfold takenAfter
    split
    · exact inductionHypothesis (List.mem_append_left _ member)
    · exact inductionHypothesis member

/-! ### The reasons for refusals -/

/-- An offer is in the way of another with the given notice: the family of both has the type of
the one, and the other is of another type or has the same labels. -/
def Offer.Bars (rival offer : Offer) (notice : Notice) : Prop :=
  rival.family = offer.family ∧
    (rival.type ≠ offer.type ∧
        notice = .typeConflict offer.family rival.type offer.type offer.help ∨
      rival.type = offer.type ∧ rival.labels = offer.labels ∧
        notice = .labelConflict offer.family offer.labels)

/-- Where there is an objection, an offer that was taken is in the way. -/
theorem exists_bars_of_objection? {taken : List Offer} (agreeing : Agreeing taken)
    {offer : Offer} {notice : Notice} (refused : objection? taken offer = some notice) :
    ∃ rival ∈ taken, rival.Bars offer notice := by
  unfold objection? at refused
  split at refused
  · cases refused
  · rename_i founder found
    obtain ⟨founderTaken, founderFamily⟩ := mem_of_founder? found
    split at refused
    · rename_i type
      cases refused
      exact ⟨founder, founderTaken, founderFamily, .inl ⟨type, rfl⟩⟩
    · rename_i type
      split at refused
      · rename_i same
        obtain ⟨rival, member, family, labels⟩ := same
        cases refused
        refine ⟨rival, member, family, .inr ⟨?_, labels, rfl⟩⟩
        rw [agreeing.type rival member founder founderTaken (family.trans founderFamily.symm)]
        exact not_not.1 type
      · cases refused

/-- For every offer that is refused one that stood before it was taken and is in its way. -/
theorem exists_bars_of_mem_refusedAfter {taken offers : List Offer} (agreeing : Agreeing taken)
    {Before : Offer → Offer → Prop} (ordered : (taken ++ offers).Pairwise Before)
    {offer : Offer} {notice : Notice} (refused : (offer, notice) ∈ refusedAfter taken offers) :
    ∃ rival ∈ takenAfter taken offers, Before rival offer ∧ rival.Bars offer notice := by
  induction offers generalizing taken with
  | nil => cases refused
  | cons head rest inductionHypothesis =>
    unfold refusedAfter at refused
    unfold takenAfter
    cases decision : objection? taken head with
    | none =>
      rw [decision] at refused
      rw [List.append_cons] at ordered
      exact inductionHypothesis (agreeing.concat decision) ordered refused
    | some headNotice =>
      rw [decision] at refused
      rcases List.mem_cons.1 refused with same | later
      · cases same
        obtain ⟨rival, member, bars⟩ := exists_bars_of_objection? agreeing decision
        refine ⟨rival, mem_takenAfter_of_mem member rest, ?_, bars⟩
        exact (List.pairwise_append.1 ordered).2.2 rival member _ List.mem_cons_self
      · refine inductionHypothesis agreeing (ordered.sublist ?_) later
        exact (List.sublist_cons_self _ rest).append_left taken

/-! ### Families made of what is taken -/

/-- The family of a name after offers are taken: its type and help are those of the first, and its
series are those of all of them in their order. -/
def familyOf? (taken : List Offer) (name : String) : Option Family :=
  (founder? taken name).map fun founder =>
    ⟨name, founder.help, founder.type,
      (taken.filter fun offer => offer.family = name).map Offer.series⟩

/-- Families are made of the offers that are taken. -/
def Families.MadeOf (families : Families) (taken : List Offer) : Prop :=
  ∀ name, families.find? name = familyOf? taken name

theorem madeOf_empty : Families.MadeOf .empty [] :=
  fun _ => rfl

theorem familyOf?_concat_of_ne {taken : List Offer} {offer : Offer} {name : String}
    (different : offer.family ≠ name) :
    familyOf? (taken ++ [offer]) name = familyOf? taken name := by
  simp [familyOf?, founder?, List.find?_append, different]

theorem familyOf?_concat (taken : List Offer) (offer : Offer) :
    familyOf? (taken ++ [offer]) offer.family =
      some (((familyOf? taken offer.family).getD ⟨offer.family, offer.help, offer.type, []⟩).add
        offer.series) := by
  cases found : founder? taken offer.family with
  | some founder =>
    have stays : founder? (taken ++ [offer]) offer.family = some founder := by
      rw [founder?, List.find?_append, ← founder?, found]
      rfl
    simp [familyOf?, stays, found, Family.add]
  | none =>
    have new : founder? (taken ++ [offer]) offer.family = some offer := by
      rw [founder?, List.find?_append, ← founder?, found]
      simp
    -- what founds a family is all that is in it
    have alone : (taken.filter fun other => other.family = offer.family) = [] :=
      List.filter_eq_nil_iff.2 (List.find?_eq_none.1 found)
    simp [familyOf?, new, found, alone, Family.add]

/-- Whether there is an objection to an offer can be told from its family. -/
theorem objection?_eq (taken : List Offer) (offer : Offer) :
    objection? taken offer =
      let family :=
        (familyOf? taken offer.family).getD ⟨offer.family, offer.help, offer.type, []⟩
      if family.type ≠ offer.type then
        some (.typeConflict family.name family.type offer.type offer.help)
      else if family.hasLabels offer.labels then some (.labelConflict family.name offer.labels)
      else none := by
  cases found : founder? taken offer.family with
  | none => simp [objection?, familyOf?, found, Family.hasLabels]
  | some founder =>
    have labels : (∃ rival ∈ taken, rival.family = offer.family ∧ rival.labels = offer.labels) ↔
        ((taken.filter fun other => other.family = offer.family).map Offer.series).any
          fun series => series.labels = offer.labels := by
      simp only [List.any_map, List.any_filter, List.any_eq_true, Bool.and_eq_true,
        decide_eq_true_eq, Function.comp_apply]
      exact Iff.rfl
    simp only [objection?, familyOf?, found, Option.map_some, Option.getD_some, Family.hasLabels,
      labels]

/-- An offer joins its family if there is no objection to it; otherwise the families stay as they
are, and there is the notice. -/
theorem Families.MadeOf.add {families : Families} {taken : List Offer}
    (made : families.MadeOf taken) (offer : Offer) :
    match objection? taken offer with
    | none =>
      (families.add offer.toContribution).1.MadeOf (taken ++ [offer]) ∧
        (families.add offer.toContribution).2 = []
    | some notice => families.add offer.toContribution = (families, [notice]) := by
  have told := objection?_eq taken offer
  rw [← made offer.family] at told
  dsimp only at told
  unfold Families.add
  dsimp only
  split at told
  · rw [told, if_pos ‹_›]
  · rw [if_neg ‹_›]
    split at told
    · rw [told, if_pos ‹_›]
    · rw [told, if_neg ‹_›]
      refine ⟨fun name => ?_, rfl⟩
      rw [Dictionary.find?_insert]
      by_cases same : name = offer.family
      · rw [if_pos same, same, made offer.family, familyOf?_concat]
        rfl
      · rw [if_neg same, familyOf?_concat_of_ne (Ne.symm same)]
        exact made name

/-- Adding offers one after the other makes the families of those that are taken, and gives a notice
for each that is refused. -/
theorem Families.MadeOf.addAll {families : Families} {taken : List Offer}
    (made : families.MadeOf taken) (offers : List Offer) :
    (families.addAll (offers.map Offer.toContribution)).1.MadeOf (takenAfter taken offers) ∧
      (families.addAll (offers.map Offer.toContribution)).2 =
        (refusedAfter taken offers).map Prod.snd := by
  induction offers generalizing families taken with
  | nil => exact ⟨made, rfl⟩
  | cons offer rest inductionHypothesis =>
    have one := made.add offer
    simp only [List.map_cons, Families.addAll, takenAfter, refusedAfter]
    split at one
    · obtain ⟨madeOfOne, silent⟩ := one
      rw [silent, List.nil_append]
      exact inductionHypothesis madeOfOne
    · rw [one, List.map_cons, List.singleton_append]
      obtain ⟨madeOfRest, noticed⟩ := inductionHypothesis made
      exact ⟨madeOfRest, congrArg _ noticed⟩

end Telemetry.Exposition
