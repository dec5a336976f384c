/-
This file proves what becomes of gathered lines when they are divided into
datagrams. A text in which every line has its line break comes apart into its
lines and nothing else. The datagrams hold these lines in their order, whole, and
each keeps to the limit unless it is a single line. Going on with a datagram as
long as the next line fits is also the best that can be done: whoever divides the
same lines within the same limit needs at least as many datagrams. For if one
datagram has come further than another when a line is due, it saves at most the
one datagram that the other begins with that line.
-/

import Mathlib.Data.List.Basic
import Telemetry.Proofs.Text.Cutting
import Telemetry.Statsd.Segments

namespace Telemetry.Statsd

open Text

/-! ### Texts of lines -/

theorem byteLength_append (first second : List Char) :
    byteLength (first ++ second) = byteLength first + byteLength second := by
  induction first with
  | nil => exact (Nat.zero_add _).symm
  | cons c rest inductionHypothesis =>
    show c.utf8Size + byteLength (rest ++ second) = c.utf8Size + byteLength rest + byteLength second
    rw [inductionHypothesis, Nat.add_assoc]

/-- Lines as one text, each with its line break. -/
def unlines (lines : List (List Char)) : List Char :=
  lines.flatMap fun line => line ++ ['\n']

theorem unlines_cons (line : List Char) (rest : List (List Char)) :
    unlines (line :: rest) = line ++ '\n' :: unlines rest :=
  List.append_cons line '\n' (unlines rest) |>.symm

theorem unlines_append (first second : List (List Char)) :
    unlines (first ++ second) = unlines first ++ unlines second :=
  List.flatMap_append

/-- A text whose last line has its line break. -/
def IsEnded (text : List Char) : Prop :=
  ∀ last ∈ text.getLast?, last = '\n'

theorem isEnded_concat (body : List Char) : IsEnded (body ++ ['\n']) := by
  intro last member
  rw [List.getLast?_concat, Option.mem_some_iff] at member
  exact member.symm

theorem IsEnded.append {first second : List Char} (firstEnded : IsEnded first)
    (secondEnded : IsEnded second) : IsEnded (first ++ second) := by
  intro last member
  rw [List.getLast?_append] at member
  rcases Option.or_eq_some_iff.1 member with own | ⟨_, earlier⟩
  · exact secondEnded last own
  · exact firstEnded last earlier

/-- What line breaks stand between, and what line breaks end, differ in the last line only. -/
theorem glue_concat (lines : List (List Char)) (last : List Char) :
    glue '\n' (lines ++ [last]) = unlines lines ++ last := by
  induction lines with
  | nil => rfl
  | cons line rest inductionHypothesis =>
    have step : glue '\n' (line :: (rest ++ [last])) =
        line ++ '\n' :: glue '\n' (rest ++ [last]) := by
      cases rest <;> rfl
    rw [List.cons_append, step, inductionHypothesis, unlines_cons, List.append_assoc,
      List.cons_append]

theorem unlines_eq (lines : List (List Char)) (nonempty : lines ≠ []) :
    unlines lines = glue '\n' lines ++ ['\n'] := by
  obtain ⟨front, last, rfl⟩ := List.eq_nil_or_concat lines |>.resolve_left nonempty
  rw [List.concat_eq_append, glue_concat, unlines_append, List.append_assoc]
  exact congrArg (unlines front ++ ·) (unlines_cons last [])

/-! ### The lines of a text -/

theorem newline_not_mem_of_mem_linesOf {text line : List Char} (member : line ∈ linesOf text) :
    '\n' ∉ line := by
  unfold linesOf at member
  dsimp only at member
  split at member
  · exact separator_notMem_pieces (List.dropLast_subset _ member)
  · exact separator_notMem_pieces member

theorem linesOf_cons {line : List Char} (free : '\n' ∉ line) (rest : List Char) :
    linesOf (line ++ '\n' :: rest) = line :: linesOf rest := by
  unfold linesOf
  rw [pieces_append free]
  dsimp only
  rw [List.getLast?_cons_of_ne_nil (pieces_ne_nil '\n' rest),
    List.dropLast_cons_of_ne_nil (pieces_ne_nil '\n' rest)]
  split <;> rfl

theorem linesOf_unlines_append {lines : List (List Char)} (free : ∀ line ∈ lines, '\n' ∉ line)
    (rest : List Char) : linesOf (unlines lines ++ rest) = lines ++ linesOf rest := by
  induction lines with
  | nil => rfl
  | cons line more inductionHypothesis =>
    have later := inductionHypothesis fun other member => free other (List.mem_cons_of_mem _ member)
    rw [unlines_cons, List.append_assoc, List.cons_append,
      linesOf_cons (free line List.mem_cons_self), later, List.cons_append]

/-- A text whose last line has its line break consists of its lines. -/
theorem unlines_linesOf {text : List Char} (ended : IsEnded text) :
    unlines (linesOf text) = text := by
  obtain ⟨front, last, parts⟩ :=
    List.eq_nil_or_concat (pieces '\n' text) |>.resolve_left (pieces_ne_nil '\n' text)
  rw [List.concat_eq_append] at parts
  have whole : unlines front ++ last = text := by
    rw [← glue_concat, ← parts, glue_pieces]
  have free : '\n' ∉ last := separator_notMem_pieces (by rw [parts]; simp)
  have empty : last = [] := by
    cases shown : last.getLast? with
    | none => exact List.getLast?_eq_none_iff.1 shown
    | some c =>
      have same : c = '\n' := by
        refine ended c ?_
        rw [← whole, List.getLast?_append, shown]
        rfl
      exact absurd (same ▸ List.mem_of_getLast? shown) free
  subst empty
  unfold linesOf
  dsimp only
  rw [parts, List.getLast?_concat, if_pos rfl, List.dropLast_concat]
  simpa using whole

theorem linesOf_append {first : List Char} (ended : IsEnded first) (second : List Char) :
    linesOf (first ++ second) = linesOf first ++ linesOf second := by
  have free : ∀ line ∈ linesOf first, '\n' ∉ line := fun _ => newline_not_mem_of_mem_linesOf
  have split := linesOf_unlines_append free second
  rwa [unlines_linesOf ended] at split

/-- The lines of a text with a line break behind it are the pieces of the text. -/
theorem linesOf_concat (body : List Char) : linesOf (body ++ ['\n']) = pieces '\n' body := by
  unfold linesOf
  dsimp only
  rw [pieces_append_cons, pieces, List.getLast?_concat, if_pos rfl, List.dropLast_concat]

/-! ### Divisions -/

/-- Lines divided into groups, one for each datagram: no group is empty, and one that is longer than
the limit is a single line. -/
structure IsDivision (limit : Nat) (lines : List (List Char))
    (groups : List (List (List Char))) : Prop where
  all : groups.flatten = lines
  nonempty : ∀ group ∈ groups, group ≠ []
  within : ∀ group ∈ groups, byteLength (glue '\n' group) ≤ limit ∨ group.length = 1

namespace IsDivision

variable {limit : Nat} {lines group : List (List Char)} {groups : List (List (List Char))}

theorem nil : IsDivision limit [] [] :=
  ⟨rfl, nofun, nofun⟩

theorem cons (nonempty : group ≠ [])
    (within : byteLength (glue '\n' group) ≤ limit ∨ group.length = 1)
    (rest : IsDivision limit lines groups) :
    IsDivision limit (group ++ lines) (group :: groups) where
  all := congrArg (group ++ ·) rest.all
  nonempty := List.forall_mem_cons.2 ⟨nonempty, rest.nonempty⟩
  within := List.forall_mem_cons.2 ⟨within, rest.within⟩

end IsDivision

theorem exists_division_packOnto (limit : Nat) {group : List (List Char)} (nonempty : group ≠ [])
    (within : byteLength (glue '\n' group) ≤ limit ∨ group.length = 1)
    (rest : List (List Char)) :
    ∃ groups, IsDivision limit (group ++ rest) groups ∧
      packOnto limit (glue '\n' group) rest = groups.map (glue '\n') := by
  induction rest generalizing group with
  | nil => exact ⟨[group], .cons nonempty within .nil, rfl⟩
  | cons line rest inductionHypothesis =>
    have longer : glue '\n' group ++ '\n' :: line = glue '\n' (group ++ [line]) := by
      rw [glue_concat, unlines_eq group nonempty, List.append_assoc, List.singleton_append]
    unfold packOnto
    rw [longer]
    dsimp only
    split
    · rename_i fits
      rw [List.append_cons]
      exact inductionHypothesis (List.append_ne_nil_of_right_ne_nil _ (List.cons_ne_nil _ _))
        (.inl fits)
    · obtain ⟨groups, division, packed⟩ :=
        inductionHypothesis (List.cons_ne_nil line []) (.inr rfl)
      exact ⟨group :: groups, .cons nonempty within division, congrArg (_ :: ·) packed⟩

/-- Packing lines divides them. -/
theorem exists_division_pack (limit : Nat) (lines : List (List Char)) :
    ∃ groups, IsDivision limit lines groups ∧ pack limit lines = groups.map (glue '\n') := by
  cases lines with
  | nil => exact ⟨[], .nil, rfl⟩
  | cons line rest =>
    exact exists_division_packOnto limit (List.cons_ne_nil line []) (.inr rfl) rest

/-- The datagrams, each with a line break, are the lines, each with its line break. -/
theorem unlines_pack (limit : Nat) (lines : List (List Char)) :
    unlines (pack limit lines) = unlines lines := by
  obtain ⟨groups, division, packed⟩ := exists_division_pack limit lines
  rw [packed, ← division.all, unlines, unlines, List.flatMap_map, ← List.flatMap_id,
    List.flatMap_assoc]
  exact List.flatMap_congr fun group member =>
    (unlines_eq group (division.nonempty group member)).symm

/-- The lines of the datagrams are the lines. -/
theorem flatMap_pieces_pack (limit : Nat) {lines : List (List Char)}
    (free : ∀ line ∈ lines, '\n' ∉ line) : (pack limit lines).flatMap (pieces '\n') = lines := by
  obtain ⟨groups, division, packed⟩ := exists_division_pack limit lines
  rw [packed, List.flatMap_map]
  refine Eq.trans ?_ division.all
  rw [← List.flatMap_id]
  refine List.flatMap_congr fun group member => ?_
  rw [pieces_glue (division.nonempty group member)]
  refine flatMap_pieces_of_not_mem fun line inGroup => free line ?_
  rw [← division.all]
  exact List.mem_flatten_of_mem member inGroup

/-! ### No division needs fewer datagrams -/

/-- Of two datagrams that go on with the same lines, the one that is behind needs no more datagrams
for them, and the one that is further on at most one more. -/
theorem length_packOnto_le (limit : Nat) (first second : List Char) (rest : List (List Char)) :
    (packOnto limit first rest).length ≤ (packOnto limit second rest).length + 1 ∧
      (byteLength first ≤ byteLength second →
        (packOnto limit first rest).length ≤ (packOnto limit second rest).length) := by
  induction rest generalizing first second with
  | nil => exact ⟨Nat.le_add_right _ _, fun _ => Nat.le_refl _⟩
  | cons line rest inductionHypothesis =>
    obtain ⟨oneMore, noMore⟩ :=
      inductionHypothesis (first ++ '\n' :: line) (second ++ '\n' :: line)
    -- the datagram that begins with the line is behind whatever goes on with it
    have begun := (inductionHypothesis (first ++ '\n' :: line) line).1
    have behind := (inductionHypothesis line (second ++ '\n' :: line)).2
    rw [byteLength_append, byteLength_append] at noMore
    rw [byteLength_append] at behind
    have longer : byteLength line ≤ byteLength ('\n' :: line) := Nat.le_add_left _ _
    simp only [packOnto, byteLength_append]
    by_cases firstFits : byteLength first + byteLength ('\n' :: line) ≤ limit
    · by_cases secondFits : byteLength second + byteLength ('\n' :: line) ≤ limit
      · rw [if_pos firstFits, if_pos secondFits]
        exact ⟨oneMore, fun shorter => noMore (Nat.add_le_add_right shorter _)⟩
      · rw [if_pos firstFits, if_neg secondFits, List.length_cons]
        exact ⟨Nat.le_succ_of_le begun, fun _ => begun⟩
    · by_cases secondFits : byteLength second + byteLength ('\n' :: line) ≤ limit
      · rw [if_neg firstFits, if_pos secondFits, List.length_cons]
        exact ⟨Nat.succ_le_succ (behind (by omega)), fun shorter => absurd secondFits (by omega)⟩
      · rw [if_neg firstFits, if_neg secondFits, List.length_cons]
        exact ⟨Nat.le_succ _, fun _ => Nat.le_refl _⟩

theorem byteLength_le_glue (line : List Char) (more : List (List Char)) :
    byteLength line ≤ byteLength (glue '\n' (line :: more)) := by
  cases more with
  | nil => exact Nat.le_refl _
  | cons next further =>
    rw [glue, byteLength_append]
    exact Nat.le_add_right _ _

/-- Lines that fit are all taken in. -/
theorem packOnto_append {limit : Nat} (line : List Char) {more : List (List Char)}
    (fits : byteLength (glue '\n' (line :: more)) ≤ limit) (rest : List (List Char)) :
    packOnto limit line (more ++ rest) = packOnto limit (glue '\n' (line :: more)) rest := by
  induction more generalizing line with
  | nil => rfl
  | cons next more inductionHypothesis =>
    rw [← glue_cons_append] at fits ⊢
    have first : byteLength (line ++ '\n' :: next) ≤ limit :=
      Nat.le_trans (byteLength_le_glue _ more) fits
    rw [List.cons_append, packOnto, if_pos first, inductionHypothesis _ fits]

/-- A group at the front costs at most one datagram. -/
theorem length_pack_append_le {limit : Nat} {group : List (List Char)}
    (within : byteLength (glue '\n' group) ≤ limit ∨ group.length = 1)
    (rest : List (List Char)) :
    (pack limit (group ++ rest)).length ≤ (pack limit rest).length + 1 := by
  have alone (datagram : List Char) :
      (packOnto limit datagram rest).length ≤ (pack limit rest).length + 1 := by
    cases rest with
    | nil => exact Nat.le_refl _
    | cons next more =>
      rw [packOnto]
      split
      · exact (length_packOnto_le limit _ next more).1
      · exact Nat.le_refl _
  cases group with
  | nil => exact Nat.le_succ _
  | cons line more =>
    rcases within with fits | single
    · rw [List.cons_append, pack, packOnto_append line fits]
      exact alone _
    · obtain rfl : more = [] := List.length_eq_zero_iff.1 (Nat.succ.inj single)
      exact alone line

/-- Packing takes as few datagrams as any division within the limit. -/
theorem length_pack_le {limit : Nat} {lines : List (List Char)} {groups : List (List (List Char))}
    (division : IsDivision limit lines groups) : (pack limit lines).length ≤ groups.length := by
  induction groups generalizing lines with
  | nil =>
    rw [← division.all]
    exact Nat.le_refl _
  | cons group rest inductionHypothesis =>
    obtain ⟨firstWithin, restWithin⟩ := List.forall_mem_cons.1 division.within
    have restDivision : IsDivision limit rest.flatten rest :=
      ⟨rfl, (List.forall_mem_cons.1 division.nonempty).2, restWithin⟩
    rw [← division.all, List.flatten_cons, List.length_cons]
    exact Nat.le_trans (length_pack_append_le firstWithin _)
      (Nat.succ_le_succ (inductionHypothesis restDivision))

end Telemetry.Statsd
