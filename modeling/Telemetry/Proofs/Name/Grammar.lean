/-
This file proves how names with tags are read back from their written form. The
base of a name that is read holds no opening bracket, and its tags are single
tags: not empty, without blanks at their ends and without commas. Such a name is
read back as it was written, so whatever text a name was read from, writing it
and reading it again gives the same name. A name that is written with any other
tags comes back with the pieces that commas separate in them. That is also all
that the written form tells: two lists of tags are written alike under a base
exactly if commas separate the same pieces in them.
-/

import Telemetry.Proofs.Name.TagSets
import Telemetry.Proofs.Text.Cutting

namespace Telemetry

open Text

/-- A tag that no comma divides. -/
structure IsSingleTag (tag : String) : Prop extends IsTag tag where
  commaFree : ',' ∉ tag.toList

namespace Name

/-! ### Pieces of tags -/

/-- What commas separate in a list of tags. -/
def tagPieces (tags : List String) : List (List Char) :=
  tags.flatMap fun tag => pieces ',' tag.toList

theorem pieces_glue_tags {tags : List String} (nonempty : tags ≠ []) :
    pieces ',' (glue ',' (tags.map String.toList)) = tagPieces tags := by
  rw [pieces_glue (mt List.map_eq_nil_iff.1 nonempty), List.flatMap_map, tagPieces]

/-- The single tags that commas separate in a list of tags: trimmed, without empty ones, as often
as they are there. -/
def singleTags (tags : List String) : List String :=
  ((tagPieces tags).map fun piece => String.ofList (trim piece)).filter (· ≠ "")

theorem tagPieces_of_commaFree {tags : List String} (free : ∀ tag ∈ tags, ',' ∉ tag.toList) :
    tagPieces tags = tags.map String.toList := by
  rw [tagPieces, List.flatMap_congr fun tag member => pieces_of_not_mem (free tag member)]
  exact List.map_eq_flatMap.symm

/-- Single tags are the single tags that are separated in them. -/
theorem singleTags_eq_self {tags : List String} (single : ∀ tag ∈ tags, IsSingleTag tag) :
    singleTags tags = tags := by
  rw [singleTags, tagPieces_of_commaFree fun tag member => (single tag member).commaFree,
    List.map_map]
  have same : tags.map trimmed = tags.map id :=
    List.map_congr_left fun tag member => (single tag member).toIsTag.trimmed_eq
  change (tags.map trimmed).filter (· ≠ "") = tags
  rw [same, List.map_id]
  exact List.filter_eq_self.2 fun tag member => decide_eq_true (single tag member).nonempty

theorem commaFree_cleanTags {tags : List String} (free : ∀ tag ∈ tags, ',' ∉ tag.toList) :
    ∀ tag ∈ cleanTags tags, ',' ∉ tag.toList := by
  intro tag member comma
  obtain ⟨_, given, own, rfl⟩ := mem_cleanTags.1 member
  rw [trimmed, String.toList_ofList] at comma
  exact free given own ((isInfix_trim given.toList).subset comma)

/-! ### Reading tags -/

theorem ascending_readTags (inner : List Char) : (readTags inner).Pairwise (· ≤ ·) :=
  List.pairwise_mergeSort' (· ≤ ·) _

theorem isSingleTag_of_mem_readTags {inner : List Char} {tag : String}
    (member : tag ∈ readTags inner) : IsSingleTag tag := by
  rw [readTags, List.mem_mergeSort, List.mem_filter, decide_eq_true_eq, List.mem_map] at member
  obtain ⟨⟨piece, inside, rfl⟩, nonempty⟩ := member
  refine ⟨⟨nonempty, ?_⟩, ?_⟩ <;> rw [String.toList_ofList]
  · exact isTrimmed_trim piece
  · exact fun comma => separator_notMem_pieces inside ((isInfix_trim piece).subset comma)

/-- Between brackets, tags are read as the single tags that commas separate in them. -/
theorem readTags_glue_perm (tags : List String) :
    (readTags (glue ',' (tags.map String.toList))).Perm (singleTags tags) := by
  refine (List.mergeSort_perm _ _).trans ?_
  by_cases nonempty : tags = []
  · subst nonempty
    decide
  · rw [pieces_glue_tags nonempty, singleTags]

/-- Single tags in ascending order are read as they are written. -/
theorem readTags_glue {tags : List String} (ascending : tags.Pairwise (· ≤ ·))
    (single : ∀ tag ∈ tags, IsSingleTag tag) :
    readTags (glue ',' (tags.map String.toList)) = tags := by
  have read := readTags_glue_perm tags
  rw [singleTags_eq_self single] at read
  exact read.eq_of_pairwise' (ascending_readTags _) ascending

/-! ### Reading names -/

theorem read_of_not_mem {text : String} (free : '[' ∉ text.toList) : read text = ⟨text, []⟩ := by
  rw [read, cut_of_not_mem free]

theorem read_bracketed {base : List Char} (free : '[' ∉ base) (inner : List Char) :
    read (String.ofList (base ++ '[' :: inner ++ [']'])) =
      ⟨String.ofList base, readTags inner⟩ := by
  have closed : stripLast ']' (inner ++ [']']) = some inner := by
    rw [stripLast, List.getLast?_concat, if_pos rfl, List.dropLast_concat]
  rw [read, String.toList_ofList, List.append_assoc, List.cons_append, cut_append free]
  dsimp only
  rw [closed]

/-- A text is a base without tags, or a base with tags between brackets. -/
theorem read_cases (text : String) :
    read text = ⟨text, []⟩ ∨
      ∃ base inner, '[' ∉ base ∧ read text = ⟨String.ofList base, readTags inner⟩ := by
  unfold read
  split
  · exact .inl rfl
  · rename_i base rest halves
    split
    · exact .inl rfl
    · rename_i inner _
      exact .inr ⟨base, inner, (cut_eq_some halves).2, rfl⟩

theorem ascending_read (text : String) : (read text).tags.Pairwise (· ≤ ·) := by
  rcases read_cases text with whole | ⟨base, inner, _, parts⟩
  · rw [whole]
    exact .nil
  · rw [parts]
    exact ascending_readTags inner

theorem isSingleTag_of_mem_read {text tag : String} (member : tag ∈ (read text).tags) :
    IsSingleTag tag := by
  rcases read_cases text with whole | ⟨base, inner, _, parts⟩
  · rw [whole] at member
    cases member
  · rw [parts] at member
    exact isSingleTag_of_mem_readTags member

/-- A written name is read as its base with the tags that are read between its brackets. -/
theorem read_written {base : String} (free : '[' ∉ base.toList) (tags : List String) :
    read (written ⟨base, tags⟩) = ⟨base, readTags (glue ',' (tags.map String.toList))⟩ := by
  cases tags with
  | nil =>
    rw [readTags_glue .nil nofun]
    exact read_of_not_mem free
  | cons tag rest =>
    refine (read_bracketed free _).trans ?_
    rw [String.ofList_toList]

/-- A name that was read is read back. -/
theorem read_written_read (text : String) : read (read text).written = read text := by
  rcases read_cases text with whole | ⟨base, inner, free, parts⟩
  · rw [whole]
    exact whole
  · rw [← String.toList_ofList (l := base)] at free
    rw [parts, read_written free, readTags_glue (ascending_readTags inner)
      fun _ => isSingleTag_of_mem_readTags]

/-- A name with the cleaned tags is read back as long as no tag holds a comma. -/
theorem read_tagged {base : String} (free : '[' ∉ base.toList) {tags : List String}
    (commaFree : ∀ tag ∈ tags, ',' ∉ tag.toList) :
    read (tagged base tags).written = tagged base tags := by
  have single : ∀ tag ∈ cleanTags tags, IsSingleTag tag := fun tag member =>
    ⟨isTag_of_mem_cleanTags tag member, commaFree_cleanTags commaFree tag member⟩
  have ascending : (cleanTags tags).Pairwise (· ≤ ·) :=
    (ascending_cleanTags tags).imp fun below => String.not_lt.1 (String.lt_asymm below)
  rw [tagged, read_written free, readTags_glue ascending single]

/-- Writing and reading are inverse as far as they can be. A name with cleaned tags comes back with
its base and with the single tags that commas separate in its tags, ascending, each as often as it
is there; these are the cleaned tags themselves if no tag holds a comma. Whatever text a name was
read from, its tags are single tags in ascending order, and it comes back as it is. -/
theorem written_names_read_back :
    (∀ (base : String) (tags : List String), '[' ∉ base.toList →
      let name := read (tagged base tags).written
      name.base = base ∧ name.tags.Pairwise (· ≤ ·) ∧
        name.tags.Perm (singleTags (cleanTags tags)) ∧
        ((∀ tag ∈ tags, ',' ∉ tag.toList) → name.tags = cleanTags tags)) ∧
    ∀ text : String,
      let name := read text
      read name.written = name ∧ name.tags.Pairwise (· ≤ ·) ∧
        ∀ tag ∈ name.tags, IsSingleTag tag := by
  refine ⟨fun base tags free => ?_, fun text => ?_⟩
  · intro name
    have parts : name = ⟨base, readTags (glue ',' ((cleanTags tags).map String.toList))⟩ :=
      read_written free (cleanTags tags)
    refine ⟨congrArg Name.base parts, ascending_read _, ?_, fun commaFree => ?_⟩
    · rw [parts]
      exact readTags_glue_perm (cleanTags tags)
    · exact congrArg Name.tags (read_tagged free commaFree)
  · exact ⟨read_written_read text, ascending_read text, fun tag => isSingleTag_of_mem_read⟩

/-- One of three tags holds two commas and one holds brackets. -/
theorem written_name_with_repeated_tag_reads_back :
    let tags := [" b,,a ", "x[1]:y", "b"]
    let name := read (tagged "jobs" tags).written
    '[' ∉ "jobs".toList ∧ name.base = "jobs" ∧ name.tags = ["a", "b", "b", "x[1]:y"] := by
  intro tags name
  have free : '[' ∉ "jobs".toList := by decide
  obtain ⟨base, ascending, single, _⟩ := written_names_read_back.1 "jobs" tags free
  have pieces : (singleTags (cleanTags tags)).Perm ["a", "b", "b", "x[1]:y"] := by decide +kernel
  exact ⟨free, base, (single.trans pieces).eq_of_pairwise' ascending (by decide)⟩

/-! ### What the written form tells -/

theorem toList_written (base : String) {tags : List String} (nonempty : tags ≠ []) :
    (written ⟨base, tags⟩).toList =
      base.toList ++ '[' :: (glue ',' (tags.map String.toList) ++ [']']) := by
  rw [written, if_neg fun empty => nonempty (List.isEmpty_iff.1 empty), String.toList_ofList,
    List.append_assoc, List.cons_append]

theorem written_ne_base (base : String) {tags : List String} (nonempty : tags ≠ []) :
    written ⟨base, tags⟩ ≠ base := by
  intro same
  have texts := toList_written base nonempty
  rw [same] at texts
  cases List.self_eq_append_right.1 texts

theorem tagPieces_eq_nil {tags : List String} : tagPieces tags = [] ↔ tags = [] := by
  rw [tagPieces, List.flatMap_eq_nil_iff]
  constructor
  · intro noPieces
    exact List.eq_nil_iff_forall_not_mem.2 fun tag member => pieces_ne_nil _ _ (noPieces tag member)
  · rintro rfl
    exact nofun

/-- Under one base, two lists of tags are written alike exactly if commas separate the same pieces
in them. -/
theorem written_eq_iff (base : String) (first second : List String) :
    written ⟨base, first⟩ = written ⟨base, second⟩ ↔ tagPieces first = tagPieces second := by
  by_cases firstNone : first = []
  · subst firstNone
    by_cases secondNone : second = []
    · subst secondNone
      exact iff_of_true rfl rfl
    · exact iff_of_false (written_ne_base base secondNone).symm
        fun same => secondNone (tagPieces_eq_nil.1 same.symm)
  · by_cases secondNone : second = []
    · subst secondNone
      exact iff_of_false (written_ne_base base firstNone)
        fun same => firstNone (tagPieces_eq_nil.1 same)
    · rw [← String.toList_inj, toList_written base firstNone, toList_written base secondNone,
        List.append_cancel_left_eq, List.cons.injEq, List.append_cancel_right_eq]
      rw [← pieces_glue_tags firstNone, ← pieces_glue_tags secondNone, eq_self, true_and]
      constructor
      · exact congrArg (pieces ',')
      · intro same
        rw [← glue_pieces ',' (glue ',' (first.map String.toList)), same, glue_pieces]

/-- Under one base, two lists of tags without commas are written alike exactly if they stand for the
same set of tags. -/
theorem written_tagged_eq_iff (base : String) {first second : List String}
    (firstFree : ∀ tag ∈ first, ',' ∉ tag.toList) (secondFree : ∀ tag ∈ second, ',' ∉ tag.toList) :
    (tagged base first).written = (tagged base second).written ↔ Tags.Same first second := by
  rw [tagged, tagged, written_eq_iff, tagPieces_of_commaFree (commaFree_cleanTags firstFree),
    tagPieces_of_commaFree (commaFree_cleanTags secondFree),
    List.map_inj_right fun _ _ => String.toList_injective, cleanTags_eq_iff]

end Name

end Telemetry
