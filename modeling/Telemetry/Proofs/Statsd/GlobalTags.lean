/-
This file proves that tags which come from a configuration cannot break a line.
A client that is made of settings carries their pairs of names and values, in
the order of the names, and then their single tags. If the pairs and the tags
were accepted from a configuration, no word of them holds a character that means
something in a line, so the text comes apart into exactly these tags, in
characters as well as in bytes, and each tag into its one or two words.
-/

import Telemetry.Proofs.Config.Tags
import Telemetry.Proofs.Statsd.Messages
import Telemetry.Proofs.Text.ByteOrder
import Telemetry.Statsd.Client

namespace Telemetry.Statsd

open Config Text

/-! ### The tags of a client -/

/-- The texts of the tags that every line carries: the pairs in the order of their names, and then
the single tags. -/
def Settings.tagTexts (settings : Settings) : List (List Char) :=
  (settings.tags.entries.map fun pair => TagGroup.pairText pair.1 pair.2) ++
    settings.tagValues.map String.toList

theorem Client.tags_foldl_withTagValue (client : Client) (values : List String) :
    (values.foldl withTagValue client).tags =
      (values.map String.toList).foldl TagGroup.append client.tags := by
  induction values generalizing client with
  | nil => rfl
  | cons value rest inductionHypothesis => exact inductionHypothesis (client.withTagValue value)

/-- A client carries the tags of its settings, one after the other. -/
theorem tags_client (settings : Settings) (wire : Wire) (now : Int) :
    (settings.client wire now).tags = settings.tagTexts.foldl TagGroup.append .empty := by
  have pairs : (settings.tags.entries.map fun pair => TagGroup.pairText pair.1 pair.2).foldl
      TagGroup.append .empty = TagGroup.empty.addAll settings.tags := List.foldl_map
  rw [Settings.tagTexts, List.foldl_append, pairs]
  exact Client.tags_foldl_withTagValue _ settings.tagValues

/-! ### Words in tags -/

theorem pieces_pairText {key value : String} (keyWord : IsTagWord key.toList)
    (valueWord : IsTagWord value.toList) :
    pieces ':' (TagGroup.pairText key value) = [key.toList, value.toList] := by
  rw [TagGroup.pairText, pieces_append (keyWord.not_mem (by decide)),
    pieces_of_not_mem (valueWord.not_mem (by decide))]

/-- A colon divides a tag into one or two words. -/
theorem pieces_of_isListTag {tag : List Char} (listTag : IsListTag tag) :
    (pieces ':' tag).length ≤ 2 ∧ ∀ word ∈ pieces ':' tag, IsTagWord word := by
  cases listTag with
  | name word =>
    rw [pieces_of_not_mem (word.not_mem (by decide))]
    exact ⟨Nat.le_succ 1, List.forall_mem_singleton.2 word⟩
  | pair nameWord valueWord =>
    rw [pieces_append (nameWord.not_mem (by decide)),
      pieces_of_not_mem (valueWord.not_mem (by decide))]
    exact ⟨le_rfl, List.forall_mem_cons.2 ⟨nameWord, List.forall_mem_singleton.2 valueWord⟩⟩

theorem nonempty_of_isListTag {tag : List Char} (listTag : IsListTag tag) : tag ≠ [] := by
  cases listTag with
  | name word => exact word.nonempty
  | pair nameWord => exact List.append_ne_nil_of_left_ne_nil nameWord.nonempty _

/-- A tag holds no character but those of words and the colon. -/
theorem not_mem_of_isListTag {tag : List Char} (listTag : IsListTag tag) {c : Char}
    (excluded : isTagChar c = false) (notColon : c ≠ ':') : c ∉ tag := by
  cases listTag with
  | name word => exact word.not_mem excluded
  | pair nameWord valueWord =>
    rw [List.mem_append, List.mem_cons, not_or, not_or]
    exact ⟨nameWord.not_mem excluded, notColon, valueWord.not_mem excluded⟩

/-! ### Accepted tags -/

section Accepted

variable {settings : Settings} {tagMap tagList : Node}
  (mapRead : tagMap.asStaticTags = .ok settings.tags)
  (listRead : tagList.asTagList = .ok settings.tagValues)

include mapRead

theorem words_of_mem_tags {pair : String × String} (member : pair ∈ settings.tags.entries) :
    IsTagWord pair.1.toList ∧ IsTagWord pair.2.toList := by
  obtain ⟨entries, pairs, -, related, perm⟩ := exists_pairs_of_asStaticTags mapRead
  exact words_of_mem_pairs related pair (perm.mem_iff.2 member)

include listRead

theorem isListTag_of_mem_tagTexts {tag : List Char} (member : tag ∈ settings.tagTexts) :
    IsListTag tag := by
  rcases List.mem_append.1 member with own | own
  · obtain ⟨pair, pairIn, rfl⟩ := List.mem_map.1 own
    obtain ⟨keyWord, valueWord⟩ := words_of_mem_tags mapRead pairIn
    exact .pair keyWord valueWord
  · obtain ⟨value, valueIn, rfl⟩ := List.mem_map.1 own
    exact isListTag_of_mem_tags (forall₂_of_asTagList listRead) value valueIn

/-- The text of the client's tags comes apart into the tags of the settings. -/
theorem tags_client_eq_tagTexts (wire : Wire) (now : Int) :
    (settings.client wire now).tags.tags = settings.tagTexts := by
  have listTag {tag : List Char} (member : tag ∈ settings.tagTexts) : IsListTag tag :=
    isListTag_of_mem_tagTexts mapRead listRead member
  rw [tags_client]
  exact TagGroup.tags_foldl_append (fun tag member => nonempty_of_isListTag (listTag member))
    fun tag member => not_mem_of_isListTag (listTag member) (by decide) (by decide)

/-- The text of the client's tags is that of the tags with commas between them. -/
theorem text_client_eq_glue (wire : Wire) (now : Int) :
    (settings.client wire now).tags.text = glue ',' settings.tagTexts := by
  have parts := tags_client_eq_tagTexts mapRead listRead wire now
  rw [TagGroup.tags] at parts
  split at parts
  · rename_i empty
    rw [empty, ← parts]
    rfl
  · rw [← parts, glue_pieces]

end Accepted

/-- Tags that are accepted from a configuration stand apart in a line. A client that carries the
tags of a map and those of a list has a text of tags without line breaks, bars and hashes. The text
comes apart at its commas, as characters and as bytes, into exactly the pairs of the map in the
order of their names and the tags of the list as they are. Each of them has one or two words with a
colon between them, and a pair has its name and its value. The pairs are those of the entries of
the map, one for each, and the tags are the texts of the items of the list. -/
theorem accepted_tags_stand_apart {settings : Settings} {tagMap tagList : Node}
    (mapRead : tagMap.asStaticTags = .ok settings.tags)
    (listRead : tagList.asTagList = .ok settings.tagValues) (wire : Wire) (now : Int) :
    let group := (settings.client wire now).tags
    let pairs := settings.tags.entries
    (∀ c ∈ ['\n', '|', '#'], UInt8.ofNat c.toNat ∉ bytes (String.ofList group.text)) ∧
      group.tags = (pairs.map fun pair => TagGroup.pairText pair.1 pair.2) ++
        settings.tagValues.map String.toList ∧
      (group.tags ≠ [] →
        (bytes (String.ofList group.text)).splitOn (UInt8.ofNat ','.toNat) =
          group.tags.map fun tag => bytes (String.ofList tag)) ∧
      (∀ tag ∈ group.tags, tag ≠ [] ∧ (pieces ':' tag).length ≤ 2 ∧
        ∀ word ∈ pieces ':' tag, IsTagWord word) ∧
      (∀ pair ∈ pairs, pieces ':' (TagGroup.pairText pair.1 pair.2) =
        [pair.1.toList, pair.2.toList]) ∧
      (pairs.Pairwise fun first second => bytes first.1 < bytes second.1) ∧
      (∃ entries given, tagMap = .map entries ∧ given.Perm pairs ∧
        List.Forall₂ (fun entry pair => entry.1 = .text pair.1 ∧ entry.2.asText = .ok pair.2)
          entries given) ∧
      List.Forall₂ (fun item tag => item.asText = .ok tag) tagList.items settings.tagValues := by
  intro group pairs
  have text : group.text = glue ',' settings.tagTexts :=
    text_client_eq_glue mapRead listRead wire now
  have parts : group.tags = settings.tagTexts := tags_client_eq_tagTexts mapRead listRead wire now
  have listTag {tag : List Char} (member : tag ∈ settings.tagTexts) : IsListTag tag :=
    isListTag_of_mem_tagTexts mapRead listRead member
  have inBytes (text : List Char) :
      bytes (String.ofList text) = text.flatMap String.utf8EncodeChar := by
    rw [bytes_eq_flatMap, String.toList_ofList]
  refine ⟨fun c marked => ?_, parts, fun nonempty => ?_, fun tag member => ?_,
    fun pair member => ?_, settings.tags.ascending.imp bytes_lt_iff.2, ?_, ?_⟩
  · have special : c.toNat < 128 ∧ isTagChar c = false ∧ c ≠ ':' ∧ ',' ≠ c := by
      simp only [List.mem_cons, List.not_mem_nil, or_false] at marked
      rcases marked with rfl | rfl | rfl <;> decide
    obtain ⟨ascii, excluded, notColon, notComma⟩ := special
    rw [inBytes, text]
    refine byte_not_mem_of_not_mem ascii (List.count_eq_zero.1 ?_)
    rw [count_glue notComma]
    refine List.sum_eq_zero_iff_forall_eq_nat.2 (List.forall_mem_map.2 fun tag member => ?_)
    exact List.count_eq_zero.2 (not_mem_of_isListTag (listTag member) excluded notColon)
  · rw [parts] at nonempty ⊢
    rw [inBytes, text, splitOn_flatMap_glue (by decide) nonempty]
    · exact List.map_congr_left fun tag _ => (inBytes tag).symm
    · exact fun tag member => not_mem_of_isListTag (listTag member) (by decide) (by decide)
  · rw [parts] at member
    exact ⟨nonempty_of_isListTag (listTag member), pieces_of_isListTag (listTag member)⟩
  · obtain ⟨keyWord, valueWord⟩ := words_of_mem_tags mapRead member
    exact pieces_pairText keyWord valueWord
  · obtain ⟨entries, given, isMap, related, perm⟩ := exists_pairs_of_asStaticTags mapRead
    exact ⟨entries, given, isMap, perm, related.imp fun _ _ gives => ⟨gives.key, gives.value⟩⟩
  · exact (forall₂_of_asTagList listRead).imp fun _ _ gives => gives.text

/-- Settings with two pairs, which the map gives in another order, and two single tags. -/
def settingsWithTags : Settings :=
  { Settings.standard with
    tags := (Dictionary.empty.insert "shard" "3").insert "env" "prod"
    tagValues := ["canary", "zone:é-1"] }

theorem accepted_tags_of_map_and_list_stand_apart :
    let tagMap : Node := .map [(.text "shard", .int 3), (.text "env", .text "prod")]
    let tagList : Node := .list [.text "canary", .text "zone:é-1"]
    let group := (settingsWithTags.client .accepting 0).tags
    (tagMap.asStaticTags = .ok settingsWithTags.tags ∧
        tagList.asTagList = .ok settingsWithTags.tagValues) ∧
      group.text = "env:prod,shard:3,canary,zone:é-1".toList ∧
      group.tags = ["env:prod", "shard:3", "canary", "zone:é-1"].map String.toList := by
  intro tagMap tagList group
  have digit : Decimal.wholeText (3 : Int64).toInt = "3" := by decide +kernel
  have shard : addStaticTag .empty "shard" (.int 3) =
      .ok (Dictionary.empty.insert "shard" "3") := by
    simp only [addStaticTag, Node.asText, digit]
    rfl
  have mapRead : tagMap.asStaticTags = .ok settingsWithTags.tags :=
    foldEntries_cons_eq_ok_iff.2 ⟨_, _, rfl, shard, rfl⟩
  have listRead : tagList.asTagList = .ok settingsWithTags.tagValues := by rfl
  obtain ⟨_, parts, -⟩ := accepted_tags_stand_apart mapRead listRead .accepting 0
  exact ⟨⟨mapRead, listRead⟩, by decide +kernel, parts.trans (by decide +kernel)⟩

end Telemetry.Statsd
