/-
This file says which tags a configuration accepts. The name and the value of a
tag are words: at least one character, and none but letters, digits and a few
marks, which leaves out every character that means something in a line of
metrics. A map gives a pair of words for each of its entries, whatever order
they stand in, and a list gives its own texts, each a word or two words with a
colon between them.
-/

import Mathlib.Data.List.Forall2
import Telemetry.Config.Values
import Telemetry.Proofs.Config.Entries
import Telemetry.Proofs.Dictionary
import Telemetry.Proofs.Text.Cutting

namespace Telemetry.Config

open Text

/-! ### Words -/

/-- The characters of tags: letters and digits of any script, and a few ASCII marks. -/
def isTagChar (c : Char) : Bool :=
  if isAscii c then isTagAscii c else isAlphanumeric c

/-- A text that can be the name or the value of a tag. -/
structure IsTagWord (text : List Char) : Prop where
  nonempty : text ≠ []
  chars : ∀ c ∈ text, isTagChar c

theorem IsTagWord.not_mem {text : List Char} (word : IsTagWord text) {c : Char}
    (excluded : isTagChar c = false) : c ∉ text := fun member =>
  Bool.false_ne_true (excluded.symm.trans (word.chars c member))

theorem checkChars_eq_ok_iff {text : List Char} :
    checkChars text = .ok () ↔ ∀ c ∈ text, isTagChar c := by
  induction text with
  | nil => simp [checkChars]
  | cons c rest inductionHypothesis =>
    rw [checkChars, List.forall_mem_cons, ← inductionHypothesis, isTagChar]
    by_cases ascii : isAscii c
    · by_cases known : isTagAscii c <;> simp [ascii, known, fail]
    · by_cases known : isAlphanumeric c <;> simp [ascii, known, fail]

/-- The check lets exactly the words pass. -/
theorem checkTag_eq_ok_iff {text : List Char} : checkTag text = .ok () ↔ IsTagWord text := by
  rw [checkTag]
  cases text with
  | nil => exact ⟨nofun, fun word => absurd rfl word.nonempty⟩
  | cons c rest =>
    rw [List.isEmpty_cons, if_neg Bool.false_ne_true, checkChars_eq_ok_iff]
    exact ⟨fun chars => ⟨List.cons_ne_nil c rest, chars⟩, fun word => word.chars⟩

/-! ### Maps -/

/-- The entry of a map gives a pair of words. -/
structure GivesPair (entry : Node × Node) (pair : String × String) : Prop where
  key : entry.1 = .text pair.1
  value : entry.2.asText = .ok pair.2
  keyWord : IsTagWord pair.1.toList
  valueWord : IsTagWord pair.2.toList

theorem words_of_mem_pairs {entries : List (Node × Node)} {pairs : List (String × String)}
    (related : List.Forall₂ GivesPair entries pairs) :
    ∀ pair ∈ pairs, IsTagWord pair.1.toList ∧ IsTagWord pair.2.toList :=
  forall_mem_of_forall₂ (fun _ _ gives => ⟨gives.keyWord, gives.valueWord⟩) related

theorem addStaticTag_eq_ok {tags next : Dictionary String} {name : String} {node : Node}
    (added : addStaticTag tags name node = .ok next) :
    ∃ value, GivesPair (.text name, node) (name, value) ∧ tags.contains name = false ∧
      next = tags.insert name value := by
  obtain ⟨_, nameRead, added⟩ := bind_eq_ok_iff.1 added
  obtain ⟨value, valueText, added⟩ := bind_eq_ok_iff.1 added
  obtain ⟨_, valueRead, added⟩ := bind_eq_ok_iff.1 added
  rw [within_eq_ok_iff] at nameRead valueText valueRead
  split at added
  · cases added
  · rename_i fresh
    cases added
    exact ⟨value, ⟨rfl, valueText, checkTag_eq_ok_iff.1 nameRead, checkTag_eq_ok_iff.1 valueRead⟩,
      Bool.not_eq_true _ ▸ fresh, rfl⟩

/-- Every entry of a map adds its pair to the tags, and no pair is lost. -/
theorem exists_pairs_of_foldEntries {tags final : Dictionary String}
    {entries : List (Node × Node)} (read : foldEntries addStaticTag tags entries = .ok final) :
    ∃ pairs, List.Forall₂ GivesPair entries pairs ∧
      (pairs ++ tags.entries).Perm final.entries := by
  induction entries generalizing tags with
  | nil =>
    rw [foldEntries_nil_eq_ok_iff.1 read]
    exact ⟨[], .nil, .refl _⟩
  | cons entry rest inductionHypothesis =>
    obtain ⟨name, next, key, visited, readRest⟩ := foldEntries_cons_eq_ok_iff.1 read
    obtain ⟨value, gives, fresh, rfl⟩ := addStaticTag_eq_ok visited
    obtain ⟨pairs, related, perm⟩ := inductionHypothesis readRest
    refine ⟨(name, value) :: pairs, .cons { gives with key } related, ?_⟩
    exact (List.perm_middle.symm.trans
      ((Dictionary.perm_insert fresh value).symm.append_left pairs)).trans perm

/-- A map that is accepted gives one pair for each of its entries. -/
theorem exists_pairs_of_asStaticTags {node : Node} {tags : Dictionary String}
    (read : node.asStaticTags = .ok tags) :
    ∃ entries pairs, node = .map entries ∧ List.Forall₂ GivesPair entries pairs ∧
      pairs.Perm tags.entries := by
  cases node with
  | map entries =>
    obtain ⟨pairs, related, perm⟩ := exists_pairs_of_foldEntries read
    exact ⟨entries, pairs, rfl, related, List.append_nil pairs ▸ perm⟩
  | text | int | real | bool | null | invalid | list => cases read

/-! ### Lists -/

/-- A text that can stand in a list of tags: a word, or two words with a colon between them. -/
inductive IsListTag : List Char → Prop
  | name {text : List Char} (word : IsTagWord text) : IsListTag text
  | pair {name value : List Char} (nameWord : IsTagWord name) (valueWord : IsTagWord value) :
    IsListTag (name ++ ':' :: value)

/-- The item of a list gives its own text as a tag. -/
structure GivesTag (item : Node) (tag : String) : Prop where
  text : item.asText = .ok tag
  listTag : IsListTag tag.toList

theorem isListTag_of_mem_tags {items : List Node} {tags : List String}
    (related : List.Forall₂ GivesTag items tags) : ∀ tag ∈ tags, IsListTag tag.toList :=
  forall_mem_of_forall₂ (fun _ _ gives => gives.listTag) related

theorem asTag_eq_ok {item : Node} {tag : String} (read : asTag item = .ok tag) :
    GivesTag item tag := by
  obtain ⟨text, itemText, read⟩ := bind_eq_ok_iff.1 read
  split at read
  · rename_i name value found
    obtain ⟨_, nameRead, read⟩ := bind_eq_ok_iff.1 read
    obtain ⟨_, valueRead, read⟩ := bind_eq_ok_iff.1 read
    rw [within_eq_ok_iff, checkTag_eq_ok_iff] at nameRead valueRead
    cases read
    exact ⟨itemText, (cut_eq_some found).1 ▸ .pair nameRead valueRead⟩
  · obtain ⟨_, nameRead, read⟩ := bind_eq_ok_iff.1 read
    rw [within_eq_ok_iff, checkTag_eq_ok_iff] at nameRead
    cases read
    exact ⟨itemText, .name nameRead⟩

/-- A list that is accepted gives the text of each of its items. -/
theorem forall₂_of_asTagList {node : Node} {tags : List String}
    (read : node.asTagList = .ok tags) : List.Forall₂ GivesTag node.items tags := by
  refine (forall₂_of_asList read).imp fun _ _ => asTag_eq_ok

end Telemetry.Config
