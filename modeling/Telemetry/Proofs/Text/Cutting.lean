/-
This file proves that a text which is put together from parts comes apart into
the same parts again, as long as no part holds the separator, or no character of
the first part is one that ends it.
-/

import Mathlib.Algebra.GroupWithZero.Nat
import Mathlib.Data.List.Basic
import Telemetry.Text.Pieces

namespace Telemetry.Text

variable {separator : Char}

/-- A cut finds the first separator. -/
theorem cut_append {before : List Char} (free : separator ∉ before) (after : List Char) :
    cut separator (before ++ separator :: after) = some (before, after) := by
  induction before with
  | nil => simp [cut]
  | cons c rest inductionHypothesis =>
    rw [List.mem_cons, not_or] at free
    obtain ⟨different, freeRest⟩ := free
    simp only [List.cons_append, cut, Ne.symm different, if_false, inductionHypothesis freeRest,
      Option.map_some]

/-- A text without the separator is not cut. -/
theorem cut_of_not_mem {text : List Char} (free : separator ∉ text) :
    cut separator text = none := by
  cases found : cut separator text with
  | none => rfl
  | some halves =>
    rw [(cut_eq_some found).1] at free
    exact absurd (List.mem_append_right _ List.mem_cons_self) free

/-- A separator divides the pieces of what stands before it from those of what stands after it. -/
theorem pieces_append_cons (before after : List Char) :
    pieces separator (before ++ separator :: after) =
      pieces separator before ++ pieces separator after := by
  induction before with
  | nil => simp [pieces]
  | cons c rest inductionHypothesis =>
    rw [List.cons_append, pieces, pieces, inductionHypothesis]
    split
    · rfl
    · cases parts : pieces separator rest with
      | nil => exact absurd parts (pieces_ne_nil separator rest)
      | cons piece more => rfl

/-- A text without the separator is one piece. -/
theorem pieces_of_not_mem {text : List Char} (free : separator ∉ text) :
    pieces separator text = [text] := by
  induction text with
  | nil => rfl
  | cons c rest inductionHypothesis =>
    rw [List.mem_cons, not_or] at free
    obtain ⟨different, freeRest⟩ := free
    simp only [pieces, Ne.symm different, if_false, inductionHypothesis freeRest,
      List.modifyHead_cons]

theorem pieces_append {before : List Char} (free : separator ∉ before) (after : List Char) :
    pieces separator (before ++ separator :: after) = before :: pieces separator after := by
  rw [pieces_append_cons, pieces_of_not_mem free, List.singleton_append]

/-- There is one piece more than there are separators. -/
theorem length_pieces (text : List Char) :
    (pieces separator text).length = text.count separator + 1 := by
  induction text with
  | nil => rfl
  | cons c rest inductionHypothesis =>
    rw [pieces]
    split
    · rename_i same
      rw [same, List.count_cons_self, List.length_cons, inductionHypothesis]
    · rename_i different
      rw [List.count_cons_of_ne different, List.length_modifyHead, inductionHypothesis]

theorem length_flatMap_pieces (texts : List (List Char)) :
    (texts.flatMap (pieces separator)).length =
      texts.length + (texts.map (List.count separator)).sum := by
  induction texts with
  | nil => rfl
  | cons text rest inductionHypothesis =>
    rw [List.flatMap_cons, List.length_append, length_pieces, inductionHypothesis,
      List.length_cons, List.map_cons, List.sum_cons]
    omega

/-- Texts come apart into as many pieces as there are texts only if none holds the separator. -/
theorem length_flatMap_pieces_eq_iff (texts : List (List Char)) :
    (texts.flatMap (pieces separator)).length = texts.length ↔
      ∀ text ∈ texts, separator ∉ text := by
  rw [length_flatMap_pieces, Nat.add_eq_left]
  induction texts with
  | nil => exact ⟨fun _ => nofun, fun _ => rfl⟩
  | cons text rest inductionHypothesis =>
    rw [List.map_cons, List.sum_cons, Nat.add_eq_zero_iff, List.count_eq_zero,
      inductionHypothesis, List.forall_mem_cons]

theorem flatMap_pieces_of_not_mem {texts : List (List Char)}
    (free : ∀ text ∈ texts, separator ∉ text) : texts.flatMap (pieces separator) = texts := by
  rw [List.flatMap_congr fun text member => pieces_of_not_mem (free text member)]
  exact List.flatMap_singleton' texts

/-- The pieces of texts that are put together with separators are those of each text. -/
theorem pieces_glue {texts : List (List Char)} (nonempty : texts ≠ []) :
    pieces separator (glue separator texts) = texts.flatMap (pieces separator) := by
  induction texts with
  | nil => exact absurd rfl nonempty
  | cons text rest inductionHypothesis =>
    cases rest with
    | nil => exact (List.flatMap_singleton _ text).symm
    | cons next more =>
      rw [glue, pieces_append_cons, inductionHypothesis (List.cons_ne_nil _ _)]
      exact List.flatMap_cons.symm

/-- Texts and their pieces are put together to the same text. -/
theorem glue_flatMap_pieces (texts : List (List Char)) :
    glue separator (texts.flatMap (pieces separator)) = glue separator texts := by
  by_cases nonempty : texts = []
  · rw [nonempty]
    rfl
  · rw [← pieces_glue nonempty, glue_pieces]

/-- Two texts with a separator between them count as two. -/
theorem glue_cons_append (first second : List Char) (rest : List (List Char)) :
    glue separator ((first ++ separator :: second) :: rest) =
      glue separator (first :: second :: rest) := by
  cases rest with
  | nil => rfl
  | cons next more => rw [glue, glue, glue, List.append_assoc, List.cons_append]

/-- Putting parts together adds separators and no other character. -/
theorem count_glue {wanted : Char} (different : separator ≠ wanted) (parts : List (List Char)) :
    (glue separator parts).count wanted = (parts.map (List.count wanted)).sum := by
  induction parts with
  | nil => rfl
  | cons part rest inductionHypothesis =>
    cases rest with
    | nil => simp [glue]
    | cons next more =>
      rw [glue, List.count_append, List.count_cons_of_ne different, inductionHypothesis]
      rfl

/-- Parts that each a separator ends come apart into the parts, and one empty part behind the last
separator. -/
theorem pieces_flatMap {parts : List (List Char)} (free : ∀ part ∈ parts, separator ∉ part) :
    pieces separator (parts.flatMap fun part => part ++ [separator]) = parts ++ [[]] := by
  induction parts with
  | nil => rfl
  | cons part rest inductionHypothesis =>
    rw [List.flatMap_cons, List.append_assoc, List.singleton_append,
      pieces_append (free part List.mem_cons_self),
      inductionHypothesis fun other member => free other (List.mem_cons_of_mem _ member)]
    rfl

/-! ### The start of a text -/

section Start

variable {test : Char → Bool} {start rest : List Char} (all : ∀ c ∈ start, test c)
  (ends : ∀ c ∈ rest.head?, test c = false)

include all ends

/-- A run of characters that pass a test is taken as a whole if none follows that passes it. -/
theorem takeWhile_append_of_ends : (start ++ rest).takeWhile test = start := by
  rw [List.takeWhile_append_of_pos all]
  cases rest with
  | nil => rw [List.takeWhile_nil, List.append_nil]
  | cons c rest =>
    rw [List.takeWhile_cons_of_neg (Bool.eq_false_iff.1 (ends c rfl)), List.append_nil]

theorem dropWhile_append_of_ends : (start ++ rest).dropWhile test = rest := by
  rw [List.dropWhile_append_of_pos all]
  cases rest with
  | nil => rfl
  | cons c rest => exact List.dropWhile_cons_of_neg (Bool.eq_false_iff.1 (ends c rfl))

end Start

end Telemetry.Text
