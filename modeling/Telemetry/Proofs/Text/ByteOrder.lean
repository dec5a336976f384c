/-
This file proves that texts are in the order of their bytes. Texts are compared
by code points, but whoever compares the bytes that they take in UTF-8 finds the
same order: of two characters the smaller one has the smaller byte at the first
place at which their bytes differ. An ASCII character is one byte, and no other
character has a byte below 128, so cutting the bytes at an ASCII character cuts
the text there and nowhere else.
-/

import Mathlib.Data.String.Basic
import Telemetry.Text.Pieces

namespace Telemetry.Text

/-- The bytes of a text in UTF-8. -/
def bytes (text : String) : List UInt8 :=
  text.toUTF8.data.toList

theorem bytes_eq_flatMap (text : String) :
    bytes text = text.toList.flatMap String.utf8EncodeChar := by
  have encoded : (String.ofList text.toList).toUTF8.data.toList =
      text.toList.flatMap String.utf8EncodeChar := by
    rw [String.toUTF8_eq_toByteArray, String.toByteArray_ofList]
    exact List.toList_data_toByteArray
  rwa [String.ofList_toList] at encoded

/-- Of two characters the smaller one takes the smaller bytes, whatever follows. -/
theorem utf8EncodeChar_append_lt {c d : Char} (smaller : c < d) (first second : List UInt8) :
    String.utf8EncodeChar c ++ first < String.utf8EncodeChar d ++ second := by
  have less : c.val.toNat < d.val.toNat := UInt32.lt_iff_toNat_lt.1 smaller
  have bound : d.val.toNat < 0x110000 := by
    rcases d.valid with low | high <;> omega
  have leading : c.val.toNat / 4096 ≤ d.val.toNat / 4096 :=
    Nat.div_le_div_right (Nat.le_of_lt less)
  unfold String.utf8EncodeChar
  dsimp only
  generalize c.val.toNat = v at less leading ⊢
  generalize d.val.toNat = w at less leading bound ⊢
  -- of two characters that take as many bytes the bytes hold the digits, and otherwise the first
  -- bytes differ
  split_ifs <;>
    simp only [List.cons_append, List.nil_append, List.cons_lt_cons_iff, UInt8.lt_iff_toNat_lt,
      ← UInt8.toNat_inj, UInt8.toNat_ofNat'] <;>
    rcases Nat.lt_or_eq_of_le leading with apart | same <;> omega

theorem flatMap_utf8EncodeChar_lt {first second : List Char} (smaller : first < second) :
    first.flatMap String.utf8EncodeChar < second.flatMap String.utf8EncodeChar := by
  induction first generalizing second with
  | nil =>
    cases second with
    | nil => exact absurd smaller (List.lt_irrefl [])
    | cons d rest =>
      have nonempty : (d :: rest).flatMap String.utf8EncodeChar ≠ [] :=
        List.append_ne_nil_of_left_ne_nil String.utf8EncodeChar_ne_nil _
      obtain ⟨byte, more, bytes⟩ := List.exists_cons_of_ne_nil nonempty
      rw [bytes]
      exact List.nil_lt_cons byte more
  | cons c rest inductionHypothesis =>
    cases second with
    | nil => exact absurd smaller (List.not_lt_nil _)
    | cons d more =>
      rw [List.flatMap_cons, List.flatMap_cons]
      rcases List.cons_lt_cons_iff.1 smaller with below | ⟨rfl, later⟩
      · exact utf8EncodeChar_append_lt below _ _
      · exact List.append_left_lt (inductionHypothesis later)

/-- Comparing texts is comparing their bytes. -/
theorem bytes_lt_iff {first second : String} : bytes first < bytes second ↔ first < second := by
  have increases {smaller greater : String} (less : smaller < greater) :
      bytes smaller < bytes greater := by
    rw [bytes_eq_flatMap, bytes_eq_flatMap]
    exact flatMap_utf8EncodeChar_lt (String.lt_iff.1 less)
  refine ⟨fun less => ?_, increases⟩
  rcases lt_trichotomy first second with below | rfl | above
  · exact below
  · exact absurd less (List.lt_irrefl _)
  · exact absurd less (List.lt_asymm (increases above))

/-! ### ASCII characters among the bytes -/

/-- Only the ASCII character itself has its byte. -/
theorem toNat_eq_of_mem_utf8EncodeChar {c : Char} {byte : UInt8} (ascii : byte.toNat < 128)
    (member : byte ∈ String.utf8EncodeChar c) : c.toNat = byte.toNat := by
  have bound : c.val.toNat < 0x110000 := by
    rcases c.valid with low | high <;> omega
  show c.val.toNat = _
  unfold String.utf8EncodeChar at member
  dsimp only at member
  split_ifs at member <;>
    simp only [List.mem_cons, List.not_mem_nil, or_false, ← UInt8.toNat_inj,
      UInt8.toNat_ofNat'] at member <;> omega

section Ascii

variable {separator : Char} (ascii : separator.toNat < 128)

include ascii

theorem utf8EncodeChar_of_ascii :
    String.utf8EncodeChar separator = [UInt8.ofNat separator.toNat] := by
  unfold String.utf8EncodeChar
  exact if_pos (Nat.le_of_lt_succ ascii)

/-- A text without an ASCII character has no such byte. -/
theorem byte_not_mem_of_not_mem {text : List Char} (free : separator ∉ text) :
    UInt8.ofNat separator.toNat ∉ text.flatMap String.utf8EncodeChar := by
  have byte : (UInt8.ofNat separator.toNat).toNat = separator.toNat :=
    Nat.mod_eq_of_lt (by omega)
  intro member
  obtain ⟨c, own, found⟩ := List.mem_flatMap.1 member
  have same := toNat_eq_of_mem_utf8EncodeChar (byte.trans_lt ascii) found
  rw [byte] at same
  exact free (Char.toNat_inj.1 same ▸ own)

theorem flatMap_glue (texts : List (List Char)) :
    (glue separator texts).flatMap String.utf8EncodeChar =
      List.intercalate [UInt8.ofNat separator.toNat]
        (texts.map (List.flatMap String.utf8EncodeChar)) := by
  induction texts with
  | nil => rfl
  | cons text rest inductionHypothesis =>
    cases rest with
    | nil => simp [glue]
    | cons next more =>
      rw [glue, List.flatMap_append, List.flatMap_cons, inductionHypothesis,
        utf8EncodeChar_of_ascii ascii]
      simp

/-- The bytes of texts that are put together with an ASCII character come apart at its byte. -/
theorem splitOn_flatMap_glue {texts : List (List Char)} (nonempty : texts ≠ [])
    (free : ∀ text ∈ texts, separator ∉ text) :
    ((glue separator texts).flatMap String.utf8EncodeChar).splitOn
        (UInt8.ofNat separator.toNat) =
      texts.map (List.flatMap String.utf8EncodeChar) := by
  rw [flatMap_glue ascii]
  refine List.splitOn_intercalate _ (List.forall_mem_map.2 fun text member => ?_)
    (mt List.map_eq_nil_iff.1 nonempty)
  exact byte_not_mem_of_not_mem ascii (free text member)

end Ascii

end Telemetry.Text
