/-
This file proves what trimming leaves: a part of the text without blanks at its
ends. Such a text is trimmed already, so trimming it again changes nothing. What
is taken off are the blanks at the ends and nothing else.
-/

import Mathlib.Data.List.DropRight
import Telemetry.Text.Alphanumeric
import Telemetry.Text.Blank

namespace Telemetry.Text

/-! ### ASCII characters -/

/-- What holds of the first 128 characters holds of all ASCII characters. -/
theorem forall_of_isAscii (Holds : Char → Prop) (small : ∀ code : Fin 128, Holds (Char.ofNat code))
    {c : Char} (ascii : isAscii c) : Holds c := by
  have known := small ⟨c.toNat, of_decide_eq_true ascii⟩
  rwa [Char.ofNat_toNat] at known

theorem isAscii_of_isAsciiDigit {c : Char} (digit : isAsciiDigit c) : isAscii c := by
  rw [isAsciiDigit, Bool.and_eq_true, decide_eq_true_iff, decide_eq_true_iff] at digit
  have last : c.toNat ≤ 57 := UInt32.le_iff_toNat_le.1 digit.2
  exact decide_eq_true (by omega)

theorem isBlank_of_isAsciiDigit {c : Char} (digit : isAsciiDigit c) : isBlank c = false :=
  forall_of_isAscii (fun c => isAsciiDigit c → isBlank c = false) (by decide)
    (isAscii_of_isAsciiDigit digit) digit

/-! ### What trimming leaves -/

/-- A text without blanks at its ends. -/
structure IsTrimmed (text : List Char) : Prop where
  first : ∀ c ∈ text.head?, isBlank c = false
  last : ∀ c ∈ text.getLast?, isBlank c = false

theorem first_trimStart (text : List Char) : ∀ c ∈ (trimStart text).head?, isBlank c = false := by
  intro c first
  have notBlank := List.head?_dropWhile_not isBlank text
  rw [Option.mem_def, trimStart] at first
  rwa [first] at notBlank

theorem last_trimEnd (text : List Char) : ∀ c ∈ (trimEnd text).getLast?, isBlank c = false := by
  intro c last
  rw [trimEnd, List.getLast?_reverse] at last
  exact first_trimStart text.reverse c last

theorem isPrefix_trimEnd (text : List Char) : trimEnd text <+: text :=
  List.rdropWhile_prefix isBlank text

/-- Trimming takes characters off the two ends and touches nothing between. -/
theorem isInfix_trim (text : List Char) : trim text <:+: text :=
  (isPrefix_trimEnd _).isInfix.trans (List.dropWhile_suffix isBlank).isInfix

theorem isTrimmed_trim (text : List Char) : IsTrimmed (trim text) where
  first c first := by
    obtain ⟨rest, whole⟩ := isPrefix_trimEnd (trimStart text)
    refine first_trimStart text c ?_
    rw [← whole, List.head?_append]
    exact Option.mem_def.2 (Option.or_eq_some_iff.2 (.inl first))
  last := last_trimEnd (trimStart text)

theorem dropWhile_eq_self {text : List Char} (first : ∀ c ∈ text.head?, isBlank c = false) :
    text.dropWhile isBlank = text := by
  cases text with
  | nil => rfl
  | cons c rest => exact List.dropWhile_cons_of_neg (by rw [first c rfl]; exact Bool.false_ne_true)

/-- Trimming leaves a text without blanks at its ends as it is. -/
theorem trim_eq_self {text : List Char} (trimmed : IsTrimmed text) : trim text = text := by
  have start : trimStart text = text := dropWhile_eq_self trimmed.first
  have last : ∀ c ∈ text.reverse.head?, isBlank c = false := by
    rw [List.head?_reverse]
    exact trimmed.last
  rw [trim, start, trimEnd, dropWhile_eq_self last, List.reverse_reverse]

/-! ### Blanks at the ends -/

/-- A text of blanks only. -/
def IsBlankText (text : List Char) : Prop :=
  ∀ c ∈ text, isBlank c

theorem trimStart_append_of_isBlankText {blanks : List Char} (blank : IsBlankText blanks)
    (text : List Char) : trimStart (blanks ++ text) = trimStart text :=
  List.dropWhile_append_of_pos blank

theorem trimEnd_append_of_isBlankText {blanks : List Char} (blank : IsBlankText blanks)
    (text : List Char) : trimEnd (text ++ blanks) = trimEnd text := by
  rw [trimEnd, List.reverse_append, List.dropWhile_append_of_pos, trimEnd]
  exact fun c member => blank c (List.mem_reverse.1 member)

/-- A character that is not blank stops the trimming at the start. -/
theorem trimStart_append_cons {c : Char} (solid : isBlank c = false) (before after : List Char) :
    trimStart (before ++ c :: after) = trimStart before ++ c :: after := by
  rw [trimStart, List.dropWhile_append, List.dropWhile_cons_of_neg (Bool.eq_false_iff.1 solid)]
  split
  · rename_i empty
    rw [trimStart, List.isEmpty_iff.1 empty, List.nil_append]
  · rfl

/-- A character that is not blank stops the trimming at the end. -/
theorem trimEnd_append_cons {c : Char} (solid : isBlank c = false) (before after : List Char) :
    trimEnd (before ++ c :: after) = before ++ c :: trimEnd after := by
  have reversed := trimStart_append_cons solid after.reverse before.reverse
  rw [trimEnd, List.reverse_append, List.reverse_cons, List.append_assoc, List.singleton_append]
  change (trimStart _).reverse = _
  rw [reversed, List.reverse_append, List.reverse_cons, List.reverse_reverse, List.append_assoc,
    List.singleton_append]
  rfl

theorem trim_append_cons {c : Char} (solid : isBlank c = false) (before after : List Char) :
    trim (before ++ c :: after) = trimStart before ++ c :: trimEnd after := by
  rw [trim, trimStart_append_cons solid, trimEnd_append_cons solid]

/-- Trimming takes away nothing but blanks. -/
theorem mem_trim {c : Char} {text : List Char} (solid : isBlank c = false) (member : c ∈ text) :
    c ∈ trim text := by
  obtain ⟨before, after, rfl⟩ := List.append_of_mem member
  rw [trim_append_cons solid]
  exact List.mem_append_right _ List.mem_cons_self

/-- It does not matter at which end trimming starts. -/
theorem trim_eq_trimStart_trimEnd (text : List Char) : trim text = trimStart (trimEnd text) := by
  by_cases blank : IsBlankText text
  · have start := trimStart_append_of_isBlankText blank []
    have last := trimEnd_append_of_isBlankText blank []
    rw [List.append_nil] at start
    rw [List.nil_append] at last
    rw [trim, start, last]
    rfl
  · obtain ⟨c, member, solid⟩ : ∃ c ∈ text, ¬ isBlank c := by simpa [IsBlankText] using blank
    obtain ⟨before, after, rfl⟩ := List.append_of_mem member
    rw [Bool.not_eq_true] at solid
    rw [trim_append_cons solid, trimEnd_append_cons solid, trimStart_append_cons solid]

theorem trim_append_left {blanks : List Char} (blank : IsBlankText blanks) (text : List Char) :
    trim (blanks ++ text) = trim text := by
  rw [trim, trimStart_append_of_isBlankText blank, trim]

theorem trim_append_right {blanks : List Char} (blank : IsBlankText blanks) (text : List Char) :
    trim (text ++ blanks) = trim text := by
  rw [trim_eq_trimStart_trimEnd, trimEnd_append_of_isBlankText blank, trim_eq_trimStart_trimEnd]

theorem exists_trimStart (text : List Char) :
    ∃ before, IsBlankText before ∧ text = before ++ trimStart text :=
  ⟨text.takeWhile isBlank, fun _ => List.mem_takeWhile_imp, List.takeWhile_append_dropWhile.symm⟩

theorem exists_trimEnd (text : List Char) :
    ∃ after, IsBlankText after ∧ text = trimEnd text ++ after := by
  obtain ⟨before, blank, whole⟩ := exists_trimStart text.reverse
  refine ⟨before.reverse, fun c member => blank c (List.mem_reverse.1 member), ?_⟩
  exact List.reverse_injective (whole.trans (by rw [List.reverse_append, trimEnd,
    List.reverse_reverse, List.reverse_reverse]; rfl))

/-- A text is what is left of it between two texts of blanks. -/
theorem exists_trim (text : List Char) :
    ∃ before after, IsBlankText before ∧ IsBlankText after ∧
      text = before ++ (trim text ++ after) := by
  obtain ⟨before, blankBefore, start⟩ := exists_trimStart text
  obtain ⟨after, blankAfter, finish⟩ := exists_trimEnd (trimStart text)
  refine ⟨before, after, blankBefore, blankAfter, ?_⟩
  calc text = before ++ trimStart text := start
    _ = before ++ (trim text ++ after) := congrArg (before ++ ·) finish

end Telemetry.Text
