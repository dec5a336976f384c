/-
This file proves what does not change the lower case form of a text: the case of
its ASCII letters. A comma or a blank divides a text into parts that are put into
lower case one without the other, since such a character is neither cased nor
ignorable for case and so ends the search for the neighbours of a sigma.
-/

import Telemetry.Proofs.Text.Cutting
import Telemetry.Proofs.Text.Trimming
import Telemetry.Text.Lowercase

namespace Telemetry.Text

/-! ### ASCII letters -/

theorem asciiLower_of_not_isAscii {c : Char} (other : ¬isAscii c) : asciiLower c = c := by
  have large : 128 ≤ c.toNat := Nat.not_lt.1 fun small => other (decide_eq_true small)
  rw [asciiLower, if_neg]
  rw [Bool.and_eq_true, decide_eq_true_iff, decide_eq_true_iff]
  rintro ⟨-, last⟩
  have : c.toNat ≤ 90 := UInt32.le_iff_toNat_le.1 last
  omega

/-- A fact about single characters that a letter shares with its capital. -/
theorem apply_asciiLower {Value : Type} (fact : Char → Value)
    (small : ∀ code : Fin 128, fact (asciiLower (Char.ofNat code)) = fact (Char.ofNat code))
    (c : Char) : fact (asciiLower c) = fact c := by
  by_cases ascii : isAscii c
  · exact forall_of_isAscii (fun c => fact (asciiLower c) = fact c) small ascii
  · rw [asciiLower_of_not_isAscii ascii]

theorem isCased_asciiLower (c : Char) : isCased (asciiLower c) = isCased c :=
  apply_asciiLower isCased (by decide) c

theorem isCaseIgnorable_asciiLower (c : Char) :
    isCaseIgnorable (asciiLower c) = isCaseIgnorable c :=
  apply_asciiLower isCaseIgnorable (by decide) c

theorem lowerChar_asciiLower (c : Char) : lowerChar (asciiLower c) = lowerChar c :=
  apply_asciiLower lowerChar (by decide) c

theorem isSigma_asciiLower (c : Char) : ((asciiLower c).toNat == 0x3A3) = (c.toNat == 0x3A3) :=
  apply_asciiLower (fun c => c.toNat == 0x3A3) (by decide) c

theorem startsCased_map_asciiLower (text : List Char) :
    startsCased (text.map asciiLower) = startsCased text := by
  induction text with
  | nil => rfl
  | cons c rest inductionHypothesis =>
    rw [startsCased, List.map_cons, List.dropWhile_cons, isCaseIgnorable_asciiLower, startsCased,
      List.dropWhile_cons]
    cases isCaseIgnorable c
    · exact isCased_asciiLower c
    · exact inductionHypothesis

theorem lowercaseAfter_map_asciiLower (before text : List Char) :
    lowercaseAfter (before.map asciiLower) (text.map asciiLower) = lowercaseAfter before text := by
  induction text generalizing before with
  | nil => rfl
  | cons c rest inductionHypothesis =>
    rw [List.map_cons, lowercaseAfter, lowercaseAfter, isSigma_asciiLower,
      startsCased_map_asciiLower, startsCased_map_asciiLower, lowerChar_asciiLower,
      ← List.map_cons, inductionHypothesis]

/-- Two texts that are the same up to the case of ASCII letters. -/
def SameLetters (first second : List Char) : Prop :=
  first.map asciiLower = second.map asciiLower

/-- The case of ASCII letters does not change the lower case form. -/
theorem lowercase_congr {first second : List Char} (same : SameLetters first second) :
    lowercase first = lowercase second := by
  rw [lowercase, ← lowercaseAfter_map_asciiLower, same, lowercaseAfter_map_asciiLower, lowercase]

/-- A text of ASCII characters without capital letters is in lower case. -/
theorem lowercase_eq_self {text : List Char}
    (small : ∀ c ∈ text, isAscii c ∧ asciiLower c = c) : lowercase text = text := by
  have after (before : List Char) : lowercaseAfter before text = text := by
    induction text generalizing before with
    | nil => rfl
    | cons c rest inductionHypothesis =>
      obtain ⟨⟨ascii, own⟩, others⟩ := List.forall_mem_cons.1 small
      have notSigma : ¬c.toNat == 0x3A3 := by
        have : c.toNat < 128 := of_decide_eq_true ascii
        rw [beq_iff_eq]
        omega
      rw [lowercaseAfter, if_neg notSigma, lowerChar, if_pos ascii, own, inductionHypothesis others]
      rfl
  exact after []

/-! ### Characters that divide a text -/

/-- A character that is neither cased nor ignorable for case, and its own lower case form. -/
def Divides (c : Char) : Prop :=
  isCased c = false ∧ isCaseIgnorable c = false ∧ lowerChar c = [c] ∧ c.toNat ≠ 0x3A3

instance (c : Char) : Decidable (Divides c) :=
  inferInstanceAs (Decidable (_ ∧ _ ∧ _ ∧ _))

theorem divides_comma : Divides ',' := by
  decide

theorem divides_of_isBlank {c : Char} (blank : isBlank c) : Divides c := by
  have known : ∀ range ∈ blankRanges, ∀ code ∈ List.range' range.1 (range.2 + 1 - range.1),
      Divides (Char.ofNat code) := by
    decide +kernel
  obtain ⟨range, member, within⟩ := List.any_eq_true.1 blank
  rw [Bool.and_eq_true, decide_eq_true_iff, decide_eq_true_iff] at within
  rw [← Char.ofNat_toNat c]
  exact known range member c.toNat (List.mem_range'_1.2 ⟨within.1, by omega⟩)

section Divides

variable {c : Char} (divides : Divides c)

include divides

/-- Behind such a character no cased character is found. -/
theorem startsCased_append_cons (first second : List Char) :
    startsCased (first ++ c :: second) = startsCased first := by
  obtain ⟨notCased, notIgnorable, -⟩ := divides
  rw [startsCased, List.dropWhile_append,
    List.dropWhile_cons_of_neg (Bool.eq_false_iff.1 notIgnorable), startsCased]
  cases first.dropWhile isCaseIgnorable with
  | nil => exact notCased
  | cons other rest => rfl

theorem lowercaseAfter_append_cons (inner before text : List Char) :
    lowercaseAfter (inner ++ c :: before) text = lowercaseAfter inner text := by
  induction text generalizing inner with
  | nil => rfl
  | cons other rest inductionHypothesis =>
    rw [lowercaseAfter, lowercaseAfter, startsCased_append_cons divides, ← List.cons_append,
      inductionHypothesis]

/-- The parts on the two sides of such a character are put into lower case on their own. -/
theorem lowercase_append_cons (first second : List Char) :
    lowercase (first ++ c :: second) = lowercase first ++ c :: lowercase second := by
  have after (before : List Char) : lowercaseAfter before (first ++ c :: second) =
      lowercaseAfter before first ++ c :: lowercase second := by
    induction first generalizing before with
    | nil =>
      have own := lowercaseAfter_append_cons divides [] before second
      obtain ⟨-, -, same, notSigma⟩ := divides
      rw [List.nil_append, lowercaseAfter, lowercaseAfter, same, if_neg (by simpa using notSigma)]
      exact congrArg (c :: ·) own
    | cons other rest inductionHypothesis =>
      rw [List.cons_append, lowercaseAfter, lowercaseAfter, startsCased_append_cons divides,
        inductionHypothesis, List.append_assoc]
  exact after []

end Divides

/-! ### Blanks at the ends -/

section Blanks

variable {blanks : List Char} (blank : IsBlankText blanks)

include blank

theorem lowercase_append_left (text : List Char) :
    lowercase (blanks ++ text) = blanks ++ lowercase text := by
  induction blanks with
  | nil => rfl
  | cons c rest inductionHypothesis =>
    obtain ⟨first, others⟩ := List.forall_mem_cons.1 blank
    rw [List.cons_append, ← List.nil_append (c :: _),
      lowercase_append_cons (divides_of_isBlank first), inductionHypothesis others]
    rfl

theorem lowercase_append_right (text : List Char) :
    lowercase (text ++ blanks) = lowercase text ++ blanks := by
  cases blanks with
  | nil => rw [List.append_nil, List.append_nil]
  | cons c rest =>
    obtain ⟨first, others⟩ := List.forall_mem_cons.1 blank
    have same := lowercase_append_left others []
    rw [List.append_nil] at same
    rw [lowercase_append_cons (divides_of_isBlank first), same]
    exact congrArg _ (congrArg _ (List.append_nil rest))

end Blanks

/-! ### Pieces between commas -/

/-- A number that is no code point gives the null character. -/
theorem toNat_ofNat_or (code : Nat) :
    (Char.ofNat code).toNat = code ∨ Char.ofNat code = '\x00' := by
  by_cases valid : code.isValidChar
  · exact .inl (by rw [Char.ofNat, dif_pos valid]; rfl)
  · exact .inr (by rw [Char.ofNat, dif_neg valid]; rfl)

/-- No other character has the comma in its lower case form. -/
theorem eq_comma_of_mem_lowerChar {c : Char} (member : ',' ∈ lowerChar c) : c = ',' := by
  by_cases ascii : isAscii c
  · have known := forall_of_isAscii (fun c => ',' ∈ lowerChar c → c = ',') (by decide) ascii
    exact known member
  · rw [lowerChar, if_neg ascii] at member
    split at member
    · exact absurd member (by decide)
    · split at member
      · rename_i run found
        have above : 44 < run.first + run.distance := by
          have known : ∀ run ∈ lowercaseRuns, 44 < run.first + run.distance := by
            decide +kernel
          exact known run (List.mem_of_find?_eq_some found)
        have held := List.find?_some found
        simp only [CaseRun.holds, Bool.and_eq_true, decide_eq_true_eq] at held
        have same := List.mem_singleton.1 member
        rcases toNat_ofNat_or (c.toNat + run.distance).toNat with code | null
        · rw [← same] at code
          have : (',' : Char).toNat = 44 := rfl
          omega
        · rw [null] at same
          exact absurd same (by decide)
      · exact (List.mem_singleton.1 member).symm

theorem comma_not_mem_lowercase {text : List Char} (free : ',' ∉ text) : ',' ∉ lowercase text := by
  have after (before : List Char) : ',' ∉ lowercaseAfter before text := by
    induction text generalizing before with
    | nil => exact List.not_mem_nil
    | cons c rest inductionHypothesis =>
      obtain ⟨different, freeRest⟩ := not_or.1 (mt List.mem_cons.2 free)
      rw [lowercaseAfter, List.mem_append, not_or]
      refine ⟨?_, inductionHypothesis freeRest _⟩
      split
      · split <;> decide
      · exact fun member => different (eq_comma_of_mem_lowerChar member).symm
  exact after []

theorem lowercase_glue (parts : List (List Char)) :
    lowercase (glue ',' parts) = glue ',' (parts.map lowercase) := by
  induction parts with
  | nil => rfl
  | cons part rest inductionHypothesis =>
    cases rest with
    | nil => rfl
    | cons next more =>
      rw [glue, lowercase_append_cons divides_comma, inductionHypothesis]
      rfl

/-- The pieces of a text between commas are put into lower case one without the other. -/
theorem pieces_lowercase (text : List Char) :
    pieces ',' (lowercase text) = (pieces ',' text).map lowercase := by
  have nonempty : (pieces ',' text).map lowercase ≠ [] :=
    fun empty => pieces_ne_nil ',' text (List.map_eq_nil_iff.1 empty)
  have free : ∀ part ∈ (pieces ',' text).map lowercase, ',' ∉ part := by
    intro part member
    obtain ⟨piece, own, rfl⟩ := List.mem_map.1 member
    exact comma_not_mem_lowercase (separator_notMem_pieces own)
  calc pieces ',' (lowercase text)
      = pieces ',' (lowercase (glue ',' (pieces ',' text))) := by rw [glue_pieces]
    _ = pieces ',' (glue ',' ((pieces ',' text).map lowercase)) := by rw [lowercase_glue]
    _ = (pieces ',' text).map lowercase := by
      rw [pieces_glue nonempty, flatMap_pieces_of_not_mem free]

end Telemetry.Text
