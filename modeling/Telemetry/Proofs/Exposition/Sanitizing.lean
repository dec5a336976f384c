/-
This file proves what sanitizing does to a text. The result is a valid name or
nothing, and sanitizing leaves it as it is. The texts that it leaves as they are
have allowed characters only, do not start with a digit, and start with an
underscore only if a digit follows: the underscore that is dropped there comes
back in front of the digit. Nothing is left exactly if the text has no allowed
character but underscores.
-/

import Mathlib.Data.List.TakeWhile
import Telemetry.Proofs.Exposition.Names

namespace Telemetry.Exposition

open Text

/-! ### Settled texts -/

/-- A text of allowed characters that does not start with a digit, and with an underscore only if a
digit follows. -/
structure IsSettled (allowed : Char → Bool) (text : List Char) : Prop where
  allowed : ∀ c ∈ text, allowed c
  start : ∀ first ∈ text.head?, isAsciiDigit first = false
  underscore : ∀ rest, text = '_' :: rest → ∃ digit ∈ rest.head?, isAsciiDigit digit

section AnyCharacters

variable {allowed : Char → Bool}

/-- A settled text does not start with two underscores. -/
theorem IsSettled.not_two_underscores {text : List Char} (settled : IsSettled allowed text) :
    ¬ ['_', '_'] <+: text := by
  rintro ⟨rest, rfl⟩
  obtain ⟨digit, second, isDigit⟩ := settled.underscore ('_' :: rest) rfl
  cases second
  exact absurd isDigit (by decide)

/-! ### Squeezing -/

theorem squeeze_eq_self {text : List Char} (all : ∀ c ∈ text, allowed c) (within : Bool) :
    squeeze allowed within text = text := by
  induction text generalizing within with
  | nil => rfl
  | cons c rest inductionHypothesis =>
    obtain ⟨first, others⟩ := List.forall_mem_cons.1 all
    rw [squeeze, if_pos first, inductionHypothesis others]

/-- Squeezing keeps the allowed characters and brings in underscores only. -/
theorem mem_squeeze_iff {c : Char} (other : c ≠ '_') (within : Bool) (text : List Char) :
    c ∈ squeeze allowed within text ↔ c ∈ text ∧ allowed c := by
  induction text generalizing within with
  | nil => simp [squeeze]
  | cons head rest inductionHypothesis =>
    unfold squeeze
    split
    · rename_i headAllowed
      rw [List.mem_cons, List.mem_cons, inductionHypothesis, or_and_right]
      exact or_congr_left (iff_self_and.2 fun same => same ▸ headAllowed)
    · rename_i notAllowed
      have skipped : c ∈ head :: rest ∧ allowed c ↔ c ∈ rest ∧ allowed c := by
        rw [List.mem_cons, or_and_right]
        exact or_iff_right fun both => notAllowed (both.1 ▸ both.2)
      split
      · rw [inductionHypothesis, skipped]
      · rw [List.mem_cons, inductionHypothesis, skipped]
        exact or_iff_right other

/-! ### Sanitizing once -/

theorem guardDigit_eq_nil_iff {text : List Char} : guardDigit text = [] ↔ text = [] := by
  cases text with
  | nil => exact Iff.rfl
  | cons first rest =>
    rw [guardDigit]
    split <;> simp

/-- An underscore in front of a digit settles a text that does not start with an underscore. -/
theorem isSettled_guardDigit (underscore : allowed '_') {text : List Char}
    (all : ∀ c ∈ text, allowed c) (start : ∀ first ∈ text.head?, first ≠ '_') :
    IsSettled allowed (guardDigit text) := by
  cases text with
  | nil => exact ⟨nofun, nofun, nofun⟩
  | cons first rest =>
    rw [guardDigit]
    split
    · rename_i digit
      refine ⟨List.forall_mem_cons.2 ⟨underscore, all⟩, ?_, ?_⟩
      · rintro _ ⟨⟩
        decide
      · rintro _ ⟨⟩
        exact ⟨first, rfl, digit⟩
    · rename_i notDigit
      refine ⟨all, ?_, ?_⟩
      · rintro _ ⟨⟩
        exact Bool.eq_false_iff.2 notDigit
      · rintro _ ⟨⟩
        exact absurd rfl (start '_' rfl)

theorem isSettled_sanitize (underscore : allowed '_') (text : List Char) :
    IsSettled allowed (sanitize allowed text) := by
  refine isSettled_guardDigit underscore (fun c member => ?_) fun first head => ?_
  · exact allowed_of_mem_squeeze underscore ((List.dropWhile_sublist _).mem member)
  · have stopped := List.head?_dropWhile_not (· = '_') (squeeze allowed false text)
    rw [Option.mem_def.1 head] at stopped
    exact of_decide_eq_false stopped

theorem sanitize_of_isSettled {text : List Char} (settled : IsSettled allowed text) :
    sanitize allowed text = text := by
  rw [sanitize, squeeze_eq_self settled.allowed]
  cases text with
  | nil => rfl
  | cons first rest =>
    by_cases underscore : first = '_'
    · -- it is dropped and comes back in front of the digit
      subst underscore
      obtain ⟨digit, second, isDigit⟩ := settled.underscore rest rfl
      obtain ⟨more, rfl⟩ := List.head?_eq_some_iff.1 second
      have other : digit ≠ '_' := by
        rintro rfl
        exact absurd isDigit (by decide)
      show guardDigit ((digit :: more).dropWhile (· = '_')) = _
      rw [List.dropWhile_cons_of_neg (by simpa using other), guardDigit, if_pos isDigit]
    · have notDigit := settled.start first rfl
      rw [List.dropWhile_cons_of_neg (by simpa using underscore), guardDigit,
        if_neg (Bool.eq_false_iff.1 notDigit)]

theorem sanitize_eq_self_iff (underscore : allowed '_') {text : List Char} :
    sanitize allowed text = text ↔ IsSettled allowed text :=
  ⟨fun same => same ▸ isSettled_sanitize underscore text, sanitize_of_isSettled⟩

theorem sanitize_sanitize (underscore : allowed '_') (text : List Char) :
    sanitize allowed (sanitize allowed text) = sanitize allowed text :=
  sanitize_of_isSettled (isSettled_sanitize underscore text)

theorem sanitize_eq_nil_iff {text : List Char} :
    sanitize allowed text = [] ↔ ∀ c ∈ text, allowed c → c = '_' := by
  rw [sanitize, guardDigit_eq_nil_iff, List.dropWhile_eq_nil_iff]
  constructor
  · intro only c member isAllowed
    by_contra other
    exact other (of_decide_eq_true (only c ((mem_squeeze_iff other false text).2
      ⟨member, isAllowed⟩)))
  · intro only c member
    by_contra other
    have other : c ≠ '_' := fun same => other (decide_eq_true same)
    obtain ⟨inText, isAllowed⟩ := (mem_squeeze_iff other false text).1 member
    exact other (only c inText isAllowed)

end AnyCharacters

/-! ### Names of metrics and of labels -/

/-- What is made of a text by a function that is to give valid names of allowed characters: such a
name without two underscores at its start, or nothing. A second application changes nothing more,
the first one changes nothing if the text is settled, and nothing is left if the text has no allowed
character but underscores. -/
structure Sanitizes (IsValid : String → Prop) (allowed : Char → Bool) (name : String → String)
    (text : String) : Prop where
  valid : name text = "" ∨ IsValid (name text)
  single : ¬ ['_', '_'] <+: (name text).toList
  again : name (name text) = name text
  fixed : name text = text ↔ IsSettled allowed text.toList
  empty : name text = "" ↔ ∀ c ∈ text.toList, allowed c → c = '_'

/-- Sanitizing by characters sanitizes, if an underscore is allowed and what is left is valid. -/
theorem sanitizes_ofList {IsValid : String → Prop} {allowed : Char → Bool} {name : String → String}
    (sanitized : ∀ text, name text = String.ofList (sanitize allowed text.toList))
    (underscore : allowed '_') (valid : ∀ {text}, name text ≠ "" → IsValid (name text))
    (text : String) : Sanitizes IsValid allowed name text where
  valid := or_iff_not_imp_left.2 valid
  single := by
    rw [sanitized, String.toList_ofList]
    exact (isSettled_sanitize underscore _).not_two_underscores
  again := by
    rw [sanitized, sanitized, String.toList_ofList, sanitize_sanitize underscore]
  fixed := by
    rw [sanitized, ← sanitize_eq_self_iff underscore, ← String.toList_inj, String.toList_ofList]
  empty := by
    rw [sanitized, ← sanitize_eq_nil_iff, ← String.toList_inj, String.toList_ofList]
    rfl

/-- Sanitizing gives a valid name that it leaves as it is, or nothing, for every text, and for the
names of metrics as for those of labels. -/
theorem sanitized_names_are_settled (text : String) :
    Sanitizes IsMetricName isMetricChar metricName text ∧
      Sanitizes IsLabelName isLabelChar labelName text :=
  ⟨sanitizes_ofList (fun _ => rfl) rfl isMetricName_metricName text,
    sanitizes_ofList (fun _ => rfl) rfl isLabelName_labelName text⟩

example : metricName "__5xx.count" = "_5xx_count" := by decide

end Telemetry.Exposition
