/-
This file says which names an exposition may use and proves that sanitizing
gives such a name or nothing. A name of a metric starts with a letter, an
underscore or a colon and goes on with these and digits; in a name of a label
there is no colon.
-/

import Telemetry.Exposition.Sanitize

namespace Telemetry.Exposition

open Text

/-! ### Valid names -/

/-- The characters with which the name of a label starts. -/
def isLabelStart (c : Char) : Bool :=
  isAsciiLetter c || c = '_'

/-- The characters with which the name of a metric starts. -/
def isMetricStart (c : Char) : Bool :=
  isLabelStart c || c = ':'

/-- A text that starts with a character of the one class and goes on with characters of the
other. -/
def IsName (start part : Char → Bool) (text : List Char) : Prop :=
  ∃ first rest, text = first :: rest ∧ start first ∧ ∀ c ∈ rest, part c

instance (start part : Char → Bool) (text : List Char) : Decidable (IsName start part text) :=
  match text with
  | [] => isFalse fun ⟨_, _, shape, _⟩ => nomatch shape
  | first :: rest =>
    decidable_of_iff (start first ∧ rest.all part)
      ⟨fun both => ⟨first, rest, rfl, both.1, List.all_eq_true.1 both.2⟩,
        fun ⟨_, _, shape, starts, parts⟩ => by
          cases shape
          exact ⟨starts, List.all_eq_true.2 parts⟩⟩

/-- A text that may be the name of a metric: `[a-zA-Z_:][a-zA-Z0-9_:]*`. -/
def IsMetricName (name : String) : Prop :=
  IsName isMetricStart isMetricChar name.toList

instance (name : String) : Decidable (IsMetricName name) :=
  inferInstanceAs (Decidable (IsName _ _ _))

/-- A text that may be the name of a label: `[a-zA-Z_][a-zA-Z0-9_]*`. -/
def IsLabelName (name : String) : Prop :=
  IsName isLabelStart isLabelChar name.toList

instance (name : String) : Decidable (IsLabelName name) :=
  inferInstanceAs (Decidable (IsName _ _ _))

namespace IsName

variable {start part : Char → Bool} {text : List Char}

theorem append (name : IsName start part text) {more : List Char} (all : ∀ c ∈ more, part c) :
    IsName start part (text ++ more) := by
  obtain ⟨first, rest, rfl, starts, parts⟩ := name
  refine ⟨first, rest ++ more, rfl, starts, fun c member => ?_⟩
  rcases List.mem_append.1 member with old | new
  · exact parts c old
  · exact all c new

/-- If whatever starts a name may also be a part of it, all characters of a name are parts. -/
theorem all_part (name : IsName start part text) (stronger : ∀ c, start c → part c) {c : Char}
    (member : c ∈ text) : part c := by
  obtain ⟨first, rest, rfl, starts, parts⟩ := name
  rcases List.mem_cons.1 member with rfl | later
  · exact stronger c starts
  · exact parts c later

end IsName

theorem isLabelChar_of_isLabelStart (c : Char) (start : isLabelStart c) : isLabelChar c := by
  simp only [isLabelStart, isLabelChar, isAsciiAlphanumeric, Bool.or_eq_true] at start ⊢
  exact start.imp_left .inl

theorem isMetricChar_of_isMetricStart (c : Char) (start : isMetricStart c) : isMetricChar c := by
  simp only [isMetricStart, isMetricChar, Bool.or_eq_true] at start ⊢
  exact start.imp_left (isLabelChar_of_isLabelStart c)

theorem IsMetricName.append {name suffix : String} (valid : IsMetricName name)
    (parts : suffix.toList.all isMetricChar) : IsMetricName (name ++ suffix) := by
  rw [IsMetricName, String.toList_append]
  exact IsName.append valid (List.all_eq_true.1 parts)

/-! ### Sanitizing -/

section Sanitizing

variable {allowed : Char → Bool}

theorem allowed_of_mem_squeeze (underscore : allowed '_') {within : Bool} {text : List Char}
    {c : Char} (member : c ∈ squeeze allowed within text) : allowed c := by
  induction text generalizing within with
  | nil => cases member
  | cons head rest inductionHypothesis =>
    unfold squeeze at member
    split at member
    · rename_i headAllowed
      rcases List.mem_cons.1 member with rfl | later
      · exact headAllowed
      · exact inductionHypothesis later
    · split at member
      · exact inductionHypothesis member
      · rcases List.mem_cons.1 member with rfl | later
        · exact underscore
        · exact inductionHypothesis later

/-- A sanitized text is empty or a name, if an underscore and every allowed character but a digit
may start a name. -/
theorem isName_sanitize {start : Char → Bool} (underscore : allowed '_')
    (startUnderscore : start '_')
    (others : ∀ c, allowed c → isAsciiDigit c = false → start c) (text : List Char)
    (nonempty : sanitize allowed text ≠ []) : IsName start allowed (sanitize allowed text) := by
  unfold sanitize at nonempty ⊢
  have parts (c : Char) (member : c ∈ (squeeze allowed false text).dropWhile (· = '_')) :
      allowed c :=
    allowed_of_mem_squeeze underscore ((List.dropWhile_sublist _).mem member)
  cases kept : (squeeze allowed false text).dropWhile (· = '_') with
  | nil =>
    rw [kept] at nonempty
    exact absurd rfl nonempty
  | cons first rest =>
    rw [kept] at parts
    simp only [guardDigit]
    split
    · exact ⟨'_', first :: rest, rfl, startUnderscore, parts⟩
    · rename_i notDigit
      exact ⟨first, rest, rfl,
        others first (parts first List.mem_cons_self) (Bool.eq_false_iff.2 notDigit),
        fun c member => parts c (List.mem_cons_of_mem _ member)⟩

end Sanitizing

theorem isLabelStart_of_isLabelChar (c : Char) (part : isLabelChar c)
    (notDigit : isAsciiDigit c = false) : isLabelStart c := by
  simpa only [isLabelChar, isLabelStart, isAsciiAlphanumeric, notDigit, Bool.or_false] using part

theorem isMetricStart_of_isMetricChar (c : Char) (part : isMetricChar c)
    (notDigit : isAsciiDigit c = false) : isMetricStart c := by
  simp only [isMetricChar, isMetricStart, Bool.or_eq_true] at part ⊢
  exact part.imp_left fun label => isLabelStart_of_isLabelChar c label notDigit

theorem isMetricName_metricName {text : String} (nonempty : metricName text ≠ "") :
    IsMetricName (metricName text) := by
  unfold IsMetricName metricName at *
  rw [String.toList_ofList]
  refine isName_sanitize rfl rfl isMetricStart_of_isMetricChar _ fun empty => nonempty ?_
  rw [empty]

theorem isLabelName_labelName {text : String} (nonempty : labelName text ≠ "") :
    IsLabelName (labelName text) := by
  unfold IsLabelName labelName at *
  rw [String.toList_ofList]
  refine isName_sanitize rfl rfl isLabelStart_of_isLabelChar _ fun empty => nonempty ?_
  rw [empty]

end Telemetry.Exposition
