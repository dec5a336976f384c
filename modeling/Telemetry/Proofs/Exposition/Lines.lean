/-
This file proves that the lines of an exposition say what they were written for.
Escaped texts read back as the texts that they stand for and hold no line break,
whatever characters there are in them. So a line that shows a number is read as
the same name, labels and text of the number, and no label value adds a line,
ends one, or changes what another part of it says.
-/

import Telemetry.Exposition.Reading
import Telemetry.Proofs.Decimal.Digits
import Telemetry.Proofs.Exposition.Names
import Telemetry.Proofs.Text.Cutting

namespace Telemetry.Exposition

open Text

/-! ### Escaped text -/

theorem readHelp_escape (c : Char) (rest : List Char) :
    readHelp (escapeHelpChar c ++ rest) = (readHelp rest).map (c :: ·) := by
  unfold escapeHelpChar
  by_cases backslash : c = '\x5c'
  · subst backslash
    rfl
  · rw [if_neg backslash]
    by_cases lineBreak : c = '\n'
    · subst lineBreak
      rfl
    · rw [if_neg lineBreak, List.singleton_append, readHelp, if_neg backslash]
      all_goals simp_all

/-- An escaped help text reads back as the text. -/
theorem readHelp_flatMap (text : List Char) :
    readHelp (text.flatMap escapeHelpChar) = some text := by
  induction text with
  | nil => rfl
  | cons c rest inductionHypothesis =>
    rw [List.flatMap_cons, readHelp_escape, inductionHypothesis, Option.map_some]

theorem readQuoted_escape (c : Char) (rest : List Char) :
    readQuoted (escapeLabelChar c ++ rest) =
      (readQuoted rest).map fun read => (c :: read.1, read.2) := by
  unfold escapeLabelChar escapeHelpChar
  by_cases quote : c = '\x22'
  · subst quote
    rfl
  · rw [if_neg quote]
    by_cases backslash : c = '\x5c'
    · subst backslash
      rfl
    · rw [if_neg backslash]
      by_cases lineBreak : c = '\n'
      · subst lineBreak
        rfl
      · rw [if_neg lineBreak, List.singleton_append, readQuoted, if_neg backslash]
        all_goals simp_all

/-- An escaped label value reads back up to the quote behind it. -/
theorem readQuoted_flatMap (text rest : List Char) :
    readQuoted (text.flatMap escapeLabelChar ++ '\x22' :: rest) = some (text, rest) := by
  induction text with
  | nil => rfl
  | cons c more inductionHypothesis =>
    rw [List.flatMap_cons, List.append_assoc, readQuoted_escape, inductionHypothesis,
      Option.map_some]

theorem newline_not_mem_escapeHelpChar (c : Char) : '\n' ∉ escapeHelpChar c := by
  unfold escapeHelpChar
  split
  · decide
  · split
    · decide
    · rw [List.mem_singleton]
      exact Ne.symm ‹_›

theorem newline_not_mem_escapeLabelChar (c : Char) : '\n' ∉ escapeLabelChar c := by
  unfold escapeLabelChar
  split
  · decide
  · exact newline_not_mem_escapeHelpChar c

theorem newline_not_mem_flatMap {escape : Char → List Char} (free : ∀ c, '\n' ∉ escape c)
    (text : List Char) : '\n' ∉ text.flatMap escape := by
  intro member
  obtain ⟨c, _, own⟩ := List.mem_flatMap.1 member
  exact free c own

/-! ### Characters of names -/

theorem IsLabelName.not_mem {name : String} (valid : IsLabelName name) {c : Char}
    (other : isLabelChar c = false) : c ∉ name.toList := by
  intro member
  have part := valid.all_part isLabelChar_of_isLabelStart member
  rw [other] at part
  cases part

theorem IsMetricName.not_mem {name : String} (valid : IsMetricName name) {c : Char}
    (other : isMetricChar c = false) : c ∉ name.toList := by
  intro member
  have part := valid.all_part isMetricChar_of_isMetricStart member
  rw [other] at part
  cases part

/-- A name ends where a character follows that no name holds. -/
theorem IsMetricName.span {name : String} (valid : IsMetricName name) {c : Char}
    (other : isMetricChar c = false) (rest : List Char) :
    (name.toList ++ c :: rest).takeWhile isMetricChar = name.toList ∧
      (name.toList ++ c :: rest).dropWhile isMetricChar = c :: rest := by
  have all (part : Char) (member : part ∈ name.toList) : isMetricChar part :=
    valid.all_part isMetricChar_of_isMetricStart member
  rw [List.takeWhile_append_of_pos all, List.dropWhile_append_of_pos all,
    List.takeWhile_cons_of_neg (by simp [other]), List.dropWhile_cons_of_neg (by simp [other]),
    List.append_nil]
  exact ⟨rfl, rfl⟩

/-! ### Derived names -/

theorem ne_append_of_ne_empty (name : String) {suffix : String} (nonempty : suffix ≠ "") :
    name ≠ name ++ suffix := by
  intro same
  have := congrArg String.toList same
  simp at this
  exact nonempty this

theorem ne_sumName (name : String) : name ≠ sumName name :=
  ne_append_of_ne_empty name (by decide)

theorem ne_countName (name : String) : name ≠ countName name :=
  ne_append_of_ne_empty name (by decide)

theorem sumName_injective {first second : String} (same : sumName first = sumName second) :
    first = second :=
  (String.append_left_inj _).1 same

theorem countName_injective {first second : String} (same : countName first = countName second) :
    first = second :=
  (String.append_left_inj _).1 same

/-- No name is derived both for a sum and for a count: they end differently. -/
theorem sumName_ne_countName (first second : String) : sumName first ≠ countName second := by
  intro same
  have last := congrArg (fun name => name.toList.getLast?) same
  simp [sumName, countName] at last

/-! ### Labels -/

/-- A written label reads back, with what follows it. -/
theorem readLabel_writeLabel {label : String × String} (valid : IsLabelName label.1)
    (rest : List Char) : readLabel (writeLabel label ++ rest) = some (label, rest) := by
  have separated := cut_append (valid.not_mem (by decide : isLabelChar '=' = false))
    ('\x22' :: (label.2.toList.flatMap escapeLabelChar ++ '\x22' :: rest))
  have shape : writeLabel label ++ rest = label.1.toList ++
      '=' :: '\x22' :: (label.2.toList.flatMap escapeLabelChar ++ '\x22' :: rest) := by
    simp [writeLabel]
  rw [readLabel, shape, separated]
  simp only [readQuoted_flatMap, Option.map_some, String.ofList_toList]

theorem readLabels_of_last {text rest : List Char} {label : String × String}
    (read : readLabel text = some (label, '\x7d' :: rest)) :
    readLabels text = some ([label], rest) := by
  rw [readLabels]
  split <;> simp_all

theorem readLabels_of_comma {text rest : List Char} {label : String × String}
    (read : readLabel text = some (label, ',' :: rest)) :
    readLabels text = (readLabels rest).map fun read => (label :: read.1, read.2) := by
  rw [readLabels]
  split <;> simp_all

/-- Written labels read back up to the brace behind them. -/
theorem readLabels_glue {label : String × String} {more : Labels}
    (valid : ∀ one ∈ label :: more, IsLabelName one.1) (rest : List Char) :
    readLabels (glue ',' ((label :: more).map writeLabel) ++ '\x7d' :: rest) =
      some (label :: more, rest) := by
  have first := valid label List.mem_cons_self
  induction more generalizing label with
  | nil => exact readLabels_of_last (readLabel_writeLabel first _)
  | cons next further inductionHypothesis =>
    have others (one : String × String) (member : one ∈ next :: further) : IsLabelName one.1 :=
      valid one (List.mem_cons_of_mem _ member)
    have shape : glue ',' ((label :: next :: further).map writeLabel) ++ '\x7d' :: rest =
        writeLabel label ++
          ',' :: (glue ',' ((next :: further).map writeLabel) ++ '\x7d' :: rest) := by
      simp [glue]
    rw [shape, readLabels_of_comma (readLabel_writeLabel first _),
      inductionHypothesis others (others next List.mem_cons_self), Option.map_some]

/-! ### Lines that show numbers -/

/-- A line with valid names and a number without a line break. -/
structure SampleLine.Valid (line : SampleLine) : Prop where
  name : IsMetricName line.name
  labels : ∀ label ∈ line.labels, IsLabelName label.1
  value : '\n' ∉ line.value

/-- A written line reads back. -/
theorem readSampleLine_written {line : SampleLine} (valid : line.Valid) :
    readSampleLine line.written = some line := by
  obtain ⟨name, labels, value⟩ := line
  cases labels with
  | nil =>
    obtain ⟨front, back⟩ := valid.name.span (by decide : isMetricChar ' ' = false) value
    have shape : SampleLine.written ⟨name, [], value⟩ = name.toList ++ ' ' :: value := by
      simp [SampleLine.written, writeLabels]
    rw [shape, readSampleLine, front, back]
    simp only [String.ofList_toList]
  | cons label more =>
    have shape : SampleLine.written ⟨name, label :: more, value⟩ = name.toList ++
        '\x7b' :: (glue ',' ((label :: more).map writeLabel) ++ '\x7d' :: ' ' :: value) := by
      simp [SampleLine.written, writeLabels]
    obtain ⟨front, back⟩ := valid.name.span (by decide : isMetricChar '\x7b' = false)
      (glue ',' ((label :: more).map writeLabel) ++ '\x7d' :: ' ' :: value)
    rw [shape, readSampleLine, front, back]
    simp only [readLabels_glue valid.labels, String.ofList_toList]

theorem newline_not_mem_glue {parts : List (List Char)} (free : ∀ part ∈ parts, '\n' ∉ part) :
    '\n' ∉ glue ',' parts := by
  induction parts with
  | nil => exact List.not_mem_nil
  | cons part rest inductionHypothesis =>
    have first := free part List.mem_cons_self
    cases rest with
    | nil => exact first
    | cons next more =>
      have later := inductionHypothesis fun other member =>
        free other (List.mem_cons_of_mem _ member)
      simp [glue, first, later]

/-- No label value ends a line. -/
theorem newline_not_mem_written {line : SampleLine} (valid : line.Valid) :
    '\n' ∉ line.written := by
  have label {label : String × String} (member : label ∈ line.labels) :
      '\n' ∉ writeLabel label := by
    have name := (valid.labels label member).not_mem (by decide : isLabelChar '\n' = false)
    have value := newline_not_mem_flatMap newline_not_mem_escapeLabelChar label.2.toList
    simp [writeLabel, name, value]
  have labels : '\n' ∉ writeLabels line.labels := by
    unfold writeLabels
    split
    · exact List.not_mem_nil
    · have parts : '\n' ∉ glue ',' (line.labels.map writeLabel) := by
        refine newline_not_mem_glue fun part member => ?_
        obtain ⟨one, oneIn, rfl⟩ := List.mem_map.1 member
        exact label oneIn
      simp [parts]
  have name := valid.name.not_mem (by decide : isMetricChar '\n' = false)
  simp [SampleLine.written, name, labels, valid.value]

/-- A line that shows a number does not begin a family. -/
theorem isMarked_written {line : SampleLine} (valid : line.Valid) :
    isMarked line.written = false := by
  obtain ⟨first, rest, shape, start, _⟩ := valid.name
  have different : first ≠ '#' := by
    rintro rfl
    exact absurd start (by decide)
  simp [isMarked, SampleLine.written, shape, different]

/-! ### Lines that begin a family -/

theorem isPrefixOf?_append (mark rest : List Char) :
    mark.isPrefixOf? (mark ++ rest) = some rest := by
  induction mark with
  | nil => cases rest <;> rfl
  | cons c more inductionHypothesis =>
    show (if c == c then more.isPrefixOf? (more ++ rest) else none) = some rest
    rw [if_pos (beq_self_eq_true c)]
    exact inductionHypothesis

/-- The name and the text of a marked line read back. -/
theorem readMarked_append (mark : String) {name : String} (valid : IsMetricName name)
    (text : List Char) :
    readMarked mark (mark.toList ++ name.toList ++ ' ' :: text) = some (name, text) := by
  have separated := cut_append (valid.not_mem (by decide : isMetricChar ' ' = false)) text
  simp only [readMarked, List.append_assoc, isPrefixOf?_append, separated, Option.bind_eq_bind,
    Option.bind_some, String.ofList_toList]

theorem ofWord?_word (type : FamilyType) : FamilyType.ofWord? type.word.toList = some type := by
  cases type <;> decide

end Telemetry.Exposition
