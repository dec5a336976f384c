/-
This file proves that an exposition is unambiguous: the text of families reads
back as the same families, whatever characters there are in their help texts and
label values, as long as the numbers in them can be read back from their texts.
Every sample takes one line of the text, which nothing but its own line break
ends.
-/

import Telemetry.Proofs.Exposition.Conservation
import Telemetry.Proofs.Exposition.Lines

namespace Telemetry.Exposition

open Text

/-- If each item of a list reads back from what is written for it, so do all together. -/
theorem mapM_map_eq_some {Item Written : Type} {write : Item → Written}
    {read : Written → Option Item} {items : List Item}
    (each : ∀ item ∈ items, read (write item) = some item) :
    (items.map write).mapM read = some items := by
  induction items with
  | nil => rfl
  | cons item rest inductionHypothesis =>
    have later := inductionHypothesis fun other member => each other (List.mem_cons_of_mem _ member)
    simp [each item List.mem_cons_self, later]

/-! ### The lines of a family -/

theorem newline_not_mem_writeNumber (value : Float) : '\n' ∉ writeNumber value := by
  intro member
  rcases Decimal.NumberStyle.mem_write member with part | own
  · exact absurd part (by decide)
  · exact absurd own (by decide)

theorem newline_not_mem_digits (value : Nat) : '\n' ∉ Decimal.digits value :=
  fun member => absurd (Decimal.isAsciiDigit_of_mem_digits member) (by decide)

theorem isLabelName_quantileLabel : IsLabelName quantileLabel := by
  decide

namespace Family.Writable

variable {family : Family}

/-- All lines of a family that show numbers are valid. -/
theorem valid_of_mem_sampleLines (writable : family.Writable) {line : SampleLine}
    (member : line ∈ family.sampleLines) : line.Valid := by
  obtain ⟨series, seriesIn, shown⟩ := List.mem_flatMap.1 member
  have labels := writable.labels series seriesIn
  have derived {suffix : String} (parts : suffix.toList.all isMetricChar) :
      IsMetricName (family.name ++ suffix) := writable.name.append parts
  obtain ⟨own, value⟩ := series
  cases value with
  | single value =>
    rw [List.mem_singleton.1 shown]
    exact ⟨writable.name, labels, newline_not_mem_writeNumber value⟩
  | summary quantiles sum count =>
    rcases List.mem_append.1 shown with quantile | last
    · obtain ⟨item, _, rfl⟩ := List.mem_map.1 quantile
      refine ⟨writable.name, fun label labelIn => ?_, newline_not_mem_writeNumber item.2⟩
      rcases List.mem_append.1 labelIn with old | new
      · exact labels label old
      · rw [List.mem_singleton.1 new]
        exact isLabelName_quantileLabel
    · simp only [List.mem_cons, List.not_mem_nil, or_false] at last
      rcases last with rfl | rfl
      · exact ⟨derived (by decide), labels, newline_not_mem_writeNumber sum⟩
      · exact ⟨derived (by decide), labels, newline_not_mem_digits count⟩

/-- No line of a family holds a line break. -/
theorem newline_not_mem_lines (writable : family.Writable) {line : List Char}
    (member : line ∈ family.lines) : '\n' ∉ line := by
  have name := writable.name.not_mem (by decide : isMetricChar '\n' = false)
  simp only [lines, List.mem_cons] at member
  rcases member with rfl | rfl | shown
  · have mark : '\n' ∉ helpMark.toList := by decide
    have help := newline_not_mem_flatMap newline_not_mem_escapeHelpChar family.help.toList
    simp [helpLine, mark, name, help]
  · have mark : '\n' ∉ typeMark.toList := by decide
    have word : '\n' ∉ family.type.word.toList := by
      cases family.type <;> decide
    simp [typeLine, mark, name, word]
  · obtain ⟨sample, sampleIn, rfl⟩ := List.mem_map.1 shown
    exact newline_not_mem_written (writable.valid_of_mem_sampleLines sampleIn)

/-- The lines of a family that show numbers read back. -/
theorem mapM_readSampleLine (writable : family.Writable) :
    (family.sampleLines.map SampleLine.written).mapM readSampleLine = some family.sampleLines :=
  mapM_map_eq_some fun _ member => readSampleLine_written (writable.valid_of_mem_sampleLines member)

end Family.Writable

/-! ### Series -/

/-- The numbers of a value that are written as floating point numbers. -/
def SeriesValue.numbers : SeriesValue → List Float
  | .single value => [value]
  | .summary quantiles sum _ => sum :: quantiles.flatMap fun item => [item.1, item.2]

/-- The numbers of a family can be read back from their texts. -/
def Family.Readable (family : Family) : Prop :=
  ∀ series ∈ family.series, ∀ value ∈ series.value.numbers,
    readNumber (writeNumber value) = some value

theorem readCount_digits (count : Nat) : readCount (Decimal.digits count) = some count := by
  have nonempty : (Decimal.digits count).isEmpty = false :=
    List.isEmpty_eq_false_iff.2 (Decimal.digits_ne_nil count)
  have all : (Decimal.digits count).all isAsciiDigit :=
    List.all_eq_true.2 fun _ member => Decimal.isAsciiDigit_of_mem_digits member
  simp [readCount, nonempty, all, Decimal.numberOfDigits_digits]

theorem readQuantile_quantileLine {item : Float × Float} (family : String) (labels : Labels)
    (quantile : readNumber (writeNumber item.1) = some item.1)
    (value : readNumber (writeNumber item.2) = some item.2) :
    readQuantile labels (quantileLine family labels item) = some item := by
  simp [readQuantile, quantileLine, quantile, value]

/-- A line under the name of the family waits for those behind it. -/
theorem readSummaries_waiting {family : String} {line : SampleLine} (own : line.name = family)
    (waiting : List SampleLine) {rest : List SampleLine} (more : rest ≠ []) :
    readSummaries family waiting (line :: rest) =
      readSummaries family (waiting ++ [line]) rest := by
  cases rest with
  | nil => exact absurd rfl more
  | cons next rest => rw [readSummaries, if_pos own]

theorem readSummaries_quantiles (family : String) (labels : Labels)
    (quantiles : List (Float × Float)) (waiting : List SampleLine) {rest : List SampleLine}
    (more : rest ≠ []) :
    readSummaries family waiting (quantiles.map (quantileLine family labels) ++ rest) =
      readSummaries family (waiting ++ quantiles.map (quantileLine family labels)) rest := by
  induction quantiles generalizing waiting with
  | nil => simp
  | cons item others inductionHypothesis =>
    have own : (quantileLine family labels item).name = family := rfl
    rw [List.map_cons, List.cons_append,
      readSummaries_waiting own waiting (List.append_ne_nil_of_right_ne_nil _ more),
      inductionHypothesis, List.append_assoc, List.singleton_append]

/-- The lines of summaries read back as the summaries. -/
theorem readSummaries_sampleLines (family : String) {series : List Series}
    (summaries : ∀ one ∈ series, one.value.isSummary)
    (readable : ∀ one ∈ series, ∀ value ∈ one.value.numbers,
      readNumber (writeNumber value) = some value) :
    readSummaries family [] (series.flatMap (Series.sampleLines family)) = some series := by
  induction series with
  | nil => rfl
  | cons one rest inductionHypothesis =>
    have others := inductionHypothesis
      (fun other member => summaries other (List.mem_cons_of_mem _ member))
      (fun other member => readable other (List.mem_cons_of_mem _ member))
    have isSummary := summaries one List.mem_cons_self
    have numbers := readable one List.mem_cons_self
    obtain ⟨labels, value⟩ := one
    cases value with
    | single value => cases isSummary
    | summary quantiles sum count =>
      have quantile : (quantiles.map (quantileLine family labels)).mapM (readQuantile labels) =
          some quantiles := by
        refine mapM_map_eq_some fun item member => ?_
        have mem (value : Float) (own : value ∈ [item.1, item.2]) :
            value ∈ (SeriesValue.summary quantiles sum count).numbers :=
          List.mem_cons_of_mem _ (List.mem_flatMap.2 ⟨item, member, own⟩)
        exact readQuantile_quantileLine family labels
          (numbers item.1 (mem item.1 (by simp))) (numbers item.2 (mem item.2 (by simp)))
      have sumRead := numbers sum List.mem_cons_self
      rw [List.flatMap_cons, Series.sampleLines, List.append_assoc,
        readSummaries_quantiles _ _ _ _ (by simp), List.nil_append]
      simp only [List.cons_append, List.nil_append, readSummaries,
        if_neg (Ne.symm (ne_sumName family)), true_and, if_true, quantile, sumRead, others,
        readCount_digits, Option.bind_eq_bind, Option.bind_some]

/-- The lines of single numbers read back. -/
theorem readSingles_sampleLines (family : String) {series : List Series}
    (singles : ∀ one ∈ series, one.value.isSummary = false)
    (readable : ∀ one ∈ series, ∀ value ∈ one.value.numbers,
      readNumber (writeNumber value) = some value) :
    readSingles family (series.flatMap (Series.sampleLines family)) = some series := by
  induction series with
  | nil => rfl
  | cons one rest inductionHypothesis =>
    have others := inductionHypothesis
      (fun other member => singles other (List.mem_cons_of_mem _ member))
      (fun other member => readable other (List.mem_cons_of_mem _ member))
    have single := singles one List.mem_cons_self
    have numbers := readable one List.mem_cons_self
    obtain ⟨labels, value⟩ := one
    cases value with
    | summary quantiles sum count => cases single
    | single value =>
      have valueRead := numbers value List.mem_cons_self
      simp only [List.flatMap_cons, Series.sampleLines, List.cons_append, List.nil_append,
        readSingles, if_true, valueRead, others, Option.bind_eq_bind, Option.bind_some]

/-- The lines of a family that show numbers read back as its series. -/
theorem Family.Writable.readSeries_sampleLines {family : Family} (writable : family.Writable)
    (readable : family.Readable) :
    readSeries family.name family.type family.sampleLines = some family.series := by
  have single (different : family.type ≠ .summary) :
      readSingles family.name family.sampleLines = some family.series := by
    refine readSingles_sampleLines family.name (fun one member => ?_) readable
    rw [Bool.eq_false_iff]
    exact fun summary => different ((writable.value one member).1 summary)
  cases type : family.type with
  | summary =>
    exact readSummaries_sampleLines family.name
      (fun one member => (writable.value one member).2 type) readable
  | gauge => exact single (by simp [type])
  | untyped => exact single (by simp [type])

/-! ### Families -/

/-- The lines of a family read back as the family. -/
theorem Family.Writable.readFamily_lines {family : Family} (writable : family.Writable)
    (readable : family.Readable) :
    readFamily family.helpLine family.typeLine (family.sampleLines.map SampleLine.written) =
      some family := by
  simp only [readFamily, helpLine, typeLine, readMarked_append _ writable.name, readHelp_flatMap,
    ofWord?_word, writable.mapM_readSampleLine, writable.readSeries_sampleLines readable,
    Option.bind_eq_bind, Option.bind_some, if_true, String.ofList_toList]

/-- The lines of a family that show numbers end where the next family begins. -/
theorem Family.Writable.span_lines {family : Family} (writable : family.Writable)
    (rest : List Family) :
    (family.sampleLines.map SampleLine.written ++ rest.flatMap Family.lines).takeWhile
        (!isMarked ·) = family.sampleLines.map SampleLine.written ∧
      (family.sampleLines.map SampleLine.written ++ rest.flatMap Family.lines).dropWhile
        (!isMarked ·) = rest.flatMap Family.lines := by
  have unmarked : ∀ line ∈ family.sampleLines.map SampleLine.written, !isMarked line := by
    intro line member
    obtain ⟨sample, sampleIn, rfl⟩ := List.mem_map.1 member
    rw [isMarked_written (writable.valid_of_mem_sampleLines sampleIn)]
    rfl
  rw [List.takeWhile_append_of_pos unmarked, List.dropWhile_append_of_pos unmarked]
  cases rest with
  | nil => simp
  | cons next more =>
    have marked : isMarked next.helpLine := by
      simp [isMarked, Family.helpLine, helpMark]
    simp [Family.lines, marked]

/-- The lines of families read back as the families. -/
theorem readFamilies_lines {families : List Family}
    (writable : ∀ family ∈ families, family.Writable)
    (readable : ∀ family ∈ families, family.Readable) :
    readFamilies (families.flatMap Family.lines) = some families := by
  induction families with
  | nil => rw [List.flatMap_nil, readFamilies]
  | cons family rest inductionHypothesis =>
    have own := writable family List.mem_cons_self
    have others := inductionHypothesis
      (fun other member => writable other (List.mem_cons_of_mem _ member))
      (fun other member => readable other (List.mem_cons_of_mem _ member))
    obtain ⟨samples, later⟩ := own.span_lines rest
    rw [List.flatMap_cons, Family.lines, List.cons_append, List.cons_append, readFamilies, samples,
      later, own.readFamily_lines (readable family List.mem_cons_self), others]
    rfl

/-! ### Texts -/

/-- The text of families comes apart into their lines. -/
theorem pieces_render {families : List Family}
    (writable : ∀ family ∈ families, family.Writable) :
    pieces '\n' (render families).toList = families.flatMap Family.lines ++ [[]] := by
  rw [render, String.toList_ofList, writeLines]
  refine pieces_flatMap fun line member => ?_
  obtain ⟨family, familyIn, own⟩ := List.mem_flatMap.1 member
  exact (writable family familyIn).newline_not_mem_lines own

theorem readLines_render {families : List Family}
    (writable : ∀ family ∈ families, family.Writable) :
    readLines (render families).toList = some (families.flatMap Family.lines) := by
  unfold readLines
  rw [pieces_render writable]
  simp

theorem read_render {families : List Family} (writable : ∀ family ∈ families, family.Writable)
    (readable : ∀ family ∈ families, family.Readable) :
    read (render families) = some families := by
  rw [read, readLines_render writable]
  exact readFamilies_lines writable readable

/-- What a collection gives reads back from its text. -/
theorem read_render_collect {settings : Settings} {store : Store} {id : RegistryId}
    (readable : ∀ family ∈ (collect settings store id).1, family.Readable) :
    read (render (collect settings store id).1) = some (collect settings store id).1 :=
  read_render (fun family member => (wellShaped_collect settings store id family member).toWritable)
    readable

/-- An exposition is unambiguous. Families whose names are valid, whose summaries leave the label of
the quantiles free, and whose numbers can be read back from their texts are read back from the
rendered text as they were, whatever their help texts and label values hold. The text comes apart at
its line breaks into one line for each sample and two for each family, and nothing else. -/
theorem exposition_unambiguous {families : List Family}
    (writable : ∀ family ∈ families, family.Writable)
    (readable : ∀ family ∈ families, family.Readable) :
    read (render families) = some families ∧
      pieces '\n' (render families).toList =
        (families.flatMap fun family =>
          family.helpLine :: family.typeLine :: family.sampleLines.map SampleLine.written) ++
            [[]] :=
  ⟨read_render writable readable, pieces_render writable⟩

/-- A family of summaries with a label value that holds all that is special in a line. -/
def awkwardFamily : Family where
  name := "x"
  help := "a\\\nb"
  type := .summary
  series := [⟨[("path", "\x22\\\n,\x7d ")], .summary [(0.5, 1.5)] 3.0 2⟩]

theorem awkwardFamily_unambiguous :
    read (render [awkwardFamily]) = some [awkwardFamily] ∧
      pieces '\n' (render [awkwardFamily]).toList =
        awkwardFamily.helpLine :: awkwardFamily.typeLine ::
          awkwardFamily.sampleLines.map SampleLine.written ++ [[]] := by
  have writable : awkwardFamily.Writable := by
    constructor
    case name => decide
    case value => simp [awkwardFamily, SeriesValue.isSummary]
    case labels =>
      simp only [awkwardFamily, List.mem_singleton, forall_eq]
      decide
    case quantile =>
      simp only [awkwardFamily, List.mem_singleton, forall_eq]
      exact fun _ => by decide
  have readable : awkwardFamily.Readable := by
    simp only [Family.Readable, awkwardFamily, List.mem_singleton, forall_eq]
    decide +kernel
  exact exposition_unambiguous
    (fun _ member => List.mem_singleton.1 member ▸ writable)
    (fun _ member => List.mem_singleton.1 member ▸ readable)

end Telemetry.Exposition
