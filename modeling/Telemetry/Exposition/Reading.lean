/-
This file reads the text of an exposition back as families. A line that starts
with a number sign begins a family; the lines that hold numbers belong to the
family before them. In a summary the lines up to the one with the count make one
series. A text that is not laid out like an exposition is refused.
-/

import Telemetry.Decimal.Reader
import Telemetry.Exposition.Rendering
import Telemetry.Exposition.Sanitize

namespace Telemetry.Exposition

/-! ### Escaped text -/

/-- Read a help text. -/
def readHelp : List Char → Option (List Char)
  | [] => some []
  | '\x5c' :: 'n' :: rest => (readHelp rest).map ('\n' :: ·)
  | '\x5c' :: '\x5c' :: rest => (readHelp rest).map ('\x5c' :: ·)
  | c :: rest => if c = '\x5c' then none else (readHelp rest).map (c :: ·)

/-- The character that the letter after a backslash stands for in a label value. -/
def unescaped? (letter : Char) : Option Char :=
  if letter = 'n' then some '\n'
  else if letter = '\x5c' ∨ letter = '\x22' then some letter
  else none

/-- Read a label value up to the quote that closes it, and leave what follows. -/
def readQuoted : List Char → Option (List Char × List Char)
  | [] => none
  | '\x22' :: rest => some ([], rest)
  | '\x5c' :: letter :: rest =>
    (unescaped? letter).bind fun c => (readQuoted rest).map fun read => (c :: read.1, read.2)
  | c :: rest =>
    if c = '\x5c' then none else (readQuoted rest).map fun read => (c :: read.1, read.2)

/-- A quoted text is longer than what follows it. -/
theorem length_of_readQuoted {text value rest : List Char}
    (found : readQuoted text = some (value, rest)) : rest.length < text.length := by
  fun_induction readQuoted text generalizing value with
  | case1 => simp at found
  | case2 => simp_all
  | case3 letter text inductionHypothesis =>
    obtain ⟨c, _, readText⟩ := Option.bind_eq_some_iff.1 found
    obtain ⟨parts, read, equal⟩ := Option.map_eq_some_iff.1 readText
    cases equal
    have shorter := inductionHypothesis read
    simp only [List.length_cons]
    omega
  | case4 => simp at found
  | case5 c text _ _ _ inductionHypothesis =>
    obtain ⟨parts, read, equal⟩ := Option.map_eq_some_iff.1 found
    cases equal
    have shorter := inductionHypothesis read
    simp only [List.length_cons]
    omega

/-! ### Lines that hold numbers -/

/-- Read one label with its value, and leave what follows. -/
def readLabel (text : List Char) : Option ((String × String) × List Char) :=
  match Text.cut '=' text with
  | some (name, '\x22' :: quoted) =>
    (readQuoted quoted).map fun read =>
      ((String.ofList name, String.ofList read.1), read.2)
  | _ => none

/-- A label is longer than what follows it. -/
theorem length_of_readLabel {text rest : List Char} {label : String × String}
    (found : readLabel text = some (label, rest)) : rest.length < text.length := by
  unfold readLabel at found
  split at found
  · rename_i name quoted separated
    obtain ⟨read, readRest, equal⟩ := Option.map_eq_some_iff.1 found
    obtain ⟨shape, _⟩ := Text.cut_eq_some separated
    have shorter := length_of_readQuoted readRest
    cases equal
    simp only [shape, List.length_append, List.length_cons]
    omega
  · simp at found

/-- Read labels up to the closing brace, and leave what follows. -/
def readLabels (text : List Char) : Option (Labels × List Char) :=
  match _ : readLabel text with
  | some (label, '\x7d' :: rest) => some ([label], rest)
  | some (label, ',' :: rest) => (readLabels rest).map fun read => (label :: read.1, read.2)
  | _ => none
termination_by text.length
decreasing_by
  rename_i found
  have shorter := length_of_readLabel found
  simp only [List.length_cons] at shorter
  omega

/-- Read a line that holds a number. -/
def readSampleLine (text : List Char) : Option SampleLine :=
  let name := String.ofList (text.takeWhile isMetricChar)
  match text.dropWhile isMetricChar with
  | ' ' :: value => some ⟨name, [], value⟩
  | '\x7b' :: inside =>
    match readLabels inside with
    | some (labels, ' ' :: value) => some ⟨name, labels, value⟩
    | _ => none
  | _ => none

/-! ### Series -/

/-- Read a number. -/
def readNumber (text : List Char) : Option Float :=
  (Decimal.readFloat text).toOption

/-- Read a count. -/
def readCount (text : List Char) : Option Nat :=
  if text.isEmpty || !text.all Text.isAsciiDigit then none
  else some (Decimal.numberOfDigits text)

/-- Read the series of a family of single numbers. -/
def readSingles (family : String) : List SampleLine → Option (List Series)
  | [] => some []
  | line :: rest =>
    if line.name = family then do
      let value ← readNumber line.value
      let others ← readSingles family rest
      some (⟨line.labels, .single value⟩ :: others)
    else none

/-- Read the number of a quantile and which quantile it is. The line must have the given labels
and, behind them, the label of the quantile. -/
def readQuantile (labels : Labels) (line : SampleLine) : Option (Float × Float) :=
  match line.labels.getLast? with
  | none => none
  | some (label, text) =>
    if label = quantileLabel ∧ line.labels.dropLast = labels then do
      let quantile ← readNumber text.toList
      let value ← readNumber line.value
      some (quantile, value)
    else none

/-- Read the series of a family of summaries. The lines of quantiles wait for the line with the
sum, which tells the labels of the series. -/
def readSummaries (family : String) (waiting : List SampleLine) :
    List SampleLine → Option (List Series)
  | [] => if waiting.isEmpty then some [] else none
  | [_] => none
  | line :: next :: rest =>
    if line.name = family then readSummaries family (waiting ++ [line]) (next :: rest)
    else if line.name = sumName family ∧ next.name = countName family ∧
        next.labels = line.labels then do
      let quantiles ← waiting.mapM (readQuantile line.labels)
      let sum ← readNumber line.value
      let count ← readCount next.value
      let others ← readSummaries family [] rest
      some (⟨line.labels, .summary quantiles sum count⟩ :: others)
    else none

/-- Read the series of a family. -/
def readSeries (family : String) (type : FamilyType) (lines : List SampleLine) :
    Option (List Series) :=
  match type with
  | .summary => readSummaries family [] lines
  | .gauge | .untyped => readSingles family lines

/-! ### Families -/

/-- The type with the given name. -/
def FamilyType.ofWord? (word : List Char) : Option FamilyType :=
  [gauge, summary, untyped].find? fun type => type.word.toList = word

/-- Read a line that starts with a mark: a name, and what follows it after a blank. -/
def readMarked (mark : String) (line : List Char) : Option (String × List Char) := do
  let rest ← mark.toList.isPrefixOf? line
  let (name, text) ← Text.cut ' ' rest
  some (String.ofList name, text)

/-- Whether a line begins a family or goes on with the beginning. -/
def isMarked (line : List Char) : Bool :=
  line.head? = some '#'

/-- Read a family from its two marked lines and those that hold its numbers. -/
def readFamily (helpLine typeLine : List Char) (lines : List (List Char)) : Option Family := do
  let (name, helpText) ← readMarked helpMark helpLine
  let help ← readHelp helpText
  let (typeName, typeText) ← readMarked typeMark typeLine
  let type ← FamilyType.ofWord? typeText
  let samples ← lines.mapM readSampleLine
  let series ← readSeries name type samples
  if typeName = name then some ⟨name, String.ofList help, type, series⟩ else none

/-- Read families from lines. -/
def readFamilies : List (List Char) → Option (List Family)
  | [] => some []
  | [_] => none
  | helpLine :: typeLine :: rest => do
    let family ← readFamily helpLine typeLine (rest.takeWhile (!isMarked ·))
    let others ← readFamilies (rest.dropWhile (!isMarked ·))
    some (family :: others)
termination_by lines => lines.length
decreasing_by
  have shorter := (List.dropWhile_suffix (l := rest) (!isMarked ·)).length_le
  simp only [List.length_cons]
  omega

/-- The lines of a text; each has to end with a line break. -/
def readLines (text : List Char) : Option (List (List Char)) :=
  let parts := Text.pieces '\n' text
  if parts.getLast? = some [] then some parts.dropLast else none

/-- Read the text of an exposition. -/
def read (text : String) : Option (List Family) := do
  let lines ← readLines text.toList
  readFamilies lines

end Telemetry.Exposition
