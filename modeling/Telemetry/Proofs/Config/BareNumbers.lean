/-
This file proves what a number without a unit means as a length of time, in both
nodes that can carry it. A node for a number reads every decimal below 2^53 as a
number of seconds. A node for a text looks for amounts with units first, and
falls back on seconds only where the unit of the last amount is missing. A whole
number gets there. A point does not: it stands where a unit should begin, and is
refused as an unknown one. The same holds of every text: what gets there and is
no whole number is no floating point number either.
-/

import Telemetry.Config.Quantity
import Telemetry.Proofs.Arithmetic.Seconds
import Telemetry.Proofs.Decimal.Digits
import Telemetry.Proofs.Text.Lettercase
import Telemetry.Proofs.Text.Trimming

namespace Telemetry.Config

open Decimal Text

/-! ### Numbers without a unit -/

/-- At least one digit. -/
structure IsDigitRun (text : List Char) : Prop where
  nonempty : text ≠ []
  digits : ∀ c ∈ text, isAsciiDigit c

/-- A number without a sign, a unit or an exponent: digits, and maybe a point and more digits. -/
structure BareNumber where
  whole : List Char
  fraction : Option (List Char)
  wholeDigits : IsDigitRun whole
  fractionDigits : ∀ digits ∈ fraction, IsDigitRun digits

namespace BareNumber

/-- The characters of the number. -/
def chars (number : BareNumber) : List Char :=
  number.whole ++ (number.fraction.map ('.' :: ·)).getD []

/-- The number as it is written. -/
def text (number : BareNumber) : String :=
  String.ofList number.chars

/-- All digits, without the point. -/
def digits (number : BareNumber) : List Char :=
  number.whole ++ number.fraction.getD []

/-- How many digits stand behind the point. -/
def places (number : BareNumber) : Nat :=
  (number.fraction.getD []).length

/-- The value of the number. -/
def value (number : BareNumber) : ℚ :=
  numberOfDigits number.digits / 10 ^ number.places

end BareNumber

/-! ### The form of the text -/

namespace BareNumber

variable (number : BareNumber)

/-- What stands behind the whole digits does not start with a digit. -/
theorem ends_whole :
    ∀ c ∈ ((number.fraction.map ('.' :: ·)).getD []).head?, isAsciiDigit c = false := by
  cases number.fraction with
  | none => exact nofun
  | some digits =>
    rintro c ⟨⟩
    rfl

theorem takeWhile_chars : number.chars.takeWhile isAsciiDigit = number.whole :=
  takeWhile_append_of_ends number.wholeDigits.digits number.ends_whole

theorem dropWhile_chars :
    number.chars.dropWhile isAsciiDigit = (number.fraction.map ('.' :: ·)).getD [] :=
  dropWhile_append_of_ends number.wholeDigits.digits number.ends_whole

theorem chars_ne_nil : number.chars ≠ [] :=
  List.append_ne_nil_of_left_ne_nil number.wholeDigits.nonempty _

theorem isEmpty_chars : number.chars.isEmpty = false :=
  Bool.eq_false_iff.2 (mt List.isEmpty_iff.1 number.chars_ne_nil)

/-- There is nothing to trim: the first and the last character are digits. -/
theorem isTrimmed_chars : IsTrimmed number.chars where
  first c first := by
    rw [chars, List.head?_append_of_ne_nil _ number.wholeDigits.nonempty] at first
    exact isBlank_of_isAsciiDigit (number.wholeDigits.digits c (List.mem_of_head? first))
  last c last := by
    obtain ⟨whole, fraction, wholeDigits, fractionDigits⟩ := number
    refine isBlank_of_isAsciiDigit ?_
    cases fraction with
    | none =>
      rw [chars, Option.map_none, Option.getD_none, List.append_nil] at last
      exact wholeDigits.digits c (List.mem_of_getLast? last)
    | some digits =>
      obtain ⟨nonempty, shown⟩ := fractionDigits digits rfl
      rw [chars, Option.map_some, Option.getD_some, ← List.singleton_append, ← List.append_assoc,
        List.getLast?_append_of_ne_nil _ nonempty] at last
      exact shown c (List.mem_of_getLast? last)

section Bounds

variable (below : number.value < 2 ^ 53)

include below

theorem numberOfDigits_digits_lt :
    numberOfDigits number.digits < 2 ^ 53 * 10 ^ number.places := by
  rw [value, div_lt_iff₀ (by positivity)] at below
  exact_mod_cast below

/-- The whole digits of a number below 2^53 stand for less than 2^53. -/
theorem numberOfDigits_whole_lt : numberOfDigits number.whole < 2 ^ 53 := by
  have power : 0 < 10 ^ number.places := Nat.pow_pos (by decide)
  have all := number.numberOfDigits_digits_lt below
  have split : numberOfDigits number.digits = numberOfDigits number.whole * 10 ^ number.places +
      numberOfDigits (number.fraction.getD []) := numberOfDigits_append _ _
  exact Nat.lt_of_mul_lt_mul_right (a := 10 ^ number.places) (by omega)

theorem numberOfDigits_whole_le : numberOfDigits number.whole ≤ largestWord :=
  (number.numberOfDigits_whole_lt below).le.trans (by decide)

end Bounds

/-! ### The node for a number -/

theorem readNumeral_chars :
    readNumeral number.chars = some ⟨numberOfDigits number.digits, -(number.places : Int)⟩ := by
  unfold readNumeral
  simp only [takeWhile_chars, dropWhile_chars]
  obtain ⟨whole, fraction, ⟨nonempty, -⟩, fractionDigits⟩ := number
  have written : whole.isEmpty = false := Bool.eq_false_iff.2 (mt List.isEmpty_iff.1 nonempty)
  cases fraction with
  | none => simp [written, digits, places]
  | some run =>
    have shown := (fractionDigits run rfl).digits
    have taken : run.takeWhile isAsciiDigit = run := List.takeWhile_eq_self_iff.2 shown
    have dropped : run.dropWhile isAsciiDigit = [] := List.dropWhile_eq_nil_iff.2 shown
    simp [written, taken, dropped, digits, places]

/-- The floating point number nearest to the number. -/
def toFloat : Float :=
  Numeral.toFloat ⟨numberOfDigits number.digits, -(number.places : Int)⟩

theorem readFloat_chars : readFloat number.chars = .ok number.toFloat := by
  have unsigned : number.chars.head? ≠ some '-' ∧ number.chars.head? ≠ some '+' := by
    rw [chars, List.head?_append_of_ne_nil _ number.wholeDigits.nonempty]
    refine ⟨fun minus => ?_, fun plus => ?_⟩
    · exact absurd (number.wholeDigits.digits '-' (List.mem_of_head? minus)) (by decide)
    · exact absurd (number.wholeDigits.digits '+' (List.mem_of_head? plus)) (by decide)
  simp [readFloat, unsigned, isEmpty_chars, readNumeral_chars, toFloat]

theorem asDuration_real :
    (Node.real number.text).asDuration = Node.secondsAsDuration number.toFloat := by
  rw [Node.asDuration, text, String.toList_ofList, readFloat_chars]

theorem readDuration_chars (other : number.chars ≠ ['0']) :
    readDuration number.chars = (readAmounts 0 number.chars).map Duration.mk := by
  simp [readDuration, trim_eq_self number.isTrimmed_chars, isEmpty_chars, other]

section Below

variable (below : number.value < 2 ^ 53)

include below

/-- A whole number of seconds keeps its value. -/
theorem ofFloatSeconds_of_whole (whole : number.fraction = none) :
    Duration.ofFloatSeconds number.toFloat = .ok (.ofSeconds (numberOfDigits number.whole)) := by
  have same : number.toFloat = Float.ofNat (numberOfDigits number.whole) := by
    rw [toFloat, digits, places, whole, Option.getD_none, List.append_nil]
    rfl
  rw [same]
  exact Duration.ofFloatSeconds_ofNat (number.numberOfDigits_whole_lt below)

/-- A number of seconds with a fraction becomes some length of time. -/
theorem exists_ofFloatSeconds_of_fraction {run : List Char}
    (fraction : number.fraction = some run) :
    ∃ duration, Duration.ofFloatSeconds number.toFloat = .ok duration := by
  have positive : 0 < number.places := by
    rw [places, fraction]
    exact List.length_pos_iff.2 (number.fractionDigits run fraction).nonempty
  have divided : number.toFloat =
      Float.ofScientific (numberOfDigits number.digits) true number.places := by
    have negative : decide (-(number.places : Int) < 0) = true := decide_eq_true (by omega)
    rw [toFloat, Numeral.toFloat, negative, Int.natAbs_neg, Int.natAbs_natCast]
  rw [divided]
  exact Duration.exists_ofFloatSeconds_eq_ok
    (Double.isModest_ofScientific (number.numberOfDigits_digits_lt below))

/-! ### The node for a text -/

/-- A whole number ends where a unit is missing. -/
theorem readAmounts_of_whole (whole : number.fraction = none) :
    readAmounts 0 number.chars = .error .missingUnit := by
  have nonempty := number.wholeDigits.nonempty
  rw [readAmounts, if_neg number.chars_ne_nil]
  simp only [takeWhile_chars, dropWhile_chars, whole, Option.map_none, Option.getD_none]
  rw [if_neg nonempty, if_neg (Nat.not_lt.2 (number.numberOfDigits_whole_le below)),
    List.takeWhile_nil, if_pos rfl]

/-- A point stands where a unit begins, and is none. -/
theorem readAmounts_of_fraction {run : List Char} (fraction : number.fraction = some run) :
    readAmounts 0 number.chars = .error .invalidUnit := by
  have nonempty := number.wholeDigits.nonempty
  have unit : ('.' :: run).takeWhile (!isAsciiDigit ·) = ['.'] := by
    have point : ∀ c ∈ ['.'], !isAsciiDigit c := List.forall_mem_singleton.2 rfl
    refine takeWhile_append_of_ends point fun c first => ?_
    rw [(number.fractionDigits run fraction).digits c (List.mem_of_head? first)]
    rfl
  have unknown : unitFactor? timeUnits (trim ['.']) = none := by rfl
  rw [readAmounts, if_neg number.chars_ne_nil]
  simp only [takeWhile_chars, dropWhile_chars, fraction, Option.map_some, Option.getD_some, unit]
  rw [if_neg nonempty, if_neg (Nat.not_lt.2 (number.numberOfDigits_whole_le below)),
    if_neg (List.cons_ne_nil _ _), unknown]

theorem asDuration_text_of_whole (whole : number.fraction = none) :
    (Node.text number.text).asDuration = .ok (.ofSeconds (numberOfDigits number.whole)) := by
  have chars : number.chars = number.whole := by
    rw [BareNumber.chars, whole]
    exact List.append_nil _
  rw [Node.asDuration, Node.textAsDuration, text, String.toList_ofList]
  by_cases zero : number.chars = ['0']
  · rw [zero, ← chars, zero]
    rfl
  · have read := readWhole_eq_ok number.wholeDigits.nonempty number.wholeDigits.digits
      (number.numberOfDigits_whole_le below)
    rw [number.readDuration_chars zero, readAmounts_of_whole number below whole, chars]
    simp only [Except.map, read]

theorem asDuration_text_of_fraction {run : List Char} (fraction : number.fraction = some run) :
    (Node.text number.text).asDuration = fail (.duration .invalidUnit) := by
  have other : number.chars ≠ ['0'] := by
    intro zero
    have points : number.chars.dropWhile isAsciiDigit = [] := by rw [zero]; rfl
    rw [dropWhile_chars, fraction] at points
    exact absurd points (List.cons_ne_nil _ _)
  rw [Node.asDuration, Node.textAsDuration, text, String.toList_ofList,
    number.readDuration_chars other, readAmounts_of_fraction number below fraction]
  rfl

end Below

end BareNumber

/-- A bare number below 2^53 is a number of seconds in a node for a number, whole or not. In a node
for a text it is one, and then the same, exactly if it has no point: a number with a point is
refused there because the point is no unit of time. -/
theorem bare_number_is_seconds_iff (number : BareNumber) (below : number.value < 2 ^ 53) :
    (∃ duration, (Node.real number.text).asDuration = .ok duration ∧
      ((Node.text number.text).asDuration = .ok duration ↔ number.fraction = none)) ∧
    (number.fraction = none →
      (Node.text number.text).asDuration = .ok (.ofSeconds (numberOfDigits number.whole))) ∧
    (number.fraction ≠ none →
      (Node.text number.text).asDuration = fail (.duration .invalidUnit)) := by
  cases fraction : number.fraction with
  | none =>
    have text := number.asDuration_text_of_whole below fraction
    refine ⟨⟨_, ?_, fun _ => rfl, fun _ => text⟩, fun _ => text, fun broken => absurd rfl broken⟩
    rw [number.asDuration_real, Node.secondsAsDuration,
      number.ofFloatSeconds_of_whole below fraction]
  | some run =>
    have text := number.asDuration_text_of_fraction below fraction
    obtain ⟨duration, read⟩ := number.exists_ofFloatSeconds_of_fraction below fraction
    refine ⟨⟨duration, ?_, fun same => ?_, nofun⟩, nofun, fun _ => text⟩
    · rw [number.asDuration_real, Node.secondsAsDuration, read]
    · rw [text] at same
      cases same

/-- A whole number. -/
def thirty : BareNumber where
  whole := ['3', '0']
  fraction := none
  wholeDigits := ⟨List.cons_ne_nil _ _, List.forall_iff_forall_mem.1 (by decide)⟩
  fractionDigits := nofun

/-- A number with a point. -/
def oneAndHalf : BareNumber where
  whole := ['1']
  fraction := some ['5']
  wholeDigits := ⟨List.cons_ne_nil _ _, List.forall_iff_forall_mem.1 (by decide)⟩
  fractionDigits := by
    rintro _ ⟨⟩
    exact ⟨List.cons_ne_nil _ _, List.forall_iff_forall_mem.1 (by decide)⟩

theorem bare_numbers_in_nodes_for_texts :
    (thirty.value < 2 ^ 53 ∧ oneAndHalf.value < 2 ^ 53) ∧
      (Node.text "30").asDuration = .ok (.ofSeconds 30) ∧
      (Node.text "1.5").asDuration = fail (.duration .invalidUnit) ∧
      ∃ duration, (Node.real "1.5").asDuration = .ok duration := by
  have small : thirty.value < 2 ^ 53 := by decide +kernel
  have below : oneAndHalf.value < 2 ^ 53 := by decide +kernel
  obtain ⟨-, whole, -⟩ := bare_number_is_seconds_iff thirty small
  obtain ⟨⟨duration, read, -⟩, -, refused⟩ := bare_number_is_seconds_iff oneAndHalf below
  exact ⟨⟨small, below⟩, whole rfl, refused nofun, duration, read⟩

/-- A second and a half, as a number and as a text. -/
theorem point_is_refused_in_text :
    oneAndHalf.text = "1.5" ∧ oneAndHalf.value < 2 ^ 53 ∧
      (Node.real "1.5").asDuration = .ok ⟨1500000000⟩ ∧
      ¬∃ duration, (Node.text "1.5").asDuration = .ok duration := by
  have below : oneAndHalf.value < 2 ^ 53 := by decide +kernel
  have seconds : Duration.ofFloatSeconds oneAndHalf.toFloat = .ok ⟨1500000000⟩ := by decide +kernel
  have read : (Node.real "1.5").asDuration = .ok ⟨1500000000⟩ := by
    show (Node.real oneAndHalf.text).asDuration = _
    rw [oneAndHalf.asDuration_real, Node.secondsAsDuration, seconds]
  have refused : (Node.text "1.5").asDuration = fail (.duration .invalidUnit) :=
    oneAndHalf.asDuration_text_of_fraction below rfl
  refine ⟨rfl, below, read, fun ⟨duration, same⟩ => ?_⟩
  rw [refused] at same
  cases same

/-! ### What a text falls back on -/

/-- A character that ends the digits of a floating point number for good. -/
def StopsNumber (c : Char) : Prop :=
  isAsciiDigit c = false ∧ c ∉ ['.', 'e', 'E']

theorem stopsNumber_of_isBlank {c : Char} (blank : isBlank c) : StopsNumber c := by
  refine ⟨?_, fun member => ?_⟩
  · by_contra digit
    rw [isBlank_of_isAsciiDigit (Bool.not_eq_false _ ▸ digit)] at blank
    cases blank
  · simp only [List.mem_cons, List.not_mem_nil, or_false] at member
    rcases member with rfl | rfl | rfl <;> cases blank

/-- A unit of time starts with a character that is in no number. -/
theorem stopsNumber_of_unitFactor? {c : Char} {rest : List Char} {factor : Nat}
    (notDigit : isAsciiDigit c = false)
    (known : unitFactor? timeUnits (trim (c :: rest)) = some factor) : StopsNumber c := by
  by_cases blank : isBlank c
  · exact stopsNumber_of_isBlank blank
  · refine ⟨notDigit, fun member => ?_⟩
    obtain ⟨unit, found, -⟩ := Option.map_eq_some_iff.1 known
    have same : unit.1.toList = trim (c :: rest) := by simpa using List.find?_some found
    have first : (trim (c :: rest)).head? = some c := by
      have starts : trim ([] ++ c :: rest) = c :: trimEnd rest :=
        trim_append_cons (Bool.eq_false_iff.2 blank) [] rest
      rw [List.nil_append] at starts
      rw [starts]
      rfl
    rw [← same] at first
    have units : ∀ unit ∈ timeUnits, unit.1.toList.head? ∉ ['.', 'e', 'E'].map some := by decide
    exact units unit (List.mem_of_find?_eq_some found) (first ▸ List.mem_map_of_mem member)

/-- Where a unit is missing, digits stand at the start, and they are the whole text or something
follows that is in no number. -/
theorem exists_digits_of_missingUnit {total : Nat} {text : List Char}
    (missing : readAmounts total text = .error .missingUnit) :
    ∃ run rest, text = run ++ rest ∧ IsDigitRun run ∧ numberOfDigits run ≤ largestWord ∧
      ∀ c ∈ rest.head?, StopsNumber c := by
  have parts : text = text.takeWhile isAsciiDigit ++ text.dropWhile isAsciiDigit :=
    List.takeWhile_append_dropWhile.symm
  have digits : ∀ c ∈ text.takeWhile isAsciiDigit, isAsciiDigit c := fun c => List.mem_takeWhile_imp
  have notDigit := List.head?_dropWhile_not isAsciiDigit text
  rw [readAmounts] at missing
  split at missing
  · cases missing
  · split at missing
    · cases missing
    · rename_i hasDigits
      dsimp only at missing
      split at missing
      · cases missing
      · rename_i fits
        refine ⟨_, _, parts, ⟨hasDigits, digits⟩, Nat.not_lt.1 fits, fun c first => ?_⟩
        rw [Option.mem_def] at first
        rw [first] at notDigit
        obtain ⟨rest, shape⟩ := List.head?_eq_some_iff.1 first
        have plain : isAsciiDigit c = false := by simpa using notDigit
        have unit : (c :: rest).takeWhile (!isAsciiDigit ·) =
            c :: rest.takeWhile (!isAsciiDigit ·) := List.takeWhile_cons_of_pos (by simp [plain])
        rw [shape, unit, if_neg (List.cons_ne_nil _ _)] at missing
        split at missing
        · cases missing
        · rename_i factor known
          exact stopsNumber_of_unitFactor? plain known

/-- A text with a digit in it is none of the words for numbers. -/
theorem readWord_of_digit {text : List Char} {c : Char} (digit : isAsciiDigit c)
    (member : c ∈ text) : readWord text = none := by
  have own : asciiLower c = c :=
    forall_of_isAscii (fun c => isAsciiDigit c → asciiLower c = c) (by decide)
      (isAscii_of_isAsciiDigit digit) digit
  have other {word : String} (letters : (word.toList.all (!isAsciiDigit ·)) = true) :
      String.ofList (text.map asciiLower) ≠ word := by
    rintro rfl
    rw [String.toList_ofList, List.all_eq_true] at letters
    have plain := letters c (own ▸ List.mem_map_of_mem member)
    rw [digit] at plain
    cases plain
  have notInf : String.ofList (text.map asciiLower) ≠ "inf" := other (by decide)
  have notInfinity : String.ofList (text.map asciiLower) ≠ "infinity" := other (by decide)
  have notNan : String.ofList (text.map asciiLower) ≠ "nan" := other (by decide)
  show (if String.ofList (text.map asciiLower) = "inf" || String.ofList (text.map asciiLower) =
    "infinity" then _ else if String.ofList (text.map asciiLower) = "nan" then _ else none) = none
  simp [notInf, notInfinity, notNan]

/-- Digits with something on one side that is in no number are not read as one. -/
theorem readNumeral_of_stops {before run rest : List Char} (blank : IsBlankText before)
    (digits : IsDigitRun run) (stops : ∀ c ∈ rest.head?, StopsNumber c)
    (more : before ≠ [] ∨ rest ≠ []) : readNumeral (before ++ (run ++ rest)) = none := by
  cases before with
  | cons c others =>
    obtain ⟨notDigit, notMark⟩ := stopsNumber_of_isBlank (blank c List.mem_cons_self)
    simp only [List.mem_cons, List.not_mem_nil, or_false, not_or] at notMark
    simp [readNumeral, notDigit, notMark.1]
  | nil =>
    have taken := takeWhile_append_of_ends digits.digits fun c first => (stops c first).1
    have dropped := dropWhile_append_of_ends digits.digits fun c first => (stops c first).1
    cases rest with
    | nil => simp at more
    | cons c others =>
      obtain ⟨-, notMark⟩ := stops c rfl
      simp only [List.mem_cons, List.not_mem_nil, or_false, not_or] at notMark
      simp [readNumeral, taken, dropped, notMark, digits.nonempty]

theorem readFloat_of_stops {before run rest : List Char} (blank : IsBlankText before)
    (digits : IsDigitRun run) (stops : ∀ c ∈ rest.head?, StopsNumber c)
    (more : before ≠ [] ∨ rest ≠ []) : readFloat (before ++ (run ++ rest)) = .error .invalid := by
  obtain ⟨c, nonempty⟩ := List.exists_mem_of_ne_nil _ digits.nonempty
  have member : c ∈ before ++ (run ++ rest) := by simp [nonempty]
  have unsigned (sign : Char) (solid : isBlank sign = false) (mark : isAsciiDigit sign = false) :
      (before ++ (run ++ rest)).head? ≠ some sign := by
    intro first
    cases before with
    | cons d _ =>
      cases first
      rw [blank sign List.mem_cons_self] at solid
      cases solid
    | nil =>
      rw [List.nil_append, List.head?_append_of_ne_nil _ digits.nonempty] at first
      rw [digits.digits sign (List.mem_of_head? first)] at mark
      cases mark
  have notMinus := unsigned '-' rfl rfl
  have notPlus := unsigned '+' rfl rfl
  have number := readNumeral_of_stops blank digits stops more
  have word := readWord_of_digit (digits.digits c nonempty) member
  have written : (before ++ (run ++ rest)).isEmpty = false :=
    List.isEmpty_eq_false_iff.2 (List.ne_nil_of_mem member)
  generalize before ++ (run ++ rest) = text at *
  simp [readFloat, written, notMinus, notPlus, number, word]

/-- Where the last unit of a text is missing, the text is digits with blanks before them and
something behind them that is in no number. -/
theorem exists_digits_of_readDuration {text : List Char}
    (missing : readDuration text = .error .missingUnit) :
    ∃ before run rest, text = before ++ (run ++ rest) ∧ IsBlankText before ∧ IsDigitRun run ∧
      numberOfDigits run ≤ largestWord ∧ ∀ c ∈ rest.head?, StopsNumber c := by
  have stuck : readAmounts 0 (trim text) = .error .missingUnit := by
    simp only [readDuration] at missing
    split at missing
    · cases missing
    split at missing
    · cases missing
    cases amounts : readAmounts 0 (trim text) with
    | ok total => rw [amounts] at missing; cases missing
    | error error => rw [amounts] at missing; cases missing; rfl
  obtain ⟨before, after, blankBefore, blankAfter, whole⟩ := exists_trim text
  obtain ⟨run, rest, inner, digits, fits, stops⟩ := exists_digits_of_missingUnit stuck
  refine ⟨before, run, rest ++ after, ?_, blankBefore, digits, fits, fun c first => ?_⟩
  · rw [whole, inner, List.append_assoc]
  · cases rest with
    | nil => exact stopsNumber_of_isBlank (blankAfter c (List.mem_of_head? first))
    | cons d others => exact stops c first

/-- A text is a length of time by its units, or as a whole number of seconds, and in no other way:
where the last unit is missing, what is not a whole number is no floating point number either. -/
theorem asDuration_text_eq_ok {text : String} {duration : Duration}
    (read : (Node.text text).asDuration = .ok duration) :
    readDuration text.toList = .ok duration ∨
      ∃ seconds, readWhole largestWord text.toList = .ok seconds ∧
        duration = .ofSeconds seconds := by
  rw [Node.asDuration, Node.textAsDuration] at read
  split at read
  · rename_i same
    cases read
    exact .inl same
  · rename_i missing
    obtain ⟨before, run, rest, whole, blank, digits, fits, stops⟩ :=
      exists_digits_of_readDuration missing
    right
    by_cases alone : before = [] ∧ rest = []
    · obtain ⟨rfl, rfl⟩ := alone
      rw [List.nil_append, List.append_nil] at whole
      have seconds := readWhole_eq_ok digits.nonempty digits.digits fits
      rw [← whole] at seconds
      rw [seconds] at read
      cases read
      exact ⟨_, seconds, rfl⟩
    · have refused : readFloat text.toList = .error .invalid := by
        rw [whole]
        exact readFloat_of_stops blank digits stops (not_and_or.1 alone)
      rw [refused] at read
      split at read
      · rename_i seconds same
        cases read
        exact ⟨seconds, same, rfl⟩
      · cases read
  · cases read

end Telemetry.Config
