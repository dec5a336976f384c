/-
This file proves that the descriptions of samples can be written and read back.
What is read depends only on the parts of the text between commas, each in lower
case and without the blanks at its ends. A description that is accepted is one of
a sample that can hold values, and each such description is what its written form
is read as.
-/

import Telemetry.Proofs.Decimal.Decoding
import Telemetry.Proofs.Decimal.Digits
import Telemetry.Proofs.Steps
import Telemetry.Proofs.Text.Lettercase
import Telemetry.Sample.Spec

namespace Telemetry.Sample

open Text Decimal

/-! ### The form of a text -/

/-- A part of a text with blanks added on its two sides. -/
def IsPadded (part padded : List Char) : Prop :=
  ∃ before after, IsBlankText before ∧ IsBlankText after ∧ padded = before ++ part ++ after

/-- Blanks around a part are taken off again. -/
theorem trim_lowercase_of_isPadded {part padded : List Char} (blanks : IsPadded part padded) :
    trim (lowercase padded) = trim (lowercase part) := by
  obtain ⟨before, after, blankBefore, blankAfter, rfl⟩ := blanks
  rw [lowercase_append_right blankAfter, lowercase_append_left blankBefore,
    trim_append_right blankAfter, trim_append_left blankBefore]

theorem map_trim_lowercase_of_isPadded {parts padded : List (List Char)}
    (blanks : List.Forall₂ IsPadded parts padded) :
    (padded.map fun part => trim (lowercase part)) =
      parts.map fun part => trim (lowercase part) := by
  induction blanks with
  | nil => rfl
  | cons first _ inductionHypothesis =>
    rw [List.map_cons, List.map_cons, trim_lowercase_of_isPadded first, inductionHypothesis]

/-- A character that is written as it is read: neither a capital letter nor blank nor a comma. -/
def IsPlain (c : Char) : Prop :=
  isAscii c ∧ asciiLower c = c ∧ isBlank c = false ∧ c ≠ ','

instance (c : Char) : Decidable (IsPlain c) :=
  inferInstanceAs (Decidable (_ ∧ _ ∧ _ ∧ _))

theorem isPlain_of_isNumberChar {c : Char} (number : isNumberChar c) : IsPlain c := by
  have ascii : isAscii c := by
    simp only [isNumberChar, Bool.or_eq_true, decide_eq_true_eq] at number
    rcases number with ((digit | rfl) | rfl) | rfl
    · exact isAscii_of_isAsciiDigit digit
    all_goals rfl
  exact forall_of_isAscii (fun c => isNumberChar c → IsPlain c) (by decide) ascii number

theorem isTrimmed_of_isPlain {part : List Char} (plain : ∀ c ∈ part, IsPlain c) :
    IsTrimmed part where
  first c first := (plain c (List.mem_of_head? first)).2.2.1
  last c last := (plain c (List.mem_of_getLast? last)).2.2.1

theorem trim_lowercase_of_isPlain {part : List Char} (plain : ∀ c ∈ part, IsPlain c) :
    trim (lowercase part) = part := by
  rw [lowercase_eq_self fun c member => ⟨(plain c member).1, (plain c member).2.1⟩,
    trim_eq_self (isTrimmed_of_isPlain plain)]

namespace Spec

/-! ### What reading depends on -/

/-- A description is read from its parts, each in lower case and without blanks at its ends. -/
theorem read_eq_ofParts (text : String) :
    read text = ofParts ((pieces ',' text.toList).map fun part => trim (lowercase part)) := by
  rw [read, pieces_lowercase, List.map_map]
  rfl

/-- The case of ASCII letters does not matter. -/
theorem read_congr_of_sameLetters {text other : String}
    (same : SameLetters text.toList other.toList) : read other = read text := by
  rw [read, ← lowercase_congr same, read]

/-- Blanks around the parts do not matter. -/
theorem read_congr_of_isPadded {text spaced : String}
    (blanks : List.Forall₂ IsPadded (pieces ',' text.toList) (pieces ',' spaced.toList)) :
    read spaced = read text := by
  rw [read_eq_ofParts, map_trim_lowercase_of_isPadded blanks, read_eq_ofParts]

/-! ### Accepted descriptions -/

/-- A size of a reservoir that can hold values. -/
def IsUsableSize (size : Nat) : Prop :=
  0 < size ∧ size ≤ largestWord

/-- A strength with which values can decay. -/
def IsUsableAlpha (alpha : Float) : Prop :=
  alpha.isFinite ∧ 0.0 < alpha

/-- A description of a sample that can hold values. -/
def IsUsable : Spec → Prop
  | .uniform size => IsUsableSize size
  | .decaying size alpha => IsUsableSize size ∧ IsUsableAlpha alpha

theorem readSize_eq_ok_iff {kind : Kind} {text : List Char} {size : Nat} :
    readSize kind text = .ok size ↔ readWhole largestWord text = .ok size ∧ 0 < size := by
  unfold readSize
  split
  · rename_i zero
    rw [zero]
    refine ⟨nofun, ?_⟩
    rintro ⟨⟨⟩, positive⟩
    exact absurd positive (Nat.lt_irrefl 0)
  · rename_i number nonzero read
    rw [read]
    constructor
    · rintro ⟨⟩
      exact ⟨rfl, Nat.pos_of_ne_zero nonzero⟩
    · rintro ⟨⟨⟩, -⟩
      rfl
  · rename_i read
    rw [read]
    exact ⟨nofun, nofun⟩

theorem readAlpha_eq_ok_iff {text : List Char} {alpha : Float} :
    readAlpha text = .ok alpha ↔ readFloat text = .ok alpha ∧ IsUsableAlpha alpha := by
  unfold readAlpha
  split
  · rename_i number read
    rw [read, IsUsableAlpha]
    split
    · rename_i usable
      rw [Bool.and_eq_true, decide_eq_true_iff] at usable
      constructor
      · rintro ⟨⟩
        exact ⟨rfl, usable⟩
      · rintro ⟨⟨⟩, -⟩
        rfl
    · rename_i unusable
      rw [Bool.and_eq_true, decide_eq_true_iff] at unusable
      refine ⟨nofun, ?_⟩
      rintro ⟨⟨⟩, usable⟩
      exact absurd usable unusable
  · rename_i read
    rw [read]
    exact ⟨nofun, nofun⟩

theorem isUsableSize_of_readSize {kind : Kind} {text : List Char} {size : Nat}
    (read : readSize kind text = .ok size) : IsUsableSize size := by
  obtain ⟨whole, positive⟩ := readSize_eq_ok_iff.1 read
  exact ⟨positive, le_of_readWhole whole⟩

theorem isUsable_of_ofParts {parts : List (List Char)} {spec : Spec}
    (accepted : ofParts parts = .ok spec) : spec.IsUsable := by
  unfold ofParts at accepted
  dsimp only at accepted
  split at accepted
  · split at accepted
    · cases accepted
      exact ⟨by decide, by decide⟩
    · obtain ⟨size, sizeRead, same⟩ := bind_eq_ok_iff.1 accepted
      cases same
      exact isUsableSize_of_readSize sizeRead
    · cases accepted
  · split at accepted
    · split at accepted
      · cases accepted
        exact ⟨⟨by decide, by decide⟩, by decide +kernel, by decide +kernel⟩
      · obtain ⟨size, sizeRead, more⟩ := bind_eq_ok_iff.1 accepted
        obtain ⟨alpha, alphaRead, same⟩ := bind_eq_ok_iff.1 more
        cases same
        exact ⟨isUsableSize_of_readSize sizeRead, (readAlpha_eq_ok_iff.1 alphaRead).2⟩
      · cases accepted
    · cases accepted

/-! ### Written descriptions -/

/-- The parts of the written form. -/
def writtenParts : Spec → List (List Char)
  | .uniform size => [Kind.uniform.word.toList, digits size]
  | .decaying size alpha => [Kind.decaying.word.toList, digits size, (writePlain alpha).toList]

theorem toList_written (spec : Spec) : spec.written.toList = glue ',' spec.writtenParts := by
  cases spec with
  | uniform size => simp [written, writtenParts, naturalText, glue, Kind.word]
  | decaying size alpha => simp [written, writtenParts, naturalText, glue, Kind.word]

theorem isPlain_of_mem_word {kind : Kind} {c : Char} (member : c ∈ kind.word.toList) :
    IsPlain c := by
  have all : kind.word.toList.all (decide <| IsPlain ·) := by cases kind <;> decide
  exact of_decide_eq_true (List.all_eq_true.1 all c member)

theorem isPlain_of_mem_writePlain {alpha : Float} (usable : IsUsableAlpha alpha) {c : Char}
    (member : c ∈ (writePlain alpha).toList) : IsPlain c := by
  obtain ⟨magnitude, decoded⟩ := exists_decodeFloat_eq_finite usable.1 usable.2
  rw [writePlain, decoded, String.toList_ofList] at member
  rcases NumberStyle.plain.mem_writeMagnitude member with number | mark
  · exact isPlain_of_isNumberChar number
  · exact absurd mark List.not_mem_nil

theorem isPlain_of_mem_writtenParts {spec : Spec} (usable : spec.IsUsable) {part : List Char}
    (member : part ∈ spec.writtenParts) : ∀ c ∈ part, IsPlain c := by
  have digit {size : Nat} {c : Char} (shown : c ∈ digits size) : IsPlain c :=
    isPlain_of_isNumberChar (isNumberChar_of_isAsciiDigit (isAsciiDigit_of_mem_digits shown))
  cases spec with
  | uniform size =>
    simp only [writtenParts, List.mem_cons, List.not_mem_nil, or_false] at member
    rcases member with rfl | rfl
    · exact fun c => isPlain_of_mem_word
    · exact fun c => digit
  | decaying size alpha =>
    simp only [writtenParts, List.mem_cons, List.not_mem_nil, or_false] at member
    rcases member with rfl | rfl | rfl
    · exact fun c => isPlain_of_mem_word
    · exact fun c => digit
    · exact fun c => isPlain_of_mem_writePlain usable.2

/-- The written form of a description is read from the parts that it consists of. -/
theorem read_written_eq_ofParts {spec : Spec} (usable : spec.IsUsable) :
    read spec.written = ofParts spec.writtenParts := by
  have plain {part : List Char} (member : part ∈ spec.writtenParts) : ∀ c ∈ part, IsPlain c :=
    isPlain_of_mem_writtenParts usable member
  have nonempty : spec.writtenParts ≠ [] := by cases spec <;> exact List.cons_ne_nil _ _
  have free : ∀ part ∈ spec.writtenParts, ',' ∉ part :=
    fun part member comma => (plain member ',' comma).2.2.2 rfl
  rw [read_eq_ofParts, toList_written, pieces_glue nonempty, flatMap_pieces_of_not_mem free]
  have same : (spec.writtenParts.map fun part => trim (lowercase part)) =
      spec.writtenParts.map id :=
    List.map_congr_left fun part member => trim_lowercase_of_isPlain (plain member)
  rw [same, List.map_id]

/-- The strength of a decay is read back from its written form. -/
def ReadsBack : Spec → Prop
  | .uniform _ => True
  | .decaying _ alpha => readFloat (writePlain alpha).toList = .ok alpha

theorem ofParts_writtenParts {spec : Spec} (usable : spec.IsUsable) (back : spec.ReadsBack) :
    ofParts spec.writtenParts = .ok spec := by
  have sizeRead {kind : Kind} {size : Nat} (usable : IsUsableSize size) :
      readSize kind (digits size) = .ok size :=
    readSize_eq_ok_iff.2 ⟨readWhole_digits usable.2, usable.1⟩
  cases spec with
  | uniform size => exact bind_eq_ok_iff.2 ⟨size, sizeRead usable, rfl⟩
  | decaying size alpha =>
    have alphaRead : readAlpha (writePlain alpha).toList = .ok alpha :=
      readAlpha_eq_ok_iff.2 ⟨back, usable.2⟩
    exact bind_eq_ok_iff.2 ⟨size, sizeRead usable.1, bind_eq_ok_iff.2 ⟨alpha, alphaRead, rfl⟩⟩

theorem read_written {spec : Spec} (usable : spec.IsUsable) (back : spec.ReadsBack) :
    read spec.written = .ok spec := by
  rw [read_written_eq_ofParts usable, ofParts_writtenParts usable back]

end Spec

/-- Descriptions of samples can be used, written and read back. Each one that is accepted has a
size of at least one and, if it decays, a positive finite strength; its written form is read as the
same description; and neither the case of ASCII letters nor blanks around the parts between the
commas change what is read. Conversely each description with such a size and strength is what its
written form is read as. Of the text of a strength it is assumed that it is read back. -/
theorem descriptions_read_back :
    (∀ text spec, Spec.read text = .ok spec →
      spec.IsUsable ∧
      (spec.ReadsBack → Spec.read spec.written = .ok spec) ∧
      (∀ other : String, SameLetters text.toList other.toList → Spec.read other = .ok spec) ∧
      ∀ spaced : String,
        List.Forall₂ IsPadded (pieces ',' text.toList) (pieces ',' spaced.toList) →
        Spec.read spaced = .ok spec) ∧
    ∀ spec : Spec, spec.IsUsable → spec.ReadsBack → Spec.read spec.written = .ok spec := by
  refine ⟨fun text spec accepted => ?_, fun spec => Spec.read_written⟩
  have usable : spec.IsUsable := Spec.isUsable_of_ofParts accepted
  refine ⟨usable, Spec.read_written usable, fun other same => ?_, fun spaced blanks => ?_⟩
  · rw [Spec.read_congr_of_sameLetters same, accepted]
  · rw [Spec.read_congr_of_isPadded blanks, accepted]

/-- A description of a decaying sample, also with capital letters and with blanks. -/
theorem description_of_decaying_sample_reads_back :
    Spec.read "expdecay,20,0.1" = .ok (.decaying 20 0.1) ∧
      (Spec.decaying 20 0.1).IsUsable ∧
      Spec.read (Spec.decaying 20 0.1).written = .ok (.decaying 20 0.1) ∧
      Spec.read "ExpDecay,20,0.1" = .ok (.decaying 20 0.1) ∧
      Spec.read " expdecay\t, 20 ,0.1\n" = .ok (.decaying 20 0.1) := by
  have accepted : Spec.read "expdecay,20,0.1" = .ok (.decaying 20 0.1) := by rfl
  have back : (Spec.decaying 20 0.1).ReadsBack := by
    have shown : writePlain 0.1 = "0.1" := by decide +kernel
    rw [Spec.ReadsBack, shown]
    rfl
  obtain ⟨usable, -, letters, padded⟩ := descriptions_read_back.1 _ _ accepted
  have converse := descriptions_read_back.2 _ usable back
  refine ⟨accepted, usable, converse, letters _ ?_, padded _ ?_⟩
  · rw [SameLetters]
    decide +kernel
  · have parts : pieces ',' "expdecay,20,0.1".toList =
        ["expdecay".toList, "20".toList, "0.1".toList] := by decide +kernel
    have spaced : pieces ',' " expdecay\t, 20 ,0.1\n".toList =
        [" expdecay\t".toList, " 20 ".toList, "0.1\n".toList] := by decide +kernel
    rw [parts, spaced]
    refine .cons ⟨[' '], ['\t'], ?_, ?_, by decide⟩ (.cons ⟨[' '], [' '], ?_, ?_, by decide⟩
      (.cons ⟨[], ['\n'], ?_, ?_, by decide⟩ .nil))
    all_goals
      rw [IsBlankText, ← List.all_eq_true]
      rfl

end Telemetry.Sample
