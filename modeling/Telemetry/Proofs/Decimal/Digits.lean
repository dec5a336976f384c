/-
This file proves that the decimal digits of a number are digits, at least one,
and that reading them gives the number back, if it is within the limit. It also
tells which characters the text of a floating point number may hold: digits, a
point, a minus sign, the letter of an exponent, and those of the words of the
style.
-/

import Mathlib.Algebra.GroupWithZero.Nat
import Telemetry.Decimal.Reader
import Telemetry.Decimal.Style

namespace Telemetry.Decimal

open Text

/-! ### Single digits -/

/-- The character of each digit is a digit and has the value of the digit. -/
theorem digit_spec (value : Fin 10) :
    isAsciiDigit (Char.ofNat (48 + value)) ∧ digitValue (Char.ofNat (48 + value)) = value := by
  revert value
  decide

theorem isAsciiDigit_digit {value : Nat} (small : value < 10) :
    isAsciiDigit (Char.ofNat (48 + value)) :=
  (digit_spec ⟨value, small⟩).1

theorem digitValue_digit {value : Nat} (small : value < 10) :
    digitValue (Char.ofNat (48 + value)) = value :=
  (digit_spec ⟨value, small⟩).2

/-! ### The digits of a number -/

theorem digits_ne_nil (value : Nat) : digits value ≠ [] := by
  unfold digits
  split <;> simp

theorem isAsciiDigit_of_mem_digits {value : Nat} {c : Char} (member : c ∈ digits value) :
    isAsciiDigit c := by
  fun_induction digits value with
  | case1 value small =>
    rw [List.mem_singleton.1 member]
    exact isAsciiDigit_digit small
  | case2 value large inductionHypothesis =>
    rcases List.mem_append.1 member with earlier | last
    · exact inductionHypothesis earlier
    · rw [List.mem_singleton.1 last]
      exact isAsciiDigit_digit (Nat.mod_lt value (by decide))

/-- Reading the digits of a number gives the number. -/
theorem numberOfDigits_digits (value : Nat) : numberOfDigits (digits value) = value := by
  fun_induction digits value with
  | case1 value small => simp [numberOfDigits, digitValue_digit small]
  | case2 value large inductionHypothesis =>
    have last := digitValue_digit (Nat.mod_lt value (by decide : 0 < 10))
    rw [numberOfDigits, List.foldl_append, ← numberOfDigits, inductionHypothesis]
    simp only [List.foldl_cons, List.foldl_nil, last]
    exact Nat.div_add_mod value 10

theorem isAsciiDigit_of_mem_writeInt {value : Int} {c : Char} (member : c ∈ writeInt value) :
    isAsciiDigit c ∨ c = '-' := by
  unfold writeInt at member
  split at member
  · rcases List.mem_cons.1 member with rfl | digit
    · exact .inr rfl
    · exact .inl (isAsciiDigit_of_mem_digits digit)
  · exact .inl (isAsciiDigit_of_mem_digits member)

/-! ### Whole numbers -/

section Whole

variable {limit value : Nat} {text : List Char}

/-- Each digit that is read on top of a number moves it by one place. -/
theorem foldl_digitValue (value : Nat) (text : List Char) :
    text.foldl (fun value c => 10 * value + digitValue c) value =
      value * 10 ^ text.length + numberOfDigits text := by
  induction text generalizing value with
  | nil => simp [numberOfDigits]
  | cons c rest inductionHypothesis =>
    have first : numberOfDigits (c :: rest) =
        (10 * 0 + digitValue c) * 10 ^ rest.length + numberOfDigits rest :=
      inductionHypothesis _
    rw [List.foldl_cons, inductionHypothesis, first, List.length_cons, Nat.pow_succ]
    grind

theorem numberOfDigits_append (first second : List Char) :
    numberOfDigits (first ++ second) =
      numberOfDigits first * 10 ^ second.length + numberOfDigits second := by
  rw [numberOfDigits, List.foldl_append, foldl_digitValue, ← numberOfDigits]

theorem readDigits_eq_ok (shown : ∀ c ∈ text, isAsciiDigit c)
    (fits : text.foldl (fun value c => 10 * value + digitValue c) value ≤ limit) :
    readDigits limit value text =
      .ok (text.foldl (fun value c => 10 * value + digitValue c) value) := by
  induction text generalizing value with
  | nil => rfl
  | cons c rest inductionHypothesis =>
    obtain ⟨digit, others⟩ := List.forall_mem_cons.1 shown
    have below : 10 * value + digitValue c ≤ limit := by
      rw [List.foldl_cons, foldl_digitValue] at fits
      exact Nat.le_trans (Nat.le_mul_of_pos_right _ (Nat.pow_pos (by decide)))
        (Nat.le_trans (Nat.le_add_right _ _) fits)
    rw [readDigits, if_neg (by simp [digit]), if_neg (Nat.not_lt.2 below)]
    exact inductionHypothesis others fits

theorem le_of_readDigits {number : Nat} (start : value ≤ limit)
    (read : readDigits limit value text = .ok number) : number ≤ limit := by
  induction text generalizing value with
  | nil =>
    cases read
    exact start
  | cons c rest inductionHypothesis =>
    rw [readDigits] at read
    split at read
    · cases read
    · split at read
      · cases read
      · exact inductionHypothesis (by omega) read

/-- A run of digits is read as the number that it stands for. -/
theorem readWhole_eq_ok (nonempty : text ≠ []) (shown : ∀ c ∈ text, isAsciiDigit c)
    (fits : numberOfDigits text ≤ limit) : readWhole limit text = .ok (numberOfDigits text) := by
  have notPlus : '+' ∉ text := fun member => absurd (shown '+' member) (by decide)
  unfold readWhole
  split
  · exact absurd rfl nonempty
  · exact absurd List.mem_cons_self notPlus
  · exact absurd List.mem_cons_self notPlus
  · exact readDigits_eq_ok shown fits

theorem le_of_readWhole {number : Nat} (read : readWhole limit text = .ok number) :
    number ≤ limit := by
  unfold readWhole at read
  split at read
  · cases read
  · cases read
  · exact le_of_readDigits (Nat.zero_le limit) read
  · exact le_of_readDigits (Nat.zero_le limit) read

theorem readWhole_digits (fits : value ≤ limit) : readWhole limit (digits value) = .ok value := by
  have same := numberOfDigits_digits value
  rw [readWhole_eq_ok (digits_ne_nil value) (fun c => isAsciiDigit_of_mem_digits)
    (Nat.le_trans (Nat.le_of_eq same) fits), same]

end Whole

/-! ### Floating point numbers -/

/-- The characters of finite numbers. -/
def isNumberChar (c : Char) : Bool :=
  isAsciiDigit c || c = '.' || c = '-' || c = 'e'

theorem isNumberChar_of_isAsciiDigit {c : Char} (digit : isAsciiDigit c) : isNumberChar c := by
  simp [isNumberChar, digit]

namespace NumberStyle

variable {style : NumberStyle} {c : Char}

theorem isNumberChar_of_mem_full {number : Scientific} (member : c ∈ style.full number) :
    isNumberChar c ∨ c ∈ style.wholeMark := by
  have digit {c : Char} (member : c ∈ digits number.coefficient) : isNumberChar c :=
    isNumberChar_of_isAsciiDigit (isAsciiDigit_of_mem_digits member)
  have zero {count : Nat} {c : Char} (member : c ∈ List.replicate count '0') : isNumberChar c := by
    rw [List.eq_of_mem_replicate member]
    rfl
  unfold full at member
  dsimp only at member
  split at member
  · rcases List.mem_append.1 member with shown | mark
    · rcases List.mem_append.1 shown with own | filled
      · exact .inl (digit own)
      · exact .inl (zero filled)
    · exact .inr mark
  · left
    split at member
    · rcases List.mem_append.1 member with before | rest
      · exact digit (List.mem_of_mem_take before)
      · rcases List.mem_cons.1 rest with rfl | after
        · rfl
        · exact digit (List.mem_of_mem_drop after)
    · rcases List.mem_append.1 member with start | own
      · simp only [List.mem_cons] at start
        rcases start with rfl | rfl | filled
        · rfl
        · rfl
        · exact zero filled
      · exact digit own

theorem isNumberChar_of_mem_withExponent {number : Scientific}
    (member : c ∈ withExponent number) : isNumberChar c := by
  have digit {c : Char} (member : c ∈ digits number.coefficient) : isNumberChar c :=
    isNumberChar_of_isAsciiDigit (isAsciiDigit_of_mem_digits member)
  have exponent {value : Int} {c : Char} (member : c ∈ 'e' :: writeInt value) :
      isNumberChar c := by
    rcases List.mem_cons.1 member with rfl | part
    · rfl
    · rcases isAsciiDigit_of_mem_writeInt part with digit | rfl
      · exact isNumberChar_of_isAsciiDigit digit
      · rfl
  unfold withExponent at member
  dsimp only at member
  split at member
  · exact exponent member
  · rename_i same
    rw [same] at digit
    rcases List.mem_cons.1 member with rfl | rest
    · exact digit List.mem_cons_self
    · exact exponent rest
  · rename_i same
    rw [same] at digit
    rcases List.mem_append.1 member with front | rest
    · simp only [List.mem_cons] at front
      rcases front with rfl | rfl | part
      · exact digit List.mem_cons_self
      · rfl
      · exact digit (List.mem_cons_of_mem _ part)
    · exact exponent rest

theorem mem_writeMagnitude {number : Magnitude} (member : c ∈ style.writeMagnitude number) :
    isNumberChar c ∨ c ∈ style.wholeMark := by
  unfold writeMagnitude at member
  dsimp only at member
  split at member
  · exact isNumberChar_of_mem_full member
  · exact .inl (isNumberChar_of_mem_withExponent member)

/-- The characters that the style itself gives. -/
def ownChars (style : NumberStyle) : List Char :=
  style.wholeMark ++ style.notANumber ++ style.infinity ++ style.negativeInfinity

/-- The text of a number consists of the characters of finite numbers and of those of the style. -/
theorem mem_write {decoded : Decoded} (member : c ∈ style.write decoded) :
    isNumberChar c ∨ c ∈ style.ownChars := by
  have mark (member : isNumberChar c ∨ c ∈ style.wholeMark) :
      isNumberChar c ∨ c ∈ style.ownChars :=
    member.imp_right fun own => by simp [ownChars, own]
  cases decoded with
  | notANumber => exact .inr (by simp_all [write, ownChars])
  | infinite negative => exact .inr (by cases negative <;> simp_all [write, ownChars])
  | zero negative =>
    have zero : c = '-' ∨ c = '0' ∨ c ∈ style.wholeMark := by
      cases negative
      · exact .inr (List.mem_cons.1 member)
      · exact (List.mem_cons.1 member).imp_right List.mem_cons.1
    rcases zero with rfl | rfl | own
    · exact .inl rfl
    · exact .inl rfl
    · exact mark (.inr own)
  | finite negative number =>
    cases negative with
    | false => exact mark (mem_writeMagnitude member)
    | true =>
      rcases List.mem_cons.1 member with rfl | part
      · exact .inl rfl
      · exact mark (mem_writeMagnitude part)

end NumberStyle

end Telemetry.Decimal
