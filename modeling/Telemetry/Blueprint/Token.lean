/-
This file divides the text of a structure's description into tokens: words,
literals and marks. Blanks and comments only separate tokens; a comment of
several lines may hold comments of the same sort. Inside a literal nothing is a
token of its own, so a bracket in quotation marks is no bracket.
-/

import Telemetry.Text.Digit
import Telemetry.Text.Word

namespace Telemetry.Blueprint

open Text

/-- A token. Of the literals only a text keeps its value. -/
inductive Token
  | word (text : List Char)
  | text (value : List Char)
  | number
  | literal
  | pathMark
  | arrow
  | mark (c : Char)
deriving DecidableEq, Repr

/-! ### Between tokens -/

/-- The text after a comment of several lines, of which `depth` are open. -/
def afterComment (depth : Nat) : List Char → List Char
  | '*' :: '/' :: rest => if depth ≤ 1 then rest else afterComment (depth - 1) rest
  | '/' :: '*' :: rest => afterComment (depth + 1) rest
  | _ :: rest => afterComment depth rest
  | [] => []

/-- Whether a comment is part of the description, given its text after the two characters that
open it: it starts with an exclamation mark, or with the second of them once more but not
twice. -/
def isDescriptive (second : Char) : List Char → Bool
  | [] => false
  | ['!'] => true
  | [c] => c = second
  | c :: next :: _ => c = '!' || (c = second && next ≠ second && next ≠ '/')

/-! ### Literals -/

/-- What stands before and after the closing mark. A backslash takes the next character with
it. -/
def untilMark (closing : Char) : List Char → List Char × List Char
  | [] => ([], [])
  | '\x5c' :: c :: rest =>
    let (inner, after) := untilMark closing rest
    ('\x5c' :: c :: inner, after)
  | c :: rest =>
    if c = closing then ([], rest)
    else
      let (inner, after) := untilMark closing rest
      (c :: inner, after)

/-- What stands before and after a quotation mark with the given number of hashes behind it. -/
def untilHashes (hashes : Nat) : List Char → List Char × List Char
  | [] => ([], [])
  | c :: rest =>
    if c = '\x22' ∧ rest.take hashes = List.replicate hashes '#' then ([], rest.drop hashes)
    else
      let (inner, after) := untilHashes hashes rest
      (c :: inner, after)

/-- The text without a word at its start, which a literal may carry as a suffix. -/
def withoutSuffix (text : List Char) : List Char :=
  if text.head?.any isWordStart then text.dropWhile isWordPart else text

/-- The blanks that lead from the end of a line to where the next one goes on. -/
def isIndentation (c : Char) : Bool :=
  c = ' ' || c = '\t' || c = '\n' || c = '\r'

/-- The characters for which the escapes of a text stand. A backslash at the end of a line joins
the line with the next, without the blanks between them. -/
def unescape : List Char → List Char
  | [] => []
  | '\x5c' :: c :: rest =>
    if c = 'n' then '\n' :: unescape rest
    else if c = 'r' then '\r' :: unescape rest
    else if c = 't' then '\t' :: unescape rest
    else if c = '0' then '\x00' :: unescape rest
    else if c = 'x' then Char.ofNat (hexadecimal (rest.take 2)) :: unescape (rest.drop 2)
    else if c = 'u' then
      Char.ofNat (hexadecimal (rest.takeWhile (· ≠ '\x7d'))) ::
        unescape ((rest.dropWhile (· ≠ '\x7d')).drop 1)
    else if c = '\n' ∨ c = '\r' then unescape (rest.dropWhile isIndentation)
    else c :: unescape rest
  | '\r' :: '\n' :: rest => '\n' :: unescape rest
  | c :: rest => c :: unescape rest
termination_by text => text.length
decreasing_by
  all_goals
    simp only [List.length_cons, List.length_drop]
    try have shorter := (List.dropWhile_sublist (l := rest) (· ≠ '\x7d')).length_le
    try have shorter' := (List.dropWhile_sublist (l := rest) isIndentation).length_le
    omega

/-- The text between quotation marks with hashes, if one starts here, and what follows it. -/
def rawText? (text : List Char) : Option (List Char × List Char) :=
  let hashes := (text.takeWhile (· = '#')).length
  match text.drop hashes with
  | '\x22' :: rest =>
    let (inner, after) := untilHashes hashes rest
    some (inner, withoutSuffix after)
  | _ => none

/-- What follows a text between quotation marks. -/
def afterText (rest : List Char) : List Char :=
  withoutSuffix (untilMark '\x22' rest).2

/-- What follows a character between single quotation marks, if one stands here. -/
def afterCharacter? : List Char → Option (List Char)
  | '\x5c' :: _ :: rest => some (withoutSuffix (untilMark '\x27' rest).2)
  | _ :: '\x27' :: rest => some (withoutSuffix rest)
  | _ => none

/-- A literal that starts with a letter, and what follows it. -/
def lettered? (c : Char) (rest : List Char) : Option (Token × List Char) :=
  match c, rest with
  | 'r', text => (rawText? text).map fun halves => (.text halves.1, halves.2)
  | 'b', '\x27' :: text => (afterCharacter? text).map fun after => (.literal, after)
  | 'b', '\x22' :: text => some (.literal, afterText text)
  | 'c', '\x22' :: text => some (.literal, afterText text)
  | 'b', 'r' :: text => (rawText? text).map fun halves => (.literal, halves.2)
  | 'c', 'r' :: text => (rawText? text).map fun halves => (.literal, halves.2)
  | _, _ => none

/-- What stands, as a whole, for a literal that could not be read. -/
def unreadable : List Char :=
  "(/*ERROR*/)".toList

/-- A round bracket, or the literal that starts with one, and what follows it. -/
def takeBracket (rest : List Char) : Token × List Char :=
  if unreadable.isPrefixOf ('(' :: rest) then (.literal, rest.drop (unreadable.length - 1))
  else (.mark '(', rest)

/-! ### Tokens -/

/-- A word, and what follows it. A word may be escaped by the letter r and a hash. -/
def takeWord (c : Char) (rest : List Char) : Token × List Char :=
  match c, rest with
  | 'r', '#' :: text =>
    if text.head?.any isWordStart then
      (.word ('r' :: '#' :: text.takeWhile isWordPart), text.dropWhile isWordPart)
    else (.word ['r'], '#' :: text)
  | _, _ => (.word (c :: rest.takeWhile isWordPart), rest.dropWhile isWordPart)

/-- What a text starts with, a token or something that separates tokens, and the text after
it. -/
def takeLexeme (c : Char) (rest : List Char) : Option Token × List Char :=
  match c, rest with
  | '/', '/' :: text =>
    (if isDescriptive '/' text then some (.mark '#') else none, text.dropWhile (· ≠ '\n'))
  | '/', '*' :: text =>
    (if isDescriptive '*' text then some (.mark '#') else none, afterComment 1 text)
  | ':', ':' :: text => (some .pathMark, text)
  | '-', '>' :: text => (some .arrow, text)
  | '(', text =>
    let (token, after) := takeBracket text
    (some token, after)
  | '\x22', text => (some (.text (unescape (untilMark '\x22' text).1)), afterText text)
  | '\x27', text =>
    match afterCharacter? text with
    | some after => (some .literal, after)
    | none => (some (.mark '\x27'), text)
  | _, _ =>
    if isSpace c then (none, rest)
    else if isAsciiDigit c then (some .number, rest.dropWhile isWordPart)
    else if !isWordStart c then (some (.mark c), rest)
    else
      match lettered? c rest with
      | some (token, after) => (some token, after)
      | none =>
        let (token, after) := takeWord c rest
        (some token, after)

theorem length_afterComment (depth : Nat) (text : List Char) :
    (afterComment depth text).length ≤ text.length := by
  fun_induction afterComment depth text <;> grind

theorem length_untilMark (closing : Char) (text : List Char) :
    (untilMark closing text).2.length ≤ text.length := by
  fun_induction untilMark closing text <;> grind

theorem length_untilHashes (hashes : Nat) (text : List Char) :
    (untilHashes hashes text).2.length ≤ text.length := by
  fun_induction untilHashes hashes text <;> grind

theorem length_dropWhile (test : Char → Bool) (text : List Char) :
    (text.dropWhile test).length ≤ text.length :=
  (List.dropWhile_sublist test).length_le

theorem length_withoutSuffix (text : List Char) : (withoutSuffix text).length ≤ text.length := by
  unfold withoutSuffix
  split
  · exact length_dropWhile isWordPart text
  · exact Nat.le_refl _

theorem length_of_rawText? {text inner after : List Char}
    (found : rawText? text = some (inner, after)) : after.length ≤ text.length := by
  simp only [rawText?] at found
  split at found
  · rename_i rest opens
    simp only [Option.some.injEq, Prod.mk.injEq] at found
    obtain ⟨_, rfl⟩ := found
    have dropped := congrArg List.length opens
    have whole := length_withoutSuffix
      (untilHashes (text.takeWhile (· = '#')).length rest).2
    have part := length_untilHashes (text.takeWhile (· = '#')).length rest
    simp only [List.length_drop, List.length_cons] at dropped
    omega
  · simp at found

theorem length_afterText (text : List Char) : (afterText text).length ≤ text.length :=
  Nat.le_trans (length_withoutSuffix _) (length_untilMark _ _)

theorem length_of_afterCharacter? {text after : List Char}
    (found : afterCharacter? text = some after) : after.length ≤ text.length := by
  unfold afterCharacter? at found
  split at found
  · rename_i rest
    simp only [Option.some.injEq] at found
    subst found
    have whole := length_withoutSuffix (untilMark '\x27' rest).2
    have part := length_untilMark '\x27' rest
    simp only [List.length_cons]
    omega
  · rename_i rest _
    simp only [Option.some.injEq] at found
    subst found
    have whole := length_withoutSuffix rest
    simp only [List.length_cons]
    omega
  · simp at found

theorem length_of_lettered? {c : Char} {rest after : List Char} {token : Token}
    (found : lettered? c rest = some (token, after)) : after.length ≤ rest.length := by
  unfold lettered? at found
  split at found
  · simp only [Option.map_eq_some_iff, Prod.mk.injEq] at found
    obtain ⟨halves, taken, _, rfl⟩ := found
    exact length_of_rawText? taken
  · simp only [Option.map_eq_some_iff, Prod.mk.injEq] at found
    obtain ⟨text, taken, _, rfl⟩ := found
    exact Nat.le_succ_of_le (length_of_afterCharacter? taken)
  · simp only [Option.some.injEq, Prod.mk.injEq] at found
    obtain ⟨_, rfl⟩ := found
    exact Nat.le_succ_of_le (length_afterText _)
  · simp only [Option.some.injEq, Prod.mk.injEq] at found
    obtain ⟨_, rfl⟩ := found
    exact Nat.le_succ_of_le (length_afterText _)
  · simp only [Option.map_eq_some_iff, Prod.mk.injEq] at found
    obtain ⟨halves, taken, _, rfl⟩ := found
    exact Nat.le_succ_of_le (length_of_rawText? taken)
  · simp only [Option.map_eq_some_iff, Prod.mk.injEq] at found
    obtain ⟨halves, taken, _, rfl⟩ := found
    exact Nat.le_succ_of_le (length_of_rawText? taken)
  · simp at found

theorem length_takeBracket (rest : List Char) : (takeBracket rest).2.length ≤ rest.length := by
  unfold takeBracket
  split
  · simp
  · exact Nat.le_refl _

theorem length_takeWord (c : Char) (rest : List Char) :
    (takeWord c rest).2.length ≤ rest.length := by
  unfold takeWord
  split
  · split
    · exact Nat.le_succ_of_le (length_dropWhile isWordPart _)
    · exact Nat.le_refl _
  · exact length_dropWhile isWordPart rest

theorem length_takeLexeme (c : Char) (rest : List Char) :
    (takeLexeme c rest).2.length ≤ rest.length := by
  unfold takeLexeme
  split
  · exact Nat.le_succ_of_le (length_dropWhile _ _)
  · exact Nat.le_succ_of_le (length_afterComment _ _)
  · exact Nat.le_succ _
  · exact Nat.le_succ _
  · exact length_takeBracket _
  · exact length_afterText _
  · split
    · rename_i found
      exact length_of_afterCharacter? found
    · exact Nat.le_refl _
  · split
    · exact Nat.le_refl _
    · split
      · exact length_dropWhile isWordPart rest
      · split
        · exact Nat.le_refl _
        · split
          · rename_i found
            exact length_of_lettered? found
          · exact length_takeWord c rest

/-- The tokens of a text. -/
def tokens : List Char → List Token
  | [] => []
  | c :: rest => (takeLexeme c rest).1.toList ++ tokens (takeLexeme c rest).2
termination_by text => text.length
decreasing_by
  have shorter := length_takeLexeme c rest
  simp only [List.length_cons]
  omega

end Telemetry.Blueprint
