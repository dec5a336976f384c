/-
This file says what a plain path is as a text, words with path marks between them
and spacing wherever it may stand, and proves which tokens it has. Spacing gives
no tokens, and every word gives one, since the character after it, if there is
one, cannot go on with it. The last segment of such a path is its last word,
whatever stands in front of it.
-/

import Mathlib.Data.List.Basic
import Telemetry.Blueprint.TypeText
import Telemetry.Proofs.Text.Cutting
import Telemetry.Proofs.Text.Trimming

namespace Telemetry.Blueprint

open Text

/-! ### Texts of paths -/

/-- Spacing between tokens. -/
structure Gap where
  text : List Char
  space : ∀ c ∈ text, isSpace c

/-- A text that is one word. An escaped word starts with the letter r and a hash. -/
inductive IsWord : List Char → Prop
  | plain {c : Char} {rest : List Char} (start : isWordStart c)
    (parts : ∀ part ∈ rest, isWordPart part) : IsWord (c :: rest)
  | escaped {c : Char} {rest : List Char} (start : isWordStart c)
    (parts : ∀ part ∈ rest, isWordPart part) : IsWord ('r' :: '#' :: c :: rest)

/-- An identifier: a word, and none that starts a bound. -/
structure Identifier where
  text : List Char
  isWord : IsWord text
  notBound : text ∉ boundWords

/-- An identifier with the spacing around it. -/
structure SpacedName where
  before : Gap
  name : Identifier
  after : Gap

/-- The text of an identifier with the spacing around it. -/
def SpacedName.text (spaced : SpacedName) : List Char :=
  spaced.before.text ++ (spaced.name.text ++ spaced.after.text)

/-- A path without arguments. One that starts with a path mark may have spacing in front of it. -/
structure PlainPath where
  root : Option Gap
  parents : List SpacedName
  last : SpacedName

namespace PlainPath

/-- The text in front of the last word and its spacing. -/
def stem (path : PlainPath) : List Char :=
  (path.root.map fun gap => gap.text ++ [':', ':']).getD [] ++
    path.parents.flatMap fun parent => parent.text ++ [':', ':']

/-- The text of a path. -/
def text (path : PlainPath) : List Char :=
  path.stem ++ path.last.text

/-- The tokens in front of the last word. -/
def stemTokens (path : PlainPath) : List Token :=
  (path.root.map fun _ => [Token.pathMark]).getD [] ++
    path.parents.flatMap fun parent => [.word parent.name.text, .pathMark]

/-- The tokens of a path. -/
def tokens (path : PlainPath) : List Token :=
  path.stemTokens ++ [.word path.last.name.text]

end PlainPath

/-! ### Characters -/

theorem isWordPart_of_isSpace {c : Char} (space : isSpace c) : isWordPart c = false := by
  by_cases ascii : isAscii c
  · exact forall_of_isAscii (fun c => isSpace c → isWordPart c = false) (by decide +kernel) ascii
      space
  · rw [isWordPart, if_neg ascii, space]
    rfl

/-- Nothing in the text goes on with a word that stands before it or makes a literal of it. -/
def EndsWord (tail : List Char) : Prop :=
  ∀ c, tail.head? = some c → isWordPart c = false ∧ c ∉ ['#', '\x22', '\x27']

theorem endsWord_nil : EndsWord [] :=
  nofun

theorem endsWord_cons {c : Char} (part : isWordPart c = false) (quote : c ∉ ['#', '\x22', '\x27'])
    (tail : List Char) : EndsWord (c :: tail) := by
  rintro other ⟨⟩
  exact ⟨part, quote⟩

theorem endsWord_gap (gap : Gap) {tail : List Char} (ends : EndsWord tail) :
    EndsWord (gap.text ++ tail) := by
  obtain ⟨text, space⟩ := gap
  cases text with
  | nil => exact ends
  | cons c rest =>
    have first : isSpace c := space c List.mem_cons_self
    refine endsWord_cons (isWordPart_of_isSpace first) ?_ _
    intro quote
    simp only [List.mem_cons, List.not_mem_nil, or_false] at quote
    rcases quote with rfl | rfl | rfl <;> cases first

/-! ### Lexemes -/

theorem takeLexeme_space {c : Char} (space : isSpace c) (rest : List Char) :
    takeLexeme c rest = (none, rest) := by
  unfold takeLexeme
  split
  all_goals try cases space
  exact if_pos space

theorem rawText?_eq_none {text : List Char}
    (plain : ∀ c, text.head? = some c → c ≠ '#' ∧ c ≠ '\x22') : rawText? text = none := by
  cases text with
  | nil => rfl
  | cons c rest =>
    obtain ⟨hash, quote⟩ := plain c rfl
    unfold rawText?
    rw [List.takeWhile_cons_of_neg (by simpa using hash)]
    dsimp only [List.length_nil, List.drop_zero]
    split
    · rename_i opens
      exact absurd (List.cons.inj opens).1 quote
    · rfl

theorem tokens_cons (c : Char) (rest : List Char) :
    tokens (c :: rest) = (takeLexeme c rest).1.toList ++ tokens (takeLexeme c rest).2 := by
  rw [tokens]

theorem tokens_pathMark (rest : List Char) :
    tokens (':' :: ':' :: rest) = .pathMark :: tokens rest := by
  rw [tokens_cons]
  rfl

theorem tokens_gap (gap : Gap) (tail : List Char) : tokens (gap.text ++ tail) = tokens tail := by
  obtain ⟨text, space⟩ := gap
  induction text with
  | nil => rfl
  | cons c rest inductionHypothesis =>
    obtain ⟨first, others⟩ := List.forall_mem_cons.1 space
    rw [List.cons_append, tokens_cons, takeLexeme_space first]
    exact inductionHypothesis others

section Words

variable {c : Char} {rest tail : List Char} (parts : ∀ part ∈ rest, isWordPart part)
  (ends : EndsWord tail)

include parts ends

theorem head?_append_of_endsWord :
    ∀ first, (rest ++ tail).head? = some first → first ∉ ['#', '\x22', '\x27'] := by
  intro first found
  cases rest with
  | nil => exact (ends first found).2
  | cons part more =>
    cases found
    have known := parts first List.mem_cons_self
    intro quote
    simp only [List.mem_cons, List.not_mem_nil, or_false] at quote
    rcases quote with rfl | rfl | rfl <;> cases known

theorem rawText?_append : rawText? (rest ++ tail) = none := by
  refine rawText?_eq_none fun first found => ?_
  have known := head?_append_of_endsWord parts ends first found
  simp only [List.mem_cons, List.not_mem_nil, or_false, not_or] at known
  exact ⟨known.1, known.2.1⟩

theorem lettered?_append (c : Char) : lettered? c (rest ++ tail) = none := by
  have plain := head?_append_of_endsWord parts ends
  -- In a literal of two letters the second one belongs to the word.
  have second (text : List Char) (shape : rest ++ tail = 'r' :: text) : rawText? text = none := by
    cases rest with
    | nil =>
      have known := (ends 'r' (by rw [← List.nil_append tail, shape]; rfl)).1
      cases known
    | cons part more =>
      rw [← (List.cons.inj shape).2]
      exact rawText?_append (fun other member => parts other (List.mem_cons_of_mem _ member)) ends
  unfold lettered?
  split
  · rw [rawText?_append parts ends]
    rfl
  · rename_i shape
    exact absurd (by decide) (plain '\x27' (by rw [shape]; rfl))
  · rename_i shape
    exact absurd (by decide) (plain '\x22' (by rw [shape]; rfl))
  · rename_i shape
    exact absurd (by decide) (plain '\x22' (by rw [shape]; rfl))
  · rename_i shape
    rw [second _ shape]
    rfl
  · rename_i shape
    rw [second _ shape]
    rfl
  · rfl

theorem takeWhile_append_of_endsWord : (rest ++ tail).takeWhile isWordPart = rest :=
  takeWhile_append_of_ends parts fun c first => (ends c first).1

theorem dropWhile_append_of_endsWord : (rest ++ tail).dropWhile isWordPart = tail :=
  dropWhile_append_of_ends parts fun c first => (ends c first).1

theorem takeWord_append (c : Char) :
    takeWord c (rest ++ tail) = (.word (c :: rest), tail) := by
  unfold takeWord
  split
  · rename_i shape
    exact absurd (by decide)
      (head?_append_of_endsWord parts ends '#' (by rw [shape]; rfl))
  · rw [takeWhile_append_of_endsWord parts ends, dropWhile_append_of_endsWord parts ends]

end Words

/-- A character that starts a word starts no other lexeme but a literal. -/
theorem takeLexeme_of_isWordStart {c : Char} (start : isWordStart c) (rest : List Char) :
    takeLexeme c rest =
      match lettered? c rest with
      | some (token, after) => (some token, after)
      | none => (some (takeWord c rest).1, (takeWord c rest).2) := by
  have parts : isWordPart c = true ∧ isAsciiDigit c = false := by
    simpa [isWordStart] using start
  have notSpace : isSpace c = false := by
    by_contra space
    rw [isWordPart_of_isSpace (Bool.not_eq_false _ ▸ space)] at parts
    exact Bool.false_ne_true parts.1
  unfold takeLexeme
  split
  all_goals try cases start
  rw [notSpace, parts.2, start]
  rfl

theorem rawText?_of_isWordStart {c : Char} (start : isWordStart c) (rest : List Char) :
    rawText? ('#' :: c :: rest) = none := by
  have plain : c ≠ '#' ∧ c ≠ '\x22' := by
    constructor <;> rintro rfl <;> cases start
  have hashes : ('#' :: c :: rest).takeWhile (· = '#') = ['#'] := by
    rw [List.takeWhile_cons_of_pos rfl, List.takeWhile_cons_of_neg (by simpa using plain.1)]
  unfold rawText?
  rw [hashes]
  dsimp only [List.length_cons, List.length_nil, List.drop_succ_cons, List.drop_zero]
  split
  · rename_i opens
    exact absurd (List.cons.inj opens).1 plain.2
  · rfl

/-- A word is one token, if what follows ends it. -/
theorem tokens_word {word tail : List Char} (isWord : IsWord word) (ends : EndsWord tail) :
    tokens (word ++ tail) = .word word :: tokens tail := by
  cases isWord with
  | @plain c rest start parts =>
    rw [List.cons_append, tokens_cons, takeLexeme_of_isWordStart start, lettered?_append parts ends,
      takeWord_append parts ends]
    rfl
  | @escaped c rest start parts =>
    have allParts : ∀ part ∈ c :: rest, isWordPart part :=
      List.forall_mem_cons.2 ⟨(Bool.and_eq_true_iff.1 start).1, parts⟩
    have notRaw : lettered? 'r' ('#' :: (c :: rest ++ tail)) = none := by
      show (rawText? _).map _ = none
      rw [List.cons_append, rawText?_of_isWordStart start]
      rfl
    have word : takeWord 'r' ('#' :: (c :: rest ++ tail)) =
        (.word ('r' :: '#' :: c :: rest), tail) := by
      show (if (c :: rest ++ tail).head?.any isWordStart then
        (Token.word ('r' :: '#' :: (c :: rest ++ tail).takeWhile isWordPart),
          (c :: rest ++ tail).dropWhile isWordPart) else _) = _
      rw [takeWhile_append_of_endsWord allParts ends, dropWhile_append_of_endsWord allParts ends]
      exact if_pos start
    show tokens ('r' :: '#' :: (c :: rest ++ tail)) = _
    rw [tokens_cons, takeLexeme_of_isWordStart (by decide), notRaw, word]
    rfl

theorem tokens_spacedName (spaced : SpacedName) {tail : List Char} (ends : EndsWord tail) :
    tokens (spaced.text ++ tail) = .word spaced.name.text :: tokens tail := by
  rw [SpacedName.text, List.append_assoc, tokens_gap, List.append_assoc,
    tokens_word spaced.name.isWord (endsWord_gap spaced.after ends), tokens_gap]

theorem tokens_stem (path : PlainPath) (tail : List Char) :
    tokens (path.stem ++ tail) = path.stemTokens ++ tokens tail := by
  obtain ⟨root, parents, last⟩ := path
  have marked : tokens ((parents.flatMap fun parent => parent.text ++ [':', ':']) ++ tail) =
      (parents.flatMap fun parent => [Token.word parent.name.text, .pathMark]) ++ tokens tail := by
    induction parents with
    | nil => rfl
    | cons parent rest inductionHypothesis =>
      have ends (rest : List Char) : EndsWord ([':', ':'] ++ rest) :=
        endsWord_cons (by decide) (by decide) _
      rw [List.flatMap_cons, List.append_assoc, List.append_assoc,
        tokens_spacedName parent (ends _), List.cons_append, List.cons_append, List.nil_append,
        tokens_pathMark, inductionHypothesis]
      rfl
  rw [PlainPath.stem, PlainPath.stemTokens]
  cases root with
  | none => exact marked
  | some gap =>
    show tokens (gap.text ++ [':', ':'] ++ _ ++ tail) = _
    rw [List.append_assoc, List.append_assoc, tokens_gap, List.cons_append, List.cons_append,
      List.nil_append, tokens_pathMark, marked]
    rfl

/-- The tokens of a path are its words with path marks between them. -/
theorem tokens_plainPath (path : PlainPath) {tail : List Char} (ends : EndsWord tail) :
    tokens (path.text ++ tail) = path.tokens ++ tokens tail := by
  rw [PlainPath.text, List.append_assoc, tokens_stem, tokens_spacedName path.last ends,
    PlainPath.tokens, List.append_assoc, List.singleton_append]

/-! ### Last segments -/

theorem lastOfPath_of_pathMark {text rest : List Token} {segment : Segment}
    (found : firstSegment? text = some (segment, .pathMark :: rest)) :
    lastOfPath text = lastOfPath rest := by
  rw [lastOfPath]
  split <;> simp_all

theorem lastOfPath_of_end {text : List Token} {segment : Segment}
    (found : firstSegment? text = some (segment, [])) : lastOfPath text = some segment := by
  rw [lastOfPath]
  split <;> simp_all

theorem lastOfPath_parents (parents : List SpacedName) (word : List Char) (rest : List Token) :
    lastOfPath ((parents.flatMap fun parent => [.word parent.name.text, .pathMark]) ++
      .word word :: rest) = lastOfPath (.word word :: rest) := by
  induction parents with
  | nil => rfl
  | cons parent others inductionHypothesis =>
    rw [← inductionHypothesis]
    refine @lastOfPath_of_pathMark _ _ ⟨parent.name.text, .absent⟩ ?_
    cases others <;> rfl

/-- What stands in front of the last word of a path does not matter for its last segment. -/
theorem lastSegment?_plainPath (path : PlainPath) (rest : List Token) :
    lastSegment? (path.tokens ++ rest) = lastOfPath (.word path.last.name.text :: rest) := by
  obtain ⟨root, parents, last⟩ := path
  have free (name : Identifier) (rest : List Token) : ¬ isBound (.word name.text :: rest) := by
    rw [isBound, List.contains_iff_mem]
    exact name.notBound
  have segments := lastOfPath_parents parents last.name.text rest
  rw [PlainPath.tokens, PlainPath.stemTokens, List.append_assoc, List.append_assoc,
    List.singleton_append]
  cases root with
  | some gap => exact segments
  | none =>
    rw [← segments]
    cases parents with
    | nil => exact if_neg (free last.name _)
    | cons parent others => exact if_neg (free parent.name _)

end Telemetry.Blueprint
