/-
This file says what a type is as a text, a plain path with angle brackets behind
it at most, and what its tokens say of it. A path mark may stand in front of the
brackets; in them there is nothing, or one path, which may have empty brackets of
its own and a comma behind it. None of these marks matters for what the tokens
say: that goes by the last word of the path and of its argument alone.
-/

import Telemetry.Proofs.Blueprint.Paths

namespace Telemetry.Blueprint

open Text

/-! ### Types -/

/-- The path mark that may stand in front of brackets, with the spacing behind it. -/
def leadText (lead : Option Gap) : List Char :=
  (lead.map fun gap => ':' :: ':' :: gap.text).getD []

/-- Angle brackets with nothing but spacing in them. -/
structure EmptyBrackets where
  lead : Option Gap
  inside : Gap
  after : Gap

/-- The text of empty brackets. -/
def EmptyBrackets.text (brackets : EmptyBrackets) : List Char :=
  leadText brackets.lead ++ '<' :: (brackets.inside.text ++ '>' :: brackets.after.text)

/-- The empty brackets that may stand behind an argument. -/
def emptyText (empty : Option EmptyBrackets) : List Char :=
  (empty.map EmptyBrackets.text).getD []

/-- The comma that may stand behind an argument, with the spacing behind it. -/
def commaText (comma : Option Gap) : List Char :=
  (comma.map fun gap => ',' :: gap.text).getD []

/-- What stands in angle brackets: spacing, or one path. Behind the path there may be empty brackets
of its own, and then a comma with spacing. -/
inductive Filling
  | spacing (gap : Gap)
  | path (argument : PlainPath) (empty : Option EmptyBrackets) (comma : Option Gap)

/-- The text in angle brackets. -/
def Filling.text : Filling → List Char
  | .spacing gap => gap.text
  | .path argument empty comma => argument.text ++ (emptyText empty ++ commaText comma)

/-- Angle brackets behind a path. -/
structure Brackets where
  lead : Option Gap
  filling : Filling
  after : Gap

/-- The text of brackets. -/
def Brackets.text (brackets : Brackets) : List Char :=
  leadText brackets.lead ++ '<' :: (brackets.filling.text ++ '>' :: brackets.after.text)

/-- A type that is a plain path, with at most one argument, which is a plain path too. -/
structure PathType where
  path : PlainPath
  brackets : Option Brackets

/-- The text of the type. -/
def PathType.text (type : PathType) : String :=
  String.ofList (type.path.text ++ (type.brackets.map Brackets.text).getD [])

/-! ### Reading by tokens -/

/-- The tokens of a path mark in front of brackets. -/
def leadTokens (lead : Option Gap) : List Token :=
  (lead.map fun _ => [Token.pathMark]).getD []

/-- The tokens of empty brackets. -/
def EmptyBrackets.tokens (brackets : EmptyBrackets) : List Token :=
  leadTokens brackets.lead ++ [.mark '<', .mark '>']

/-- The tokens of the empty brackets behind an argument. -/
def emptyTokens (empty : Option EmptyBrackets) : List Token :=
  (empty.map EmptyBrackets.tokens).getD []

/-- The tokens of the comma behind an argument. -/
def commaTokens (comma : Option Gap) : List Token :=
  (comma.map fun _ => [Token.mark ',']).getD []

/-- The tokens in angle brackets. -/
def Filling.tokens : Filling → List Token
  | .spacing _ => []
  | .path argument empty comma => argument.tokens ++ (emptyTokens empty ++ commaTokens comma)

/-- The arguments of the last segment. -/
def PathType.arguments (type : PathType) : Arguments :=
  match type.brackets with
  | none => .absent
  | some brackets => .angled brackets.filling.tokens

theorem tokens_mark_left (rest : List Char) : tokens ('<' :: rest) = .mark '<' :: tokens rest := by
  rw [tokens_cons]
  rfl

theorem tokens_mark_right (rest : List Char) :
    tokens ('>' :: rest) = .mark '>' :: tokens rest := by
  rw [tokens_cons]
  rfl

theorem tokens_mark_comma (rest : List Char) :
    tokens (',' :: rest) = .mark ',' :: tokens rest := by
  rw [tokens_cons]
  rfl

theorem tokens_gap_end (gap : Gap) : tokens gap.text = [] := by
  have known := tokens_gap gap []
  rwa [List.append_nil, tokens] at known

/-- Brackets end the word in front of them, with a path mark or without. -/
theorem endsWord_lead (lead : Option Gap) (rest : List Char) :
    EndsWord (leadText lead ++ '<' :: rest) := by
  cases lead <;> exact endsWord_cons (by decide) (by decide) _

theorem tokens_lead (lead : Option Gap) (rest : List Char) :
    tokens (leadText lead ++ '<' :: rest) = leadTokens lead ++ .mark '<' :: tokens rest := by
  cases lead with
  | none => exact tokens_mark_left rest
  | some gap =>
    show tokens (':' :: ':' :: (gap.text ++ '<' :: rest)) = .pathMark :: .mark '<' :: tokens rest
    rw [tokens_pathMark, tokens_gap, tokens_mark_left]

theorem endsWord_empty (empty : Option EmptyBrackets) {rest : List Char} (ends : EndsWord rest) :
    EndsWord (emptyText empty ++ rest) := by
  cases empty with
  | none => exact ends
  | some brackets =>
    show EndsWord (brackets.text ++ rest)
    rw [EmptyBrackets.text, List.append_assoc]
    exact endsWord_lead brackets.lead _

theorem tokens_empty (empty : Option EmptyBrackets) (rest : List Char) :
    tokens (emptyText empty ++ rest) = emptyTokens empty ++ tokens rest := by
  cases empty with
  | none => rfl
  | some brackets =>
    show tokens (brackets.text ++ rest) = brackets.tokens ++ tokens rest
    rw [EmptyBrackets.text, List.append_assoc, List.cons_append, List.append_assoc,
      List.cons_append, tokens_lead, tokens_gap, tokens_mark_right, tokens_gap,
      EmptyBrackets.tokens, List.append_assoc]
    rfl

theorem endsWord_comma (comma : Option Gap) (tail : List Char) :
    EndsWord (commaText comma ++ '>' :: tail) := by
  cases comma <;> exact endsWord_cons (by decide) (by decide) _

theorem tokens_comma (comma : Option Gap) (tail : List Char) :
    tokens (commaText comma ++ '>' :: tail) = commaTokens comma ++ .mark '>' :: tokens tail := by
  cases comma with
  | none => exact tokens_mark_right tail
  | some gap =>
    show tokens (',' :: (gap.text ++ '>' :: tail)) = .mark ',' :: .mark '>' :: tokens tail
    rw [tokens_mark_comma, tokens_gap, tokens_mark_right]

theorem tokens_filling (filling : Filling) (tail : List Char) :
    tokens (filling.text ++ '>' :: tail) = filling.tokens ++ .mark '>' :: tokens tail := by
  cases filling with
  | spacing gap =>
    rw [Filling.text, tokens_gap, tokens_mark_right]
    rfl
  | path argument empty comma =>
    rw [Filling.text, List.append_assoc, List.append_assoc,
      tokens_plainPath argument (endsWord_empty empty (endsWord_comma comma tail)), tokens_empty,
      tokens_comma, Filling.tokens, List.append_assoc, List.append_assoc]

/-- A path has words and path marks, and no other marks. -/
theorem PlainPath.ne_mark_of_mem_tokens {path : PlainPath} {token : Token}
    (member : token ∈ path.tokens) (c : Char) : token ≠ .mark c := by
  rintro rfl
  obtain ⟨root, parents, last⟩ := path
  simp only [tokens, stemTokens, List.mem_append, List.mem_flatMap, List.mem_cons,
    List.not_mem_nil, reduceCtorEq, or_self, and_false, exists_false, or_false] at member
  cases root with
  | none => cases member
  | some gap => cases List.mem_singleton.1 member

theorem awaitedAfter_of_ne_mark {token : Token} (plain : ∀ c, token ≠ .mark c)
    (awaited : List Char) : awaitedAfter awaited token = awaited := by
  cases token with
  | mark c => exact absurd rfl (plain c)
  | _ => rfl

theorem enclosed_append {inner : List Token} (plain : ∀ token ∈ inner, ∀ c, token ≠ .mark c)
    {closing : Char} (rest : List Token) :
    enclosed [closing] (inner ++ rest) =
      (enclosed [closing] rest).map fun halves => (inner ++ halves.1, halves.2) := by
  induction inner with
  | nil => exact Option.map_id'.symm
  | cons token more inductionHypothesis =>
    obtain ⟨first, others⟩ := List.forall_mem_cons.1 plain
    rw [List.cons_append, enclosed, awaitedAfter_of_ne_mark first, inductionHypothesis others]
    exact Option.map_map _ _ _

theorem untilComma_append {inner : List Token} (plain : ∀ token ∈ inner, ∀ c, token ≠ .mark c)
    (rest : List Token) : untilComma [] (inner ++ rest) = inner ++ untilComma [] rest := by
  induction inner with
  | nil => rfl
  | cons token more inductionHypothesis =>
    obtain ⟨first, others⟩ := List.forall_mem_cons.1 plain
    rw [List.cons_append, untilComma, awaitedAfter_of_ne_mark first, inductionHypothesis others,
      if_neg]
    · rfl
    · simpa using first ','

/-- Brackets enclose what fills them. -/
theorem enclosed_filling (filling : Filling) (rest : List Token) :
    enclosed ['>'] (filling.tokens ++ .mark '>' :: rest) = some (filling.tokens, rest) := by
  cases filling with
  | spacing gap => rfl
  | path argument empty comma =>
    have behind : enclosed ['>'] (emptyTokens empty ++ (commaTokens comma ++ .mark '>' :: rest)) =
        some (emptyTokens empty ++ commaTokens comma, rest) := by
      rcases empty with _ | ⟨_ | _, _, _⟩ <;> cases comma <;> rfl
    rw [Filling.tokens, List.append_assoc, List.append_assoc,
      enclosed_append fun token => PlainPath.ne_mark_of_mem_tokens, behind]
    rfl

/-- The first argument is the path, with empty brackets if it has such, and without the comma. -/
theorem untilComma_filling (argument : PlainPath) (empty : Option EmptyBrackets)
    (comma : Option Gap) :
    untilComma [] (Filling.path argument empty comma).tokens =
      argument.tokens ++ emptyTokens empty := by
  rw [Filling.tokens, untilComma_append fun token => PlainPath.ne_mark_of_mem_tokens]
  rcases empty with _ | ⟨_ | _, _, _⟩ <;> cases comma <;> rfl

theorem lastOfPath_angled (word : List Char) (lead : Option Gap) (filling : Filling) :
    lastOfPath (.word word :: (leadTokens lead ++ .mark '<' :: (filling.tokens ++ [.mark '>']))) =
      some ⟨word, .angled filling.tokens⟩ := by
  refine lastOfPath_of_end ?_
  have whole : (enclosed ['>'] (filling.tokens ++ [.mark '>'])).map
      (fun halves => (Segment.mk word (.angled halves.1), halves.2)) =
        some (⟨word, .angled filling.tokens⟩, []) := by
    rw [enclosed_filling]
    rfl
  cases lead <;> exact whole

theorem lastSegment?_tokens (type : PathType) :
    lastSegment? (tokens type.text.toList) =
      some ⟨type.path.last.name.text, type.arguments⟩ := by
  obtain ⟨path, brackets⟩ := type
  rw [PathType.text, String.toList_ofList]
  cases brackets with
  | none =>
    show lastSegment? (tokens (path.text ++ [])) = _
    rw [tokens_plainPath path endsWord_nil, tokens, lastSegment?_plainPath]
    exact lastOfPath_of_end rfl
  | some brackets =>
    show lastSegment? (tokens (path.text ++ brackets.text)) = _
    rw [Brackets.text, tokens_plainPath path (endsWord_lead _ _), tokens_lead, tokens_filling,
      tokens_gap_end, lastSegment?_plainPath]
    exact lastOfPath_angled _ _ _

/-- An argument names the kind that its last word does, also with empty brackets behind it. -/
theorem kind?_argument (argument : PlainPath) (empty : Option EmptyBrackets) :
    (lastSegment? (argument.tokens ++ emptyTokens empty)).bind Segment.kind? =
      Kind.ofWord? (String.ofList argument.last.name.text) := by
  rw [lastSegment?_plainPath]
  rcases empty with _ | ⟨lead, inside, after⟩
  · have alone : lastOfPath [.word argument.last.name.text] =
        some ⟨argument.last.name.text, .absent⟩ := lastOfPath_of_end rfl
    exact congrArg (·.bind Segment.kind?) alone
  · exact congrArg (·.bind Segment.kind?) (lastOfPath_angled _ lead (.spacing inside))

/-- What a word says of a plain metric. -/
def plainOf (word : List Char) : Except TypeFault FieldKind :=
  match Kind.ofWord? (String.ofList word) with
  | none => .error .notMetric
  | some kind => .ok (.plain kind)

/-- What a word in the brackets says of a metric with tags. -/
def taggedOf (word : List Char) : Except TypeFault FieldKind :=
  match Kind.ofWord? (String.ofList word) with
  | none => .error .notMetric
  | some kind =>
    match kind.stored? with
    | none => .error (.taggedFunctional kind)
    | some stored => .ok (.tagged stored)

/-- What a type says, by its last words. -/
def PathType.kind (type : PathType) : Except TypeFault FieldKind :=
  match type.brackets with
  | some ⟨_, .path argument _ _, _⟩ =>
    if type.path.last.name.text = "Tagged".toList then taggedOf argument.last.name.text
    else .error .notMetric
  | _ => plainOf type.path.last.name.text

theorem plainOf_tagged : plainOf "Tagged".toList = .error .notMetric := by
  decide

theorem lastSegment?_nil : lastSegment? [] = none := by
  show lastOfPath [] = none
  rw [lastOfPath]
  rfl

/-- The tokens of a type say what its last words do. -/
theorem classify_text (type : PathType) : classify type.text = type.kind := by
  obtain ⟨path, brackets⟩ := type
  rw [classify, lastSegment?_tokens, PathType.kind, PathType.arguments]
  dsimp only
  split
  · rename_i tagged
    rw [tagged, plainOf_tagged]
    rcases brackets with _ | ⟨lead, gap | ⟨argument, empty, comma⟩, after⟩
    · show (match (lastSegment? []).bind Segment.kind? with | none => _ | some _ => _) = _
      rw [lastSegment?_nil]
      rfl
    · show (match (lastSegment? []).bind Segment.kind? with | none => _ | some _ => _) = _
      rw [lastSegment?_nil]
      rfl
    · dsimp only [Segment.firstArgument]
      rw [untilComma_filling, kind?_argument]
      rfl
  · rename_i other
    rcases brackets with _ | ⟨lead, gap | ⟨argument, empty, comma⟩, after⟩
    · rfl
    · rfl
    · have bare : Segment.isBare
          ⟨path.last.name.text, .angled (Filling.path argument empty comma).tokens⟩ = false := by
        simp [Segment.isBare, Filling.tokens, PlainPath.tokens]
      dsimp only [Segment.kind?]
      rw [bare]
      rfl

end Telemetry.Blueprint
