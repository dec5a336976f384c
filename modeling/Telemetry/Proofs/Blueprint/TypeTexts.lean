/-
This file compares the two readings of the type of a field: that of a described
structure, by tokens, and that of a declaration, by cutting the text. For a plain
path with at most one argument in angle brackets both go by the last word of the
path and of its argument, and read the same, as long as only blanks stand next
to these words and the brackets hold the argument and nothing else. Tokens are
also separated by the marks of writing direction, which are not blank; empty
brackets are no arguments there, a path mark may stand in front of brackets, and
a comma behind an argument.
-/

import Telemetry.Proofs.Blueprint.TypeTokens
import Telemetry.Proofs.Text.Cutting
import Telemetry.Proofs.Text.Trimming

namespace Telemetry

open Text

/-! ### Last segments of texts -/

namespace FieldKind

theorem untilPathMark_cons {c : Char} (other : c ≠ ':') (rest : List Char) :
    untilPathMark (c :: rest) = c :: untilPathMark rest := by
  cases rest with
  | nil => rfl
  | cons next more =>
    rw [untilPathMark, if_neg]
    simp [other]

theorem untilPathMark_pathMark (rest : List Char) : untilPathMark (':' :: ':' :: rest) = [] :=
  rfl

theorem untilPathMark_append {before : List Char} (free : ':' ∉ before) (rest : List Char) :
    untilPathMark (before ++ rest) = before ++ untilPathMark rest := by
  induction before with
  | nil => rfl
  | cons c more inductionHypothesis =>
    rw [List.mem_cons, not_or] at free
    rw [List.cons_append, untilPathMark_cons (Ne.symm free.1), inductionHypothesis free.2,
      List.cons_append]

/-- Characters behind a text are read if no path mark comes before them. -/
theorem untilPathMark_append_or {after : List Char} (free : ':' ∉ after) (text : List Char) :
    untilPathMark (text ++ after) = untilPathMark text ∨
      untilPathMark (text ++ after) = untilPathMark text ++ after := by
  have whole : untilPathMark after = after := by
    have known := untilPathMark_append free []
    rwa [List.append_nil, untilPathMark, List.append_nil] at known
  fun_induction untilPathMark text with
  | case1 => exact .inr whole
  | case2 c =>
    refine .inr ?_
    cases after with
    | nil => rfl
    | cons next more =>
      rw [List.mem_cons, not_or] at free
      show untilPathMark (c :: next :: more) = _
      rw [untilPathMark, if_neg (by simp [Ne.symm free.1]), whole]
      rfl
  | case3 c next rest mark =>
    refine .inl ?_
    show untilPathMark (c :: next :: (rest ++ after)) = []
    rw [untilPathMark, if_pos mark]
  | case4 c next rest noMark inductionHypothesis =>
    show untilPathMark (c :: next :: (rest ++ after)) = _ ∨
      untilPathMark (c :: next :: (rest ++ after)) = _
    rw [untilPathMark, if_neg noMark, List.cons_append]
    exact inductionHypothesis.imp (congrArg (c :: ·)) (congrArg (c :: ·))

theorem not_mem_of_isBlankText {blanks : List Char} (blank : IsBlankText blanks) :
    ':' ∉ blanks := by
  intro member
  cases blank ':' member

theorem lastSegment_append_right {blanks : List Char} (blank : IsBlankText blanks)
    (text : List Char) : lastSegment (text ++ blanks) = lastSegment text := by
  have free : ':' ∉ blanks.reverse := fun member =>
    not_mem_of_isBlankText blank (List.mem_reverse.1 member)
  rw [lastSegment, List.reverse_append, untilPathMark_append free, List.reverse_append,
    List.reverse_reverse, trim_append_right blank, lastSegment]

theorem lastSegment_append_left {blanks : List Char} (blank : IsBlankText blanks)
    (text : List Char) : lastSegment (blanks ++ text) = lastSegment text := by
  have free : ':' ∉ blanks.reverse := fun member =>
    not_mem_of_isBlankText blank (List.mem_reverse.1 member)
  rw [lastSegment, List.reverse_append, lastSegment]
  rcases untilPathMark_append_or free text.reverse with same | more
  · rw [same]
  · rw [more, List.reverse_append, List.reverse_reverse, trim_append_left blank]

theorem lastSegment_trimStart (text : List Char) :
    lastSegment (trimStart text) = lastSegment text := by
  obtain ⟨before, blank, whole⟩ := exists_trimStart text
  conv_rhs => rw [whole, lastSegment_append_left blank]

/-- Blanks at the ends of a text do not matter for its last segment. -/
theorem lastSegment_trim (text : List Char) : lastSegment (trim text) = lastSegment text := by
  obtain ⟨after, blank, whole⟩ := exists_trimEnd (trimStart text)
  rw [← lastSegment_trimStart text]
  conv_rhs => rw [whole, lastSegment_append_right blank]
  rfl

/-- A text without a path mark is a segment. -/
theorem lastSegment_of_not_mem {text : List Char} (free : ':' ∉ text) :
    lastSegment text = trim text := by
  have known := untilPathMark_append (fun member => free (List.mem_reverse.1 member)) []
  rw [List.append_nil, untilPathMark, List.append_nil] at known
  rw [lastSegment, known, List.reverse_reverse]

theorem lastSegment_append_pathMark {text : List Char} (free : ':' ∉ text) (front : List Char) :
    lastSegment (front ++ [':', ':'] ++ text) = trim text := by
  have known := untilPathMark_append (fun member => free (List.mem_reverse.1 member))
    (':' :: ':' :: front.reverse)
  rw [untilPathMark_pathMark, List.append_nil] at known
  rw [lastSegment, List.reverse_append, List.reverse_append]
  show trim (untilPathMark (text.reverse ++ ':' :: ':' :: front.reverse)).reverse = _
  rw [known, List.reverse_reverse]

theorem ofPath?_eq_some_iff {path : List Char} {kind : Kind} :
    ofPath? path = some kind ↔ lastSegment path = kind.word.toList := by
  rw [ofPath?]
  constructor
  · intro found
    rw [Kind.word_of_ofWord? found, String.toList_ofList]
  · intro same
    rw [same, String.ofList_toList, Kind.ofWord?_word]

end FieldKind

namespace Blueprint

/-! ### Words and the spacing next to them -/

theorem Gap.not_mem_text (gap : Gap) {c : Char} (solid : isSpace c = false) : c ∉ gap.text := by
  intro member
  rw [gap.space c member] at solid
  cases solid

theorem isSpace_eq_false_of_isWordPart {c : Char} (part : isWordPart c) : isSpace c = false := by
  by_contra space
  rw [isWordPart_of_isSpace (Bool.not_eq_false _ ▸ space)] at part
  cases part

theorem IsWord.isWordPart_or {text : List Char} (isWord : IsWord text) {c : Char}
    (member : c ∈ text) : isWordPart c ∨ c = '#' := by
  have parts {first : Char} {rest : List Char} (start : isWordStart first)
      (parts : ∀ part ∈ rest, isWordPart part) (inside : c ∈ first :: rest) : isWordPart c := by
    rcases List.mem_cons.1 inside with rfl | inside
    · exact (Bool.and_eq_true_iff.1 start).1
    · exact parts c inside
  cases isWord with
  | plain start others => exact .inl (parts start others member)
  | escaped start others =>
    rcases List.mem_cons.1 member with rfl | member
    · exact .inl (by decide)
    · exact (List.mem_cons.1 member).symm.imp_left (parts start others)

theorem IsWord.not_isSpace {text : List Char} (isWord : IsWord text) {c : Char}
    (member : c ∈ text) : isSpace c = false := by
  rcases isWord.isWordPart_or member with part | rfl
  · exact isSpace_eq_false_of_isWordPart part
  · decide

theorem isSpace_of_isBlank {c : Char} (blank : isBlank c) : isSpace c := by
  rw [isSpace, blank]
  rfl

theorem IsWord.isTrimmed {text : List Char} (isWord : IsWord text) : IsTrimmed text := by
  have solid (c : Char) (member : c ∈ text) : isBlank c = false := by
    by_contra blank
    have space := isSpace_of_isBlank (Bool.not_eq_false _ ▸ blank)
    rw [isWord.not_isSpace member] at space
    cases space
  exact ⟨fun c first => solid c (List.mem_of_mem_head? first),
    fun c last => solid c (List.mem_of_mem_getLast? last)⟩

namespace SpacedName

variable (spaced : SpacedName)

/-- Next to the word stand only blanks. -/
def IsTidy : Prop :=
  IsBlankText spaced.before.text ∧ IsBlankText spaced.after.text

/-- The marks of paths and brackets stand in neither. -/
theorem not_mem_text {mark : Char} (isMark : mark ∈ [':', '<', '>']) : mark ∉ spaced.text := by
  have apart : isSpace mark = false ∧ isWordPart mark = false ∧ mark ≠ '#' := by
    simp only [List.mem_cons, List.not_mem_nil, or_false] at isMark
    rcases isMark with rfl | rfl | rfl <;> decide
  intro member
  rw [text, List.mem_append, List.mem_append] at member
  rcases member with before | word | after
  · exact spaced.before.not_mem_text apart.1 before
  · rcases spaced.name.isWord.isWordPart_or word with part | hash
    · rw [apart.2.1] at part
      cases part
    · exact apart.2.2 hash
  · exact spaced.after.not_mem_text apart.1 after

/-- Trimming lays a word bare exactly if only blanks stand next to it. -/
theorem trim_text_eq_iff {wanted : List Char} (parts : ∀ c ∈ wanted, isWordPart c) :
    trim spaced.text = wanted ↔ spaced.IsTidy ∧ spaced.name.text = wanted := by
  have bare (tidy : spaced.IsTidy) : trim spaced.text = spaced.name.text := by
    rw [text, trim_append_left tidy.1, trim_append_right tidy.2,
      trim_eq_self spaced.name.isWord.isTrimmed]
  constructor
  · intro same
    have blank {c : Char} (member : c ∈ spaced.text) (space : isSpace c) : isBlank c := by
      by_contra solid
      have part := parts c (same ▸ mem_trim (Bool.not_eq_true _ ▸ solid) member)
      rw [isWordPart_of_isSpace space] at part
      cases part
    have tidy : spaced.IsTidy := by
      constructor
      · exact fun c member => blank (List.mem_append_left _ member) (spaced.before.space c member)
      · exact fun c member => blank
          (List.mem_append_right _ (List.mem_append_right _ member)) (spaced.after.space c member)
    exact ⟨tidy, (bare tidy).symm.trans same⟩
  · rintro ⟨tidy, rfl⟩
    exact bare tidy

end SpacedName

theorem isWordPart_of_mem_word (kind : Kind) : ∀ c ∈ kind.word.toList, isWordPart c := by
  cases kind <;> exact List.all_eq_true.1 (by decide)

namespace PlainPath

variable (path : PlainPath)

theorem stem_cases : path.stem = [] ∨ ∃ front, path.stem = front ++ [':', ':'] := by
  obtain ⟨root, parents, last⟩ := path
  rcases List.eq_nil_or_concat parents with rfl | ⟨others, parent, rfl⟩
  · cases root with
    | none => exact .inl rfl
    | some gap => exact .inr ⟨gap.text, List.append_nil _⟩
  · refine .inr ⟨(root.map fun gap => gap.text ++ [':', ':']).getD [] ++
      ((others.flatMap fun parent => parent.text ++ [':', ':']) ++ parent.text), ?_⟩
    simp only [stem, List.concat_eq_append, List.flatMap_append, List.flatMap_singleton,
      List.append_assoc]

/-- The last segment of a path is its last word with the spacing that trimming leaves. -/
theorem lastSegment_text : FieldKind.lastSegment path.text = trim path.last.text := by
  have free : ':' ∉ path.last.text := path.last.not_mem_text (by decide)
  rw [text]
  rcases path.stem_cases with empty | ⟨front, marked⟩
  · rw [empty]
    exact FieldKind.lastSegment_of_not_mem free
  · rw [marked]
    exact FieldKind.lastSegment_append_pathMark free front

/-- A path names a kind for the reading of texts if its last word does and only blanks stand next
to it. -/
theorem ofPath?_text_eq_some_iff {kind : Kind} :
    FieldKind.ofPath? path.text = some kind ↔
      path.last.IsTidy ∧ Kind.ofWord? (String.ofList path.last.name.text) = some kind := by
  rw [FieldKind.ofPath?_eq_some_iff, lastSegment_text,
    path.last.trim_text_eq_iff (isWordPart_of_mem_word kind)]
  refine and_congr_right fun _ => ⟨fun same => ?_, fun found => ?_⟩
  · rw [same, String.ofList_toList, Kind.ofWord?_word]
  · rw [Kind.word_of_ofWord? found, String.toList_ofList]

/-- A path has no brackets. -/
theorem not_mem_text {bracket : Char} (isBracket : bracket ∈ ['<', '>']) :
    bracket ∉ path.text := by
  have isMark : bracket ∈ [':', '<', '>'] := List.mem_cons_of_mem _ isBracket
  have apart : isSpace bracket = false ∧ bracket ∉ [':', ':'] := by
    simp only [List.mem_cons, List.not_mem_nil, or_false] at isBracket
    rcases isBracket with rfl | rfl <;> decide
  intro member
  rw [text, stem, List.mem_append, List.mem_append, List.mem_flatMap] at member
  rcases member with (root | ⟨parent, -, inside⟩) | last
  · cases known : path.root with
    | none =>
      rw [known] at root
      cases root
    | some gap =>
      rw [known] at root
      exact (List.mem_append.1 root).elim (gap.not_mem_text apart.1) apart.2
  · exact (List.mem_append.1 inside).elim (parent.not_mem_text isMark) apart.2
  · exact path.last.not_mem_text isMark last

end PlainPath

/-! ### Tidy types -/

/-- In the brackets stands a path alone, with only blanks next to its last word. -/
def Filling.IsTidy : Filling → Prop
  | .path argument none none => argument.last.IsTidy
  | _ => False

theorem Filling.IsTidy.exists_path {filling : Filling} (tidy : filling.IsTidy) :
    ∃ argument : PlainPath, filling = .path argument none none ∧ argument.last.IsTidy := by
  rcases filling with gap | ⟨argument, _ | empty, _ | comma⟩
  · cases tidy
  · exact ⟨argument, rfl, tidy⟩
  all_goals cases tidy

/-- Only blanks stand next to the last word of the path. Brackets follow it directly, hold an
argument and nothing else, and have only blanks behind them. -/
def PathType.IsTidy (type : PathType) : Prop :=
  type.path.last.IsTidy ∧ ∀ brackets ∈ type.brackets,
    brackets.lead = none ∧ brackets.filling.IsTidy ∧ IsBlankText brackets.after.text

/-! ### Reading by cutting the text -/

end Blueprint

namespace FieldKind

theorem argument?_of_not_mem {type : List Char} (free : '>' ∉ type) : argument? type = none := by
  have unclosed : stripLast '>' type = none := if_neg fun last => free (List.mem_of_getLast? last)
  rw [argument?, unclosed]

theorem argument?_bracketed {outer : List Char} (free : '<' ∉ outer) (inner : List Char) :
    argument? (outer ++ '<' :: (inner ++ ['>'])) = some (outer, inner) := by
  have closed : stripLast '>' (outer ++ '<' :: (inner ++ ['>'])) =
      some (outer ++ '<' :: inner) := by
    rw [← List.cons_append, ← List.append_assoc, stripLast, if_pos List.getLast?_concat,
      List.dropLast_concat]
  rw [argument?, closed]
  exact cut_append free inner

/-- A character behind the last path mark stands in the last segment. -/
theorem mem_lastSegment {c : Char} (solid : isBlank c = false) (other : c ≠ ':')
    (before : List Char) {after : List Char} (free : ':' ∉ after) :
    c ∈ lastSegment (before ++ c :: after) := by
  refine mem_trim solid (List.mem_reverse.2 ?_)
  rw [List.reverse_append, List.reverse_cons, List.append_assoc, List.singleton_append,
    untilPathMark_append (fun member => free (List.mem_reverse.1 member)), untilPathMark_cons other]
  exact List.mem_append_right _ List.mem_cons_self

/-- A text without an argument is read by its last segment. -/
theorem read_of_argument?_eq_none {type : List Char} (absent : argument? (trim type) = none) :
    read (String.ofList type) =
      match ofPath? type with
      | none => .error (.unsupported (String.ofList (trim type)))
      | some kind => .ok (.plain kind) := by
  have same : ofPath? (trim type) = ofPath? type := by rw [ofPath?, lastSegment_trim, ofPath?]
  dsimp only [read]
  rewrite [String.toList_ofList, absent, same]
  rfl

/-- A text with an argument is read by the last segments of both parts. -/
theorem read_of_argument?_eq_some {type outer inner : List Char}
    (parts : argument? (trim type) = some (trimStart outer, inner)) :
    read (String.ofList type) =
      if lastSegment outer = "Tagged".toList then
        match ofPath? inner with
        | none => .error (.unsupported (String.ofList (trim type)))
        | some kind =>
          match kind.stored? with
          | none => .error (.taggedFunctional kind)
          | some stored => .ok (.tagged stored)
      else .error (.unsupported (String.ofList (trim type))) := by
  dsimp only [read]
  rewrite [String.toList_ofList, parts]
  dsimp only
  rewrite [lastSegment_trimStart, ite_not]
  rfl

/-- The word of a kind has no other characters than words have. -/
theorem ofPath?_eq_none {path : List Char} {c : Char} (notPart : isWordPart c = false)
    (member : c ∈ lastSegment path) : ofPath? path = none := by
  cases found : ofPath? path with
  | none => rfl
  | some kind =>
    rw [ofPath?_eq_some_iff.1 found] at member
    rw [Blueprint.isWordPart_of_mem_word kind c member] at notPart
    cases notPart

end FieldKind

namespace Blueprint

namespace PathType

/-- With a closing bracket or a comma behind it and then spacing, no text names a kind. -/
theorem ofPath?_append_mark {mark : Char} (isMark : mark ∈ [',', '>']) (before : List Char)
    (gap : Gap) : FieldKind.ofPath? (before ++ mark :: gap.text) = none := by
  have apart : isWordPart mark = false ∧ isBlank mark = false ∧ mark ≠ ':' := by
    simp only [List.mem_cons, List.not_mem_nil, or_false] at isMark
    rcases isMark with rfl | rfl <;> decide
  exact FieldKind.ofPath?_eq_none apart.1
    (FieldKind.mem_lastSegment apart.2.1 apart.2.2 before (gap.not_mem_text (by decide)))

section Brackets

variable {outer : List Char} (free : '<' ∉ outer) (inner : List Char)

theorem trim_bracketed (outer inner after : List Char) :
    trim (outer ++ '<' :: (inner ++ '>' :: after)) =
      trimStart outer ++ '<' :: (inner ++ '>' :: trimEnd after) := by
  rw [trim_append_cons (by decide), trimEnd_append_cons (by decide)]

include free in
theorem argument?_closed {after : List Char} (blank : IsBlankText after) :
    FieldKind.argument? (trim (outer ++ '<' :: (inner ++ '>' :: after))) =
      some (trimStart outer, inner) := by
  have empty : trimEnd after = [] := trimEnd_append_of_isBlankText blank []
  rw [trim_bracketed, empty]
  exact FieldKind.argument?_bracketed
    (fun member => free ((List.dropWhile_suffix isBlank).subset member)) inner

/-- A mark of writing direction behind the brackets keeps them from being seen as such, and then
the last segment is no word. -/
theorem read_open (outer inner : List Char) {after : Gap} (solid : ¬ IsBlankText after.text) :
    FieldKind.argument? (trim (outer ++ '<' :: (inner ++ '>' :: after.text))) = none ∧
      FieldKind.ofPath? (outer ++ '<' :: (inner ++ '>' :: after.text)) = none := by
  constructor
  · obtain ⟨blanks, blank, whole⟩ := exists_trimEnd after.text
    have nonempty : trimEnd after.text ≠ [] := fun empty => solid (by rwa [whole, empty])
    have found := List.getLast?_eq_some_getLast nonempty
    have shape : trim (outer ++ '<' :: (inner ++ '>' :: after.text)) =
        (trimStart outer ++ '<' :: (inner ++ ['>'])) ++ trimEnd after.text := by
      rw [trim_bracketed, List.append_assoc, List.cons_append, List.append_assoc,
        List.singleton_append]
    have unclosed : stripLast '>' (trim (outer ++ '<' :: (inner ++ '>' :: after.text))) =
        none := by
      refine if_neg fun closing => after.not_mem_text (by decide : isSpace '>' = false) ?_
      rw [shape, List.getLast?_append, found, Option.some_or, Option.some.injEq] at closing
      rw [whole, ← closing]
      exact List.mem_append_left _ (List.getLast_mem nonempty)
    rw [FieldKind.argument?, unclosed]
  · rw [← List.cons_append, ← List.append_assoc]
    exact ofPath?_append_mark (by decide) _ after

theorem read_of_open (outer inner : List Char) {after : Gap} (solid : ¬ IsBlankText after.text) :
    ∃ text, FieldKind.read (String.ofList (outer ++ '<' :: (inner ++ '>' :: after.text))) =
      .error (.unsupported text) := by
  obtain ⟨absent, unread⟩ := read_open outer inner solid
  rw [FieldKind.read_of_argument?_eq_none absent, unread]
  exact ⟨_, rfl⟩

include free in
theorem read_of_closed {after : Gap} (blank : IsBlankText after.text)
    (unread : FieldKind.lastSegment outer = "Tagged".toList → FieldKind.ofPath? inner = none) :
    ∃ text, FieldKind.read (String.ofList (outer ++ '<' :: (inner ++ '>' :: after.text))) =
      .error (.unsupported text) := by
  rw [FieldKind.read_of_argument?_eq_some (argument?_closed free inner blank)]
  split
  · rename_i tagged
    rw [unread tagged]
    exact ⟨_, rfl⟩
  · exact ⟨_, rfl⟩

end Brackets

/-- A path alone has no argument. -/
theorem argument?_path (path : PlainPath) : FieldKind.argument? (trim path.text) = none :=
  FieldKind.argument?_of_not_mem fun member =>
    path.not_mem_text (by decide) ((isInfix_trim path.text).subset member)

/-- The text in front of brackets has none. -/
theorem not_mem_outer (path : PlainPath) (lead : Option Gap) :
    '<' ∉ path.text ++ leadText lead := by
  intro member
  rcases List.mem_append.1 member with inside | inside
  · exact path.not_mem_text (by decide) inside
  · cases lead with
    | none => cases inside
    | some gap =>
      have inGap : '<' ∈ gap.text := by simpa [leadText] using inside
      exact gap.not_mem_text (by decide) inGap

end PathType

/-! ### Both readings -/

/-- Both readings give the same kind with the same taggedness, or both refuse the type as no metric,
or both as a functional gauge with tags. -/
inductive Agree : Except TypeFault FieldKind → Except TypeError FieldKind → Prop
  | accepted (kind : FieldKind) : Agree (.ok kind) (.ok kind)
  | notMetric (text : String) : Agree (.error .notMetric) (.error (.unsupported text))
  | taggedFunctional (kind : Kind) :
    Agree (.error (.taggedFunctional kind)) (.error (.taggedFunctional kind))

namespace PathType

/-- The kind that a path names for the reading of texts, if only blanks stand next to its last
word. -/
theorem ofPath?_of_isTidy {path : PlainPath} (tidy : path.last.IsTidy) :
    FieldKind.ofPath? path.text = Kind.ofWord? (String.ofList path.last.name.text) :=
  Option.ext fun _ => path.ofPath?_text_eq_some_iff.trans (and_iff_right tidy)

theorem ofPath?_of_not_isTidy {path : PlainPath} (untidy : ¬ path.last.IsTidy) :
    FieldKind.ofPath? path.text = none :=
  Option.eq_none_iff_forall_ne_some.2 fun _ found =>
    untidy (path.ofPath?_text_eq_some_iff.1 found).1

/-- In spacing stands no character of a word. -/
theorem not_mem_trim_gap (gap : Gap) {c : Char} (part : isWordPart c) : c ∉ trim gap.text :=
  fun member => gap.not_mem_text (isSpace_eq_false_of_isWordPart part)
    ((isInfix_trim gap.text).subset member)

theorem ofPath?_gap (gap : Gap) : FieldKind.ofPath? gap.text = none := by
  cases found : FieldKind.ofPath? gap.text with
  | none => rfl
  | some kind =>
    have word := FieldKind.ofPath?_eq_some_iff.1 found
    rw [FieldKind.lastSegment_of_not_mem (gap.not_mem_text (by decide))] at word
    obtain ⟨first, member⟩ : ∃ first, first ∈ kind.word.toList := by
      cases kind <;> exact ⟨_, List.mem_cons_self⟩
    have part := isWordPart_of_mem_word kind first member
    exact absurd (word ▸ member) (not_mem_trim_gap gap part)

/-- The text in front of brackets is read as that of a metric with tags if its last word says so,
only blanks stand next to it, and no path mark comes after it. -/
theorem lastSegment_eq_tagged_iff (path : PlainPath) (lead : Option Gap) :
    FieldKind.lastSegment (path.text ++ leadText lead) = "Tagged".toList ↔
      lead = none ∧ path.last.IsTidy ∧ path.last.name.text = "Tagged".toList := by
  cases lead with
  | none =>
    show FieldKind.lastSegment (path.text ++ []) = _ ↔ _
    rw [List.append_nil, path.lastSegment_text, and_iff_right rfl]
    exact path.last.trim_text_eq_iff (List.all_eq_true.1 (by decide))
  | some gap =>
    have behind : FieldKind.lastSegment (path.text ++ leadText (some gap)) = trim gap.text := by
      rw [← FieldKind.lastSegment_append_pathMark (gap.not_mem_text (by decide)) path.text,
        List.append_assoc]
      rfl
    rw [behind]
    constructor
    · intro same
      have letter : 'T' ∈ trim gap.text := by
        rw [same]
        exact List.mem_cons_self
      exact absurd letter (not_mem_trim_gap gap (by decide))
    · exact fun impossible => nomatch impossible.1

/-- What stands in brackets and is no path alone names no kind for the reading of texts. -/
theorem ofPath?_filling {filling : Filling} (untidy : ¬ filling.IsTidy) :
    FieldKind.ofPath? filling.text = none := by
  rcases filling with gap | ⟨argument, empty, _ | comma⟩
  · exact ofPath?_gap gap
  · cases empty with
    | none =>
      show FieldKind.ofPath? (argument.text ++ []) = none
      rw [List.append_nil]
      exact ofPath?_of_not_isTidy untidy
    | some brackets =>
      show FieldKind.ofPath? (argument.text ++ (brackets.text ++ [])) = none
      rw [List.append_nil, EmptyBrackets.text, ← List.cons_append, ← List.append_assoc,
        ← List.append_assoc]
      exact ofPath?_append_mark (by decide) _ brackets.after
  · rw [Filling.text, ← List.append_assoc]
    exact ofPath?_append_mark (by decide) _ comma

theorem text_plain (path : PlainPath) : text ⟨path, none⟩ = String.ofList path.text :=
  congrArg String.ofList (List.append_nil path.text)

theorem text_brackets (path : PlainPath) (lead : Option Gap) (filling : Filling) (after : Gap) :
    text ⟨path, some ⟨lead, filling, after⟩⟩ =
      String.ofList (path.text ++ leadText lead ++ '<' :: (filling.text ++ '>' :: after.text)) := by
  rw [List.append_assoc]
  rfl

/-- A tidy type is read the same in both ways. -/
theorem agree_of_isTidy {type : PathType} (tidy : type.IsTidy) :
    Agree type.kind (FieldKind.read type.text) := by
  obtain ⟨path, brackets⟩ := type
  obtain ⟨bare, inner⟩ := tidy
  cases brackets with
  | none =>
    rw [text_plain, FieldKind.read_of_argument?_eq_none (argument?_path path),
      ofPath?_of_isTidy bare, kind, plainOf]
    cases Kind.ofWord? (String.ofList path.last.name.text) with
    | none => exact .notMetric _
    | some kind => exact .accepted _
  | some brackets =>
    obtain ⟨lead, filling, after⟩ := brackets
    obtain ⟨rfl, filled, blank⟩ := inner _ rfl
    obtain ⟨argument, rfl, argumentBare⟩ := filled.exists_path
    have alone : (Filling.path argument none none).text = argument.text := List.append_nil _
    rw [text_brackets, alone, FieldKind.read_of_argument?_eq_some
      (argument?_closed (not_mem_outer path none) argument.text blank),
      ofPath?_of_isTidy argumentBare]
    simp only [kind, taggedOf, lastSegment_eq_tagged_iff, true_and, and_iff_right bare]
    split
    · cases Kind.ofWord? (String.ofList argument.last.name.text) with
      | none => exact .notMetric _
      | some kind =>
        dsimp only
        cases kind.stored? with
        | none => exact .taggedFunctional kind
        | some stored => exact .accepted _
    · exact .notMetric _

/-- A type that is not tidy is refused by the reading of texts. -/
theorem read_of_not_isTidy {type : PathType} (untidy : ¬ type.IsTidy) :
    ∃ text, FieldKind.read type.text = .error (.unsupported text) := by
  obtain ⟨path, brackets⟩ := type
  cases brackets with
  | none =>
    have unread : FieldKind.ofPath? path.text = none :=
      ofPath?_of_not_isTidy fun bare => untidy ⟨bare, nofun⟩
    rw [text_plain, FieldKind.read_of_argument?_eq_none (argument?_path path), unread]
    exact ⟨_, rfl⟩
  | some brackets =>
    obtain ⟨lead, filling, after⟩ := brackets
    rw [text_brackets]
    by_cases blank : IsBlankText after.text
    · refine read_of_closed (not_mem_outer path lead) _ blank fun tagged => ?_
      obtain ⟨direct, bare, -⟩ := (lastSegment_eq_tagged_iff path lead).1 tagged
      refine ofPath?_filling fun filled => untidy ⟨bare, ?_⟩
      rintro _ ⟨⟩
      exact ⟨direct, filled, blank⟩
    · exact read_of_open _ _ blank

/-- The two readings of a type agree exactly if the type is tidy, or the one by tokens refuses it as
no metric. In all other cases the one by text refuses what the other takes. -/
theorem readings_agree_iff (type : PathType) :
    (Agree (classify type.text) (FieldKind.read type.text) ↔
      type.IsTidy ∨ classify type.text = .error .notMetric) ∧
    (¬ type.IsTidy → ∃ text, FieldKind.read type.text = .error (.unsupported text)) := by
  refine ⟨⟨fun agree => ?_, ?_⟩, read_of_not_isTidy⟩
  · by_contra neither
    rw [not_or] at neither
    obtain ⟨text, refused⟩ := read_of_not_isTidy neither.1
    rw [refused] at agree
    cases known : classify type.text with
    | ok kind => rw [known] at agree; cases agree
    | error fault =>
      rw [known] at agree neither
      cases agree
      exact neither.2 rfl
  · rintro (tidy | notMetric)
    · rw [classify_text]
      exact agree_of_isTidy tidy
    · by_cases tidy : type.IsTidy
      · rw [classify_text]
        exact agree_of_isTidy tidy
      · obtain ⟨text, refused⟩ := read_of_not_isTidy tidy
        rw [notMetric, refused]
        exact .notMetric text

/-- With a mark of writing direction behind the word, with empty brackets, with a path mark in front
of brackets, or with a comma in them, a path names a kind by its tokens and not by its text. -/
theorem kind_read_by_tokens_only :
    let gap : Gap := ⟨[], nofun⟩
    let mark : Gap := ⟨['\u200e'], List.all_eq_true.1 (by decide)⟩
    let counter : Identifier :=
      ⟨"Counter".toList, .plain (by decide) (List.all_eq_true.1 (by decide)), by decide⟩
    let tagged : Identifier :=
      ⟨"Tagged".toList, .plain (by decide) (List.all_eq_true.1 (by decide)), by decide⟩
    let path (name : Identifier) (after : Gap) : PlainPath := ⟨none, [], ⟨gap, name, after⟩⟩
    let filling (comma : Option Gap) : Filling := .path (path counter gap) none comma
    let cases : List (PathType × String × FieldKind) :=
      [(⟨path counter mark, none⟩, "Counter\u200e", .plain .counter),
        (⟨path counter gap, some ⟨none, .spacing gap, gap⟩⟩, "Counter<>", .plain .counter),
        (⟨path tagged gap, some ⟨some gap, filling none, gap⟩⟩, "Tagged::<Counter>",
          .tagged ⟨.counter, rfl⟩),
        (⟨path tagged gap, some ⟨none, filling (some gap), gap⟩⟩, "Tagged<Counter,>",
          .tagged ⟨.counter, rfl⟩)]
    ∀ case ∈ cases,
      case.1.text = case.2.1 ∧ classify case.1.text = .ok case.2.2 ∧
        FieldKind.read case.1.text = .error (.unsupported case.2.1) ∧
        ¬ Agree (classify case.1.text) (FieldKind.read case.1.text) := by
  intro gap mark counter tagged path filling cases
  have apart {type : PathType} {text : String} {kind : FieldKind} (written : type.text = text)
      (taken : type.kind = .ok kind) (refused : FieldKind.read text = .error (.unsupported text)) :
      type.text = text ∧ classify type.text = .ok kind ∧
        FieldKind.read type.text = .error (.unsupported text) ∧
        ¬ Agree (classify type.text) (FieldKind.read type.text) := by
    rw [classify_text, taken, written]
    refine ⟨rfl, rfl, refused, ?_⟩
    rw [refused]
    exact nofun
  simp only [cases, List.forall_mem_cons]
  refine ⟨?_, ?_, ?_, ?_, List.forall_mem_nil _⟩
  · exact apart rfl (by decide) (by decide +kernel)
  · exact apart rfl (by decide) (by decide +kernel)
  · exact apart rfl (by decide) (by decide +kernel)
  · exact apart rfl (by decide) (by decide +kernel)

end PathType

end Blueprint

end Telemetry
