/-
This file cuts a text at separators and puts the pieces together again. Cutting
at a separator gives one piece more than there are separators, so the empty
text is one empty piece; putting the pieces together with the separator between
them gives the text back.
-/

namespace Telemetry.Text

/-- The pieces of a text between the separators. -/
def pieces (separator : Char) : List Char → List (List Char)
  | [] => [[]]
  | c :: rest =>
    if c = separator then [] :: pieces separator rest
    else (pieces separator rest).modifyHead (c :: ·)

/-- The pieces with the separator between them. -/
def glue (separator : Char) : List (List Char) → List Char
  | [] => []
  | [piece] => piece
  | piece :: next :: more => piece ++ separator :: glue separator (next :: more)

/-- What stands before and after the first separator, if there is one. -/
def cut (separator : Char) : List Char → Option (List Char × List Char)
  | [] => none
  | c :: rest =>
    if c = separator then some ([], rest)
    else (cut separator rest).map fun halves => (c :: halves.1, halves.2)

/-- The text without the last character, if that is the given one. -/
def stripLast (last : Char) (text : List Char) : Option (List Char) :=
  if text.getLast? = some last then some text.dropLast else none

theorem pieces_ne_nil (separator : Char) (text : List Char) : pieces separator text ≠ [] := by
  cases text with
  | nil => simp [pieces]
  | cons c rest =>
    unfold pieces
    split
    · simp
    · cases next : pieces separator rest with
      | nil => exact absurd next (pieces_ne_nil separator rest)
      | cons piece more => simp

/-- Cutting at the separators loses nothing. -/
theorem glue_pieces (separator : Char) (text : List Char) :
    glue separator (pieces separator text) = text := by
  induction text with
  | nil => rfl
  | cons c rest inductionHypothesis =>
    cases parts : pieces separator rest with
    | nil => exact absurd parts (pieces_ne_nil separator rest)
    | cons piece more =>
      rw [parts] at inductionHypothesis
      by_cases same : c = separator
      · subst same
        simp [pieces, parts, glue, inductionHypothesis]
      · cases more with
        | nil => simp_all [pieces, glue]
        | cons next further => simp_all [pieces, glue]

/-- No piece holds the separator. -/
theorem separator_notMem_pieces {separator : Char} {text piece : List Char}
    (member : piece ∈ pieces separator text) : separator ∉ piece := by
  induction text generalizing piece with
  | nil => simp_all [pieces]
  | cons c rest inductionHypothesis =>
    cases parts : pieces separator rest with
    | nil => exact absurd parts (pieces_ne_nil separator rest)
    | cons first more =>
      rw [parts] at inductionHypothesis
      by_cases same : c = separator
      · simp only [pieces, same, parts, if_true, List.mem_cons] at member
        rcases member with rfl | member
        · simp
        · exact inductionHypothesis (by simpa using member)
      · simp only [pieces, same, parts, if_false, List.modifyHead_cons, List.mem_cons] at member
        rcases member with rfl | member
        · have fresh : separator ∉ first := inductionHypothesis (by simp)
          simp only [List.mem_cons, not_or]
          exact ⟨fun equal => same equal.symm, fresh⟩
        · exact inductionHypothesis (by simp [member])

/-- The two halves of a cut are what the separator stood between. -/
theorem cut_eq_some {separator : Char} {text before after : List Char}
    (found : cut separator text = some (before, after)) :
    text = before ++ separator :: after ∧ separator ∉ before := by
  induction text generalizing before with
  | nil => simp [cut] at found
  | cons c rest inductionHypothesis =>
    by_cases same : c = separator
    · simp only [cut, same, if_true, Option.some.injEq, Prod.mk.injEq] at found
      obtain ⟨rfl, rfl⟩ := found
      simp [same]
    · simp only [cut, same, if_false, Option.map_eq_some_iff, Prod.mk.injEq] at found
      obtain ⟨⟨left, right⟩, cutRest, rfl, rfl⟩ := found
      obtain ⟨shape, fresh⟩ := inductionHypothesis cutRest
      refine ⟨by simp [shape], ?_⟩
      simp only [List.mem_cons, not_or]
      exact ⟨fun equal => same equal.symm, fresh⟩

end Telemetry.Text
