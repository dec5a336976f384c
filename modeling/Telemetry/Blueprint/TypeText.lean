/-
This file says which metric a field of a described structure holds, by the
tokens of the field's type. A metric's type is a path whose last segment names a
kind, or is `Tagged` with such a path as its first argument in angle brackets.
Whatever else a type can be, a reference, a tuple, an array, a bound, is no
metric.
-/

import Telemetry.Blueprint.Token
import Telemetry.FieldKind

namespace Telemetry.Blueprint

/-! ### Brackets -/

/-- The closing mark that belongs to an opening one. -/
def closing? : Char → Option Char
  | '<' => some '>'
  | '(' => some ')'
  | '[' => some ']'
  | '\x7b' => some '\x7d'
  | _ => none

/-- The closing marks that are still awaited after a token, the innermost first. An angle bracket
that is not awaited is a comparison; the other closing marks also end what is open inside. -/
def awaitedAfter (awaited : List Char) : Token → List Char
  | .mark c =>
    match closing? c with
    | some closing => closing :: awaited
    | none =>
      if c = '>' then if awaited.head? = some '>' then awaited.tail else awaited
      else if awaited.contains c then (awaited.dropWhile (· ≠ c)).tail
      else awaited
  | _ => awaited

/-- The tokens up to the mark that leaves nothing awaited, and those after it. -/
def enclosed (awaited : List Char) : List Token → Option (List Token × List Token)
  | [] => none
  | token :: rest =>
    let next := awaitedAfter awaited token
    if next.isEmpty then some ([], rest)
    else (enclosed next rest).map fun halves => (token :: halves.1, halves.2)

/-- The tokens up to the first comma outside of brackets. -/
def untilComma (awaited : List Char) : List Token → List Token
  | [] => []
  | token :: rest =>
    if awaited.isEmpty && token = .mark ',' then []
    else token :: untilComma (awaitedAfter awaited token) rest

theorem length_snd_of_enclosed {awaited : List Char} {text inner rest : List Token}
    (found : enclosed awaited text = some (inner, rest)) : rest.length < text.length := by
  induction text generalizing awaited inner with
  | nil => simp [enclosed] at found
  | cons token more inductionHypothesis =>
    simp only [enclosed] at found
    split at found
    · simp only [Option.some.injEq, Prod.mk.injEq] at found
      simp [found.2]
    · simp only [Option.map_eq_some_iff, Prod.mk.injEq] at found
      obtain ⟨⟨left, right⟩, foundRest, _, rfl⟩ := found
      have shorter : right.length < more.length := inductionHypothesis foundRest
      simp only [List.length_cons]
      omega

/-! ### Paths -/

/-- What stands behind the word of a segment: nothing, or tokens in angle brackets, or parameters in
round brackets. -/
inductive Arguments
  | absent
  | angled (inner : List Token)
  | rounded
deriving DecidableEq, Repr

/-- A segment of a path. -/
structure Segment where
  word : List Char
  arguments : Arguments
deriving DecidableEq, Repr

/-- Whether the segment has no arguments, or an empty pair of angle brackets. -/
def Segment.isBare (segment : Segment) : Bool :=
  match segment.arguments with
  | .absent => true
  | .angled inner => inner.isEmpty
  | .rounded => false

/-- The tokens without the path mark in front of brackets. -/
def atBrackets : List Token → List Token
  | .pathMark :: .mark '<' :: rest => .mark '<' :: rest
  | .pathMark :: .mark '(' :: rest => .mark '(' :: rest
  | tokens => tokens

/-- The tokens after the result that parameters may have. A result in round brackets does not end
the path. -/
def afterResult : List Token → List Token
  | .arrow :: .mark '(' :: rest =>
    match enclosed [')'] rest with
    | some (_, after) => after
    | none => []
  | tokens => tokens

theorem length_atBrackets (text : List Token) : (atBrackets text).length ≤ text.length := by
  unfold atBrackets
  split <;> simp

theorem length_afterResult (text : List Token) : (afterResult text).length ≤ text.length := by
  unfold afterResult
  split
  · split
    · rename_i inner after found
      have shorter := length_snd_of_enclosed found
      simp only [List.length_cons]
      omega
    · exact Nat.zero_le _
  · exact Nat.le_refl _

/-- The first segment of a path, and the tokens after it. -/
def firstSegment? : List Token → Option (Segment × List Token)
  | .word word :: rest =>
    match atBrackets rest with
    | .mark '<' :: more =>
      (enclosed ['>'] more).map fun halves => (⟨word, .angled halves.1⟩, halves.2)
    | .mark '(' :: more =>
      (enclosed [')'] more).map fun halves => (⟨word, .rounded⟩, afterResult halves.2)
    | _ => some (⟨word, .absent⟩, rest)
  | _ => none

theorem length_of_firstSegment? {text rest : List Token} {segment : Segment}
    (found : firstSegment? text = some (segment, rest)) : rest.length < text.length := by
  unfold firstSegment? at found
  split at found
  · rename_i word after
    have atMost := length_atBrackets after
    split at found
    · rename_i more brackets
      simp only [Option.map_eq_some_iff, Prod.mk.injEq] at found
      obtain ⟨halves, inside, _, rfl⟩ := found
      have shorter : halves.2.length < more.length := length_snd_of_enclosed inside
      rw [brackets] at atMost
      simp only [List.length_cons] at atMost ⊢
      omega
    · rename_i more brackets
      simp only [Option.map_eq_some_iff, Prod.mk.injEq] at found
      obtain ⟨halves, inside, _, rfl⟩ := found
      have shorter : halves.2.length < more.length := length_snd_of_enclosed inside
      have result := length_afterResult halves.2
      rw [brackets] at atMost
      simp only [List.length_cons] at atMost ⊢
      omega
    · simp only [Option.some.injEq, Prod.mk.injEq] at found
      simp [found.2]
  · simp at found

/-- The last segment of a path that does not start with a path mark; nothing if the tokens are no
path. -/
def lastOfPath (text : List Token) : Option Segment :=
  match _ : firstSegment? text with
  | none => none
  | some (segment, []) => some segment
  | some (_, .pathMark :: rest) => lastOfPath rest
  | some _ => none
termination_by text.length
decreasing_by
  rename_i found
  have shorter := length_of_firstSegment? found
  simp only [List.length_cons] at shorter
  omega

/-- The words that start a bound: what follows them is no path of its own. -/
def boundWords : List (List Char) :=
  ["dyn".toList, "impl".toList, "for".toList]

/-- Whether the tokens start with a word that makes a bound of what follows. -/
def isBound : List Token → Bool
  | .word text :: _ => boundWords.contains text
  | _ => false

/-- The last segment of a path. -/
def lastSegment? (text : List Token) : Option Segment :=
  if isBound text then none
  else
    match text with
    | .pathMark :: rest => lastOfPath rest
    | _ => lastOfPath text

/-! ### Metrics -/

/-- Why a type is no type of a metric. -/
inductive TypeFault
  | notMetric
  | taggedFunctional (kind : Kind)
deriving DecidableEq, Repr

/-- The kind that a segment without arguments names. -/
def Segment.kind? (segment : Segment) : Option Kind :=
  if segment.isBare then Kind.ofWord? (String.ofList segment.word) else none

/-- The tokens of the first argument in angle brackets. -/
def Segment.firstArgument (segment : Segment) : List Token :=
  match segment.arguments with
  | .angled inner => untilComma [] inner
  | _ => []

/-- What a field of the given type holds. -/
def classify (type : String) : Except TypeFault FieldKind :=
  match lastSegment? (tokens type.toList) with
  | none => .error .notMetric
  | some segment =>
    if segment.word = "Tagged".toList then
      match (lastSegment? segment.firstArgument).bind Segment.kind? with
      | none => .error .notMetric
      | some kind =>
        match kind.stored? with
        | none => .error (.taggedFunctional kind)
        | some stored => .ok (.tagged stored)
    else
      match segment.kind? with
      | none => .error .notMetric
      | some kind => .ok (.plain kind)

end Telemetry.Blueprint
