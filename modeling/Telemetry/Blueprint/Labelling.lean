/-
This file reads what an annotation says about the metric in a field. It has to
have arguments in brackets, which make one text, in whose tokens commas divide
them: each is a key, an equals sign and a text. The key is a path of words; only
two single words are known. The first thing that is out of place makes the
annotation faulty, and what follows it is not looked at.
-/

import Telemetry.Blueprint.Basic
import Telemetry.Blueprint.Token
import Telemetry.Text.Quoted

namespace Telemetry.Blueprint

/-- The path of the annotation that makes a field a metric. -/
def metricPath : String :=
  "metric"

/-- Whether the annotation makes a field a metric. -/
def Annotation.isMetric (given : Annotation) : Bool :=
  tokens given.path.toList = [.word metricPath.toList]

/-- What the arguments of an annotation say. Of two arguments with one key the later counts. -/
structure Labelling where
  name : Option String
  sample : Option String
deriving DecidableEq, Repr

/-! ### Text of arguments -/

/-- The text of a value with the sign in front of it. -/
def ArgumentValue.written : ArgumentValue → String
  | .text value => " = " ++ Text.quote value
  | .number digits => " = " ++ digits
  | .absent => ""

/-- The text of an argument. -/
def Argument.written (argument : Argument) : String :=
  argument.key ++ argument.value.written

/-- The tokens of arguments. They are taken from one text with commas between the arguments, so that
a quotation mark or a comment may begin in one argument and end in a later one. -/
def argumentTokens (arguments : List Argument) : List Token :=
  tokens (String.intercalate ", " (arguments.map Argument.written)).toList

/-! ### Reading -/

/-- What is missing in front of the given tokens. -/
def lacking (expected : Expectation) (text : List Token) : Fault :=
  if text.isEmpty then .missingAtEnd expected else .missing expected

/-- The other words of a path, if there are any, and the tokens after the path. -/
def takeSegments : List Token → Except Fault (List (List Char) × List Token)
  | .pathMark :: .word word :: rest =>
    (takeSegments rest).map fun taken => (word :: taken.1, taken.2)
  | .pathMark :: rest => .error (lacking .word rest)
  | rest => .ok ([], rest)

/-- The words of a path, and the tokens after it. -/
def takePath : List Token → Except Fault (List (List Char) × List Token)
  | .word word :: rest => (takeSegments rest).map fun taken => (word :: taken.1, taken.2)
  | .text _ :: _ | .literal :: _ | .number :: _ => .error .literalKey
  | .mark '-' :: .number :: _ => .error .literalKey
  | [] => .error (.missingAtEnd .argument)
  | _ => .error .invalidKey

/-- The key at the start of an argument, and the tokens after it. A path of several words and a
path with a mark in front are keys that nobody knows. -/
def takeKey : List Token → Except Fault (Option String × List Token)
  | .pathMark :: text => (takePath text).map fun taken => (none, taken.2)
  | text => (takePath text).map fun taken =>
    match taken.1 with
    | [word] => (some (String.ofList word), taken.2)
    | _ => (none, taken.2)

/-- The value of an argument, and the tokens after it. -/
def takeValue : List Token → Except Fault (String × List Token)
  | .mark '=' :: .text value :: rest => .ok (String.ofList value, rest)
  | .mark '=' :: rest => .error (lacking .text rest)
  | _ => .error (.missing .value)

/-- Take in one argument. The tokens after it are left. -/
def Labelling.take (labelling : Labelling) (text : List Token) :
    Except Fault (Labelling × List Token) :=
  match takeKey text with
  | .error fault => .error fault
  | .ok (key, rest) =>
    if key = some "name" then
      (takeValue rest).map fun taken => ({ labelling with name := some taken.1 }, taken.2)
    else if key = some "sample" then
      (takeValue rest).map fun taken => ({ labelling with sample := some taken.1 }, taken.2)
    else .error .unknownArgument

theorem length_of_takeSegments {text rest : List Token} {words : List (List Char)}
    (taken : takeSegments text = .ok (words, rest)) : rest.length ≤ text.length := by
  fun_induction takeSegments text generalizing words rest with
  | case1 word more inductionHypothesis =>
    cases found : takeSegments more with
    | error fault => simp [found, Except.map] at taken
    | ok halves =>
      simp only [found, Except.map, Except.ok.injEq, Prod.mk.injEq] at taken
      obtain ⟨_, rfl⟩ := taken
      have shorter := inductionHypothesis found
      simp only [List.length_cons]
      omega
  | case2 => simp at taken
  | case3 =>
    simp only [Except.ok.injEq, Prod.mk.injEq] at taken
    simp [taken.2]

theorem length_of_takePath {text rest : List Token} {words : List (List Char)}
    (taken : takePath text = .ok (words, rest)) : rest.length < text.length := by
  unfold takePath at taken
  split at taken
  · rename_i word more
    cases found : takeSegments more with
    | error fault => simp [found, Except.map] at taken
    | ok halves =>
      simp only [found, Except.map, Except.ok.injEq, Prod.mk.injEq] at taken
      obtain ⟨_, rfl⟩ := taken
      have shorter := length_of_takeSegments found
      simp only [List.length_cons]
      omega
  all_goals simp at taken

theorem length_of_takeKey {text rest : List Token} {key : Option String}
    (taken : takeKey text = .ok (key, rest)) : rest.length < text.length := by
  unfold takeKey at taken
  split at taken
  · rename_i more
    cases found : takePath more with
    | error fault => simp [found, Except.map] at taken
    | ok halves =>
      simp only [found, Except.map, Except.ok.injEq, Prod.mk.injEq] at taken
      obtain ⟨_, rfl⟩ := taken
      exact Nat.lt_succ_of_lt (length_of_takePath found)
  · cases found : takePath text with
    | error fault => simp [found, Except.map] at taken
    | ok halves =>
      have shorter := length_of_takePath found
      simp only [found, Except.map, Except.ok.injEq] at taken
      split at taken <;> simp_all

theorem length_of_takeValue {text rest : List Token} {value : String}
    (taken : takeValue text = .ok (value, rest)) : rest.length < text.length := by
  unfold takeValue at taken
  split at taken
  · simp only [Except.ok.injEq, Prod.mk.injEq] at taken
    obtain ⟨_, rfl⟩ := taken
    simp only [List.length_cons]
    omega
  · simp at taken
  · simp at taken

theorem Labelling.length_of_take {labelling next : Labelling} {text rest : List Token}
    (taken : labelling.take text = .ok (next, rest)) : rest.length < text.length := by
  unfold Labelling.take at taken
  split at taken
  · simp at taken
  · rename_i key more found
    have shorter := length_of_takeKey found
    cases value : takeValue more with
    | error fault =>
      simp only [value, Except.map] at taken
      split at taken
      · simp at taken
      · split at taken <;> simp at taken
    | ok halves =>
      have less := length_of_takeValue value
      simp only [value, Except.map] at taken
      split at taken
      · simp only [Except.ok.injEq, Prod.mk.injEq] at taken
        obtain ⟨_, rfl⟩ := taken
        omega
      · split at taken
        · simp only [Except.ok.injEq, Prod.mk.injEq] at taken
          obtain ⟨_, rfl⟩ := taken
          omega
        · simp at taken

/-- Take in arguments one after the other. A comma may stand after the last one. -/
def Labelling.takeAll (labelling : Labelling) (text : List Token) : Except Fault Labelling :=
  match _ : labelling.take text with
  | .error fault => .error fault
  | .ok (next, []) => .ok next
  | .ok (next, [.mark ',']) => .ok next
  | .ok (next, .mark ',' :: rest) => next.takeAll rest
  | .ok _ => .error (.missing .comma)
termination_by text.length
decreasing_by
  rename_i taken
  have shorter := Labelling.length_of_take taken
  simp only [List.length_cons] at shorter
  omega

/-- What arguments say. No arguments say nothing. -/
def readArguments (arguments : List Argument) : Except Fault Labelling :=
  if (argumentTokens arguments).isEmpty then .ok ⟨none, none⟩
  else Labelling.takeAll ⟨none, none⟩ (argumentTokens arguments)

/-- What the annotation says. Only arguments in brackets are read, even if there are none. -/
def Annotation.labelling (given : Annotation) : Except Fault Labelling :=
  match given.attachment with
  | .absent => .error .missingArguments
  | .assigned => .error .missingParentheses
  | .listed arguments => readArguments arguments

end Telemetry.Blueprint
