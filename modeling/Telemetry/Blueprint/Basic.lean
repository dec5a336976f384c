/-
This file holds descriptions of data structures whose fields are to be metrics.
A field becomes a metric by an annotation that gives its name, and perhaps the
description of its sample. Only a structure with named fields can hold metrics.
-/

import Telemetry.Kind

namespace Telemetry.Blueprint

/-- The value of an argument of an annotation: a text, a number with its digits, or nothing. -/
inductive ArgumentValue
  | text (value : String)
  | number (digits : String)
  | absent
deriving DecidableEq, Repr

/-- An argument of an annotation. The key is any piece of a description. -/
structure Argument where
  key : String
  value : ArgumentValue
deriving DecidableEq, Repr

/-- What stands behind the path of an annotation: nothing, an equals sign and a value, or arguments
in brackets. -/
inductive Attachment
  | absent
  | assigned
  | listed (arguments : List Argument)
deriving DecidableEq, Repr

instance : Coe (List Argument) Attachment :=
  ⟨.listed⟩

/-- An annotation of a field. -/
structure Annotation where
  path : String
  attachment : Attachment
deriving DecidableEq, Repr

/-- A field as it is described. -/
structure Member where
  name : String
  type : String
  annotations : List Annotation
deriving DecidableEq, Repr

/-- What is described. Only the first has named fields. -/
inductive Shape
  | named (members : List Member)
  | positional
  | unit
  | choice
  | overlay
deriving DecidableEq, Repr

/-- What should stand at some place of an annotation. -/
inductive Expectation
  | argument
  | word
  | value
  | text
  | comma
deriving DecidableEq, Repr

/-- The wording of an expectation. -/
def Expectation.wording : Expectation → String
  | .argument => "nested attribute"
  | .word => "ident"
  | .value => "\x60=\x60"
  | .text => "string literal"
  | .comma => "\x60,\x60"

/-- Why a description cannot be used. An annotation may lack something within it or at its end. -/
inductive Fault
  | notStructure
  | unnamedFields
  | missingArguments
  | missingParentheses
  | literalKey
  | invalidKey
  | unknownArgument
  | missing (expected : Expectation)
  | missingAtEnd (expected : Expectation)
  | missingName (field : String)
  | emptyName (field : String)
  | notMetric (field : String)
  | taggedFunctional (field : String) (kind : Kind)
deriving DecidableEq, Repr

/-- The wording of a fault. -/
def Fault.message : Fault → String
  | .notStructure => "derive(AppMetrics) can only be used on struct types"
  | .unnamedFields => "derive(AppMetrics) can only be used on structs with named fields"
  | .missingArguments => "expected attribute arguments in parentheses: #[metric(...)]"
  | .missingParentheses => "expected parentheses: #[metric(...)]"
  | .literalKey => "unexpected literal in nested attribute, expected ident"
  | .invalidKey => "unexpected token in nested attribute, expected ident"
  | .unknownArgument =>
    "unsupported metric attribute, expected \x60name\x60 or \x60sample\x60"
  | .missing expected => "expected " ++ expected.wording
  | .missingAtEnd expected => "unexpected end of input, expected " ++ expected.wording
  | .missingName field => "field " ++ field ++ ": missing metric name"
  | .emptyName field => "field " ++ field ++ ": empty metric name"
  | .notMetric field => "field " ++ field ++ ": metric attribute appears on non-metric type"
  | .taggedFunctional field kind =>
    "field " ++ field ++ ": tagged " ++ kind.word ++ " is not supported"

end Telemetry.Blueprint
