/-
This file holds declarations of metric fields: the field's name, the name under
which its metric is filed, the text of its type, and optionally the description
of its sample. It says what a declaration means and which faults it can have.
-/

import Telemetry.FieldKind
import Telemetry.Sample.Spec

namespace Telemetry

/-- The declaration of one metric field. -/
structure Declaration where
  field : String
  name : String
  type : String
  sample : Option String
deriving DecidableEq, Repr

/-- Why a group of metrics cannot be made from its declarations. -/
inductive DefinitionError
  | invalidType (field type : String)
  | missingSource (field source : String)
  | wrongSource (field source expected : String)
  | taggedFunctional (field : String) (kind : Kind)
  | invalidSample (field : String) (error : Sample.SpecError)
deriving DecidableEq, Repr

namespace DefinitionError

/-- The field at fault. -/
def field : DefinitionError → String
  | .invalidType field _ => field
  | .missingSource field _ => field
  | .wrongSource field _ _ => field
  | .taggedFunctional field _ => field
  | .invalidSample field _ => field

/-- The wording of the fault. -/
def message : DefinitionError → String
  | .invalidType field type =>
    "field " ++ field ++ ": metric declared on non-metric type " ++ type
  | .missingSource field source =>
    "field " ++ field ++ ": " ++ source ++ ": compute function does not exist"
  | .wrongSource field source expected =>
    "field " ++ field ++ ": " ++ source ++ ": compute function must return a value of type " ++
      expected
  | .taggedFunctional field kind =>
    "field " ++ field ++ ": tagged " ++ kind.word ++ " is not supported"
  | .invalidSample field error =>
    "field " ++ field ++ ": invalid sample spec: " ++ error.message

end DefinitionError

namespace Declaration

/-- What the declared field is. -/
def kind (declaration : Declaration) : Except DefinitionError FieldKind :=
  match FieldKind.read declaration.type with
  | .ok kind => .ok kind
  | .error (.unsupported _) => .error (.invalidType declaration.field declaration.type)
  | .error (.taggedFunctional kind) => .error (.taggedFunctional declaration.field kind)

/-- The sample of the declared field: the described one for a kind that keeps a sample, and the
standard one in all other cases. -/
def sampleSpec (declaration : Declaration) : Except DefinitionError Sample.Spec := do
  let kind ← declaration.kind
  match declaration.sample with
  | none => .ok .standard
  | some text =>
    if kind.kind.isSampled then
      match Sample.Spec.read text with
      | .ok spec => .ok spec
      | .error error => .error (.invalidSample declaration.field error)
    else .ok .standard

/-- Check the declaration without making anything. -/
def validate (declaration : Declaration) : Except DefinitionError FieldKind := do
  let kind ← declaration.kind
  let _ ← declaration.sampleSpec
  .ok kind

end Declaration

end Telemetry
