import EntityMapping.Settings.ClassSettings
import EntityMapping.Settings.FieldSettings

/-!
# Evaluation

The annotations of a type, evaluated into the mapping record of a class.  All
settings are read first, those of the class before those of the fields in order,
so the first fault in that order is reported; then they are applied in the same
order.
-/

namespace EntityMapping.Settings

open EntityMapping.Document
open EntityMapping.Record

/-- All settings that the annotations of a type make. -/
structure TypeSettings where
  ofClass : ClassSettings
  ofFields : List FieldSettings

namespace TypeSettings

/-- The settings of a type. -/
def ofType (type : ObjectType) : Checked TypeSettings := do
  let ofClass ← ClassSettings.ofDirectives type.directives
  let ofFields ← type.fields.mapM FieldSettings.ofField
  return ⟨ofClass, ofFields⟩

/-- Apply all settings to a record. -/
def apply (className : String) (settings : TypeSettings) (record : ClassMapping) :
    ClassMapping :=
  settings.ofFields.foldl (fun record field => field.apply record)
    (settings.ofClass.apply className record)

end TypeSettings

/-- Evaluate the annotations of a type into a record. -/
def evaluate (className : String) (type : ObjectType) (record : ClassMapping) :
    Except EvaluationError ClassMapping :=
  match TypeSettings.ofType type with
  | .ok settings => .ok (settings.apply className record)
  | .error fault => .error ⟨className, fault⟩

/-- The mapping record that a type gives a class. -/
def evaluateNew (className : String) (type : ObjectType) :
    Except EvaluationError ClassMapping :=
  evaluate className type (.empty className)

theorem className_of_evaluate_error {className : String} {type : ObjectType}
    {record : ClassMapping} {error : EvaluationError}
    (failed : evaluate className type record = .error error) :
    error.className = className := by
  unfold evaluate at failed
  split at failed
  · cases failed
  · cases failed
    rfl

end EntityMapping.Settings
