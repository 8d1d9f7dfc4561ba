import ApiStubs.Error
import ApiStubs.Text.Drop

/-!
# Pointers into the components

A document names its shared schemas and parameters in tables. A pointer is accepted when it
is the text of the table followed by one name: not empty and without a slash.
-/

namespace ApiStubs

/-- The name a pointer into the table leads to. -/
def componentName (table : ComponentTable) (reference : String) : Except Error String :=
  match Text.dropStart? table.pointerStart.toList reference.toList with
  | some name =>
    if name.isEmpty || name.contains '/' then .error (.unsupportedReference reference table)
    else .ok (String.ofList name)
  | none => .error (.unsupportedReference reference table)

/-- The schema a pointer leads to. -/
def schemaName (reference : String) : Except Error String :=
  componentName .schemas reference

/-- The parameter a pointer leads to. -/
def parameterName (reference : String) : Except Error String :=
  componentName .parameters reference

end ApiStubs
