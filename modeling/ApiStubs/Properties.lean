import ApiStubs.Document.Schema
import ApiStubs.Log
import ApiStubs.Naming
import ApiStubs.Reference
import ApiStubs.TargetKind

/-!
# Properties of models

A model has the properties that its schema declares, each with the spelling of its type. A
schema of kind `allOf` has those of its members that are written out, in order, to any depth.
Of several declarations of one name the first counts.
-/

namespace ApiStubs

/-- A property of a model. -/
structure ModelProperty where
  /-- The name, as in the schema. -/
  name : String
  /-- The spelling of the type. -/
  type : String
  /-- The schema lists the property as required. -/
  required : Bool
  /-- The property may be null. -/
  nullable : Bool
  deriving Repr, DecidableEq

/-! ### Types -/

/-- The whole number type of a format. -/
def integerPrimitive (format : Option String) : Primitive :=
  if format = some "int32" then .int32 else .int64

/-- The number type of a format. -/
def numberPrimitive (format : Option String) : Primitive :=
  if format = some "float" then .float else .double

mutual

/-- The spelling of the type of a property. A pointer is spelled as the name of its model. -/
def typeOf (kind : TargetKind) : RefOr Schema → Except Error String
  | .reference pointer => (schemaName pointer).map modelName
  | .item schema => typeOfSchema kind schema

/-- The spelling of the type of a schema. -/
def typeOfSchema (kind : TargetKind) : Schema → Except Error String
  | .mk _ .string => .ok (kind.primitiveType .string)
  | .mk _ (.integer format) => .ok (kind.primitiveType (integerPrimitive format))
  | .mk _ (.number format) => .ok (kind.primitiveType (numberPrimitive format))
  | .mk _ .boolean => .ok (kind.primitiveType .boolean)
  | .mk _ (.array none) => .ok (kind.arrayType kind.anyType)
  | .mk _ (.array (some items)) => (typeOf kind items).map kind.arrayType
  | _ => .ok kind.anyType

end

/-! ### Properties -/

/-- Work that may fail and that keeps a log. -/
abbrev Logged := ExceptT Error (StateM (List LogLine))

/-- Write a line into the log. -/
def note (severity : Severity) (text : String) : Logged Unit :=
  modify (· ++ [⟨severity, text⟩])

/-- The property that a declaration makes. -/
def property (kind : TargetKind) (required : List String) (name : String) (schema : RefOr Schema) :
    Except Error ModelProperty := do
  let type ← typeOf kind schema
  let nullable := match schema with
    | .item s => s.nullable
    | .reference _ => false
  return { name, type, required := required.contains name, nullable }

/-- The properties so far with those of more declarations; a name that is there is passed
over. -/
def addProperties (kind : TargetKind) (required : List String) (found : List ModelProperty) :
    List (String × RefOr Schema) → Except Error (List ModelProperty)
  | [] => .ok found
  | (name, schema) :: rest =>
    if found.any (fun p => p.name == name) then addProperties kind required found rest
    else do
      let p ← property kind required name schema
      addProperties kind required (found ++ [p]) rest

mutual

/-- The properties so far with those of one more schema. The name is that of the whole
schema. -/
def collectSchema (kind : TargetKind) (name : String) (found : List ModelProperty) :
    Schema → Logged (List ModelProperty)
  | .mk _ (.object properties required) => addProperties kind required found properties
  | .mk _ (.any properties required _) => addProperties kind required found properties
  | .mk _ (.allOf members) => collectMembers kind name found members
  | _ => do
    note .debug ("Schema '" ++ name ++ "' has no properties")
    return found

/-- The properties so far with those of the members of a schema. -/
def collectMembers (kind : TargetKind) (name : String) (found : List ModelProperty) :
    List (RefOr Schema) → Logged (List ModelProperty)
  | [] => return found
  | .item member :: rest => do
    let found ← collectSchema kind name found member
    collectMembers kind name found rest
  | .reference pointer :: rest => do
    note .debug ("Skipping allOf reference " ++ pointer ++ " in schema '" ++ name ++ "'")
    collectMembers kind name found rest

end

/-- The properties of the model of a schema, in order. -/
def modelProperties (kind : TargetKind) (schema : Schema) (name : String) :
    Logged (List ModelProperty) :=
  collectSchema kind name [] schema

end ApiStubs
