import ApiStubs.Document.Fields

/-!
# Schemas

A schema says what shape a value has. Its kind is the first that its fields fit exactly; a
schema with fields of several kinds, or with values that its kind does not allow, is of kind
`any` and keeps the fields that a model can be made from.
-/

namespace ApiStubs

mutual

/-- A schema. -/
inductive Schema where
  /-- Whether null is allowed, and the kind. -/
  | mk (nullable : Bool) (kind : SchemaKind)

/-- What a schema describes. -/
inductive SchemaKind where
  /-- A text. -/
  | string
  /-- A number, with its format. -/
  | number (format : Option String)
  /-- A whole number, with its format. -/
  | integer (format : Option String)
  /-- A truth value. -/
  | boolean
  /-- A list, with the schema of its items. -/
  | array (items : Option (RefOr Schema))
  /-- An object, with its properties and the names of those it must have. -/
  | object (properties : List (String × RefOr Schema)) (required : List String)
  /-- Exactly one of several schemas. -/
  | oneOf
  /-- All of several schemas. -/
  | allOf (members : List (RefOr Schema))
  /-- At least one of several schemas. -/
  | anyOf
  /-- Anything that another schema does not describe. -/
  | not
  /-- Any other combination of fields. -/
  | any (properties : List (String × RefOr Schema)) (required : List String)
      (allOf : List (RefOr Schema))

end

namespace Schema

/-- Null is allowed. -/
def nullable : Schema → Bool
  | .mk b _ => b

/-- The kind. -/
def kind : Schema → SchemaKind
  | .mk _ k => k

end Schema

/-- The name of a kind. -/
def SchemaKind.name : SchemaKind → String
  | .string => "string"
  | .number _ => "number"
  | .integer _ => "integer"
  | .boolean => "boolean"
  | .array _ => "array"
  | .object _ _ => "object"
  | .oneOf => "oneOf"
  | .allOf _ => "allOf"
  | .anyOf => "anyOf"
  | .not => "not"
  | .any _ _ _ => "any"

namespace Schema

/-! ### The fields that decide the kind -/

/-- The fields that decide the kind. -/
def kindKeys : List String := [
  "type", "pattern", "format", "multipleOf", "minimum", "maximum", "exclusiveMinimum", "exclusiveMaximum",
  "uniqueItems", "minLength", "maxLength", "minItems", "maxItems", "minProperties", "maxProperties",
  "properties", "required", "items", "additionalProperties", "enum", "oneOf", "allOf", "anyOf", "not"]

/-- The fields that bound numbers. -/
def boundKeys : List String := ["multipleOf", "minimum", "maximum"]

/-- The other fields that a schema of numbers may have. -/
def numberKeys : List String :=
  boundKeys ++ ["exclusiveMinimum", "exclusiveMaximum", "format", "enum"]

/-- The fields of a schema that are there, nothing counting as missing. -/
def present (fields : Fields) : Fields :=
  fields.filter fun (key, value) => kindKeys.contains key && !value.isNull

/-- No fields are there but these. -/
def onlyKeys (fields : Fields) (keys : List String) : Bool :=
  fields.all fun f => keys.contains f.1

/-- Every value of the enumeration is null or of the right shape. -/
def enumOk (fields : Fields) (ok : Node → Bool) : Bool :=
  match fields.lookup "enum" with
  | some (.list values) => values.all fun v => v.isNull || ok v
  | _ => true

/-- The fields that bound numbers hold whole numbers. -/
def boundsWhole (fields : Fields) : Bool :=
  fields.all fun (key, value) => !boundKeys.contains key || value.isSigned

/-- What the fields that hold schemas hold. -/
structure Parts where
  /-- The type. -/
  type : Option String := none
  /-- The format. -/
  format : Option String := none
  /-- The properties. -/
  properties : List (String × RefOr Schema) := []
  /-- The names of the required properties. -/
  required : List String := []
  /-- The schema of items. -/
  items : Option (RefOr Schema) := none
  /-- The members of which all hold. -/
  allOf : List (RefOr Schema) := []

/-- The kind that the fields fit; those in `fields` are all that are there. -/
def kindOf (fields : Fields) (p : Parts) : SchemaKind :=
  let other := SchemaKind.any p.properties p.required p.allOf
  let fits (keys : List String) : Bool := onlyKeys fields ("type" :: keys)
  match p.type with
  | some "string" =>
    if fits ["pattern", "format", "enum", "minLength", "maxLength"]
      && enumOk fields (fun v => v.text?.isSome) then .string else other
  | some "number" =>
    if fits numberKeys && enumOk fields (fun v => v.number?.isSome) then .number p.format else other
  | some "integer" =>
    if fits numberKeys && enumOk fields Node.isSigned && boundsWhole fields then .integer p.format
    else other
  | some "boolean" =>
    if fits ["enum"] && enumOk fields (fun v => v.bool?.isSome) then .boolean else other
  | some "object" =>
    if fits ["properties", "required", "additionalProperties", "minProperties", "maxProperties"]
    then .object p.properties p.required else other
  | some "array" =>
    if fits ["items", "minItems", "maxItems", "uniqueItems"] then .array p.items else other
  | some _ => other
  | none =>
    match fields.map Prod.fst with
    | ["oneOf"] => .oneOf
    | ["allOf"] => .allOf p.allOf
    | ["anyOf"] => .anyOf
    | ["not"] => .not
    | _ => other

/-! ### Reading -/

/-- A discriminator. -/
def discriminator? : Reader Unit := fun n => do
  let fields ← Fields.ofNode? n
  let _ ← fields.required? "propertyName" Node.text?
  fields.allDefault? (Reader.shape (Node.table? Node.text?)) ["mapping"]

/-- A hint at documents elsewhere, with fields that `text` reads. -/
def externalDocs? (fields? : Reader Fields) (text : Reader String) : Reader Unit := fun n => do
  let fields ← fields? n
  let _ ← fields.required? "url" text
  fields.allOptional? text ["description"]

/-- The fields of a schema that say nothing about its kind; whether null is allowed. -/
def common? (fields : Fields) : Option Bool := do
  let nullable ← fields.default? "nullable" Node.bool? false
  fields.allDefault? (Reader.shape Node.bool?) ["readOnly", "writeOnly", "deprecated"]
  fields.allOptional? Node.text? ["title", "description"]
  fields.allOptional? (externalDocs? Fields.ofNode? Node.text?) ["externalDocs"]
  fields.allOptional? discriminator? ["discriminator"]
  fields.allOptional? Node.data? ["example", "default"]
  return nullable

/-- The additional properties of an object: allowed or not, or of a schema. -/
def additional? (schema? : Reader (RefOr Schema)) : Reader Unit := fun n =>
  match n.bool? with
  | some _ => some ()
  | none => schema?.shape n

/-- The fields of a schema that decide its kind. -/
def parts? (fields : Fields) (schema? : Reader (RefOr Schema)) : Option Parts := do
  let type ← fields.optional? "type" Node.text?
  let format ← fields.optional? "format" Node.text?
  fields.allOptional? Node.text? ["pattern"]
  fields.allOptional? Node.number? boundKeys
  fields.allOptional? Node.bool? ["exclusiveMinimum", "exclusiveMaximum", "uniqueItems"]
  fields.allOptional? Node.count?
    ["minLength", "maxLength", "minItems", "maxItems", "minProperties", "maxProperties"]
  let properties ← fields.optional? "properties" (Node.table? schema?)
  let required ← fields.optional? "required" (Node.list? Node.text?)
  let items ← fields.optional? "items" schema?
  fields.allOptional? (additional? schema?) ["additionalProperties"]
  fields.allOptional? (Node.list? Node.data?) ["enum"]
  fields.allOptional? (Node.list? schema?) ["oneOf", "anyOf"]
  let allOf ← fields.optional? "allOf" (Node.list? schema?)
  fields.allOptional? schema? ["not"]
  return {
    type, format, items
    properties := properties.getD [], required := required.getD [], allOf := allOf.getD [] }

/-- The schema with these fields. -/
def ofFields? (fields : Fields) (schema? : Reader (RefOr Schema)) : Option Schema := do
  let nullable ← common? fields
  let parts ← parts? fields schema?
  return .mk nullable (kindOf (present fields) parts)

/-- A pointer or a schema, with schemas nested less than `depth` deep. -/
def refOrSchema? : Nat → Reader (RefOr Schema)
  | 0, _ => none
  | depth + 1, n =>
    refOr? (fun n => do ofFields? (← Fields.ofNode? n) (refOrSchema? depth)) n

/-- Every schema lies in a field of the one around it, so schemas are nested less deep than
nodes can be. -/
def maxNesting : Nat := 128

/-- A pointer or a schema. -/
def refOrNode? : Reader (RefOr Schema) :=
  refOrSchema? maxNesting

/-- The schema that a whole text consists of; a `$ref` in it is a field like any other. -/
def ofTop? : Reader Schema := fun n => do
  ofFields? (← Fields.ofTop? [] n) refOrNode?

end Schema

end ApiStubs
