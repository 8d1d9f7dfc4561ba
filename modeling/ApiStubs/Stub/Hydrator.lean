import ApiStubs.Stub.Handler

/-!
# Hydrators

Every shared schema that is written out gets one hydrator, which turns data into the model of
the schema and back. A hydrator that has been written is announced.
-/

namespace ApiStubs

/-- The template of hydrators. -/
def hydratorTemplate : String := "model-hydrator"

/-- The directory of hydrators inside the output directory. -/
def hydratorDir : String := "Hydrator"

/-- The generator that hydrators are announced with. -/
def hydratorGenerator : String := "Hydrator"

/-- A property as data. -/
def ModelProperty.toJson (p : ModelProperty) : Json :=
  .obj [("name", .str p.name), ("type", .str p.type), ("required", .bool p.required),
    ("nullable", .bool p.nullable)]

/-- What the template of a hydrator is given. -/
structure HydratorPayload where
  /-- The name of the hydrator. -/
  className : String
  /-- The namespace of hydrators. -/
  space : String
  /-- The name of the model. -/
  modelName : String
  /-- The namespace of models. -/
  modelSpace : String
  /-- The properties of the model. -/
  properties : List ModelProperty
  deriving Repr, DecidableEq

/-- The payload as data. -/
def HydratorPayload.toJson (p : HydratorPayload) : Json :=
  .obj [("className", .str p.className), ("namespace", .str p.space), ("modelName", .str p.modelName),
    ("modelNamespace", .str p.modelSpace), ("properties", .arr (p.properties.map ModelProperty.toJson))]

/-- A hydrator and its model, with their namespaces. -/
structure HydratorClass where
  /-- The hydrator. -/
  hydrator : String
  /-- The model. -/
  model : String
  deriving Repr, DecidableEq

/-- The pair as data. -/
def HydratorClass.toJson (c : HydratorClass) : Json :=
  .obj [("hydrator", .str c.hydrator), ("model", .str c.model)]

/-- The hydrator and the model of every shared schema, pointers included. -/
def hydratorClasses (n : Namespacing) (d : Document) (base : String) : List HydratorClass :=
  d.schemas.map fun (name, _) =>
    { hydrator := n.qualify (n.child base hydratorSuffix) (hydratorName name)
      model := n.qualify (n.child base modelSuffix) (modelName name) }

namespace Codegen

variable {σ : Type}

/-- The namespace of hydrators. -/
def hydratorSpace (g : Codegen σ) (base : String) : String :=
  g.namespacing.child base hydratorSuffix

/-- The namespace of models. -/
def modelSpace (g : Codegen σ) (base : String) : String :=
  g.namespacing.child base modelSuffix

/-- The path of the hydrator of a schema. -/
def hydratorTarget (g : Codegen σ) (output : Path) (name : String) : Path :=
  g.collaborators.artifactPath (output.child hydratorDir) (hydratorName name)

/-- What the template of the hydrator of a schema is given. -/
def hydratorPayload (g : Codegen σ) (base name : String) (properties : List ModelProperty) :
    HydratorPayload :=
  { className := hydratorName name
    space := g.hydratorSpace base
    modelName := modelName name
    modelSpace := g.modelSpace base
    properties }

/-- Tell the listener of a hydrator. -/
def announce (g : Codegen σ) (name : String) : Run σ Unit := do
  let event : GeneratedEvent := { generator := hydratorGenerator, name }
  Run.record (.announced generatedEventName event)
  Run.report (g.listener generatedEventName event)

/-- Make the hydrator of a schema; its name, unless it is left alone. -/
def hydrator (g : Codegen σ) (output : Path) (base name : String) (schema : Schema) :
    Run σ (Option String) := do
  let target := g.hydratorTarget output name
  if ← g.collaborators.leavesAlone target then return none
  let properties ← Run.ofLogged (g.properties schema name)
  g.collaborators.write hydratorTemplate (g.hydratorPayload base name properties).toJson target
  g.announce (hydratorName name)
  Run.say .debug ("Generated hydrator " ++ hydratorName name ++ " for schema '" ++ name ++ "'")
  return some (hydratorName name)

/-- Make the hydrators of the schemas of a table; the names of those that were written. -/
def hydratorsOf (g : Codegen σ) (output : Path) (base : String) :
    List (String × RefOr Schema) → Run σ (List String)
  | [] => return []
  | (name, .item schema) :: rest => do
    let made ← g.hydrator output base name schema
    let others ← hydratorsOf g output base rest
    return made.toList ++ others
  | (name, .reference pointer) :: rest => do
    Run.say .debug ("Skipping schema '" ++ name ++ "' aliasing " ++ pointer)
    hydratorsOf g output base rest

/-- Make the hydrators of a document; the names of those that were written. -/
def hydrators (g : Codegen σ) (d : Document) (output : Path) (base : String) :
    Run σ (List String) :=
  g.hydratorsOf output base d.schemas

end Codegen

end ApiStubs
