import ApiStubs.Json.Record
import ApiStubs.Route.Table

/-!
# Stub records as data

What is told of stubs is kept as JSON: properties, routes, classes and events. Here they are
read back.
-/

namespace ApiStubs

/-- The property in a JSON text. -/
def ModelProperty.ofJsonText? (text : String) : Option ModelProperty := do
  let r ← Json.recordOfText? ["name", "type", "required", "nullable"] 4 text
  return {
    name := ← r.text? "name"
    type := ← r.text? "type"
    required := ← r.flag? "required"
    nullable := ← r.flag? "nullable" }

/-- The route in a JSON text. -/
def Route.ofJsonText? (text : String) : Option Route := do
  let r ← Json.recordOfText? ["middleware", "modelMiddleware", "path", "method", "name"] 5 text
  return {
    middleware := ← r.text? "middleware"
    modelMiddleware := ← r.optionalText? "modelMiddleware"
    path := ← r.text? "path"
    method := ← r.text? "method"
    name := ← r.optionalText? "name" }

/-- The class in a JSON text. -/
def HydratorClass.ofJsonText? (text : String) : Option HydratorClass := do
  let r ← Json.recordOfText? ["hydrator", "model"] 2 text
  return { hydrator := ← r.text? "hydrator", model := ← r.text? "model" }

/-- The event as data. -/
def GeneratedEvent.toJson (e : GeneratedEvent) : Json :=
  .obj [("generator", .str e.generator), ("name", .str e.name)]

/-- The event in a JSON text. -/
def GeneratedEvent.ofJsonText? (text : String) : Option GeneratedEvent := do
  let r ← Json.recordOfText? ["generator", "name"] 2 text
  return { generator := ← r.text? "generator", name := ← r.text? "name" }

end ApiStubs
