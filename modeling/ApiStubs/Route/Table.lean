import ApiStubs.Document.Resolve
import ApiStubs.Route.Pattern
import ApiStubs.Stub.Hydrator

/-!
# The route table

Every operation of a path that is written out has one route: the handler of the path, the
model of a JSON body given by a pointer, the method and the path with its parameters marked.
The table of all routes is one artifact.
-/

namespace ApiStubs

/-- The template of the route table. -/
def routesTemplate : String := "routes"

/-- The stem of the file of the route table. -/
def routesStem : String := "swagger.routes"

/-- A route. -/
structure Route where
  /-- The handler, with its namespace. -/
  middleware : String
  /-- The model of the body, with its namespace. -/
  modelMiddleware : Option String
  /-- The path with its parameters marked. -/
  path : String
  /-- The method. -/
  method : String
  /-- The identifier of the operation. -/
  name : Option String
  deriving Repr, DecidableEq

/-- The route as data. -/
def Route.toJson (r : Route) : Json :=
  .obj [("middleware", .str r.middleware), ("modelMiddleware", Json.ofText? r.modelMiddleware),
    ("path", .str r.path), ("method", .str r.method), ("name", Json.ofText? r.name)]

/-- What the template of the route table is given. -/
def routesPayload (routes : List Route) : Json :=
  .obj [("routes", .arr (routes.map Route.toJson))]

/-- The names of the path parameters among parameters, all of which have to resolve. -/
def pathParameters (d : Document) : List (RefOr Parameter) → Except Error (List String)
  | [] => .ok []
  | p :: rest => do
    let p ← d.resolveParameter p
    let names ← pathParameters d rest
    return if p.location = .path then p.name :: names else names

namespace Codegen

variable {σ : Type}

/-- The model of the JSON body of an operation, where a pointer gives the schema. A body that
is a pointer itself is not followed. -/
def modelMiddleware (g : Codegen σ) (base : String) (o : Operation) : Run σ (Option String) := do
  match o.requestBody with
  | none => return none
  | some (.reference pointer) =>
    Run.say .debug ("Not following request body reference " ++ pointer)
    return none
  | some (.item body) =>
    match body.jsonSchema? with
    | some (.reference pointer) =>
      let name ← MonadExcept.ofExcept (schemaName pointer)
      return some (g.namespacing.qualify (g.modelSpace base) (modelName name))
    | _ => return none

/-- The route of an operation. The parameters of the path come before its own. -/
def route (g : Codegen σ) (d : Document) (base path : String) (item : PathItem) (m : Method)
    (o : Operation) : Run σ Route := do
  let names ← MonadExcept.ofExcept (pathParameters d (item.parameters ++ o.parameters))
  let model ← g.modelMiddleware base o
  return {
    middleware := g.namespacing.qualify (g.handlerSpace base) (handlerName path)
    modelMiddleware := model
    path := markParameters path names
    method := m.word
    name := o.operationId }

/-- The routes of operations of a path. -/
def routesOf (g : Codegen σ) (d : Document) (base path : String) (item : PathItem) :
    List (Method × Operation) → Run σ (List Route)
  | [] => return []
  | (m, o) :: rest => do
    let r ← g.route d base path item m o
    return r :: (← routesOf g d base path item rest)

/-- The routes of a path. -/
def pathRoutes (g : Codegen σ) (d : Document) (base path : String) (item : PathItem) :
    Run σ (List Route) :=
  g.routesOf d base path item item.operations

/-- The routes of a document, by path and then by method. -/
def routes (g : Codegen σ) (d : Document) (base : String) : Run σ (List Route) := do
  let found ← forPaths (fun path item => g.pathRoutes d base path item) d.paths
  return found.flatten

/-- The path of the route table. -/
def routesTarget (g : Codegen σ) (config : Path) : Path :=
  g.collaborators.artifactPath config routesStem

/-- Make the route table; whether it was written. -/
def routeTable (g : Codegen σ) (d : Document) (base : String) (config : Path) : Run σ Bool := do
  let target := g.routesTarget config
  if ← g.collaborators.leavesAlone target then return false
  let routes ← g.routes d base
  g.collaborators.write routesTemplate (routesPayload routes) target
  Run.say .debug ("Generated " ++ toString routes.length ++ " route(s) in " ++ target.text)
  return true

end Codegen

end ApiStubs
