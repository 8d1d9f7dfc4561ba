import ApiStubs.Document.Basic
import ApiStubs.Stub.Artifact

/-!
# Handlers

Every path that is written out gets one handler, which knows the methods of the path.
-/

namespace ApiStubs

/-- The template of handlers. -/
def handlerTemplate : String := "handler"

/-- The directory of handlers inside the output directory. -/
def handlerDir : String := "Handler"

/-- What the template of a handler is given. -/
structure HandlerPayload where
  /-- The name of the handler. -/
  className : String
  /-- The namespace of handlers. -/
  space : String
  /-- The methods of the path, in order. -/
  operationMethods : List String
  deriving Repr, DecidableEq

/-- The payload as data. -/
def HandlerPayload.toJson (p : HandlerPayload) : Json :=
  .obj [("className", .str p.className), ("namespace", .str p.space),
    ("operationMethods", Json.ofTexts p.operationMethods)]

/-- What the generators know: those they work with, how namespaces are joined, how properties
are found and who hears of hydrators. -/
structure Codegen (σ : Type) where
  /-- Those the generators work with. -/
  collaborators : Collaborators σ
  /-- How namespaces are joined. -/
  namespacing : Namespacing
  /-- How properties are found. -/
  properties : PropertyResolver
  /-- Who hears of hydrators. -/
  listener : Listener := Listener.silent

namespace Codegen

variable {σ : Type}

/-- The namespace of handlers. -/
def handlerSpace (g : Codegen σ) (base : String) : String :=
  g.namespacing.child base handlerSuffix

/-- The path of the handler of a path. -/
def handlerTarget (g : Codegen σ) (output : Path) (path : String) : Path :=
  g.collaborators.artifactPath (output.child handlerDir) (handlerName path)

/-- What the template of the handler of a path is given. -/
def handlerPayload (g : Codegen σ) (base path : String) (item : PathItem) : HandlerPayload :=
  { className := handlerName path
    space := g.handlerSpace base
    operationMethods := item.operations.map fun (m, _) => m.word }

/-- Make the handler of a path; its name, unless it is left alone. -/
def handler (g : Codegen σ) (output : Path) (base path : String) (item : PathItem) :
    Run σ (Option String) := do
  let target := g.handlerTarget output path
  let written ← g.collaborators.emit handlerTemplate (g.handlerPayload base path item).toJson target
  if written then
    Run.say .debug ("Generated handler " ++ handlerName path ++ " for " ++ path)
    return some (handlerName path)
  else return none

/-- Make the handlers of a document; the names of those that were written. -/
def handlers (g : Codegen σ) (d : Document) (output : Path) (base : String) :
    Run σ (List String) := do
  let names ← forPaths (fun path item => g.handler output base path item) d.paths
  return names.filterMap id

end Codegen

end ApiStubs
