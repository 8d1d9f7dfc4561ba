import ApiStubs.Route.Table

/-!
# All stubs of a document

The handlers come first, then the hydrators, then the route table. The first failure ends the
run.
-/

namespace ApiStubs

/-- What a run has written. -/
structure Report where
  /-- The names of the handlers. -/
  handlers : List String
  /-- The names of the hydrators. -/
  hydrators : List String
  /-- The route table was written. -/
  routesWritten : Bool
  deriving Repr, DecidableEq

/-- Make all stubs of a document. -/
def Codegen.run {σ : Type} (g : Codegen σ) (d : Document) (base : String) (output config : Path) :
    Run σ Report := do
  let handlers ← g.handlers d output base
  let hydrators ← g.hydrators d output base
  let routesWritten ← g.routeTable d base config
  return { handlers, hydrators, routesWritten }

end ApiStubs
