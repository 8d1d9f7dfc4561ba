import ApiStubs.Document.Basic
import ApiStubs.FileTree
import ApiStubs.Stub.Run

/-!
# Artifacts

An artifact is a file made by rendering a template. Before anything is rendered the policy is
asked about the path of the file; what it leaves alone is neither rendered nor written.
-/

namespace ApiStubs

namespace Collaborators

variable {σ : Type}

/-- The path of the artifact with the given stem in a directory. -/
def artifactPath (c : Collaborators σ) (dir : Path) (stem : String) : Path :=
  dir.child (stem ++ "." ++ c.extension)

/-- Ask whether a path is left alone. -/
def leavesAlone (c : Collaborators σ) (path : Path) : Run σ Bool := do
  let answer := c.policy (← get).world path
  Run.record (.asked path answer)
  if answer then Run.say .debug ("Skipping ignored artifact " ++ path.text)
  return answer

/-- Render a template. -/
def render (c : Collaborators σ) (key : String) (payload : Json) : Run σ String := do
  Run.record (.rendered key payload)
  let (result, lines) := c.renderer (← get).world key payload
  Run.report lines
  MonadExcept.ofExcept result

/-- Write a text. -/
def store (c : Collaborators σ) (path : Path) (text : String) : Run σ Unit := do
  let (result, world, lines) := c.writer (← get).world path text
  modify fun s => { s with world }
  Run.report lines
  MonadExcept.ofExcept result
  Run.record (.wrote path text)

/-- Render a template and write the text, whatever the policy says. -/
def write (c : Collaborators σ) (key : String) (payload : Json) (path : Path) : Run σ Unit := do
  c.store path (← c.render key payload)

/-- Render a template and write the text unless the path is left alone; whether it was
written. -/
def emit (c : Collaborators σ) (key : String) (payload : Json) (path : Path) : Run σ Bool := do
  if ← c.leavesAlone path then return false
  c.write key payload path
  return true

end Collaborators

/-! ### Writers -/

namespace Writer

/-- Writes into a file tree. -/
def files : Writer FileTree := fun t path text =>
  match t.writeFile path text with
  | (.ok (), t) =>
    let size := toString text.utf8ByteSize
    (.ok (), t, [⟨.debug, "Wrote " ++ path.text ++ " (" ++ size ++ " bytes)"⟩])
  | (.error fault, t) => (.error (.file fault none), t, [])

/-- Keeps nothing and never fails. -/
def discard {σ : Type} : Writer σ := fun world _ _ => (.ok (), world, [])

/-- Writes like another writer until that has succeeded as often as the world's count allows,
and then fails. -/
def limited {σ : Type} (fault : Path → Error) (w : Writer σ) : Writer (σ × Nat) :=
  fun (world, left) path text =>
    match left with
    | 0 => (.error (fault path), (world, 0), [])
    | n + 1 =>
      match w world path text with
      | (.ok (), world, lines) => (.ok (), (world, n), lines)
      | (.error e, world, lines) => (.error e, (world, n + 1), lines)

end Writer

/-! ### Listeners -/

namespace Listener

/-- Hears nothing. -/
def silent : Listener := fun _ _ => []

/-- Logs every event. -/
def log : Listener := fun name event =>
  [⟨.info, name ++ ": " ++ event.generator ++ " generated " ++ event.name⟩]

end Listener

/-! ### Paths of a document -/

/-- The message for a path that is not written out. -/
def skippedPathLine (path pointer : String) : LogLine :=
  ⟨.warn, "Skipping path '" ++ path ++ "' defined by reference " ++ pointer⟩

/-- What is logged when the paths of a document are gone through. -/
def Document.skippedPathLines (d : Document) : List LogLine :=
  d.paths.filterMap fun (path, item) =>
    match item with
    | .reference pointer => some (skippedPathLine path pointer)
    | .item _ => none

/-- Do a step for every path that is written out, in the order of the document. -/
def forPaths {σ : Type} (step : String → PathItem → Run σ α) :
    List (String × RefOr PathItem) → Run σ (List α)
  | [] => return []
  | (path, .item item) :: rest => do
    let a ← step path item
    return a :: (← forPaths step rest)
  | (path, .reference pointer) :: rest => do
    Run.report [skippedPathLine path pointer]
    forPaths step rest

end ApiStubs
