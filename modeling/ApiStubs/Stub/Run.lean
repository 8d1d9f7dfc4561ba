import ApiStubs.Json.Basic
import ApiStubs.Path
import ApiStubs.Properties

/-!
# Runs

A run asks, renders, writes and announces through collaborators it does not know. Asking and
rendering look at the world, which may be a file tree or anything else; only writing changes
it. A run keeps the list of its calls and a log, also when it fails.
-/

namespace ApiStubs

/-- The event that announces an artifact. -/
def generatedEventName : String := "stubforge.generator.generated"

/-- The announcement of an artifact. -/
structure GeneratedEvent where
  /-- What made the artifact. -/
  generator : String
  /-- The name of the artifact. -/
  name : String
  deriving Repr, DecidableEq

/-- A call of a collaborator. -/
inductive Call where
  /-- The policy was asked about a path. -/
  | asked (path : Path) (answer : Bool)
  /-- A template was to be rendered. -/
  | rendered (key : String) (payload : Json)
  /-- A file was written. -/
  | wrote (path : Path) (text : String)
  /-- An artifact was announced. -/
  | announced (name : String) (event : GeneratedEvent)

/-- Decides whether a path is left alone. -/
abbrev Policy (σ : Type) := σ → Path → Bool

/-- Renders the template of a key with a payload. -/
abbrev Renderer (σ : Type) := σ → String → Json → Except Error String × List LogLine

/-- Writes a file. -/
abbrev Writer (σ : Type) := σ → Path → String → Except Error Unit × σ × List LogLine

/-- Hears of artifacts; what it logs of an event. -/
abbrev Listener := String → GeneratedEvent → List LogLine

/-- The properties of the model of a schema of a given name. -/
abbrev PropertyResolver := Schema → String → Logged (List ModelProperty)

/-- Those a run works with. -/
structure Collaborators (σ : Type) where
  /-- Renders templates. -/
  renderer : Renderer σ
  /-- Says which paths are left alone. -/
  policy : Policy σ
  /-- Writes files. -/
  writer : Writer σ
  /-- The extension of the files. -/
  extension : String

/-- The state of a run. -/
structure RunState (σ : Type) where
  /-- What the collaborators see. -/
  world : σ
  /-- The calls so far. -/
  calls : List Call := []
  /-- The log so far. -/
  log : List LogLine := []

/-- A step of a run. -/
abbrev Run (σ : Type) := ExceptT Error (StateM (RunState σ))

namespace Run

variable {σ : Type}

/-- Do a step, from a state on. -/
def start (step : Run σ α) (s : RunState σ) : Except Error α × RunState σ :=
  (ExceptT.run step).run s

/-- Remember a call. -/
def record (c : Call) : Run σ Unit :=
  modify fun s => { s with calls := s.calls ++ [c] }

/-- Add lines to the log. -/
def report (lines : List LogLine) : Run σ Unit :=
  modify fun s => { s with log := s.log ++ lines }

/-- Add a line to the log. -/
def say (severity : Severity) (text : String) : Run σ Unit :=
  report [⟨severity, text⟩]

/-- Do logged work as a step. -/
def ofLogged (work : Logged α) : Run σ α := do
  let (result, lines) := (ExceptT.run work).run []
  report lines
  MonadExcept.ofExcept result

end Run

end ApiStubs
