import ApiStubs.Stub.Run
import ApiStubs.Template.Builtin
import ApiStubs.Template.Location
import ApiStubs.Template.Reader
import ApiStubs.Template.Renderer

/-!
# Template libraries

A library holds the templates of one kind by file name. A key stands for the file of that name
with the extension of templates.
-/

namespace ApiStubs

/-- The templates of a kind. -/
structure TemplateLibrary where
  /-- The kind. -/
  kind : TargetKind
  /-- The directory they come from, if they come from one. -/
  location : Option TemplateLocation := none
  /-- The templates by file name; the last of a name counts. -/
  templates : List (String × List Template.Part)

namespace TemplateLibrary

/-- The file name of the template of a key. -/
def fileName (key : String) : String :=
  key ++ ".tera"

/-- The template of a file name. -/
def find? (l : TemplateLibrary) (name : String) : Option (List Template.Part) :=
  l.templates.reverse.lookup name

/-- There is a template for the key. -/
def has (l : TemplateLibrary) (key : String) : Bool :=
  (l.find? (fileName key)).isSome

/-- The required keys without a template. -/
def missingKeys (l : TemplateLibrary) : List String :=
  Template.requiredKeys.filter fun key => !l.has key

/-! ### Loading -/

/-- The library of sources by file name. The first source that is no template is named. -/
def ofSources (kind : TargetKind) : List (String × String) → Except Error TemplateLibrary
  | [] => .ok { kind, templates := [] }
  | (name, source) :: rest =>
    match Template.ofSource? source with
    | none => .error (.engine ("Failed to parse '" ++ name ++ "'"))
    | some parts => do
      let l ← ofSources kind rest
      return { l with templates := (name, parts) :: l.templates }

/-- The built-in library of a kind. -/
def builtin (kind : TargetKind) : Except Error TemplateLibrary :=
  ofSources kind (Template.builtinSources kind)

/-- The file is a template: its name ends in the extension of templates. -/
def isTemplateName (name : String) : Bool :=
  name.endsWith ".tera"

/-- The template of a file; `none` when its text is none. -/
def loadEntry (place : Place) : Entry → Option (Option (String × List Template.Part))
  | .directory => some none
  | .file content =>
    match place.getLast? with
    | some name =>
      if isTemplateName name then
        match content with
        | .text source => (Template.ofSource? source).map fun parts => some ("/".intercalate place, parts)
        | .bytes _ => none
      else some none
    | none => some none

/-- The failure to load a directory. -/
def loadFailure : Error :=
  .template "Failed to parse templates"

/-- The library of all templates below a directory. What is no directory holds none. -/
def ofLocation (t : FileTree) (location : TemplateLocation) : Except Error TemplateLibrary :=
  match t.listing location.path with
  | .error _ => .ok { kind := location.kind, location := some location, templates := [] }
  | .ok entries =>
    match entries.mapM fun e => loadEntry e.1 e.2 with
    | some found =>
      .ok { kind := location.kind, location := some location, templates := found.filterMap id }
    | none => .error loadFailure

/-- The library that the user names, or else the one at a standard place, or else the built-in
one. -/
def load (s : Surroundings) (kind : TargetKind) (dir : Option Path) :
    Except Error TemplateLibrary × List LogLine :=
  match dir with
  | some dir => ((TemplateLocation.ofUser s.files kind dir).bind (ofLocation s.files), [])
  | none =>
    match TemplateLocation.discover s kind with
    | .ok location => (ofLocation s.files location, [])
    | .error e =>
      let reason := match e with
        | .file _ (some text) => text
        | _ => ""
      (builtin kind,
        [⟨.debug, "No template directory found (" ++ reason ++ "), using built-in templates"⟩])

/-! ### Rendering -/

/-- The source of a template, for messages. -/
def sourceText (l : TemplateLibrary) (t : FileTree) (name : String) : String :=
  let found := do
    let location ← l.location
    (t.readText (location.path.child name)).toOption
  found.getD "<unable to read template file>"

/-- The failure to find the template of a file name. -/
def notFound (name : String) : Error :=
  .template ("Template not found: " ++ name ++ " - Template '" ++ name ++ "' not found")

/-- The failure to render anything but an object. -/
def notAnObject : Error :=
  .engine "Creating a Context from a Value/Serialize requires it being a JSON object"

/-- The failure of a template, with its source. -/
def renderFailure (name source : String) : Error :=
  .template ("Failed to render template '" ++ name ++ "': Failed to render '" ++ name
    ++ "'\nTemplate source:\n" ++ source)

/-- Render the template of a key with an object. -/
def renderWith (l : TemplateLibrary) (t : FileTree) (key : String) (payload : Json) :
    Except Error String × List LogLine :=
  let name := fileName key
  match l.find? name, payload with
  | none, _ => (.error (notFound name), [])
  | some parts, .obj fields =>
    let start : LogLine := ⟨.debug, "Rendering template: " ++ name⟩
    match Template.render? parts fields with
    | some text => (.ok text, [start])
    | none =>
      (.error (renderFailure name (l.sourceText t name)),
        [start, ⟨.error, "Template rendering failed for '" ++ name ++ "': Failed to render '" ++ name ++ "'"⟩])
  | some _, _ => (.error notAnObject, [])

/-- The library as a renderer in a world that holds a file tree. -/
def renderer {σ : Type} (l : TemplateLibrary) (files : σ → FileTree) : Renderer σ :=
  fun world key payload => l.renderWith (files world) key payload

end TemplateLibrary

end ApiStubs
