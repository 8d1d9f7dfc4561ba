import ApiStubs.CommandLine.Command

/-!
# What a command looks at

A command never looks further than at the paths listed here, so that only these have to be
known before it is carried out.
-/

namespace ApiStubs

/-- A path that is looked at. -/
structure Glance where
  /-- The path. -/
  path : Path
  /-- All that lies below it is looked at as well. -/
  deep : Bool := false
  deriving Repr, DecidableEq

/-- What loading templates looks at. -/
def TemplateLocation.glances (s : Surroundings) (dir : Option String) : List Glance :=
  match dir with
  | some dir => [{ path := ⟨dir⟩, deep := true }]
  | none => (standardRoots s).map fun root => { path := root, deep := true }

/-- What a generation looks at: the document, the patterns, the templates and the places of
stubs. -/
def Config.glances (c : Config) (s : Surroundings) : List Glance :=
  let rules : Path := match c.ignoreFile with
    | some file => ⟨file⟩
    | none => c.output.child ignoreFileName
  let kinds := TargetKind.all.map fun kind : TargetKind =>
    ({ path := c.routesDir.child (routesStem ++ "." ++ kind.extension) } : Glance)
  [{ path := ⟨c.spec⟩ }, { path := rules },
    { path := c.output.child handlerDir, deep := true },
    { path := c.output.child hydratorDir, deep := true }]
    ++ kinds ++ TemplateLocation.glances s c.templateDir

namespace CommandLine

/-- What a command looks at before anything else. -/
def Command.firstGlances : Command → List Glance
  | .generate options => options.config.toList.map fun file => { path := ⟨file⟩ }
  | .hydrators spec _ _ => [{ path := ⟨spec⟩ }]

/-- What a command looks at after that. -/
def Command.glances (s : Surroundings) : Command → List Glance
  | .generate options =>
    match options.configuration s.files with
    | .ok c => c.glances s
    | .error _ => []
  | .hydrators _ _ _ => []

end CommandLine

end ApiStubs
