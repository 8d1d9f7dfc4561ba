import ApiStubs.Surroundings
import ApiStubs.TargetKind

/-!
# Template directories

A directory of templates has one directory for each kind. It may be named by the user, who may
also name the directory of the kind itself; otherwise the standard places are searched.
-/

namespace ApiStubs

/-- The environment variable that names the directory of templates. -/
def templateVariable : String := "STUBFORGE_TEMPLATE_DIR"

/-- A directory of templates for one kind. -/
structure TemplateLocation where
  /-- The directory with one directory for each kind. -/
  root : Path
  /-- The directory of the kind. -/
  path : Path
  /-- The kind. -/
  kind : TargetKind
  deriving Repr, DecidableEq

namespace TemplateLocation

/-- The failure to find a path. -/
def missing (p : Path) : Error :=
  .file .notFound (some ("Template directory not found: " ++ p.text))

/-- The failure to find any standard place. -/
def missingEverywhere : Error :=
  .file .notFound (some "Could not find template directory in any standard location")

/-- The directory of a kind below `root`, which has to be there. -/
def below (t : FileTree) (kind : TargetKind) (root : Path) : Except Error TemplateLocation :=
  let path := root.child kind.name
  if t.holds path then .ok { root, path, kind } else .error (missing path)

/-- The directory of a kind below a directory that the user names. -/
def ofRoot (t : FileTree) (kind : TargetKind) (dir : Path) : Except Error TemplateLocation :=
  if t.holds dir then below t kind dir else .error (missing dir)

/-- The directory that the user names: that of the kind, or the one it lies in. -/
def ofUser (t : FileTree) (kind : TargetKind) (dir : Path) : Except Error TemplateLocation :=
  if dir.fileName? = some kind.name ∧ t.isDirectory dir then
    .ok { root := dir.parentD, path := dir, kind }
  else ofRoot t kind dir

/-- The directory that two steps lead up to from the one that holds the program's sources. -/
def workspace? (s : Surroundings) : Option Path := do
  let dir ← s.environment.vars.lookup "CARGO_MANIFEST_DIR"
  let outer ← Path.parent? ⟨dir⟩
  outer.parent?

/-- The standard places, in the order in which they are searched. -/
def standardRoots (s : Surroundings) : List Path :=
  ((s.environment.vars.lookup templateVariable).map Path.mk).toList
    ++ [⟨"templates"⟩, ⟨"../templates"⟩]
    ++ ((workspace? s).map fun dir => dir.child "templates").toList
    ++ (s.environment.home.map fun dir => (dir.child ".stubforge").child "templates").toList

/-- The directory of a kind below the first standard place that is there. -/
def discover (s : Surroundings) (kind : TargetKind) : Except Error TemplateLocation :=
  match (standardRoots s).find? s.files.holds with
  | some root => below s.files kind root
  | none => .error missingEverywhere

end TemplateLocation

end ApiStubs
