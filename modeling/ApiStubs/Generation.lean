import ApiStubs.Config
import ApiStubs.Document.Source
import ApiStubs.Stub.All
import ApiStubs.Template.Library

/-!
# Generation

A generation makes the stubs that a configuration asks for. The document is read first, then
the kind is looked up, the templates are loaded and the ignore rules are read; only after that
is anything written.
-/

namespace ApiStubs.Config

/-- The failure of a library that lacks required templates. -/
def incomplete (kind : TargetKind) (missing : List String) : Error :=
  .template ("Template set for '" ++ kind.name ++ "' is missing: " ++ ", ".intercalate missing)

/-- The templates that the configuration asks for, none of which may be missing. -/
def library (c : Config) (environment : Environment) (kind : TargetKind) :
    Run FileTree TemplateLibrary := do
  let surroundings : Surroundings := { files := (← get).world, environment }
  let (loaded, lines) := TemplateLibrary.load surroundings kind (c.templateDir.map Path.mk)
  Run.report lines
  let l ← MonadExcept.ofExcept loaded
  if l.missingKeys.isEmpty then return l else throw (incomplete kind l.missingKeys)

/-- The ignore rules that the configuration asks for. -/
def rules (c : Config) : Run FileTree IgnoreRules := do
  let (rules, lines) ← MonadExcept.ofExcept (c.ignoreRules (← get).world)
  Run.report lines
  return rules

/-- The generators of a run that writes files. -/
def codegen (kind : TargetKind) (l : TemplateLibrary) (rules : IgnoreRules) : Codegen FileTree where
  collaborators := {
    renderer := l.renderer id
    policy := rules.ignores
    writer := Writer.files
    extension := kind.extension }
  namespacing := ⟨kind.separator⟩
  properties := modelProperties kind
  listener := Listener.log

/-- The line that starts the log of a generation. -/
def startLine (c : Config) (d : Document) : String :=
  "Generating from '" ++ d.title ++ "' v" ++ d.version ++ " into " ++ c.outputDir

/-- The line that ends the log of a generation. -/
def endLine (r : Report) : String :=
  "Generated " ++ toString r.handlers.length ++ " handler(s), "
    ++ toString r.hydrators.length ++ " hydrator(s), route table "
    ++ (if r.routesWritten then "written" else "skipped")

/-- Make the stubs that the configuration asks for. -/
def generate (c : Config) (environment : Environment) : Run FileTree Report := do
  let d ← MonadExcept.ofExcept (Document.ofSource (← get).world c.spec)
  Run.say .info (c.startLine d)
  let kind ← MonadExcept.ofExcept c.kind
  let l ← c.library environment kind
  let rules ← c.rules
  let report ← (codegen kind l rules).run d c.space c.output c.routesDir
  Run.say .info (endLine report)
  return report

end ApiStubs.Config
