import ApiStubs.Document.Fields
import ApiStubs.Ignore.Rules
import ApiStubs.Json.Printer
import ApiStubs.Json.Record
import ApiStubs.Route.Table
import ApiStubs.Yaml.Writer

/-!
# Configurations

A configuration describes one run. It is kept in a file, as JSON where the extension of the
file says so and as YAML everywhere else.
-/

namespace ApiStubs

/-- What a run is to do. -/
structure Config where
  /-- The path or address of the document. -/
  spec : String
  /-- The namespace that everything lies in. -/
  space : String
  /-- The directory for handlers and hydrators. -/
  outputDir : String
  /-- The directory for the route table, if it has one of its own. -/
  configDir : Option String := none
  /-- The name of the kind. -/
  templateKind : String := TargetKind.standard.name
  /-- The directory of templates, if the user names one. -/
  templateDir : Option String := none
  /-- The file of patterns, if the user names one. -/
  ignoreFile : Option String := none
  /-- Files that are there may be written again. -/
  overwrite : Bool := false
  deriving Repr, DecidableEq

namespace Config

/-! ### Files -/

/-- The names of the fields, in the order in which they are written. -/
def fieldNames : List String := [
  "spec", "namespace", "output_dir", "config_dir", "template_kind", "template_dir", "ignore_file", "overwrite"]

/-- The fields that are written, in order: those without a value are left out. -/
def fields (c : Config) : List (String × (String ⊕ Bool)) :=
  let optional (name : String) (value : Option String) : List (String × (String ⊕ Bool)) :=
    match value with
    | some s => [(name, .inl s)]
    | none => []
  [("spec", .inl c.spec), ("namespace", .inl c.space), ("output_dir", .inl c.outputDir)]
    ++ optional "config_dir" c.configDir
    ++ [("template_kind", .inl c.templateKind)]
    ++ optional "template_dir" c.templateDir
    ++ optional "ignore_file" c.ignoreFile
    ++ [("overwrite", .inr c.overwrite)]

/-- The configuration as data. -/
def toJson (c : Config) : Json :=
  .obj (c.fields.map fun (name, value) =>
    match value with
    | .inl s => (name, .str s)
    | .inr b => (name, .bool b))

/-- The configuration with these fields. -/
def ofRecord? (r : Json.RecordFields) : Option Config := do
  return {
    spec := ← r.text? "spec"
    space := ← r.text? "namespace"
    outputDir := ← r.text? "output_dir"
    configDir := ← r.optionalText? "config_dir"
    templateKind := ← r.textD? "template_kind" TargetKind.standard.name
    templateDir := ← r.optionalText? "template_dir"
    ignoreFile := ← r.optionalText? "ignore_file"
    overwrite := ← r.flagD? "overwrite" false }

/-- The configuration in a JSON text. -/
def ofJsonText? (text : String) : Option Config :=
  (Json.recordOfText? fieldNames 3 text).bind ofRecord?

/-- A field of a mapping of a YAML text, with its key as it is spelled. The values of fields that
no configuration has are not looked at. -/
def yamlField (s : Yaml.Scope) (key value : Yaml.Tree) : StateT Nat Option (String × Node) := do
  let name ← ((← Yaml.expand s (Yaml.maxDepth - 1) key).spelled? : Option String)
  if fieldNames.contains name then return (name, ← Yaml.expand s (Yaml.maxDepth - 1) value)
  else return (name, .scalar .null none)

/-- The fields in a YAML text; a text in which nothing is written has none. -/
def yamlFields? (text : String) : Option Fields := do
  let (root, s) ← Yaml.treeOfText? text
  match root with
  | none => some []
  | some (.mapping tag entries) =>
    let budget := 100 * Yaml.partCount (.mapping tag entries)
    let (fields, _) ← (entries.mapM fun (k, v) => yamlField s k v).run budget
    return fields
  | some _ => none

/-- The configuration in a YAML text. -/
def ofYamlText? (text : String) : Option Config := do
  let fields ← yamlFields? text
  return {
    spec := ← fields.required? "spec" Node.spelled?
    space := ← fields.required? "namespace" Node.spelled?
    outputDir := ← fields.required? "output_dir" Node.spelled?
    configDir := ← fields.optional? "config_dir" Node.spelled?
    templateKind := ← fields.default? "template_kind" Node.spelled? TargetKind.standard.name
    templateDir := ← fields.optional? "template_dir" Node.spelled?
    ignoreFile := ← fields.optional? "ignore_file" Node.spelled?
    overwrite := ← fields.default? "overwrite" Node.bool? false }

/-- The file holds JSON: its extension says so, in letters of any case. -/
def isJsonFile (p : Path) : Bool :=
  match p.extension? with
  | some ext => ext.toList.map Char.toLower == "json".toList
  | none => false

/-- The configuration in a file. -/
def load (t : FileTree) (p : Path) : Except Error Config :=
  match t.readText p with
  | .error fault => .error (.file fault none)
  | .ok text =>
    if isJsonFile p then
      match ofJsonText? text with
      | some c => .ok c
      | none => .error .json
    else
      match ofYamlText? text with
      | some c => .ok c
      | none => .error .yaml

/-- The text of a file that holds the configuration. -/
def fileText (c : Config) (p : Path) : String :=
  if isJsonFile p then c.toJson.pretty else Yaml.mappingText c.fields

/-- Keep the configuration in a file, whose directory has to be there. -/
def save (c : Config) (t : FileTree) (p : Path) : Except Error FileTree :=
  match t.putFile p (.text (c.fileText p)) with
  | .ok t => .ok t
  | .error fault => .error (.file fault none)

/-! ### Meaning -/

/-- The directory that the route table goes into when the configuration names none. -/
def defaultConfigDir : String := "config"

/-- The kind. -/
def kind (c : Config) : Except Error TargetKind :=
  match TargetKind.ofName? c.templateKind with
  | some k => .ok k
  | none => .error (.config (TargetKind.unknownMessage c.templateKind))

/-- The directory for handlers and hydrators. -/
def output (c : Config) : Path := ⟨c.outputDir⟩

/-- The directory for the route table. -/
def routesDir (c : Config) : Path :=
  match c.configDir with
  | some dir => ⟨dir⟩
  | none => c.output.child defaultConfigDir

/-- The rules that the patterns of the configuration make. A file that the configuration names
has to be there; the file in the output directory counts only if there is one. -/
def patternRules (c : Config) (t : FileTree) : Except Error (IgnoreRules × List LogLine) :=
  match c.ignoreFile with
  | some file => IgnoreRules.ofFile t ⟨file⟩
  | none =>
    let file := c.output.child ignoreFileName
    if t.isFile file then IgnoreRules.ofFile t file else .ok ({ root := c.output }, [])

/-- The rules of a run. Unless files may be overwritten, handlers and hydrators that are there
are left alone as well. The route table is only ever kept by a pattern. -/
def ignoreRules (c : Config) (t : FileTree) : Except Error (IgnoreRules × List LogLine) := do
  let (rules, lines) ← c.patternRules t
  if c.overwrite then return (rules, lines)
  return ((rules.protect (c.output.child handlerDir)).protect (c.output.child hydratorDir), lines)

end Config

end ApiStubs
