import ApiStubs.CommandLine.Arguments
import ApiStubs.Generation

/-!
# Commands

The program makes stubs, or it lists the hydrators of a document with their models. Options on
the command line take precedence over the configuration in a file.
-/

namespace ApiStubs.CommandLine

/-- The options of a generation. -/
structure GenerateOptions where
  /-- The file of the configuration. -/
  config : Option String := none
  /-- The path or address of the document. -/
  spec : Option String := none
  /-- The namespace that everything lies in. -/
  space : Option String := none
  /-- The directory for handlers and hydrators. -/
  outputDir : Option String := none
  /-- The directory for the route table. -/
  configDir : Option String := none
  /-- The name of the kind. -/
  templateKind : Option String := none
  /-- The directory of templates. -/
  templateDir : Option String := none
  /-- The file of patterns. -/
  ignoreFile : Option String := none
  /-- Files that are there may be written again. -/
  force : Bool := false
  deriving Repr, DecidableEq

/-- What the program is to do. -/
inductive Command where
  /-- Make stubs. -/
  | generate (options : GenerateOptions)
  /-- List the hydrators of a document. -/
  | hydrators (spec space templateKind : String)
  deriving Repr, DecidableEq

/-! ### Reading -/

/-- The options of a generation, by name. -/
def generateTable : List (String × OptionKind) := [
  ("config", .path), ("spec", .text), ("namespace", .text), ("output-dir", .path), ("config-dir", .path),
  ("template-kind", .text), ("template-dir", .path), ("ignore-file", .path), ("force", .flag)]

/-- The options of a list of hydrators, by name. -/
def hydratorsTable : List (String × OptionKind) := [
  ("spec", .text), ("namespace", .text), ("template-kind", .text)]

/-- The options of a generation that are given. -/
def GenerateOptions.ofGiven (given : Given) : GenerateOptions where
  config := given.lookup "config"
  spec := given.lookup "spec"
  space := given.lookup "namespace"
  outputDir := given.lookup "output-dir"
  configDir := given.lookup "config-dir"
  templateKind := given.lookup "template-kind"
  templateDir := given.lookup "template-dir"
  ignoreFile := given.lookup "ignore-file"
  force := (given.lookup "force").isSome

/-- The list of hydrators that is asked for; only the kind may be left out. -/
def hydratorsOfGiven (given : Given) : Except Refusal Command :=
  match given.lookup "spec", given.lookup "namespace" with
  | some spec, some space =>
    .ok (.hydrators spec space ((given.lookup "template-kind").getD TargetKind.standard.name))
  | _, _ => .error .misuse

/-- The words that name a command. -/
def commandWords : List String := ["generate", "hydrators", "help"]

/-- The command in the arguments of the program. -/
def Command.ofArguments : List String → Except Refusal Command
  | [] => .error .misuse
  | argument :: rest =>
    match Argument.ofText argument with
    | .word "generate" => do
      return .generate (GenerateOptions.ofGiven (← Given.read generateTable [] rest))
    | .word "hydrators" => do hydratorsOfGiven (← Given.read hydratorsTable [] rest)
    | .word "help" =>
      match rest with
      | [] => .error .help
      | [word] => .error (if commandWords.contains word then .help else .misuse)
      | _ => .error .misuse
    | .long "version" none => .error .version
    | .long "help" none => .error .help
    | .short ('V' :: _) => .error .version
    | .short ('h' :: _) => .error .help
    | _ => .error .misuse

/-! ### Doing -/

/-- How the program ends. -/
inductive Outcome where
  /-- All is done, and this is printed. -/
  | done (output : String)
  /-- Something failed while this was tried. -/
  | failed (attempt : String)
  /-- The arguments do not fit. -/
  | refused
  deriving Repr, DecidableEq

/-- The exit code. -/
def Outcome.code : Outcome → Nat
  | .done _ => 0
  | .failed _ => 1
  | .refused => 2

/-- What is printed. -/
def Outcome.output : Outcome → String
  | .done output => output
  | .failed _ => ""
  | .refused => ""

/-- What is said of a failure. -/
def Outcome.complaint? : Outcome → Option String
  | .failed attempt => some ("Error: " ++ attempt)
  | .done _ => none
  | .refused => none

/-- The configuration before the options count: that in the file, if one is named, and
otherwise one that the options alone make. -/
def GenerateOptions.base (o : GenerateOptions) (t : FileTree) : Except String Config :=
  match o.config with
  | some file =>
    match Config.load t ⟨file⟩ with
    | .ok c => .ok c
    | .error _ => .error ("Failed to load config " ++ file)
  | none =>
    match o.spec, o.space, o.outputDir with
    | some spec, some space, some outputDir => .ok { spec, space, outputDir }
    | none, _, _ => .error "--spec is required without --config"
    | _, none, _ => .error "--namespace is required without --config"
    | _, _, none => .error "--output-dir is required without --config"

/-- A configuration with the options in place of its own values. -/
def GenerateOptions.over (o : GenerateOptions) (c : Config) : Config where
  spec := o.spec.getD c.spec
  space := o.space.getD c.space
  outputDir := o.outputDir.getD c.outputDir
  configDir := o.configDir.or c.configDir
  templateKind := o.templateKind.getD c.templateKind
  templateDir := o.templateDir.or c.templateDir
  ignoreFile := o.ignoreFile.or c.ignoreFile
  overwrite := c.overwrite || o.force

/-- The configuration that the options ask for. -/
def GenerateOptions.configuration (o : GenerateOptions) (t : FileTree) : Except String Config :=
  (o.base t).map o.over

/-- What is printed of a generation: a line for everything that was written. -/
def reportText (c : Config) (r : Report) : String :=
  String.join (
    r.handlers.map (fun name => "handler   " ++ name ++ "\n")
    ++ r.hydrators.map (fun name => "hydrator  " ++ name ++ "\n")
    ++ if r.routesWritten then ["routes    " ++ c.routesDir.text ++ "\n"] else [])

/-- Make stubs. -/
def runGenerate (o : GenerateOptions) (s : Surroundings) : Outcome × FileTree :=
  match o.configuration s.files with
  | .error attempt => (.failed attempt, s.files)
  | .ok c =>
    let (result, after) := (c.generate s.environment).start { world := s.files }
    match result with
    | .ok report => (.done (reportText c report), after.world)
    | .error _ => (.failed ("Failed to generate from " ++ c.spec), after.world)

/-- List the hydrators of a document. -/
def runHydrators (spec space templateKind : String) (t : FileTree) : Outcome :=
  match TargetKind.ofName? templateKind with
  | none =>
    .failed ("Invalid template kind '" ++ templateKind ++ "': " ++ TargetKind.unknownMessage templateKind)
  | some kind =>
    match Document.ofSource t spec with
    | .error _ => .failed ("Failed to load OpenAPI spec " ++ spec)
    | .ok d =>
      let classes := hydratorClasses ⟨kind.separator⟩ d space
      .done ((Json.arr (classes.map HydratorClass.toJson)).pretty ++ "\n")

/-- Carry out a command. -/
def Command.run (s : Surroundings) : Command → Outcome × FileTree
  | .generate options => runGenerate options s
  | .hydrators spec space templateKind => (runHydrators spec space templateKind s.files, s.files)

/-- The name and the version of the program. -/
def versionText : String := "stubforge 0.1.0\n"

/-- What the program tells of its use. -/
def helpText : String :=
  "Usage: stubforge <COMMAND>\n\nCommands:\n"
    ++ "  generate   Generate handlers, hydrators and the route table from an OpenAPI spec\n"
    ++ "  hydrators  Print the hydrator/model class pairs of a spec as JSON\n"
    ++ "  help       Print this message or the help of the given subcommand(s)\n\n"
    ++ "Options:\n  -h, --help     Print help\n  -V, --version  Print version\n"

/-- Do what the arguments of the program ask for. -/
def run (s : Surroundings) (arguments : List String) : Outcome × FileTree :=
  match Command.ofArguments arguments with
  | .ok command => command.run s
  | .error .version => (.done versionText, s.files)
  | .error .help => (.done helpText, s.files)
  | .error .misuse => (.refused, s.files)

end ApiStubs.CommandLine
