import ApiStubs.CommandLine.Reach

/-!
# The program

Reads the files that a command looks at into a file tree, carries the command out, and writes
what has changed in the tree. Whatever is decided is decided elsewhere.
-/

namespace ApiStubs.Program

open ApiStubs.CommandLine

/-- The spelling of a place. -/
def spelling (place : Place) : String :=
  "/" ++ "/".intercalate place

/-- The content of a file. -/
def readContent (place : Place) : IO Content := do
  let bytes ← IO.FS.readBinFile (spelling place)
  return match String.fromUTF8? bytes with
    | some text => .text text
    | none => .bytes bytes.toList

/-- Take all below a directory into the tree. -/
partial def readBelow (t : FileTree) (place : Place) : IO FileTree := do
  let mut t := t
  for item in ← (System.mkFilePath [spelling place]).readDir do
    let next := place ++ [item.fileName]
    if ← item.path.isDir then t ← readBelow (t.put next .directory) next
    else t := t.put next (.file (← readContent next))
  return t

/-- Take the steps of a path into the tree, from a place on. -/
def readSteps (t : FileTree) (deep : Bool) (place : Place) : List Component → IO FileTree
  | [] => if deep then readBelow t place else return t
  | .name s :: rest => do
    let next := place ++ [s]
    let path := System.mkFilePath [spelling next]
    if ← path.isDir then readSteps (t.put next .directory) deep next rest
    else if ← path.pathExists then return t.put next (.file (← readContent next))
    else return t
  | .up :: rest => readSteps t deep place.dropLast rest
  | .here :: rest => readSteps t deep place rest
  | .root :: rest => readSteps t deep [] rest

/-- Take what is looked at into the tree. -/
def readGlances (t : FileTree) (glances : List Glance) : IO FileTree :=
  glances.foldlM (fun t g => readSteps t g.deep t.current g.path.components) t

/-- Write an entry. -/
def writeEntry (place : Place) : Entry → IO Unit
  | .directory => IO.FS.createDirAll (spelling place)
  | .file (.text s) => IO.FS.writeFile (spelling place) s
  | .file (.bytes bs) => IO.FS.writeBinFile (spelling place) (ByteArray.mk bs.toArray)

/-- Write what has changed between two trees. -/
def writeChanges (before after : FileTree) : IO Unit := do
  let changed := after.entries.filter fun x => before.entry? x.1 != some x.2
  for (place, e) in changed.mergeSort (fun a b => FileTree.placeLe a.1 b.1) do
    writeEntry place e

/-- The text of a file of the system, if it can be read. -/
def readTable (file : String) : IO (Option String) := do
  try return String.fromUTF8? (← IO.FS.readBinFile file) catch _ => return none

/-- The home directory of the account of the user that runs the program. -/
def readAccountHome : IO (Option Path) := do
  let some status ← readTable "/proc/self/status" | return none
  let some accounts ← readTable "/etc/passwd" | return none
  return (Environment.user? status).bind (Environment.accountHome? accounts)

/-- The environment variables that count, and the home directory. -/
def readEnvironment : IO Environment := do
  let names := ["HOME", "CARGO_MANIFEST_DIR", templateVariable]
  let vars ← names.filterMapM fun name => return (← IO.getEnv name).map (name, ·)
  return Environment.ofVars vars (← readAccountHome)

/-- The tree that holds the working directory. -/
def readCurrent : IO FileTree := do
  let steps := (Path.mk (← IO.currentDir).toString).components
  let names := steps.filterMap fun
    | .name s => some s
    | _ => none
  return FileTree.start names

/-- Do what the arguments ask for; the exit code. -/
def start (arguments : List String) : IO UInt32 := do
  let environment ← readEnvironment
  let current ← readCurrent
  let files ← match Command.ofArguments arguments with
    | .ok command => do
      let files ← readGlances current command.firstGlances
      readGlances files (command.glances { files, environment })
    | .error _ => pure current
  let (outcome, after) := run { files, environment } arguments
  writeChanges files after
  IO.print outcome.output
  match outcome with
  | .done _ => pure ()
  | .failed _ => IO.eprintln (outcome.complaint?.getD "")
  | .refused => IO.eprint helpText
  return outcome.code.toUInt32

end ApiStubs.Program

/-- The program. -/
def main (arguments : List String) : IO UInt32 :=
  ApiStubs.Program.start arguments
