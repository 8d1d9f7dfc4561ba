import ApiStubs.Error
import ApiStubs.Path

/-!
# File trees

The files and directories a run can see, as a value. A place is the list of names from the
root; a path is followed to a place step by step, as an operating system does: `..` leads out
of a directory that has to be there, and a file has nothing below it.
-/

namespace ApiStubs

/-- The names from the root to a file or a directory. -/
abbrev Place := List String

/-- What a file holds. -/
inductive Content where
  /-- A text. -/
  | text (s : String)
  /-- Bytes that are no text. -/
  | bytes (bs : List UInt8)
  deriving Repr, DecidableEq

/-- What is found at a place. -/
inductive Entry where
  /-- A file. -/
  | file (content : Content)
  /-- A directory. -/
  | directory
  deriving Repr, DecidableEq

/-- The files and directories, and the directory that relative paths start from. -/
structure FileTree where
  /-- What is found where; the first entry of a place counts. -/
  entries : List (Place × Entry)
  /-- The working directory. -/
  current : Place
  deriving Repr, DecidableEq

/-- Where a path leads. -/
inductive Spot where
  /-- To an entry. -/
  | taken (place : Place) (entry : Entry)
  /-- To a free name in a directory. -/
  | vacant (place : Place)
  deriving Repr, DecidableEq

namespace FileTree

/-! ### Places -/

/-- What is found at a place. The root is always a directory. -/
def entry? (t : FileTree) (place : Place) : Option Entry :=
  match t.entries.lookup place with
  | some e => some e
  | none => if place = [] then some .directory else none

/-- Put an entry at a place. -/
def put (t : FileTree) (place : Place) (e : Entry) : FileTree :=
  { t with entries := (place, e) :: t.entries.filter (fun x => x.1 != place) }

/-- Take away an entry and everything below it. -/
def erase (t : FileTree) (place : Place) : FileTree :=
  { t with entries := t.entries.filter (fun x => (Text.dropStart? place x.1).isNone) }

/-- A tree that holds the working directory and the directories it lies in. -/
def start (current : Place) : FileTree :=
  { entries := (List.range current.length).map fun n => (current.take (n + 1), .directory)
    current }

/-! ### Following a path -/

/-- The longest name, in bytes. -/
def maxName : Nat := 255

/-- The place a list of steps leads to from another place. -/
def walk (t : FileTree) (place : Place) : List (List Char) → Except FileFault Spot
  | [] =>
    match t.entry? place with
    | some e => .ok (.taken place e)
    | none => .error .notFound
  | step :: steps =>
    match t.entry? place with
    | some .directory =>
      if step = ['.'] then walk t place steps
      else if step = ['.', '.'] then walk t place.dropLast steps
      else
        let next := place ++ [String.ofList step]
        if (String.ofList step).utf8ByteSize > maxName then .error .invalidFilename
        else if (t.entry? next).isSome then walk t next steps
        else if steps.isEmpty then .ok (.vacant next)
        else .error .notFound
    | some (.file _) => .error .notADirectory
    | none => .error .notFound

/-- The place a path leads to. -/
def resolve (t : FileTree) (p : Path) : Except FileFault Spot :=
  if p.text.toList.contains '\x00' then .error .invalidInput
  else if p.text.isEmpty then .error .notFound
  else t.walk (if p.isAbsolute then [] else t.current) (p.pieces.filter (fun s => !s.isEmpty))

/-- A slash ends the path. -/
def endsInSlash (p : Path) : Bool :=
  p.text.toList.getLast? = some '/'

/-- The entry a path leads to. Only a directory may be followed by a slash. -/
def find (t : FileTree) (p : Path) : Except FileFault Entry :=
  match t.resolve p with
  | .ok (.taken _ (.file content)) =>
    if endsInSlash p then .error .notADirectory else .ok (.file content)
  | .ok (.taken _ .directory) => .ok .directory
  | .ok (.vacant _) => .error .notFound
  | .error fault => .error fault

/-- The path leads to something. -/
def holds (t : FileTree) (p : Path) : Bool :=
  match t.find p with
  | .ok _ => true
  | .error _ => false

/-- The path leads to a directory. -/
def isDirectory (t : FileTree) (p : Path) : Bool :=
  match t.find p with
  | .ok .directory => true
  | _ => false

/-- The path leads to a file. -/
def isFile (t : FileTree) (p : Path) : Bool :=
  match t.find p with
  | .ok (.file _) => true
  | _ => false

/-! ### Reading and writing -/

/-- The text of a file. -/
def readText (t : FileTree) (p : Path) : Except FileFault String :=
  match t.find p with
  | .ok (.file (.text s)) => .ok s
  | .ok (.file (.bytes _)) => .error .invalidData
  | .ok .directory => .error .isADirectory
  | .error fault => .error fault

/-- The name at the end of the spelling is followed by a slash. -/
def namesDirectory (p : Path) : Bool :=
  endsInSlash p &&
    match (p.pieces.filter (fun s => !s.isEmpty)).getLast? with
    | some s => s != ['.'] && s != ['.', '.']
    | none => false

/-- Replace or create a file. Its directory has to be there. -/
def putFile (t : FileTree) (p : Path) (content : Content) : Except FileFault FileTree :=
  match t.resolve p with
  | .ok (.taken place (.file _)) =>
    if namesDirectory p then .error .isADirectory else .ok (t.put place (.file content))
  | .ok (.taken _ .directory) => .error .isADirectory
  | .ok (.vacant place) =>
    if namesDirectory p then .error .isADirectory else .ok (t.put place (.file content))
  | .error fault => .error fault

/-- Create a directory. Its own directory has to be there. -/
def makeDirectory (t : FileTree) (p : Path) : Except FileFault FileTree :=
  match t.resolve p with
  | .ok (.taken _ _) => .error .alreadyExists
  | .ok (.vacant place) => .ok (t.put place .directory)
  | .error fault => .error fault

/-- Create a directory unless it is there. -/
def ensureDirectory (t : FileTree) (p : Path) : Except FileFault FileTree :=
  match t.makeDirectory p with
  | .ok t => .ok t
  | .error fault => if t.isDirectory p then .ok t else .error fault

/-- Create a directory and those it lies in. What has been created stays when a later step
fails. -/
def makeDirectories (t : FileTree) (p : Path) : Nat → Except FileFault Unit × FileTree
  | 0 => (.error .notFound, t)
  | fuel + 1 =>
    if p.text.isEmpty then (.ok (), t)
    else
      match t.makeDirectory p with
      | .ok t => (.ok (), t)
      | .error .notFound =>
        match p.parent? with
        | none => (.error .notFound, t)
        | some parent =>
          match makeDirectories t parent fuel with
          | (.error fault, t) => (.error fault, t)
          | (.ok (), t) =>
            match t.ensureDirectory p with
            | .ok t => (.ok (), t)
            | .error fault => (.error fault, t)
      | .error fault => if t.isDirectory p then (.ok (), t) else (.error fault, t)

/-- Create a directory and those it lies in. A path has fewer components than characters. -/
def ensureDirectories (t : FileTree) (p : Path) : Except FileFault Unit × FileTree :=
  t.makeDirectories p (p.text.length + 1)

/-- Write a file, and create the directories it lies in. -/
def writeFile (t : FileTree) (p : Path) (text : String) : Except FileFault Unit × FileTree :=
  let (made, t) := match p.parent? with
    | some parent => t.ensureDirectories parent
    | none => (.ok (), t)
  match made with
  | .error fault => (.error fault, t)
  | .ok () =>
    match t.putFile p (.text text) with
    | .ok t => (.ok (), t)
    | .error fault => (.error fault, t)

/-! ### Listing -/

/-- Places in the order in which a listing shows them: a directory before its content, and the
names of a directory in order. -/
def placeLe : Place → Place → Bool
  | [], _ => true
  | _ :: _, [] => false
  | a :: as, b :: bs => if a = b then placeLe as bs else a < b

/-- The entries below a directory, with their names from there. -/
def listing (t : FileTree) (p : Path) : Except FileFault (List (Place × Entry)) :=
  match t.resolve p with
  | .ok (.taken place .directory) =>
    let below := t.entries.filterMap fun (place', e) =>
      match Text.dropStart? place place' with
      | some (name :: names) => some (name :: names, e)
      | _ => none
    .ok (below.mergeSort fun a b => placeLe a.1 b.1)
  | .ok (.taken _ (.file _)) => .error .notADirectory
  | .ok (.vacant _) => .error .notFound
  | .error fault => .error fault

end FileTree

end ApiStubs
