/-!
# What can go wrong

One type for the causes of failure, and the wording of each.
-/

namespace ApiStubs

/-- Why the file system refused. -/
inductive FileFault where
  /-- Nothing has that name. -/
  | notFound
  /-- A directory stands where a file is wanted. -/
  | isADirectory
  /-- A file stands where a directory is wanted. -/
  | notADirectory
  /-- Something has that name already. -/
  | alreadyExists
  /-- The bytes are no text. -/
  | invalidData
  /-- The access is not allowed. -/
  | permissionDenied
  /-- The path holds a character that no path may hold. -/
  | invalidInput
  /-- A name in the path is too long. -/
  | invalidFilename
  deriving Repr, DecidableEq

/-- The components a pointer may lead to. -/
inductive ComponentTable where
  /-- Schemas. -/
  | schemas
  /-- Parameters. -/
  | parameters
  deriving Repr, DecidableEq

/-- The text a pointer into the table starts with. -/
def ComponentTable.pointerStart : ComponentTable → String
  | .schemas => "#/components/schemas/"
  | .parameters => "#/components/parameters/"

/-- Why an operation failed. -/
inductive Error where
  /-- The file system refused; the text is there when the program found the fault itself. -/
  | file (fault : FileFault) (text : Option String)
  /-- The text is no YAML of the expected shape. -/
  | yaml
  /-- The text is no JSON of the expected shape. -/
  | json
  /-- The document cannot be used. -/
  | document (text : String)
  /-- A pointer does not lead into the table it should. -/
  | unsupportedReference (reference : String) (table : ComponentTable)
  /-- A template is missing or fails. -/
  | template (text : String)
  /-- The template engine refuses a template or its data. -/
  | engine (text : String)
  /-- The configuration cannot be used. -/
  | config (text : String)
  deriving Repr, DecidableEq

namespace Error

/-- The wording of an error; `none` where it depends on the system. -/
def message : Error → Option String
  | .file _ text => text.map ("I/O error: " ++ ·)
  | .yaml => none
  | .json => none
  | .document text => some ("OpenAPI error: " ++ text)
  | .unsupportedReference reference table =>
    some ("Unsupported reference '" ++ reference ++ "' (expected " ++ table.pointerStart ++ "<Name>)")
  | .template text => some ("Template error: " ++ text)
  | .engine text => some ("Template engine error: " ++ text)
  | .config text => some ("Configuration error: " ++ text)

end Error

end ApiStubs
