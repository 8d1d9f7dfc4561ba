/-!
# Target kinds

The languages that stubs are written in. A kind decides the extension of the files, the text
between the segments of a namespace and the spelling of types.
-/

namespace ApiStubs

/-- The basic types of a schema. -/
inductive Primitive where
  /-- A text. -/
  | string
  /-- A whole number of 32 bits. -/
  | int32
  /-- Any other whole number. -/
  | int64
  /-- A number of single precision. -/
  | float
  /-- Any other number. -/
  | double
  /-- A truth value. -/
  | boolean
  deriving Repr, DecidableEq

/-- A language that stubs are written in. -/
inductive TargetKind where
  /-- Rust modules. -/
  | rust
  /-- PHP classes. -/
  | php
  deriving Repr, DecidableEq

namespace TargetKind

/-- The kind used when none is named. -/
def standard : TargetKind := .rust

/-- All kinds. -/
def all : List TargetKind := [.rust, .php]

/-- The name of a kind, which is also the name of its directory of templates. -/
def name : TargetKind → String
  | .rust => "rust"
  | .php => "php"

/-- The message for a name of no kind. -/
def unknownMessage (text : String) : String :=
  "Unknown template kind: " ++ text

/-- The kind of a name, in letters of any case. No letter outside ASCII has a lower-case form
made of the letters of these names, so folding ASCII letters is enough. -/
def ofName? (text : String) : Option TargetKind :=
  all.find? fun kind => kind.name.toList == text.toList.map Char.toLower

/-- The extension of the files. -/
def extension : TargetKind → String
  | .rust => "rs"
  | .php => "php"

/-- The text between two segments of a namespace. -/
def separator : TargetKind → String
  | .rust => "::"
  | .php => "\\"

/-- The spelling of a basic type. -/
def primitiveType : TargetKind → Primitive → String
  | .rust, .string => "String"
  | .rust, .int32 => "i32"
  | .rust, .int64 => "i64"
  | .rust, .float => "f32"
  | .rust, .double => "f64"
  | .rust, .boolean => "bool"
  | .php, .string => "string"
  | .php, .int32 => "int"
  | .php, .int64 => "int"
  | .php, .float => "float"
  | .php, .double => "float"
  | .php, .boolean => "bool"

/-- The spelling of a list of items. -/
def arrayType : TargetKind → String → String
  | .rust, item => "Vec<" ++ item ++ ">"
  | .php, item => item ++ "[]"

/-- The spelling of a value of any shape. -/
def anyType : TargetKind → String
  | .rust => "serde_json::Value"
  | .php => "mixed"

end TargetKind

end ApiStubs
