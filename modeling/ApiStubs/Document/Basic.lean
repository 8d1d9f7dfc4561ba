import ApiStubs.Document.Parameter

/-!
# API documents

The parts of an API document that stubs are made from: the paths with their operations, and
the tables of shared parameters and schemas.
-/

namespace ApiStubs

/-- The method of a request. -/
inductive Method where
  /-- Read. -/
  | get
  /-- Put in place. -/
  | put
  /-- Send. -/
  | post
  /-- Take away. -/
  | delete
  /-- Ask what is possible. -/
  | options
  /-- Read the headers only. -/
  | head
  /-- Change in part. -/
  | patch
  /-- Send back. -/
  | trace
  deriving Repr, DecidableEq

namespace Method

/-- All methods, in the order in which operations are listed. -/
def all : List Method := [.get, .put, .post, .delete, .options, .head, .patch, .trace]

/-- The field of a path item that holds the operation of a method. -/
def key : Method → String
  | .get => "get"
  | .put => "put"
  | .post => "post"
  | .delete => "delete"
  | .options => "options"
  | .head => "head"
  | .patch => "patch"
  | .trace => "trace"

/-- The method as it is sent. -/
def word : Method → String
  | .get => "GET"
  | .put => "PUT"
  | .post => "POST"
  | .delete => "DELETE"
  | .options => "OPTIONS"
  | .head => "HEAD"
  | .patch => "PATCH"
  | .trace => "TRACE"

end Method

/-- What a path does for one method. -/
structure Operation where
  /-- The identifier. -/
  operationId : Option String := none
  /-- The operation's own parameters. -/
  parameters : List (RefOr Parameter) := []
  /-- The body of the request. -/
  requestBody : Option (RefOr RequestBody) := none

/-- A path: its operations by method, in the order of methods, and their shared parameters. -/
structure PathItem where
  /-- The operations. -/
  operations : List (Method × Operation) := []
  /-- The parameters of all operations. -/
  parameters : List (RefOr Parameter) := []

/-- The tables of shared parts. -/
structure Components where
  /-- The schemas. -/
  schemas : List (String × RefOr Schema) := []
  /-- The parameters. -/
  parameters : List (String × RefOr Parameter) := []

/-- An API document. -/
structure Document where
  /-- The version of the format. -/
  openapi : String
  /-- The title of the API. -/
  title : String
  /-- The version of the API. -/
  version : String
  /-- The paths, in the order of the document. -/
  paths : List (String × RefOr PathItem) := []
  /-- The shared parts. -/
  components : Option Components := none

namespace Document

/-- The shared schemas, in the order of the document. -/
def schemas (d : Document) : List (String × RefOr Schema) :=
  match d.components with
  | some c => c.schemas
  | none => []

/-- The path items that are written out, in the order of the document. -/
def inlinePaths (d : Document) : List (String × PathItem) :=
  d.paths.filterMap fun (path, item) => item.item?.map (path, ·)

/-- The message for a parameter that no table holds. -/
def missingParameterMessage (name : String) : String :=
  "Parameter '" ++ name ++ "' not found"

end Document

end ApiStubs
