import ApiStubs.Document.Schema

/-!
# Parameters and bodies

Parameters, media types, request bodies and responses. Of most of their fields only the shape
counts: a field of the wrong shape refuses the document.
-/

namespace ApiStubs

/-- Where a parameter is sent. -/
inductive Location where
  /-- Behind the question mark. -/
  | query
  /-- In a header. -/
  | header
  /-- In the path. -/
  | path
  /-- In a cookie. -/
  | cookie
  deriving Repr, DecidableEq

/-- The word for a location. -/
def Location.word : Location → String
  | .query => "query"
  | .header => "header"
  | .path => "path"
  | .cookie => "cookie"

/-- The location of a word. -/
def Location.ofWord? (s : String) : Option Location :=
  [Location.query, .header, .path, .cookie].find? fun l => l.word == s

/-- The ways to write a value at a location. -/
def Location.styles : Location → List String
  | .query => ["form", "spaceDelimited", "pipeDelimited", "deepObject"]
  | .header => ["simple"]
  | .path => ["simple", "label", "matrix"]
  | .cookie => ["form"]

/-- A parameter of an operation. -/
structure Parameter where
  /-- Where it is sent. -/
  location : Location
  /-- Its name. -/
  name : String
  deriving Repr, DecidableEq

/-- The body of a request: its media types, and the schema of each if it has one. -/
structure RequestBody where
  /-- The media types. -/
  content : List (String × Option (RefOr Schema))

/-- The media type of JSON. -/
def jsonMediaType : String := "application/json"

/-- The schema of the JSON form of a body. -/
def RequestBody.jsonSchema? (b : RequestBody) : Option (RefOr Schema) :=
  (b.content.lookup jsonMediaType).join

namespace Document

/-- One of some words. -/
def word? (words : List String) : Reader Unit := fun n => do
  if words.contains (← n.text?) then some () else none

/-- A table of pointers or objects. -/
def refTable? (r : Reader α) : Reader (List (String × RefOr α)) :=
  Node.table? (refOr? r)

/-- An example. -/
def example? : Reader Unit := fun n => do
  let fields ← Fields.ofNode? n
  fields.allOptional? Node.text? ["summary", "description", "externalValue"]
  fields.allOptional? Node.data? ["value"]

/-- The examples of a value. -/
def examples? (fields : Fields) : Option Unit := do
  fields.allOptional? Node.data? ["example"]
  fields.allDefault? (refTable? example?).shape ["examples"]

/-- The first of the fields `schema` and `content`, read with the reader for it. -/
def firstFormat? (fields : Fields) (schema? content? : Reader Unit) : Option Unit :=
  match fields.find? (fun f => f.1 == "schema" || f.1 == "content") with
  | some ("schema", n) => schema? n
  | some (_, n) => content? n
  | none => none

mutual

/-- A media type, with the schema it has. Encodings of its parts have headers, which may have
media types in turn; `depth` bounds their nesting. -/
def mediaType? : Nat → Reader (Option (RefOr Schema))
  | 0, _ => none
  | depth + 1, n => do
    let fields ← Fields.ofNode? n
    let schema ← fields.optional? "schema" Schema.refOrNode?
    examples? fields
    fields.allDefault? (Reader.shape (Node.table? (encoding? depth))) ["encoding"]
    return schema

/-- How a part of a body is encoded. -/
def encoding? : Nat → Reader Unit
  | 0, _ => none
  | depth + 1, n => do
    let fields ← Fields.ofNode? n
    fields.allOptional? Node.text? ["contentType"]
    fields.allDefault? (refTable? (header? depth)).shape ["headers"]
    fields.allOptional? (word? Location.query.styles) ["style"]
    fields.allDefault? (Reader.shape Node.bool?) ["explode", "allowReserved"]

/-- A header of a response or of a part. -/
def header? : Nat → Reader Unit
  | 0, _ => none
  | depth + 1, n => do
    let fields ← Fields.ofNode? n
    fields.allOptional? Node.text? ["description"]
    fields.allDefault? (word? Location.header.styles) ["style"]
    fields.allDefault? (Reader.shape Node.bool?) ["required"]
    fields.allOptional? Node.bool? ["deprecated"]
    firstFormat? fields (Reader.shape Schema.refOrNode?)
      (Reader.shape (Node.table? (mediaType? depth)))
    examples? fields

end

/-- The deepest nesting of objects in a node. -/
def maxNesting : Nat := 128

/-- The media types of a body, with the schema of each. -/
def content? : Reader (List (String × Option (RefOr Schema))) :=
  Node.table? (mediaType? maxNesting)

/-- A parameter. -/
def parameter? : Reader Parameter := fun n => do
  let fields ← Fields.ofNode? n
  let location ← Location.ofWord? (← fields.required? "in" Node.text?)
  let name ← fields.required? "name" Node.text?
  fields.allOptional? Node.text? ["description"]
  fields.allDefault? (Reader.shape Node.bool?) ["required"]
  fields.allOptional? Node.bool? ["deprecated", "explode"]
  firstFormat? fields (Reader.shape Schema.refOrNode?) content?.shape
  examples? fields
  fields.allDefault? (word? location.styles) ["style"]
  if location = .query then
    fields.allDefault? (Reader.shape Node.bool?) ["allowReserved"]
    fields.allOptional? Node.bool? ["allowEmptyValue"]
  return { location, name }

/-- The body of a request. -/
def requestBody? : Reader RequestBody := fun n => do
  let fields ← Fields.ofNode? n
  fields.allOptional? Node.text? ["description"]
  let content ← fields.default? "content" content? []
  fields.allDefault? (Reader.shape Node.bool?) ["required"]
  return { content }

/-! ### Servers and links -/

/-- A variable in the address of a server. -/
def serverVariable? (fields? : Reader Fields) (text : Reader String)
    (texts : Reader (List String)) :
    Reader Unit := fun n => do
  let fields ← fields? n
  let _ ← fields.required? "default" text
  fields.allOptional? text ["description"]
  fields.allDefault? texts.shape ["enum"]

/-- A server inside a path item or a link. -/
def server? : Reader Unit := fun n => do
  let fields ← Fields.ofNode? n
  let _ ← fields.required? "url" Node.text?
  fields.allOptional? Node.text? ["description"]
  fields.allOptional?
    (Node.table? (serverVariable? Fields.ofNode? Node.text? (Node.list? Node.text?))) ["variables"]

/-- A link from a response to an operation: the first of the two ways to name it counts. -/
def link? : Reader Unit := fun n => do
  let fields ← Fields.ofNode? n
  fields.allOptional? Node.text? ["description"]
  match fields.find? (fun f => f.1 == "operationRef" || f.1 == "operationId") with
  | some (_, operation) => do let _ ← operation.text?
  | none => none
  fields.allOptional? Node.data? ["requestBody"]
  fields.allDefault? (Reader.shape (Node.table? Node.data?)) ["parameters"]
  fields.allOptional? server? ["server"]

/-! ### Responses -/

/-- A response. -/
def response? : Reader Unit := fun n => do
  let fields ← Fields.ofNode? n
  let _ ← fields.required? "description" Node.text?
  fields.allDefault? (refTable? (header? maxNesting)).shape ["headers"]
  fields.allDefault? content?.shape ["content"]
  fields.allDefault? (refTable? link?).shape ["links"]

/-- The key is a status of three digits, the first of which is no zero, or a digit and two
letters `X`. -/
def isStatusText (key : String) : Bool :=
  match key.toList with
  | [a, b, c] =>
    (a.isDigit && a ≠ '0' && b.isDigit && c.isDigit)
      || (a.isDigit && (b = 'x' || b = 'X') && (c = 'x' || c = 'X'))
  | _ => false

/-- The key of a response by status. -/
def isStatusKey : Node → Bool
  | .scalar (.text s) _ => isStatusText s
  | .scalar (.int n) _ => 100 ≤ n && n ≤ 999
  | _ => false

/-- The responses of an operation. Keys that name neither a status nor the default response
are passed over. -/
def responses? : Reader Unit := fun n => do
  let fields ← Fields.ofNode? n
  fields.allOptional? (refOr? response?) ["default"]
  match n with
  | .map entries =>
    entries.forM fun ((k, v) : Node × Node) =>
      if isStatusKey k then (refOr? response?).shape v else some ()
  | _ => none

end Document

end ApiStubs
