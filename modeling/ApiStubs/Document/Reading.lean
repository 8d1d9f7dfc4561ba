import ApiStubs.Document.Basic
import ApiStubs.Yaml.Meaning

/-!
# Reading documents

A text is read as JSON first. If it is no JSON, or not a document, it is read as YAML.
-/

namespace ApiStubs.Document

/-! ### Path items -/

/-- What an operation demands of its caller: names of schemes, each with a list of scopes. -/
def security? : Reader Unit :=
  (Node.list? (Node.table? (Node.list? Node.text?))).shape

mutual

/-- An operation. Callbacks hold path items in turn; `depth` bounds their nesting. -/
def operation? : Nat → Reader Operation
  | 0, _ => none
  | depth + 1, n => do
    let fields ← Fields.ofNode? n
    let operationId ← fields.optional? "operationId" Node.text?
    fields.allOptional? Node.text? ["summary", "description"]
    fields.allDefault? (Node.list? Node.text?).shape ["tags"]
    fields.allOptional? (Schema.externalDocs? Fields.ofNode? Node.text?) ["externalDocs"]
    let parameters ← fields.default? "parameters" (Node.list? (refOr? parameter?)) []
    let requestBody ← fields.optional? "requestBody" (refOr? requestBody?)
    let _ ← fields.required? "responses" responses?
    fields.allDefault? (Node.table? (Node.table? (pathItem? depth))).shape ["callbacks"]
    fields.allDefault? (Reader.shape Node.bool?) ["deprecated"]
    fields.allOptional? security? ["security"]
    fields.allDefault? (Node.list? server?).shape ["servers"]
    return { operationId, parameters, requestBody }

/-- A path item. -/
def pathItem? : Nat → Reader PathItem
  | 0, _ => none
  | depth + 1, n => do
    let fields ← Fields.ofNode? n
    fields.allOptional? Node.text? ["summary", "description"]
    let operations ← Method.all.mapM fun m =>
      (fields.optional? m.key (operation? depth)).map fun o => (m, o)
    fields.allDefault? (Node.list? server?).shape ["servers"]
    let parameters ← fields.default? "parameters" (Node.list? (refOr? parameter?)) []
    return { operations := operations.filterMap fun (m, o) => o.map (m, ·), parameters }

end

/-- The paths of a document: the fields that start with a slash. -/
def paths? : Reader (List (String × RefOr PathItem)) := fun n => do
  let fields ← Fields.ofTop? [] n
  let items ← (fields.filter (fun f => f.1.startsWith "/")).mapM fun f =>
    (refOr? (pathItem? maxNesting) f.2).map fun item => (f.1, item)
  return Node.tabulate items

/-! ### Components -/

/-- A flow that grants access: the addresses it needs and its scopes. -/
def flow? (addresses : List String) : Reader Unit := fun n => do
  let fields ← Fields.ofNode? n
  addresses.forM fun key => do let _ ← fields.required? key Node.text?
  fields.allOptional? Node.text? ["refreshUrl"]
  let _ ← fields.required? "scopes" (Node.table? Node.text?)

/-- The flows that grant access. -/
def flows? : Reader Unit := fun n => do
  let fields ← Fields.ofNode? n
  fields.allOptional? (flow? ["authorizationUrl"]) ["implicit"]
  fields.allOptional? (flow? ["tokenUrl"]) ["password", "clientCredentials"]
  fields.allOptional? (flow? ["authorizationUrl", "tokenUrl"]) ["authorizationCode"]

/-- A way to prove who is calling. -/
def securityScheme? : Reader Unit := fun n => do
  let fields ← Fields.ofNode? n
  fields.allOptional? Node.text? ["description"]
  match ← fields.required? "type" Node.text? with
  | "apiKey" =>
    let _ ← fields.required? "in" (word? ["query", "header", "cookie"])
    let _ ← fields.required? "name" Node.text?
  | "http" =>
    let _ ← fields.required? "scheme" Node.text?
    fields.allOptional? Node.text? ["bearerFormat"]
  | "oauth2" => fields.required? "flows" flows?
  | "openIdConnect" =>
    let _ ← fields.required? "openIdConnectUrl" Node.text?
  | _ => none

/-- The value of an entry of a table at the top, buffered. -/
def buffered (r : Reader α) : Reader α := fun n =>
  if n.isBuffered then r n else none

/-- A table of pointers or objects at the top. -/
def topRefTable? (r : Reader α) : Reader (List (String × RefOr α)) :=
  Node.topTable? (buffered (refOr? r))

/-- The tables of shared parts. -/
def components? : Reader Components := fun n => do
  let fields ← Fields.ofTop? [
    "schemas", "responses", "parameters", "examples", "requestBodies", "headers", "securitySchemes",
    "links", "callbacks"] n
  let schemas ← fields.default? "schemas" (Node.topTable? (buffered Schema.refOrNode?)) []
  fields.allDefault? (topRefTable? response?).shape ["responses"]
  let parameters ← fields.default? "parameters" (topRefTable? parameter?) []
  fields.allDefault? (topRefTable? example?).shape ["examples"]
  fields.allDefault? (topRefTable? requestBody?).shape ["requestBodies"]
  fields.allDefault? (topRefTable? (header? maxNesting)).shape ["headers"]
  fields.allDefault? (topRefTable? securityScheme?).shape ["securitySchemes"]
  fields.allDefault? (topRefTable? link?).shape ["links"]
  fields.allDefault? (topRefTable? (Node.table? (pathItem? maxNesting))).shape ["callbacks"]
  return { schemas, parameters }

/-! ### The top of a document -/

/-- A person or a group to turn to. -/
def contact? : Reader Unit := fun n => do
  let fields ← Fields.ofTop? ["name", "url", "email"] n
  fields.allOptional? Node.spelled? ["name", "url", "email"]

/-- The terms of use of the API. -/
def license? : Reader Unit := fun n => do
  let fields ← Fields.ofTop? ["name", "url"] n
  let _ ← fields.required? "name" Node.spelled?
  fields.allOptional? Node.spelled? ["url"]

/-- The title and the version of the API. -/
def info? : Reader (String × String) := fun n => do
  let fields ← Fields.ofTop?
    ["title", "description", "termsOfService", "contact", "license", "version"] n
  let title ← fields.required? "title" Node.spelled?
  fields.allOptional? Node.spelled? ["description", "termsOfService"]
  fields.allOptional? contact? ["contact"]
  fields.allOptional? license? ["license"]
  let version ← fields.required? "version" Node.spelled?
  return (title, version)

/-- A variable in the address of a server of the whole API. -/
def topServerVariable? : Reader Unit :=
  serverVariable? (Fields.ofTop? ["enum", "default", "description"]) Node.spelled?
    (Node.topList? Node.spelled?)

/-- A server of the whole API. -/
def topServer? : Reader Unit := fun n => do
  let fields ← Fields.ofTop? ["url", "description", "variables"] n
  let _ ← fields.required? "url" Node.spelled?
  fields.allOptional? Node.spelled? ["description"]
  fields.allOptional? (Node.topTable? topServerVariable?) ["variables"]

/-- Documents elsewhere that describe the whole API. -/
def topExternalDocs? : Reader Unit :=
  Schema.externalDocs? (Fields.ofTop? ["description", "url"]) Node.spelled?

/-- A tag of the whole API. -/
def tag? : Reader Unit := fun n => do
  let fields ← Fields.ofTop? ["name", "description", "externalDocs"] n
  let _ ← fields.required? "name" Node.spelled?
  fields.allOptional? Node.spelled? ["description"]
  fields.allOptional? topExternalDocs? ["externalDocs"]

/-- The document that a node describes. -/
def ofNode? : Reader Document := fun n => do
  let fields ← Fields.ofTop?
    ["openapi", "info", "servers", "paths", "components", "security", "tags", "externalDocs"] n
  let openapi ← fields.required? "openapi" Node.spelled?
  let (title, version) ← fields.required? "info" info?
  fields.allDefault? (Node.topList? topServer?).shape ["servers"]
  let paths ← fields.required? "paths" paths?
  let components ← fields.optional? "components" components?
  fields.allOptional? (Node.topList? (Node.topTable? (Node.topList? Node.spelled?))) ["security"]
  fields.allDefault? (Node.topList? tag?).shape ["tags"]
  fields.allOptional? topExternalDocs? ["externalDocs"]
  return { openapi, title, version, paths, components }

/-- The document that a JSON text describes. -/
def ofJsonText? (text : String) : Option Document :=
  (Json.ofText text).bind fun j => ofNode? (Node.ofJson j)

/-- The document that a YAML text describes. -/
def ofYamlText? (text : String) : Option Document :=
  (Yaml.nodeOfText? text).bind ofNode?

/-- The document that a text describes. -/
def ofText? (text : String) : Option Document :=
  (ofJsonText? text).or (ofYamlText? text)

end ApiStubs.Document
