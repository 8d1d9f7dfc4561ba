import ApiStubs.Document.Reading
import ApiStubs.Error
import ApiStubs.FileTree

/-!
# Sources of documents

A document comes from a file or from an address. Nothing answers at any address here, so an
address always fails.
-/

namespace ApiStubs.Document

/-- The start of an address. -/
def isAddress (source : String) : Bool :=
  source.startsWith "http://" || source.startsWith "https://"

/-- What is said of a text that is no document. -/
def unreadableMessage : String := "content is neither a valid JSON"

/-- The failure to read the text of a file as a document. -/
def unreadable (p : Path) : Error :=
  .document ("Failed to parse OpenAPI spec at " ++ p.text ++ ": " ++ unreadableMessage)

/-- The failure to get a document from an address. -/
def unreachable (address : String) : Error :=
  .document ("Failed to fetch OpenAPI spec from " ++ address)

/-- The document in a file. -/
def ofFile (t : FileTree) (p : Path) : Except Error Document :=
  match t.readText p with
  | .error fault => .error (.file fault none)
  | .ok text =>
    match ofText? text with
    | some d => .ok d
    | none => .error (unreadable p)

/-- The document in a file or at an address. -/
def ofSource (t : FileTree) (source : String) : Except Error Document :=
  if isAddress source then .error (unreachable source) else ofFile t ⟨source⟩

end ApiStubs.Document
