import ApiStubs.Document.Node

/-!
# Fields of a node

How the fields of an object are read. At the top of a document keys and texts are taken by
their spelling. Everything below an entry of a table is buffered first: there a text has to
mean a text, keys that are no texts name no field, and values that no field can hold are
refused.

A field may be required, may fall back to a default when it is missing, or may be optional, in
which case nothing counts as missing. A known field may occur once only; a table keeps the
first position of a repeated key, and its last value.
-/

namespace ApiStubs

/-- How a kind of value is read from a node. -/
abbrev Reader (α : Type) := Node → Option α

namespace Node

/-! ### Buffering -/

mutual

/-- The node can be buffered: it has no tag of its own and no scalar that no value holds. -/
def isBuffered : Node → Bool
  | .scalar .unfit _ => false
  | .scalar _ _ => true
  | .list items => allBuffered items
  | .map entries => allEntriesBuffered entries
  | .tagged _ => false

/-- All of the nodes can be buffered. -/
def allBuffered : List Node → Bool
  | [] => true
  | n :: ns => isBuffered n && allBuffered ns

/-- All of the keys and values can be buffered. -/
def allEntriesBuffered : List (Node × Node) → Bool
  | [] => true
  | (k, v) :: es => isBuffered k && isBuffered v && allEntriesBuffered es

end

/-- The text that a node means. -/
def text? : Reader String
  | .scalar (.text s) _ => some s
  | _ => none

mutual

/-- The node is data of any shape: every key in it is a text. -/
def isData : Node → Bool
  | .scalar _ _ => true
  | .list items => allData items
  | .map entries => allEntriesData entries
  | .tagged _ => false

/-- All of the nodes are data. -/
def allData : List Node → Bool
  | [] => true
  | n :: ns => isData n && allData ns

/-- All of the keys are texts and all of the values are data. -/
def allEntriesData : List (Node × Node) → Bool
  | [] => true
  | (k, v) :: es => k.text?.isSome && isData v && allEntriesData es

end

/-- Data of any shape. -/
def data? : Reader Unit := fun n =>
  if n.isData then some () else none

/-! ### Scalars -/

/-- The text that a scalar is spelled as. -/
def spelled? : Reader String := fun n =>
  match n.untagged with
  | .scalar (.text s) none => some s
  | .scalar _ spelling => spelling
  | _ => none

/-- A truth value. -/
def bool? : Reader Bool
  | .scalar (.bool b) _ => some b
  | _ => none

/-- A number. -/
def number? : Reader Unit
  | .scalar (.int _) _ => some ()
  | .scalar (.float true) _ => some ()
  | _ => none

/-- A whole number that is not negative. -/
def count? : Reader Unit
  | .scalar (.int n) _ => if 0 ≤ n then some () else none
  | _ => none

/-- A whole number of 64 bits with a sign. -/
def isSigned : Node → Bool
  | .scalar (.int n) _ => n < Int.pow 2 63
  | _ => false

/-- The node means nothing. -/
def isNull : Node → Bool
  | .scalar .null _ => true
  | _ => false

/-! ### Lists and tables -/

/-- A list of values. -/
def list? (r : Reader α) : Reader (List α)
  | .list items => items.mapM r
  | _ => none

/-- A list of values at the top of a document; what is not written is an empty list. -/
def topList? (r : Reader α) : Reader (List α) := fun n =>
  match n.untagged with
  | .list items => items.mapM r
  | n => if n.isBlank then some [] else none

/-- The entries of a table: a repeated key keeps its first position and takes the last
value. -/
def tabulate (entries : List (String × α)) : List (String × α) :=
  entries.foldl (fun table e =>
    if table.any (fun x => x.1 == e.1) then table.map (fun x => if x.1 == e.1 then e else x)
    else table ++ [e]) []

/-- A table of values with texts for keys. -/
def table? (r : Reader α) : Reader (List (String × α))
  | .map entries => (entries.mapM fun ((k, v) : Node × Node) => do return (← k.text?, ← r v)).map tabulate
  | _ => none

/-- A table of values at the top of a document, with keys as they are spelled. -/
def topTable? (r : Reader α) : Reader (List (String × α)) := fun n =>
  match n.untagged with
  | .map entries => (entries.mapM fun ((k, v) : Node × Node) => do return (← k.spelled?, ← r v)).map tabulate
  | n => if n.isBlank then some [] else none

end Node

/-- The fields of an object, in the order of the text. -/
abbrev Fields := List (String × Node)

namespace Fields

/-- The values of the fields that start with `x-` are data of any shape. -/
def extensionsOk (fields : Fields) : Bool :=
  fields.all fun (key, value) => !key.startsWith "x-" || value.isData

/-- The fields of a buffered object. -/
def ofNode? : Reader Fields
  | .map entries =>
    let fields : Fields := entries.filterMap fun (k, v) => k.text?.map (·, v)
    if extensionsOk fields then some fields else none
  | _ => none

/-- The fields of an object at the top of a document. Those that are not `known` are
buffered. -/
def ofTop? (known : List String) : Reader Fields := fun n =>
  match n.untagged with
  | .map entries => do
    let fields : Fields ← entries.mapM fun ((k, v) : Node × Node) => do return (← k.spelled?, v)
    if fields.all (fun (key, value) => known.contains key || value.isBuffered) && extensionsOk fields
    then some fields else none
  | n => if n.isBlank then some [] else none

/-- The value of a field that may occur once. -/
def once? (fields : Fields) (key : String) : Option (Option Node) :=
  match fields.filter (fun f => f.1 == key) with
  | [] => some none
  | [f] => some (some f.2)
  | _ => none

/-- A field that has to be there. -/
def required? (fields : Fields) (key : String) (r : Reader α) : Option α := do
  (← fields.once? key) >>= r

/-- A field that may be missing or null. -/
def optional? (fields : Fields) (key : String) (r : Reader α) : Option (Option α) := do
  match ← fields.once? key with
  | none => some none
  | some n => if n.isNull then some none else (r n).map some

/-- A field that may be missing. -/
def default? (fields : Fields) (key : String) (r : Reader α) (d : α) : Option α := do
  match ← fields.once? key with
  | none => some d
  | some n => r n

/-- Optional fields of which only the shape counts. -/
def allOptional? (fields : Fields) (r : Reader α) (keys : List String) : Option Unit :=
  keys.forM fun key => (fields.optional? key r).map fun _ => ()

/-- Fields with a default of which only the shape counts. -/
def allDefault? (fields : Fields) (r : Reader Unit) (keys : List String) : Option Unit :=
  keys.forM fun key => fields.default? key r ()

end Fields

/-- Reading for the shape only. -/
def Reader.shape (r : Reader α) : Reader Unit := fun n =>
  (r n).map fun _ => ()

/-! ### References -/

/-- An item, or a pointer to one. -/
inductive RefOr (α : Type) where
  /-- A pointer. -/
  | reference (pointer : String)
  /-- The item itself. -/
  | item (value : α)
  deriving Repr, Inhabited

/-- The item itself, if it is there. -/
def RefOr.item? : RefOr α → Option α
  | .item a => some a
  | .reference _ => none

/-- A key of a reference object: `$ref`, or the number of that field, zero. -/
def isPointerKey : Node → Bool
  | .scalar (.text s) _ => s == "$ref"
  | .scalar (.int n) _ => n == 0
  | _ => false

/-- A key that a reference object may hold. -/
def isReferenceKey : Node → Bool
  | .scalar (.text _) _ => true
  | .scalar (.int n) _ => 0 ≤ n
  | _ => false

/-- The pointer of a reference object: the one text at `$ref`. -/
def pointer? : Reader String
  | .map entries =>
    if entries.all (fun e => isReferenceKey e.1) then
      match entries.filter (fun e => isPointerKey e.1) with
      | [e] => e.2.text?
      | _ => none
    else none
  | _ => none

/-- A pointer or an item. -/
def refOr? (r : Reader α) : Reader (RefOr α) := fun n =>
  match pointer? n with
  | some p => some (.reference p)
  | none => (r n).map .item

end ApiStubs
