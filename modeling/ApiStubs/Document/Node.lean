import ApiStubs.Json.Raw

/-!
# Nodes of a document

A document is read from a JSON or a YAML text into one kind of tree. In YAML a scalar has a
meaning, which may be a number or a truth value, and a spelling; some fields take the spelling
of any scalar as a text, the others want a scalar that means a text.
-/

namespace ApiStubs

/-- What a scalar means. -/
inductive Scalar where
  /-- Nothing. -/
  | null
  /-- A truth value. -/
  | bool (value : Bool)
  /-- A whole number of 64 bits, with or without a sign. -/
  | int (value : Int)
  /-- Something that no value holds: a number of more than 64 bits, or a spelling that
  contradicts its tag. -/
  | unfit
  /-- Any other number; the numbers beyond all others and those that are none are not finite. -/
  | float (finite : Bool)
  /-- A text. -/
  | text (value : String)
  deriving Repr, DecidableEq

/-- A node of a document. -/
inductive Node where
  /-- A scalar, and its spelling where the spelling may stand for a text. -/
  | scalar (meaning : Scalar) (spelling : Option String)
  /-- A list. -/
  | list (items : List Node)
  /-- A mapping. -/
  | map (entries : List (Node × Node))
  /-- A node with a tag of its own, which no field of a buffered value understands. -/
  | tagged (node : Node)
  deriving Repr, Inhabited

namespace Node

/-- Nothing is written where the node stands. -/
def isBlank : Node → Bool
  | .scalar .null (some "") => true
  | _ => false

/-- The node itself, without its tag. -/
def untagged : Node → Node
  | .tagged n => n
  | n => n

/-! ### From JSON -/

mutual

/-- The node of a JSON value. -/
def ofJson : Json → Node
  | .null => .scalar .null none
  | .bool b => .scalar (.bool b) none
  | .num (.int n) => .scalar (.int n) none
  | .num (.double _) => .scalar (.float true) none
  | .str s => .scalar (.text s) none
  | .arr items => .list (ofItems items)
  | .obj fields => .map (ofFields fields)

/-- The nodes of the items of a list. -/
def ofItems : List Json → List Node
  | [] => []
  | x :: xs => ofJson x :: ofItems xs

/-- The nodes of the fields of an object. -/
def ofFields : List (String × Json) → List (Node × Node)
  | [] => []
  | (key, x) :: xs => (.scalar (.text key) none, ofJson x) :: ofFields xs

end

end Node

end ApiStubs
