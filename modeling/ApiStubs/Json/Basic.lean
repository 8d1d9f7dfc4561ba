import ApiStubs.Number.Double

/-!
# JSON values

The data handed to templates and printed in reports. An object keeps its fields in the order
in which they were put there.
-/

namespace ApiStubs

/-- A number of a JSON text: whole numbers stay exact. -/
inductive Number where
  /-- A whole number. -/
  | int (value : Int)
  /-- Any other number. -/
  | double (value : Double)
  deriving Repr, DecidableEq

/-- A JSON value. -/
inductive Json where
  /-- Nothing, written `null`. -/
  | null
  /-- A truth value. -/
  | bool (value : Bool)
  /-- A number. -/
  | num (value : Number)
  /-- A text. -/
  | str (value : String)
  /-- A list. -/
  | arr (items : List Json)
  /-- An object. -/
  | obj (fields : List (String × Json))
  deriving Repr, Inhabited

namespace Json

/-- The value of the first field of this name. -/
def field? (key : String) : Json → Option Json
  | .obj fields => fields.lookup key
  | _ => none

/-- The text, of a text. -/
def text? : Json → Option String
  | .str s => some s
  | _ => none

/-- A text, or `null` when there is none. -/
def ofText? : Option String → Json
  | some s => .str s
  | none => .null

/-- The list of these texts. -/
def ofTexts (texts : List String) : Json :=
  .arr (texts.map .str)

/-- Put a field at its place among fields with increasing names; a field of the same name gives
way. -/
def insertField (f : String × Json) : List (String × Json) → List (String × Json)
  | [] => [f]
  | g :: gs =>
    if f.1 < g.1 then f :: g :: gs
    else if f.1 = g.1 then f :: gs
    else g :: insertField f gs

mutual

/-- The value with the fields of every object sorted by name. Of several fields of one name the
last is kept. -/
def canonical : Json → Json
  | .null => .null
  | .bool b => .bool b
  | .num n => .num n
  | .str s => .str s
  | .arr items => .arr (canonicalItems items)
  | .obj fields => .obj ((canonicalFields fields).foldl (fun fs f => insertField f fs) [])

/-- The items of a list with their fields sorted. -/
def canonicalItems : List Json → List Json
  | [] => []
  | x :: xs => canonical x :: canonicalItems xs

/-- The fields of an object with the fields of their values sorted. -/
def canonicalFields : List (String × Json) → List (String × Json)
  | [] => []
  | (key, x) :: xs => (key, canonical x) :: canonicalFields xs

end

end Json

end ApiStubs
