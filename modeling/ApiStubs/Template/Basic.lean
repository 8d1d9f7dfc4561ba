import ApiStubs.Number.Double

/-!
# Templates

A template is a list of parts: text, values to print, choices and loops.
-/

namespace ApiStubs.Template

/-- What an expression starts from. -/
inductive Operand where
  /-- A truth value. -/
  | bool (value : Bool)
  /-- A whole number. -/
  | int (value : Int)
  /-- Any other number. -/
  | double (value : Double)
  /-- A text. -/
  | text (value : String)
  /-- A variable: its name and the keys that lead into it. -/
  | variable (name : String) (keys : List String)
  deriving Repr, DecidableEq

/-- An operand with filters, the first of which is applied first, and a negation after them. -/
structure Expression where
  /-- The truth of the value is turned around. -/
  negated : Bool
  /-- What the expression starts from. -/
  operand : Operand
  /-- The names of the filters. -/
  filters : List String
  deriving Repr, DecidableEq

/-- A part of a template. -/
inductive Part where
  /-- Text. -/
  | text (s : String)
  /-- A value to print. -/
  | print (e : Expression)
  /-- One of two lists of parts. -/
  | choice (e : Expression) (yes no : List Part)
  /-- A list of parts for each item of a value, or another list when there is no item. With a
  name for keys the value is an object. -/
  | each (key : Option String) (name : String) (items : Expression) (body empty : List Part)
  deriving Repr

end ApiStubs.Template
