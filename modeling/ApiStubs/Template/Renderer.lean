import ApiStubs.Json.Basic
import ApiStubs.Number.Shortest
import ApiStubs.Template.Basic
import ApiStubs.Text.Grapheme
import ApiStubs.Text.LowerCase
import ApiStubs.Text.UpperCase

/-!
# Rendering

The text that the parts of a template make of an object. Printing or looping over a variable
that is not there fails, and so does a filter on a value it is not made for; a condition on a
variable that is not there is false.
-/

namespace ApiStubs.Template

/-! ### Values -/

/-- The value counts as true: it is neither nothing, false, zero nor empty. -/
def isTruthy : Json → Bool
  | .null => false
  | .bool b => b
  | .num (.int n) => n != 0
  | .num (.double d) => !d.isZero
  | .str s => !s.isEmpty
  | .arr items => !items.isEmpty
  | .obj fields => !fields.isEmpty

mutual

/-- The value as text. -/
def printed : Json → String
  | .null => ""
  | .bool true => "true"
  | .bool false => "false"
  | .num (.int n) => toString n
  | .num (.double d) => d.plainText
  | .str s => s
  | .arr items => "[" ++ ", ".intercalate (printedItems items) ++ "]"
  | .obj _ => "[object]"

/-- The values of a list as texts. -/
def printedItems : List Json → List String
  | [] => []
  | x :: xs => printed x :: printedItems xs

end

/-- The number that a key stands for in a list: digits without a needless zero. -/
def position? (key : String) : Option Nat :=
  let cs := key.toList
  if cs.isEmpty || !cs.all Char.isDigit || (cs.head? = some '0' && cs.length > 1) then none
  else some (cs.foldl (fun acc c => acc * 10 + (c.toNat - '0'.toNat)) 0)

/-- The value that keys lead to. -/
def follow? (v : Json) : List String → Option Json
  | [] => some v
  | key :: keys =>
    match v with
    | .obj fields => do follow? (← fields.lookup key) keys
    | .arr items => do follow? (← items[← position? key]?) keys
    | _ => none

/-! ### Variables -/

/-- A loop that is being run. -/
structure Frame where
  /-- The name and the value of the key, if the loop has one. -/
  key : Option (String × String)
  /-- The name of the item. -/
  name : String
  /-- The item. -/
  value : Json
  /-- The number of items before it. -/
  index : Nat
  /-- The number of items. -/
  count : Nat

/-- What a loop knows of itself. -/
def Frame.own? (f : Frame) (name : String) (keys : List String) : Option Json :=
  if name = "loop" then
    match keys with
    | ["index"] => some (.num (.int (f.index + 1)))
    | ["index0"] => some (.num (.int f.index))
    | ["first"] => some (.bool (f.index = 0))
    | ["last"] => some (.bool (f.index + 1 = f.count))
    | _ => none
  else none

/-- What a loop knows of a variable. -/
def Frame.find? (f : Frame) (name : String) (keys : List String) : Option Json :=
  match f.own? name keys with
  | some v => some v
  | none =>
    if name = f.name then follow? f.value keys
    else
      match f.key with
      | some (keyName, key) => if name = keyName then follow? (.str key) keys else none
      | none => none

/-- The loops around a part, the innermost first, and the object that is rendered. -/
structure Scope where
  /-- The loops. -/
  frames : List Frame
  /-- The fields of the object. -/
  fields : List (String × Json)

/-- The value of a variable: the innermost loop that knows it wins, and the object comes
last. -/
def Scope.find? (s : Scope) (name : String) (keys : List String) : Option Json :=
  match s.frames.findSome? (fun f => f.find? name keys) with
  | some v => some v
  | none => do follow? (← s.fields.lookup name) keys

/-- The scope inside one more loop. -/
def Scope.push (s : Scope) (f : Frame) : Scope :=
  { s with frames := f :: s.frames }

/-! ### Expressions -/

/-- A value behind a filter. -/
def filtered? (name : String) (v : Json) : Option Json :=
  match name, v with
  | "lower", .str s => some (.str (String.ofList (Text.lower s.toList)))
  | "upper", .str s => some (.str (String.ofList (Text.upper s.toList)))
  | "length", .str s => some (.num (.int s.length))
  | "length", .arr items => some (.num (.int items.length))
  | "length", .obj fields => some (.num (.int fields.length))
  | _, _ => none

/-- The value of an operand. -/
def Operand.value? (s : Scope) : Operand → Option Json
  | .bool b => some (.bool b)
  | .int n => some (.num (.int n))
  | .double d => some (.num (.double d))
  | .text t => some (.str t)
  | .variable name keys => s.find? name keys

/-- The value of an expression. Of a variable that is not there the negation is true. -/
def Expression.value? (s : Scope) (e : Expression) : Option Json :=
  match e.operand.value? s with
  | none => if e.negated then some (.bool true) else none
  | some v => do
    let v ← e.filters.foldlM (fun v f => filtered? f v) v
    return if e.negated then .bool (!isTruthy v) else v

/-- The truth of a condition. A variable that is not there or whose filters fail counts as
false; filters on anything else do not count. -/
def Expression.holds (s : Scope) (e : Expression) : Bool :=
  match e.operand with
  | .variable name keys =>
    let v := do
      let v ← s.find? name keys
      e.filters.foldlM (fun v f => filtered? f v) v
    (v.elim false isTruthy) != e.negated
  | operand => ((operand.value? s).elim false isTruthy) != e.negated

/-- The items that a loop runs over, each with its key if the loop has one. -/
def loopItems? (keyed : Bool) (v : Json) : Option (List (Option String × Json)) :=
  match v, keyed with
  | .arr items, false => some (items.map (none, ·))
  | .str s, false =>
    some ((Text.clusters s.toList).map fun c => (none, .str (String.ofList c)))
  | .obj fields, true => some (fields.map fun f => (some f.1, f.2))
  | _, _ => none

/-- The frame of an item of a loop. -/
def frameOf (key : Option String) (name : String) (count : Nat) (item : Option String × Json)
    (index : Nat) : Frame :=
  { key := key.bind fun k => item.1.map (k, ·)
    name, value := item.2, index, count }

mutual

/-- The text of a part. -/
def renderPart? (s : Scope) : Part → Option String
  | .text t => some t
  | .print e => (e.value? s).map printed
  | .choice e yes no => if e.holds s then renderParts? s yes else renderParts? s no
  | .each key name items body empty => do
    let found ← loopItems? key.isSome (← items.value? s)
    if found.isEmpty then renderParts? s empty
    else
      let texts ← found.zipIdx.mapM fun (item, index) =>
        renderParts? (s.push (frameOf key name found.length item index)) body
      return String.join texts

/-- The text of the parts of a list, one after the other. -/
def renderParts? (s : Scope) : List Part → Option String
  | [] => some ""
  | p :: ps => do return (← renderPart? s p) ++ (← renderParts? s ps)

end

/-- The text that the parts make of an object. -/
def render? (parts : List Part) (fields : List (String × Json)) : Option String :=
  renderParts? { frames := [], fields } parts

end ApiStubs.Template
