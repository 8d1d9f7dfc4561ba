import ApiStubs.Yaml.Tree
import ApiStubs.Document.Node

/-!
# What a YAML text means

A plain scalar means nothing, a truth value or a number when it is spelled like one, and a text
otherwise; a tag can settle the matter. Aliases are replaced by the nodes they stand for.
-/

namespace ApiStubs.Yaml

/-! ### Scalars -/

/-- The word for nothing. -/
def isNullWord (s : String) : Bool :=
  s = "null" || s = "Null" || s = "NULL" || s = "~"

/-- The truth value of a word. -/
def boolWord? (s : String) : Option Bool :=
  if s = "true" || s = "True" || s = "TRUE" then some true
  else if s = "false" || s = "False" || s = "FALSE" then some false
  else none

/-- The value of digits of a base; at least one is required. -/
def natOfBase? (base : Nat) (cs : List Char) : Option Nat :=
  if cs.isEmpty then none
  else cs.foldlM (fun acc c => do
    let d ← Json.Raw.hexDigit? c
    if d < base then some (acc * base + d) else none) 0

/-- Digits with a zero in front, behind a sign if there is one: a text, not a number. -/
def isPaddedDigits (cs : List Char) : Bool :=
  let ds := match cs with
    | '-' :: ds => ds
    | '+' :: ds => ds
    | ds => ds
  ds.length > 1 && ds.head? = some '0' && ds.all Char.isDigit

/-- The digits of a whole number without a sign. -/
def magnitude? (cs : List Char) : Option Nat :=
  let based := match cs with
    | '0' :: 'x' :: ds => natOfBase? 16 ds
    | '0' :: 'o' :: ds => natOfBase? 8 ds
    | '0' :: 'b' :: ds => natOfBase? 2 ds
    | _ => none
  match based with
  | some n => some n
  | none => if isPaddedDigits cs then none else natOfBase? 10 cs

/-- The whole number spelled by a scalar. -/
def int? (cs : List Char) : Option Int :=
  match cs with
  | '+' :: ds => (magnitude? ds).map Int.ofNat
  | '-' :: ds => (magnitude? ds).map fun n => -Int.ofNat n
  | ds => (magnitude? ds).map Int.ofNat

/-- The meaning of a whole number: beyond 64 bits no value holds it, and beyond 128 bits it is
not taken for one. -/
def wholeMeaning? (n : Int) : Option Scalar :=
  if -Int.pow 2 63 ≤ n && n < Int.pow 2 64 then some (.int n)
  else if -Int.pow 2 127 ≤ n && n < Int.pow 2 128 then some .unfit
  else none

/-- A decimal: its digits and the power of ten of the last one. -/
def decimal? (cs : List Char) : Option (Nat × Int) :=
  let (whole, rest) := cs.span Char.isDigit
  let (fraction, rest) := match rest with
    | '.' :: rest => rest.span Char.isDigit
    | rest => ([], rest)
  if whole.isEmpty && fraction.isEmpty then none
  else
    let digits := Json.Raw.natOfDigits (whole ++ fraction)
    let places := Int.ofNat fraction.length
    match rest with
    | [] => some (digits, -places)
    | e :: rest =>
      if e = 'e' || e = 'E' then
        let (down, ds) := match rest with
          | '+' :: ds => (false, ds)
          | '-' :: ds => (true, ds)
          | ds => (false, ds)
        if ds.isEmpty || !ds.all Char.isDigit then none
        else
          let power := Int.ofNat (Json.Raw.natOfDigits ds)
          some (digits, (if down then -power else power) - places)
      else none

/-- A decimal is in the range of doubles. Far beyond its borders the power alone decides. -/
def inRange (digits : Nat) (power : Int) : Bool :=
  let size : Int := power + (Nat.toDigits 10 digits).length
  if digits = 0 || size < -400 then true
  else if size > 400 then false
  else
    match power with
    | .ofNat e => (Double.nearest? false (digits * Nat.pow 10 e) 1).isSome
    | .negSucc e => (Double.nearest? false digits (Nat.pow 10 (e + 1))).isSome

/-- The scalar spells a number with a point or a power; says whether it is finite. -/
def float? (s : String) : Option Bool :=
  let infinite := [".inf", ".Inf", ".INF"]
  let signed := infinite ++ infinite.map ("+" ++ ·) ++ infinite.map ("-" ++ ·)
  if signed.contains s || [".nan", ".NaN", ".NAN"].contains s then some false
  else
    let body := match s.toList with
      | '+' :: cs => cs
      | '-' :: cs => cs
      | cs => cs
    match decimal? body with
    | some (digits, power) => if inRange digits power then some true else none
    | none => none

/-- The meaning of a plain scalar without a tag. -/
def plainMeaning (s : String) : Scalar :=
  let cs := s.toList
  if s.isEmpty || isNullWord s then .null
  else
    match boolWord? s with
    | some b => .bool b
    | none =>
      match (int? cs).bind wholeMeaning? with
      | some n => n
      | none =>
        if isPaddedDigits cs then .text s
        else
          match float? s with
          | some finite => .float finite
          | none => .text s

/-- The meaning of a scalar. Quotes make a text of it, and so does a tag that is not one of
those for truth values, numbers and nothing. -/
def scalarMeaning (tag : Option String) (s : String) (style : ScalarStyle) : Scalar :=
  let whenPlain := if style = .plain then plainMeaning s else .text s
  match tag with
  | none => whenPlain
  | some "tag:yaml.org,2002:bool" => ((boolWord? s).map .bool).getD .unfit
  | some "tag:yaml.org,2002:int" => ((int? s.toList).bind wholeMeaning?).getD .unfit
  | some "tag:yaml.org,2002:float" => ((float? s).map .float).getD .unfit
  | some "tag:yaml.org,2002:null" => if isNullWord s then .null else .unfit
  | some tag => if tag.startsWith "!" then whenPlain else .text s

/-! ### Trees -/

/-- The tag is one of the text's own. -/
def isOwnTag : Option String → Bool
  | some tag => tag.startsWith "!"
  | none => false

/-- A node with its own tag, if it has one. -/
def markOwn (tag : Option String) (n : Node) : Node :=
  if isOwnTag tag then .tagged n else n

/-- The parts of a tree: scalars, aliases and both ends of every collection. -/
def partCount : Tree → Nat
  | .alias _ => 1
  | .scalar .. => 1
  | .sequence _ items => 2 + listCount items
  | .mapping _ entries => 2 + entriesCount entries
where
  /-- The parts of the items of a sequence. -/
  listCount : List Tree → Nat
    | [] => 0
    | t :: ts => partCount t + listCount ts
  /-- The parts of the entries of a mapping. -/
  entriesCount : List (Tree × Tree) → Nat
    | [] => 0
    | (k, v) :: es => partCount k + partCount v + entriesCount es

/-- The deepest nesting that is read. -/
def maxDepth : Nat := 128

/-- One alias is followed, if the budget allows it. -/
def spend : StateT Nat Option Unit := do
  match ← get with
  | 0 => failure
  | n + 1 => set n

/-- A tree with its aliases replaced. The state is the number of aliases that may still be
followed, and `depth` the nesting that is still allowed. -/
def expand (s : Scope) : Nat → Tree → StateT Nat Option Node
  | depth, t => do
    let t ←
      match t with
      | .alias number => do
        spend
        (s.node? number : Option Tree)
      | t => pure t
    match depth, t with
    | _, .alias _ => failure
    | _, .scalar tag text style =>
      return markOwn tag (.scalar (scalarMeaning tag text style) (some text))
    | 0, _ => failure
    | depth + 1, .sequence tag items => do
      return markOwn tag (.list (← items.mapM (expand s depth)))
    | depth + 1, .mapping tag entries => do
      return markOwn tag (.map (← entries.mapM fun (k, v) => do
        return (← expand s depth k, ← expand s depth v)))

/-- The node of a text. A text without a document is like one with an empty scalar. -/
def nodeOfText? (text : String) : Option Node := do
  let (root, scope) ← treeOfText? text
  match root with
  | none => some (.scalar .null (some ""))
  | some t =>
    let (n, _) ← (expand scope maxDepth t).run (100 * partCount t)
    return n

end ApiStubs.Yaml
