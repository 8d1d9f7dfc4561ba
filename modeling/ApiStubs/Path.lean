import ApiStubs.Text.Drop
import ApiStubs.Text.Lines

/-!
# Paths

A path is a text; what it says is its list of components. Slashes in a row, a slash at the
end and a `.` inside say nothing. A `.` in front of a relative path and every `..` are kept.
-/

namespace ApiStubs

/-- The path of a file or a directory, as it is spelled. -/
structure Path where
  /-- The spelling. -/
  text : String
  deriving Repr, DecidableEq, Inhabited

/-- A step of a path. -/
inductive Component where
  /-- The slash in front of an absolute path. -/
  | root
  /-- A `.` in front of a relative path. -/
  | here
  /-- A `..`. -/
  | up
  /-- The name of a file or a directory. -/
  | name (text : String)
  deriving Repr, DecidableEq

/-- The spelling of a component. -/
def Component.text : Component → String
  | .root => "/"
  | .here => "."
  | .up => ".."
  | .name s => s

namespace Path

/-- The texts between the slashes. -/
def pieces (p : Path) : List (List Char) :=
  Text.splitWhere (· = '/') p.text.toList

/-- The path starts at the root. -/
def isAbsolute (p : Path) : Bool :=
  p.text.toList.head? = some '/'

/-- A piece that is a step: neither empty nor a `.`. -/
def isStep (piece : List Char) : Bool :=
  !piece.isEmpty && piece != ['.']

/-- The component of a piece that is a step. -/
def stepComponent (piece : List Char) : Component :=
  if piece = ['.', '.'] then .up else .name (String.ofList piece)

/-- The component in front, if it is the root or a `.`. -/
def frontComponent (p : Path) : List Component :=
  if p.isAbsolute then [.root]
  else if p.pieces.head? = some ['.'] then [.here]
  else []

/-- The steps of a path. -/
def components (p : Path) : List Component :=
  p.frontComponent ++ (p.pieces.filter isStep).map stepComponent

/-- The path `q` seen from `p`; an absolute path is the same from everywhere. -/
def join (p q : Path) : Path :=
  if q.isAbsolute then q
  else if p.text.toList.getLast? = none ∨ p.text.toList.getLast? = some '/' then ⟨p.text ++ q.text⟩
  else ⟨p.text ++ "/" ++ q.text⟩

/-- The path of something inside a directory. -/
def child (p : Path) (name : String) : Path :=
  p.join ⟨name⟩

/-- The directory that the path lies in: the spelling up to the last component, without the
slashes and dots before that. There is none for the root and for the empty path. -/
def parent? (p : Path) : Option Path :=
  match p.pieces with
  | [] => none
  | first :: others =>
    match others.reverse.dropWhile (fun piece => !isStep piece) with
    | _ :: before =>
      let kept := (before.dropWhile (fun piece => !isStep piece)).reverse
      if p.isAbsolute ∧ kept.isEmpty then some ⟨"/"⟩
      else some ⟨String.ofList (['/'].intercalate (first :: kept))⟩
    | [] => if first.isEmpty then none else some ⟨""⟩

/-- The directory that the path lies in, the empty path where there is none. -/
def parentD (p : Path) : Path :=
  p.parent?.getD ⟨""⟩

/-- The name at the end of the path, if it ends in one. -/
def fileName? (p : Path) : Option String :=
  match p.components.getLast? with
  | some (.name s) => some s
  | _ => none

/-- The part of the file name after its last dot, unless nothing stands before that dot. -/
def extension? (p : Path) : Option String := do
  let name ← p.fileName?
  let reversed := name.toList.reverse
  match reversed.dropWhile (· ≠ '.') with
  | _ :: _ :: _ => some (String.ofList (reversed.takeWhile (· ≠ '.')).reverse)
  | _ => none

/-- What is left of a path below `base`; `none` when it does not lie below. -/
def below? (base p : Path) : Option (List Component) :=
  Text.dropStart? base.components p.components

/-- The path lies below `base` or is `base`. -/
def isBelow (p base : Path) : Bool :=
  (below? base p).isSome

end Path

end ApiStubs
