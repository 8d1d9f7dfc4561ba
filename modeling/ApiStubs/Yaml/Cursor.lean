/-!
# Positions in a YAML text

Line ends are made equal before anything else is read, so one character ends a line. A cursor
holds the text that is left, and the line and column it starts at.
-/

namespace ApiStubs.Yaml

/-! ### Characters -/

/-- A character that a YAML text may hold. -/
def isReadable (c : Char) : Bool :=
  let n := c.toNat
  n == 0x9 || n == 0xA || n == 0xD || (0x20 ≤ n && n ≤ 0x7E) || n == 0x85
    || (0xA0 ≤ n && n ≤ 0xD7FF) || (0xE000 ≤ n && n ≤ 0xFFFD) || 0x10000 ≤ n

/-- A character that ends a line, once line ends are equal. -/
def isBreak (c : Char) : Bool :=
  c = '\n' || c.toNat = 0x2028 || c.toNat = 0x2029

/-- A blank within a line. -/
def isBlank (c : Char) : Bool :=
  c = ' ' || c = '\t'

/-- A character of a name: of an anchor, a directive or a tag handle. -/
def isWordChar (c : Char) : Bool :=
  c.isAlphanum || c = '_' || c = '-'

/-- A byte order mark. -/
def isMark (c : Char) : Bool :=
  c.toNat = 0xFEFF

/-- Every line end as one line feed. The two separators above Latin-1 stay as they are. -/
def equalBreaks : List Char → List Char
  | [] => []
  | '\r' :: '\n' :: cs => '\n' :: equalBreaks cs
  | c :: cs => (if c = '\r' || c.toNat = 0x85 then '\n' else c) :: equalBreaks cs

/-! ### Cursors -/

/-- The text that is left and where it starts. -/
structure Cursor where
  /-- The text that is left. -/
  rest : List Char
  /-- The number of characters before it. -/
  index : Nat := 0
  /-- The number of lines before it. -/
  line : Nat := 0
  /-- The number of characters before it on its line. -/
  column : Nat := 0

namespace Cursor

/-- The cursor behind the next character. -/
def next (c : Cursor) : Cursor :=
  match c.rest with
  | [] => c
  | x :: xs =>
    if isBreak x then ⟨xs, c.index + 1, c.line + 1, 0⟩ else ⟨xs, c.index + 1, c.line, c.column + 1⟩

/-- The cursor behind the next `n` characters. -/
def skip (c : Cursor) : Nat → Cursor
  | 0 => c
  | n + 1 => c.next.skip n

/-- The next character. -/
def peek? (c : Cursor) : Option Char :=
  c.rest.head?

/-- The characters that satisfy `p` up to the first that does not, and what follows. -/
def span (p : Char → Bool) (c : Cursor) : List Char × Cursor :=
  let taken := c.rest.takeWhile p
  (taken, c.skip taken.length)

/-- The cursor behind the characters that satisfy `p`. -/
def skipWhile (p : Char → Bool) (c : Cursor) : Cursor :=
  (c.span p).2

end Cursor

/-- The text is at its end or goes on with a blank or a new line. -/
def blankNext (cs : List Char) : Bool :=
  match cs with
  | [] => true
  | c :: _ => isBlank c || isBreak c

/-- The text is at its end or at the end of a line. -/
def lineEndNext (cs : List Char) : Bool :=
  match cs with
  | [] => true
  | c :: _ => isBreak c

/-- The text goes on with one of the characters. -/
def charNext (options : List Char) (cs : List Char) : Bool :=
  match cs with
  | [] => false
  | c :: _ => options.contains c

/-- Three dashes or three dots that stand alone: the border of a document. -/
def borderNext (cs : List Char) : Bool :=
  match cs with
  | '-' :: '-' :: '-' :: rest => blankNext rest
  | '.' :: '.' :: '.' :: rest => blankNext rest
  | _ => false

end ApiStubs.Yaml
