import ApiStubs.Yaml.Cursor
import ApiStubs.Json.Raw

/-!
# Scalars of a YAML text

Reading the text of a plain, quoted or block scalar. Line ends inside plain and quoted scalars
are folded: one becomes a blank, and of several the first is dropped.
-/

namespace ApiStubs.Yaml

/-! ### Gaps -/

/-- The blanks and line ends between two words of a scalar. -/
structure Gap where
  /-- A line has ended. -/
  folded : Bool := false
  /-- The blanks, while no line has ended. -/
  blanks : List Char := []
  /-- The first line end. -/
  first : Option Char := none
  /-- The other line ends. -/
  others : List Char := []

namespace Gap

/-- The gap with one more character. -/
def add (g : Gap) (c : Char) : Gap :=
  if isBreak c then
    if g.folded then { g with others := g.others ++ [c] }
    else { folded := true, first := some c }
  else if g.folded then g
  else { g with blanks := g.blanks ++ [c] }

/-- The text that a gap stands for. -/
def text (g : Gap) : List Char :=
  if g.folded then
    match g.first with
    | some '\n' => if g.others.isEmpty then [' '] else g.others
    | some c => c :: g.others
    | none => g.others
  else g.blanks

end Gap

/-! ### Quoted scalars -/

/-- The character named by an escape of one letter. -/
def letterEscape? (c : Char) : Option Char :=
  match c with
  | '0' => some (Char.ofNat 0x0)
  | 'a' => some (Char.ofNat 0x7)
  | 'b' => some (Char.ofNat 0x8)
  | 't' => some '\t'
  | '\t' => some '\t'
  | 'n' => some '\n'
  | 'v' => some (Char.ofNat 0xB)
  | 'f' => some (Char.ofNat 0xC)
  | 'r' => some '\r'
  | 'e' => some (Char.ofNat 0x1B)
  | ' ' => some ' '
  | '"' => some '"'
  | '/' => some '/'
  | '\\' => some '\\'
  | 'N' => some (Char.ofNat 0x85)
  | '_' => some (Char.ofNat 0xA0)
  | 'L' => some (Char.ofNat 0x2028)
  | 'P' => some (Char.ofNat 0x2029)
  | _ => none

/-- The number of hexadecimal digits that follow a letter. -/
def codeLength? (c : Char) : Option Nat :=
  match c with
  | 'x' => some 2
  | 'u' => some 4
  | 'U' => some 8
  | _ => none

/-- The character with the code point spelled by hexadecimal digits. -/
def charOfHex? (ds : List Char) : Option Char := do
  let n ← ds.foldlM (fun acc d => (Json.Raw.hexDigit? d).map (acc * 16 + ·)) 0
  if (0xD800 ≤ n ∧ n ≤ 0xDFFF) ∨ n > 0x10FFFF then none else some (Char.ofNat n)

/-- The character named by the escape behind a backslash, and the number of characters of the
escape. -/
def escape? (cs : List Char) : Option (Char × Nat) :=
  match cs with
  | [] => none
  | c :: rest =>
    match codeLength? c with
    | some n =>
      let ds := rest.take n
      if ds.length = n then (charOfHex? ds).map (·, n + 1) else none
    | none => (letterEscape? c).map (·, 1)

/-- What a quoted scalar is read with: the text so far, reversed, and the gap behind it. -/
structure Reading where
  /-- The text so far, reversed. -/
  text : List Char := []
  /-- The blanks and line ends behind it. -/
  gap : Gap := {}

/-- The text with the gap closed. -/
def Reading.close (r : Reading) : Reading :=
  { text := r.gap.text.reverse ++ r.text }

/-- The text with the gap closed and one more character. -/
def Reading.push (r : Reading) (c : Char) : Reading :=
  { text := c :: r.close.text }

/-- The gap with one more character. -/
def Reading.space (r : Reading) (c : Char) : Reading :=
  { r with gap := r.gap.add c }

/-- The scalar up to the closing single quote; two quotes stand for one. -/
def singleQuoted? (r : Reading) (c : Cursor) : Nat → Option (String × Cursor)
  | 0 => none
  | fuel + 1 =>
    if c.column = 0 && borderNext c.rest then none
    else
      match c.rest with
      | [] => none
      | '\'' :: '\'' :: _ => singleQuoted? (r.push '\'') (c.skip 2) fuel
      | '\'' :: _ => some (String.ofList r.close.text.reverse, c.next)
      | x :: _ =>
        if isBlank x || isBreak x then singleQuoted? (r.space x) c.next fuel
        else singleQuoted? (r.push x) c.next fuel

/-- The scalar up to the closing double quote. A backslash at the end of a line joins it to the
next. -/
def doubleQuoted? (r : Reading) (c : Cursor) : Nat → Option (String × Cursor)
  | 0 => none
  | fuel + 1 =>
    if c.column = 0 && borderNext c.rest then none
    else
      match c.rest with
      | [] => none
      | '"' :: _ => some (String.ofList r.close.text.reverse, c.next)
      | '\\' :: rest =>
        if charNext ['\n', Char.ofNat 0x2028, Char.ofNat 0x2029] rest then
          doubleQuoted? { r.close with gap := { folded := true } } (c.skip 2) fuel
        else
          match escape? rest with
          | some (x, n) => doubleQuoted? (r.push x) (c.skip (n + 1)) fuel
          | none => none
      | x :: _ =>
        if isBlank x || isBreak x then doubleQuoted? (r.space x) c.next fuel
        else doubleQuoted? (r.push x) c.next fuel

/-! ### Plain scalars -/

/-- The characters that end a plain scalar in brackets. -/
def flowStops : List Char := [',', '[', ']', '\x7b', '\x7d']

/-- A colon that ends a plain scalar, or any of the stops in brackets. -/
def stopsPlain (inFlow : Bool) (cs : List Char) : Bool :=
  match cs with
  | ':' :: rest => blankNext rest
  | c :: _ => inFlow && flowStops.contains c
  | [] => true

/-- In brackets a colon may not stand before one of these. -/
def clashesPlain (inFlow : Bool) (cs : List Char) : Bool :=
  match cs with
  | ':' :: c :: _ => inFlow && ('?' :: flowStops).contains c
  | _ => false

/-- What is known of a plain scalar at its end: its text, the cursor behind it, and whether a line
has ended behind it. -/
def plainEnd (r : Reading) (c : Cursor) : String × Cursor × Bool :=
  (String.ofList r.text.reverse, c, r.gap.folded)

/-- A plain scalar. In a block it ends where a line is indented less than `indent`. -/
def plain? (inFlow : Bool) (indent : Int) (r : Reading) (c : Cursor) :
    Nat → Option (String × Cursor × Bool)
  | 0 => none
  | fuel + 1 =>
    match c.rest with
    | [] => some (plainEnd r c)
    | x :: _ =>
      if isBlank x || isBreak x then
        if r.gap.folded && x = '\t' && (c.column : Int) < indent then none
        else plain? inFlow indent (r.space x) c.next fuel
      else
        let afterGap := r.gap.folded || !r.gap.blanks.isEmpty
        if r.gap.folded && !inFlow && (c.column : Int) < indent then some (plainEnd r c)
        else if (afterGap || r.text.isEmpty) && ((c.column = 0 && borderNext c.rest) || x = '#') then
          some (plainEnd r c)
        else if clashesPlain inFlow c.rest then none
        else if stopsPlain inFlow c.rest then some (plainEnd r c)
        else plain? inFlow indent (r.push x) c.next fuel

/-! ### Block scalars -/

/-- What happens to the line ends at the end of a block scalar. -/
inductive Chomping where
  /-- All are dropped. -/
  | strip
  /-- One is kept. -/
  | clip
  /-- All are kept. -/
  | keep
  deriving DecidableEq

/-- The indicators behind the sign of a block scalar: the chomping and the indentation. -/
def blockHeader? (cs : List Char) : Option (Chomping × Nat × Nat) :=
  let chomp? (c : Char) : Option Chomping :=
    if c = '+' then some .keep else if c = '-' then some .strip else none
  let digit? (c : Char) : Option Nat :=
    if c.isDigit then some (c.toNat - '0'.toNat) else none
  match cs with
  | a :: rest =>
    match chomp? a, digit? a with
    | some ch, _ =>
      match rest.head?.bind digit? with
      | some 0 => none
      | some n => some (ch, n, 2)
      | none => some (ch, 0, 1)
    | none, some 0 => none
    | none, some n =>
      match rest.head?.bind chomp? with
      | some ch => some (ch, n, 2)
      | none => some (.clip, n, 1)
    | none, none => some (.clip, 0, 0)
  | [] => some (.clip, 0, 0)

/-- Skip the indentation of the next lines and collect the line ends of those that are empty.
Without an indentation the widest is found; a tab may not stand in an indentation. -/
def blockBreaks? (indent widest : Nat) (breaks : List Char) (c : Cursor) :
    Nat → Option (Nat × List Char × Cursor)
  | 0 => none
  | fuel + 1 =>
    let inIndent := indent = 0 || c.column < indent
    match c.rest with
    | x :: _ =>
      if x = ' ' && inIndent then blockBreaks? indent widest breaks c.next fuel
      else if x = '\t' && inIndent then none
      else
        let widest := max widest c.column
        if isBreak x then blockBreaks? indent widest (breaks ++ [x]) c.next fuel
        else some (widest, breaks, c)
    | [] => some (max widest c.column, breaks, c)

/-- What a block scalar is read with. -/
structure BlockReading where
  /-- The text so far, reversed. -/
  text : List Char := []
  /-- The line end behind it. -/
  lineEnd : List Char := []
  /-- The ends of the empty lines behind that. -/
  emptyLines : List Char := []
  /-- The last line starts with a blank. -/
  blankStart : Bool := false

/-- The lines of a block scalar with the given indentation. -/
def blockLines? (literal : Bool) (indent : Nat) (r : BlockReading) (c : Cursor) :
    Nat → Option (BlockReading × Cursor)
  | 0 => none
  | fuel + 1 =>
    match c.rest with
    | [] => some (r, c)
    | x :: _ =>
      if c.column ≠ indent then some (r, c)
      else
        let blank := isBlank x
        let joined :=
          if !literal && r.lineEnd = ['\n'] && !r.blankStart && !blank then
            if r.emptyLines.isEmpty then [' '] else []
          else r.lineEnd
        let before := (joined ++ r.emptyLines).reverse ++ r.text
        let (content, c) := c.span (fun x => !isBreak x)
        let (lineEnd, c) := match c.peek? with
          | some b => ([b], c.next)
          | none => ([], c)
        match blockBreaks? indent 0 [] c (c.rest.length + 1) with
        | none => none
        | some (_, emptyLines, c) =>
          let r := { text := content.reverse ++ before, lineEnd, emptyLines, blankStart := blank }
          blockLines? literal indent r c fuel

/-- A block scalar, from behind its sign. -/
def block? (literal : Bool) (parent : Int) (c : Cursor) : Option (String × Cursor) := do
  let (chomping, increment, n) ← blockHeader? c.rest
  let c := (c.skip n).skipWhile isBlank
  let c := if c.peek? = some '#' then c.skipWhile (fun x => !isBreak x) else c
  if !lineEndNext c.rest then none
  let c := c.next
  let given : Nat := if increment = 0 then 0 else (max parent 0).toNat + increment
  let fuel := c.rest.length + 1
  let (widest, emptyLines, c) ← blockBreaks? given 0 [] c fuel
  let indent := if given = 0 then max (max widest (parent + 1).toNat) 1 else given
  let (r, c) ← blockLines? literal indent { emptyLines } c fuel
  let tail := match chomping with
    | .strip => []
    | .clip => r.lineEnd
    | .keep => r.lineEnd ++ r.emptyLines
  return (String.ofList (r.text.reverse ++ tail), c)

end ApiStubs.Yaml
