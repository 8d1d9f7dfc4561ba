import ApiStubs.Yaml.Scalar

/-!
# Tokens of a YAML text

A text is cut into tokens. Indentation becomes tokens of its own, which open and close block
collections. That a scalar is a key is known only when its colon is found; the tokens for the
key and its mapping are then put in front of it. A key has to stand on one line with its colon
and may be 1024 characters long.
-/

namespace ApiStubs.Yaml

/-- How a scalar is written. -/
inductive ScalarStyle where
  /-- Without quotes. -/
  | plain
  /-- In quotes or as a block. -/
  | quoted
  deriving Repr, DecidableEq

/-- A part of a YAML text. -/
inductive Token where
  /-- The version directive. -/
  | version (major minor : Nat)
  /-- The directive that names the start of a tag. -/
  | tagDirective (handle start : String)
  /-- Three dashes. -/
  | documentStart
  /-- Three dots. -/
  | documentEnd
  /-- The indentation of a sequence begins. -/
  | blockSequence
  /-- The indentation of a mapping begins. -/
  | blockMapping
  /-- An indentation ends. -/
  | blockEnd
  /-- The start of a sequence in brackets. -/
  | openList
  /-- The end of a sequence in brackets. -/
  | closeList
  /-- The start of a mapping in braces. -/
  | openMap
  /-- The end of a mapping in braces. -/
  | closeMap
  /-- The dash of an entry. -/
  | entry
  /-- A comma. -/
  | comma
  /-- The sign of a key, written or not. -/
  | key
  /-- The colon in front of a value. -/
  | value
  /-- A star and a name. -/
  | alias (name : String)
  /-- An ampersand and a name. -/
  | anchor (name : String)
  /-- A tag: its handle and the rest. -/
  | tag (handle rest : String)
  /-- A scalar. -/
  | scalar (text : String) (style : ScalarStyle)
  deriving Repr, DecidableEq

/-! ### Names and tags -/

/-- The name of an anchor or alias, from behind its sign. -/
def anchorName? (c : Cursor) : Option (String × Cursor) :=
  let (name, c) := c.span isWordChar
  if name.isEmpty || !(blankNext c.rest || charNext ['?', ':', ',', ']', '\x7d', '%', '@', '\x60'] c.rest)
  then none
  else some (String.ofList name, c)

/-- A character that the rest of a tag may hold; in angle brackets a few more are allowed. -/
def isTagChar (bracketed : Bool) (c : Char) : Bool :=
  isWordChar c || [';', '/', '?', ':', '@', '&', '=', '+', '$', '.', '%', '!', '~', '*', '\'', '(', ')'].contains c
    || (bracketed && [',', '[', ']'].contains c)

/-- The bytes spelled by the percent signs at the start of a text, and how many there are. -/
def percentBytes? : List Char → Option (List UInt8 × Nat)
  | '%' :: a :: b :: rest => do
    let n := (← Json.Raw.hexDigit? a) * 16 + (← Json.Raw.hexDigit? b)
    let (bs, k) ← percentBytes? rest
    return (UInt8.ofNat n :: bs, k + 1)
  | '%' :: _ => none
  | _ => some ([], 0)

/-- The text of a tag with the bytes after percent signs put in. -/
def decodeTag? (cs : List Char) : Nat → Option (List Char)
  | 0 => none
  | fuel + 1 =>
    match cs with
    | [] => some []
    | '%' :: _ => do
      let (bs, k) ← percentBytes? cs
      let text ← String.fromUTF8? (ByteArray.mk bs.toArray)
      let rest ← decodeTag? (cs.drop (3 * k)) fuel
      return text.toList ++ rest
    | c :: rest => (decodeTag? rest fuel).map (c :: ·)

/-- The rest of a tag. -/
def tagRest? (bracketed : Bool) (c : Cursor) : Option (List Char × Cursor) := do
  let (raw, c) := c.span (isTagChar bracketed)
  return (← decodeTag? raw (raw.length + 1), c)

/-- A handle: an exclamation mark, a name, and a second mark if there is one. -/
def tagHandle? (c : Cursor) : Option (List Char × Cursor) :=
  match c.rest with
  | '!' :: _ =>
    let (name, c) := c.next.span isWordChar
    if c.peek? = some '!' then some ('!' :: name ++ ['!'], c.next) else some ('!' :: name, c)
  | _ => none

/-- A tag, from its sign on. -/
def tag? (inFlow : Bool) (c : Cursor) : Option (Token × Cursor) := do
  let (token, c) ←
    match c.rest with
    | '!' :: '<' :: _ => do
      let (rest, c) ← tagRest? true (c.skip 2)
      if rest.isEmpty || c.peek? ≠ some '>' then none
      some (Token.tag "" (String.ofList rest), c.next)
    | _ => do
      let (handle, c) ← tagHandle? c
      if handle.length > 1 && handle.getLast? = some '!' then
        let (rest, c) ← tagRest? false c
        if rest.isEmpty then none
        some (Token.tag (String.ofList handle) (String.ofList rest), c)
      else
        let (rest, c) ← tagRest? false c
        let all := handle.tail ++ rest
        some (if all.isEmpty then Token.tag "" "!" else Token.tag "!" (String.ofList all), c)
  if (inFlow && c.peek? = some ',') || blankNext c.rest then some (token, c) else none

/-! ### Directives -/

/-- A number of a version; at most nine digits. -/
def versionNumber? (c : Cursor) : Option (Nat × Cursor) :=
  let (ds, c) := c.span Char.isDigit
  if ds.isEmpty || ds.length > 9 then none else some (Json.Raw.natOfDigits ds, c)

/-- A directive, from behind its sign to the end of the line. -/
def directive? (c : Cursor) : Option (Token × Cursor) := do
  let (name, c) := c.span isWordChar
  if name.isEmpty || !blankNext c.rest then none
  let c := c.skipWhile isBlank
  let (token, c) ←
    if name = "YAML".toList then do
      let (major, c) ← versionNumber? c
      if c.peek? ≠ some '.' then none
      let (minor, c) ← versionNumber? c.next
      some (Token.version major minor, c)
    else if name = "TAG".toList then do
      let (handle, c) ← tagHandle? c
      if handle ≠ ['!'] && !(handle.length > 1 && handle.getLast? = some '!') then none
      let (_, afterBlank) := c.span isBlank
      if afterBlank.index = c.index then none
      let (start, c) ← tagRest? true afterBlank
      if start.isEmpty || !blankNext c.rest then none
      some (Token.tagDirective (String.ofList handle) (String.ofList start), c)
    else none
  let c := c.skipWhile isBlank
  let c := if c.peek? = some '#' then c.skipWhile (fun x => !isBreak x) else c
  if lineEndNext c.rest then some (token, c.next) else none

/-! ### The scanner -/

/-- A place where a key may begin. -/
structure KeyPlace where
  /-- There is such a place. -/
  possible : Bool := false
  /-- It has to be a key. -/
  required : Bool := false
  /-- The number of tokens before it. -/
  token : Nat := 0
  /-- The number of characters before it. -/
  index : Nat := 0
  /-- Its line. -/
  line : Nat := 0
  /-- Its column. -/
  column : Nat := 0

/-- The state of the scanner. -/
structure Scanner where
  /-- Where it is. -/
  cursor : Cursor
  /-- The tokens so far. -/
  tokens : Array Token := #[]
  /-- The indentation of the current block, −1 outside of blocks. -/
  indent : Int := -1
  /-- The indentations of the blocks around it. -/
  outer : List Int := []
  /-- A key may begin here. -/
  keyAllowed : Bool := true
  /-- The place of a possible key, first that of the innermost bracket. -/
  places : List KeyPlace := [{}]

namespace Scanner

/-- The scanner is inside brackets. -/
def inFlow (s : Scanner) : Bool :=
  s.places.length > 1

/-- The scanner with one more token. -/
def emit (s : Scanner) (t : Token) : Scanner :=
  { s with tokens := s.tokens.push t }

/-- The place of a possible key in the innermost bracket. -/
def place (s : Scanner) : KeyPlace :=
  s.places.headD {}

/-- The innermost place replaced. -/
def setPlace (s : Scanner) (p : KeyPlace) : Scanner :=
  { s with places := p :: s.places.tail }

/-- Skip blanks, comments and line ends. A tab does not count as a blank where a key may begin
in a block. A byte order mark in front of the text is skipped as well, but it takes a column. -/
def skipBlanks (s : Scanner) : Nat → Scanner
  | 0 => s
  | fuel + 1 =>
    let tabs := s.inFlow || !s.keyAllowed
    let c := if s.cursor.index = 0 && s.cursor.peek?.any isMark then s.cursor.next else s.cursor
    let c := c.skipWhile (fun x => x = ' ' || (tabs && x = '\t'))
    let c := if c.peek? = some '#' then c.skipWhile (fun x => !isBreak x) else c
    match c.rest with
    | x :: _ =>
      if isBreak x then
        skipBlanks { s with cursor := c.next, keyAllowed := s.keyAllowed || !s.inFlow } fuel
      else { s with cursor := c }
    | [] => { s with cursor := c }

/-- Give up the places that the scanner has left behind. -/
def dropStale? (s : Scanner) : Option Scanner := do
  let places ← s.places.mapM fun p =>
    if p.possible && (p.line < s.cursor.line || p.index + 1024 < s.cursor.index) then
      if p.required then none else some { p with possible := false }
    else some p
  return { s with places }

/-- Close the blocks that are indented more than `column`. -/
def unroll (s : Scanner) (column : Int) : Scanner :=
  if s.inFlow then s
  else
    let closed := (s.indent :: s.outer).takeWhile (· > column)
    match (s.indent :: s.outer).drop closed.length with
    | indent :: outer =>
      { s with tokens := closed.foldl (fun ts _ => ts.push .blockEnd) s.tokens, indent, outer }
    | [] => s

/-- Open a block at `column` with a token put at the given place. -/
def roll (s : Scanner) (column : Nat) (index : Nat) (t : Token) : Scanner :=
  if s.inFlow || s.indent ≥ column then s
  else
    { s with
      tokens := s.tokens.insertIdxIfInBounds index t
      indent := column
      outer := s.indent :: s.outer }

/-- Give up the innermost place. -/
def dropPlace? (s : Scanner) : Option Scanner :=
  if s.place.possible && s.place.required then none
  else some (s.setPlace { s.place with possible := false })

/-- Remember that a key may begin here. -/
def savePlace? (s : Scanner) : Option Scanner :=
  if s.keyAllowed then do
    let required := !s.inFlow && s.indent == s.cursor.column
    let s ← s.dropPlace?
    return s.setPlace {
      possible := true, required, token := s.tokens.size, index := s.cursor.index
      line := s.cursor.line, column := s.cursor.column }
  else some s

/-- The scanner behind the next `n` characters, with one more token. -/
def take (s : Scanner) (n : Nat) (t : Token) : Scanner :=
  { s with cursor := s.cursor.skip n, tokens := s.tokens.push t }

/-- The scanner with the flag for keys set. -/
def allow (s : Scanner) (allowed : Bool) : Scanner :=
  { s with keyAllowed := allowed }

/-- A dash of a sequence. -/
def entry? (s : Scanner) : Option Scanner := do
  if !s.inFlow && !s.keyAllowed then none
  let s := s.roll s.cursor.column s.tokens.size .blockSequence
  return ((← s.dropPlace?).allow true).take 1 .entry

/-- A question mark in front of a key. -/
def key? (s : Scanner) : Option Scanner := do
  if !s.inFlow && !s.keyAllowed then none
  let s := s.roll s.cursor.column s.tokens.size .blockMapping
  return ((← s.dropPlace?).allow (!s.inFlow)).take 1 .key

/-- A colon in front of a value. -/
def value? (s : Scanner) : Option Scanner :=
  let p := s.place
  if p.possible then
    let s := { s with tokens := s.tokens.insertIdxIfInBounds p.token .key }
    let s := s.roll p.column p.token .blockMapping
    some (((s.setPlace { p with possible := false }).allow false).take 1 .value)
  else if !s.inFlow && !s.keyAllowed then none
  else
    let s := s.roll s.cursor.column s.tokens.size .blockMapping
    some ((s.allow (!s.inFlow)).take 1 .value)

/-- A token read at the cursor, of which the first character is part of a possible key. -/
def keyed? (s : Scanner) (read : Option (Token × Cursor)) : Option Scanner := do
  let s ← s.savePlace?
  let (t, cursor) ← read
  return ({ s with cursor }.allow false).emit t

/-- An opening bracket. -/
def openFlow? (s : Scanner) (t : Token) : Option Scanner := do
  let s ← s.savePlace?
  return ({ s with places := {} :: s.places }.allow true).take 1 t

/-- A closing bracket. -/
def closeFlow? (s : Scanner) (t : Token) : Option Scanner := do
  let s ← s.dropPlace?
  let places := if s.inFlow then s.places.tail else s.places
  return ({ s with places }.allow false).take 1 t

/-- A token that ends all blocks. -/
def outermost? (s : Scanner) (read : Option (Token × Cursor)) : Option Scanner := do
  let s ← (s.unroll (-1)).dropPlace?
  let (t, cursor) ← read
  return ({ s with cursor }.allow false).emit t

/-- A plain scalar may begin here. -/
def startsPlain (s : Scanner) : Bool :=
  match s.cursor.rest with
  | [] => false
  | c :: rest =>
    let indicators :=
      ['-', '?', ':', ',', '[', ']', '\x7b', '\x7d', '#', '&', '*', '!', '|', '>', '\'', '"',
        '%', '@', '\x60']
    !(isBlank c || isBreak c || indicators.contains c)
      || (c = '-' && !(rest.head?.any isBlank))
      || (!s.inFlow && (c = '?' || c = ':') && !blankNext rest)

/-- The next token, from a cursor that is not at the end. The fuel exceeds the number of characters
that are left. -/
def token? (s : Scanner) (fuel : Nat) : Option Scanner :=
  let c := s.cursor
  let ahead := c.rest.tail
  let quoted (read : Option (String × Cursor)) :=
    read.map fun (text, c) => (Token.scalar text .quoted, c)
  if c.column = 0 && c.peek? = some '%' then s.outermost? (directive? c.next)
  else if c.column = 0 && borderNext c.rest then
    let t := if c.peek? = some '-' then Token.documentStart else .documentEnd
    s.outermost? (some (t, c.skip 3))
  else
    match c.peek? with
    | none => none
    | some x =>
      if x = '[' then s.openFlow? .openList
      else if x = '\x7b' then s.openFlow? .openMap
      else if x = ']' then s.closeFlow? .closeList
      else if x = '\x7d' then s.closeFlow? .closeMap
      else if x = ',' then do
        return ((← s.dropPlace?).allow true).take 1 .comma
      else if x = '-' && blankNext ahead then s.entry?
      else if x = '?' && (s.inFlow || blankNext ahead) then s.key?
      else if x = ':' && (s.inFlow || blankNext ahead) then s.value?
      else if x = '*' then s.keyed? ((anchorName? c.next).map fun (n, c) => (.alias n, c))
      else if x = '&' then s.keyed? ((anchorName? c.next).map fun (n, c) => (.anchor n, c))
      else if x = '!' then s.keyed? (tag? s.inFlow c)
      else if (x = '|' || x = '>') && !s.inFlow then do
        let s ← s.dropPlace?
        let (text, cursor) ← block? (x = '|') s.indent c.next
        return ({ s with cursor }.allow true).emit (.scalar text .quoted)
      else if x = '\'' then s.keyed? (quoted (singleQuoted? {} c.next fuel))
      else if x = '"' then s.keyed? (quoted (doubleQuoted? {} c.next fuel))
      else if s.startsPlain then do
        let s ← s.savePlace?
        let (text, cursor, folded) ← plain? s.inFlow (s.indent + 1) {} c fuel
        return ({ s with cursor }.allow folded).emit (.scalar text .plain)
      else none

/-- All tokens from here on. Every token takes a character, so what is left of the fuel is enough
for what is left of the text. -/
def finish? (s : Scanner) : Nat → Option (Array Token)
  | 0 => none
  | fuel + 1 => do
    let s := s.skipBlanks (fuel + 1)
    let s ← s.dropStale?
    let s := s.unroll s.cursor.column
    if s.cursor.rest.isEmpty then
      let s ← (s.unroll (-1)).dropPlace?
      return s.tokens
    else (← s.token? (fuel + 1)).finish? fuel

end Scanner

/-- The tokens of a text. -/
def tokens? (text : String) : Option (List Token) :=
  let cs := text.toList
  if !cs.all isReadable then none
  else
    let s : Scanner := { cursor := { rest := equalBreaks cs } }
    (s.finish? (cs.length + 1)).map Array.toList

end ApiStubs.Yaml
