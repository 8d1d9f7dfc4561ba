import ApiStubs.Text.Lines

/-!
# Glob patterns

A pattern of an ignore file is a list of tokens. Whether it matches a text is decided from the
right: for each token the table says of every end of the text whether the tokens from there on
match it. The table of a token is made from that of the tokens after it in one pass, so a
pattern with many stars costs no more than one with few.
-/

namespace ApiStubs

/-- A part of a pattern. -/
inductive GlobToken where
  /-- A character that stands for itself. -/
  | char (c : Char)
  /-- One character of a name, written `?`. -/
  | nameChar
  /-- Any part of a name, written `*`. -/
  | namePart
  /-- Any text on one line, written `**`. -/
  | anyText
  /-- Nothing, or any text on one line that ends in a slash, written `**/`. -/
  | directories
  deriving Repr, DecidableEq

/-- A character that a name may hold. -/
def isNameChar (c : Char) : Bool := c != '/'

/-- A character that a line may hold. -/
def isLineChar (c : Char) : Bool := c != '\n'

namespace GlobToken

/-! ### Tables -/

/-- One character that satisfies `p`, then the rest. -/
def one (p : Char → Bool) : List Char → List Bool → List Bool
  | c :: cs, _ :: next => (p c && next.headD false) :: one p cs next
  | _, _ => [false]

/-- Any number of characters that satisfy `p`, then the rest. -/
def many (p : Char → Bool) : List Char → List Bool → List Bool
  | c :: cs, b :: next =>
    let later := many p cs next
    (b || (p c && later.headD false)) :: later
  | _, next => next

/-- The table of a token followed by tokens with the table `next`. -/
def extend (text : List Char) (token : GlobToken) (next : List Bool) : List Bool :=
  match token with
  | .char c => one (· == c) text next
  | .nameChar => one isNameChar text next
  | .namePart => many isNameChar text next
  | .anyText => many isLineChar text next
  | .directories => next.zipWith (· || ·) (many isLineChar text (one (· == '/') text next))

/-- The table of no tokens: only the empty end matches. -/
def endTable (text : List Char) : List Bool :=
  text.map (fun _ => false) ++ [true]

end GlobToken

/-- The tokens match the whole text. -/
def globMatches (tokens : List GlobToken) (text : List Char) : Bool :=
  (tokens.foldr (GlobToken.extend text) (GlobToken.endTable text)).headD false

/-! ### Reading a pattern -/

/-- The tokens of the body of a pattern. -/
def globTokens : List Char → List GlobToken
  | [] => []
  | '*' :: '*' :: '/' :: cs => .directories :: globTokens cs
  | '*' :: '*' :: cs => .anyText :: globTokens cs
  | '*' :: cs => .namePart :: globTokens cs
  | '?' :: cs => .nameChar :: globTokens cs
  | c :: cs => .char c :: globTokens cs

/-- A pattern of an ignore file. -/
structure Glob where
  /-- The pattern starts at the root; any other may also start below a directory. -/
  anchored : Bool
  /-- What the pattern says. -/
  body : List GlobToken
  /-- The pattern means everything below a directory. -/
  directory : Bool
  deriving Repr, DecidableEq

namespace Glob

/-- The pattern spelled by a text. Blanks around it do not count. A slash at the end marks a
directory; any other slash anchors the pattern, and the one in front says nothing more. -/
def ofText (pattern : String) : Glob :=
  let cs := Text.trim pattern.toList
  let directory := cs.getLast? = some '/'
  let cs := if directory then cs.dropLast else cs
  { anchored := cs.contains '/'
    body := globTokens (if cs.head? = some '/' then cs.tail else cs)
    directory }

/-- The tokens of the whole pattern. -/
def tokens (g : Glob) : List GlobToken :=
  (if g.anchored then [] else [.directories]) ++ g.body
    ++ (if g.directory then [.char '/', .anyText] else [])

/-- The pattern matches a path below the root. -/
def accepts (g : Glob) (relative : String) : Bool :=
  globMatches g.tokens relative.toList

end Glob

end ApiStubs
