import ApiStubs.Json.Raw
import ApiStubs.Text.Lines

/-!
# Chunks of a template

A template is text with tags in it: values to print between two braces, blocks between a brace
and a percent sign, and comments. A minus sign at the border of a tag drops the white space of
the text there.
-/

namespace ApiStubs.Template

/-- A word inside a tag. -/
inductive Word where
  /-- A name with the keys behind it. -/
  | path (name : String) (keys : List String)
  /-- A whole number. -/
  | int (value : Int)
  /-- A number with a point. -/
  | double (value : Double)
  /-- A text in quotes. -/
  | text (value : String)
  /-- The bar in front of a filter. -/
  | bar
  /-- A comma. -/
  | comma
  /-- An opening parenthesis. -/
  | openParen
  /-- A closing parenthesis. -/
  | closeParen
  deriving Repr, DecidableEq

/-- The minus signs at the borders of a tag. -/
structure Trimming where
  /-- The text before the tag is trimmed. -/
  before : Bool
  /-- The text behind the tag is trimmed. -/
  after : Bool
  deriving Repr, DecidableEq

/-- A piece of a template. -/
inductive Chunk where
  /-- Text. -/
  | text (s : List Char)
  /-- A value to print. -/
  | print (t : Trimming) (words : List Word)
  /-- A block tag. -/
  | block (t : Trimming) (words : List Word)
  /-- A comment. -/
  | comment (t : Trimming)
  deriving Repr, DecidableEq

/-! ### Words -/

/-- A blank inside a tag. -/
def isTagBlank (c : Char) : Bool :=
  c = ' ' || c = '\t' || c = '\n' || c = '\r'

/-- A character that a name starts with. -/
def isNameStart (c : Char) : Bool :=
  c.isAlpha || c = '_'

/-- A character of a name or a key. -/
def isNamePart (c : Char) : Bool :=
  c.isAlphanum || c = '_'

/-- The keys behind a name, each after a dot. -/
def keys (cs : List Char) : Nat → List String × List Char
  | 0 => ([], cs)
  | fuel + 1 =>
    match cs with
    | '.' :: rest =>
      let (key, rest') := rest.span isNamePart
      if key.isEmpty then ([], cs)
      else
        let (ks, rest'') := keys rest' fuel
        (String.ofList key :: ks, rest'')
    | cs => ([], cs)

/-- A number: digits without a needless zero in front, and digits behind a point. -/
def number? (negative : Bool) (cs : List Char) : Option (Word × List Char) :=
  let (ds, rest) := match cs with
    | '0' :: rest => (['0'], rest)
    | cs => cs.span Char.isDigit
  if ds.isEmpty then none
  else
    let whole := Json.Raw.natOfDigits ds
    let (fraction, behind) := match rest with
      | '.' :: rest => rest.span Char.isDigit
      | rest => ([], rest)
    if fraction.isEmpty then
      let n : Int := if negative then -Int.ofNat whole else Int.ofNat whole
      if -Int.pow 2 63 ≤ n && n < Int.pow 2 63 then some (.int n, rest) else none
    else
      let digits := Json.Raw.natOfDigits (ds ++ fraction)
      (Double.nearest? negative digits (Nat.pow 10 fraction.length)).map fun d => (.double d, behind)

/-- A quoted text, from behind its quote; nothing in it is escaped. -/
def quoted? (quote : Char) (cs : List Char) : Option (Word × List Char) :=
  let (s, rest) := cs.span (· ≠ quote)
  match rest with
  | _ :: rest => some (.text (String.ofList s), rest)
  | [] => none

/-- The words up to the end of a tag, whether a minus sign stands there, and what follows.
`sign` is the character in front of the last brace. -/
def words? (sign : Char) (cs : List Char) : Nat → Option (List Word × Bool × List Char)
  | 0 => none
  | fuel + 1 =>
    let add (w : Word) (rest : List Char) := do
      let (ws, after, rest) ← words? sign rest fuel
      return (w :: ws, after, rest)
    match cs.dropWhile isTagBlank with
    | [] => none
    | c :: rest =>
      if c = '-' && rest.take 2 = [sign, '\x7d'] then some ([], true, rest.drop 2)
      else if c = sign && rest.head? = some '\x7d' then some ([], false, rest.tail)
      else if isNameStart c then
        let (name, rest) := (c :: rest).span isNamePart
        let (ks, rest) := keys rest rest.length
        add (.path (String.ofList name) ks) rest
      else if c.isDigit then do
        let (w, rest) ← number? false (c :: rest)
        add w rest
      else if c = '-' then do
        let (w, rest) ← number? true rest
        add w rest
      else if c = '"' || c = '\'' || c = '\x60' then do
        let (w, rest) ← quoted? c rest
        add w rest
      else if c = '|' then add .bar rest
      else if c = ',' then add .comma rest
      else if c = '(' then add .openParen rest
      else if c = ')' then add .closeParen rest
      else none

/-! ### Chunks -/

/-- A tag starts here: the character behind the brace. -/
def tagSign? (cs : List Char) : Option Char :=
  match cs with
  | '\x7b' :: '\x7b' :: _ => some '\x7d'
  | '\x7b' :: '%' :: _ => some '%'
  | '\x7b' :: '#' :: _ => some '#'
  | _ => none

/-- The text up to the next tag, and what follows. -/
def textUntilTag : List Char → List Char × List Char
  | [] => ([], [])
  | c :: cs =>
    if (tagSign? (c :: cs)).isSome then ([], c :: cs)
    else
      let (s, rest) := textUntilTag cs
      (c :: s, rest)

/-- Behind a comment: whether a minus sign ends it, and what follows. -/
def commentEnd? : List Char → Option (Bool × List Char)
  | [] => none
  | '-' :: '#' :: '\x7d' :: rest => some (true, rest)
  | '#' :: '\x7d' :: rest => some (false, rest)
  | _ :: rest => commentEnd? rest

/-- The minus sign at the start of a tag, and what follows. -/
def minus (cs : List Char) : Bool × List Char :=
  match cs with
  | '-' :: rest => (true, rest)
  | rest => (false, rest)

/-- A block tag, from its brace on. -/
def blockTag? (cs : List Char) : Option (Trimming × List Word × List Char) :=
  match cs with
  | '\x7b' :: '%' :: rest => do
    let (before, rest) := minus rest
    let (words, after, rest) ← words? '%' rest (rest.length + 1)
    return (⟨before, after⟩, words, rest)
  | _ => none

/-- The text up to the tag that ends a raw block, that tag, and what follows. -/
def rawText? : List Char → Option (List Char × Trimming × List Char)
  | [] => none
  | c :: cs =>
    match blockTag? (c :: cs) with
    | some (t, [.path "endraw" []], rest) => some ([], t, rest)
    | _ => (rawText? cs).map fun (s, t, rest) => (c :: s, t, rest)

/-- The chunks of a template. The text of a raw block is trimmed inside, as its tags say, and
stands between two comments. -/
def chunks? (cs : List Char) : Nat → Option (List Chunk)
  | 0 => none
  | fuel + 1 =>
    match cs, tagSign? cs with
    | [], _ => some []
    | cs, none =>
      let (s, rest) := textUntilTag cs
      (chunks? rest fuel).map (.text s :: ·)
    | cs, some '#' => do
      let (before, rest) := minus (cs.drop 2)
      let (after, rest) ← commentEnd? rest
      (chunks? rest fuel).map (.comment ⟨before, after⟩ :: ·)
    | cs, some '%' => do
      let (t, words, rest) ← blockTag? cs
      match words with
      | [.path "raw" []] =>
        let (s, u, rest) ← rawText? rest
        let s := if t.after then Text.trimLeft s else s
        let s := if u.before then Text.trimRight s else s
        let chunks ← chunks? rest fuel
        return .comment ⟨t.before, false⟩ :: .text s :: .comment ⟨false, u.after⟩ :: chunks
      | words => (chunks? rest fuel).map (.block t words :: ·)
    | cs, some _ => do
      let (before, rest) := minus (cs.drop 2)
      let (words, after, rest) ← words? '\x7d' rest (rest.length + 1)
      (chunks? rest fuel).map (.print ⟨before, after⟩ words :: ·)

/-- The chunks of a source. -/
def chunksOf? (source : String) : Option (List Chunk) :=
  let cs := source.toList
  chunks? cs (cs.length + 1)

end ApiStubs.Template
