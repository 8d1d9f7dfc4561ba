import ApiStubs.Ignore.Glob

/-!
# Patterns as regular expressions

A pattern of an ignore file can be written as a regular expression for whole texts. The pattern is
gone through from left to right, with a look at the next character behind a star, and what has a
meaning of its own in an expression is escaped.

Of regular expressions there is as much here as patterns need: characters, two classes of
characters, repetition and optional groups. Signs that would mean something else are read when they
are escaped, and not otherwise.
-/

namespace ApiStubs.Regex

/-- A part of a regular expression. -/
inductive Part where
  /-- A character that stands for itself. -/
  | char (c : Char)
  /-- A character that a line may hold, written `.`. -/
  | lineChar
  /-- A character that a name may hold, written `[^/]`. -/
  | nameChar
  /-- The part any number of times, written with `*` behind it. -/
  | star (part : Part)
  /-- The parts or nothing, written between `(?:` and `)?`. -/
  | optional (parts : List Part)
  deriving Repr

/-- Parts, one after the other, match a whole text. -/
inductive Matches : List Part → List Char → Prop where
  /-- Nothing is left. -/
  | nil : Matches [] []
  /-- The character itself. -/
  | char {c : Char} {parts : List Part} {text : List Char} :
    Matches parts text → Matches (.char c :: parts) (c :: text)
  /-- Any character but a line feed. -/
  | lineChar {c : Char} {parts : List Part} {text : List Char} (h : c ≠ '\n') :
    Matches parts text → Matches (.lineChar :: parts) (c :: text)
  /-- Any character but a slash. -/
  | nameChar {c : Char} {parts : List Part} {text : List Char} (h : c ≠ '/') :
    Matches parts text → Matches (.nameChar :: parts) (c :: text)
  /-- The repetition is over. -/
  | stop {part : Part} {parts : List Part} {text : List Char} :
    Matches parts text → Matches (.star part :: parts) text
  /-- The part once more. -/
  | more {part : Part} {parts : List Part} {front text : List Char} :
    Matches [part] front → Matches (.star part :: parts) text →
      Matches (.star part :: parts) (front ++ text)
  /-- The group is left out. -/
  | without {group parts : List Part} {text : List Char} :
    Matches parts text → Matches (.optional group :: parts) text
  /-- The group is there. -/
  | within {group parts : List Part} {front text : List Char} :
    Matches group front → Matches parts text → Matches (.optional group :: parts) (front ++ text)

/-- The characters with a meaning of their own. -/
def signs : List Char :=
  ['\\', '.', '+', '*', '?', '(', ')', '|', '[', ']', '\x7b', '\x7d', '^', '$', '#', '&', '-', '~']

/-- The character, as it is written to stand for itself. -/
def escaped (c : Char) : List Char :=
  if c ∈ signs then ['\\', c] else [c]

/-! ### Reading -/

/-- The parts of an expression up to the end of the text, after the parts that have been read, the
last one first. The parts in front of groups that are open are kept, those of the innermost group
first. -/
def readParts? : List Char → List Part → List (List Part) → Option (List Part)
  | ['$'], parts, [] => some parts.reverse
  | '(' :: '?' :: ':' :: cs, parts, opened => readParts? cs [] (parts :: opened)
  | ')' :: '?' :: cs, parts, before :: opened => readParts? cs (.optional parts.reverse :: before) opened
  | '[' :: '^' :: '/' :: ']' :: cs, parts, opened => readParts? cs (.nameChar :: parts) opened
  | '.' :: cs, parts, opened => readParts? cs (.lineChar :: parts) opened
  | '*' :: cs, part :: parts, opened => readParts? cs (.star part :: parts) opened
  | '\\' :: c :: cs, parts, opened => if c ∈ signs then readParts? cs (.char c :: parts) opened else none
  | c :: cs, parts, opened => if c ∈ signs then none else readParts? cs (.char c :: parts) opened
  | [], _, _ => none

/-- The parts of an expression for whole texts. -/
def read? (text : String) : Option (List Part) :=
  match text.toList with
  | '^' :: cs => readParts? cs [] []
  | _ => none

/-! ### Writing -/

/-- Nothing, or any text on one line that ends in a slash. -/
def directoriesText : List Char := ['(', '?', ':', '.', '*', '/', ')', '?']

/-- The expression of the body of a pattern. -/
def bodyText : List Char → List Char
  | [] => []
  | '*' :: '*' :: '/' :: cs => directoriesText ++ bodyText cs
  | '*' :: '*' :: cs => ['.', '*'] ++ bodyText cs
  | '*' :: cs => ['[', '^', '/', ']', '*'] ++ bodyText cs
  | '?' :: cs => ['[', '^', '/', ']'] ++ bodyText cs
  | c :: cs => escaped c ++ bodyText cs

/-- The expression of a pattern. Blanks around the pattern do not count. -/
def ofPattern (pattern : String) : String :=
  let cs := Text.trim pattern.toList
  let directory := cs.getLast? = some '/'
  let cs := if directory then cs.dropLast else cs
  let start := if cs.contains '/' then [] else directoriesText
  let body := bodyText (if cs.head? = some '/' then cs.tail else cs)
  let below := if directory then ['/', '.', '*'] else []
  String.ofList ('^' :: (start ++ body ++ below ++ ['$']))

end ApiStubs.Regex
