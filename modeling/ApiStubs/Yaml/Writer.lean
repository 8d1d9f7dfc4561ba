import ApiStubs.Json.Printer
import ApiStubs.Yaml.Meaning

/-!
# Writing YAML scalars

A text is written plain where that reads back as the same text. A text that would be read as
something else, or that a plain scalar cannot hold, stands in single quotes; one with
characters that have to be escaped, in double quotes; and one with several lines is a block.
-/

namespace ApiStubs.Yaml

/-! ### What is in a text -/

/-- A character that is written as it is. -/
def isPrintable (c : Char) : Bool :=
  let n := c.toNat
  n == 0xA || (0x20 ≤ n && n ≤ 0x7E) || (0xA0 ≤ n && n != 0xFEFF && n != 0xFFFE && n != 0xFFFF)

/-- A character that ends a line, before line ends are made equal. -/
def isAnyBreak (c : Char) : Bool :=
  isBreak c || c = '\r' || c.toNat = 0x85

/-- The text is at its end or goes on with a blank or a line end. -/
def spaceNext : List Char → Bool
  | [] => true
  | c :: _ => isBlank c || isAnyBreak c

/-- The characters that a plain scalar cannot start with. -/
def startIndicators : List Char :=
  ['#', ',', '[', ']', '\x7b', '\x7d', '&', '*', '!', '|', '>', '\'', '"', '%', '@', '\x60']

/-- The start of a text is not that of a plain scalar. -/
def startsWithIndicator (cs : List Char) : Bool :=
  match cs with
  | [] => false
  | c :: rest =>
    cs.take 3 = ['-', '-', '-'] || cs.take 3 = ['.', '.', '.']
      || startIndicators.contains c
      || ((c = '?' || c = ':' || c = '-') && spaceNext rest)

/-- Behind `before` there is a colon in front of a blank, or a number sign behind one. -/
def hasIndicator (before : Char) : List Char → Bool
  | [] => false
  | c :: rest =>
    (c = ':' && spaceNext rest) || (c = '#' && spaceNext [before]) || hasIndicator c rest

/-- Two neighbours that satisfy `p` and `q`. -/
def hasPair (p q : Char → Bool) : List Char → Bool
  | a :: b :: rest => (p a && q b) || hasPair p q (b :: rest)
  | _ => false

/-- A blank, without tabs. -/
def isSpace (c : Char) : Bool := c = ' '

/-- A plain scalar in a block can hold the text. -/
def allowsPlain (cs : List Char) : Bool :=
  !(startsWithIndicator cs || hasIndicator (cs.headD ' ') cs.tail)
    && cs.all (fun c => isPrintable c && !isAnyBreak c)
    && !(cs.head?.any isSpace) && !(cs.getLast?.any isSpace)

/-- Single quotes can hold the text. -/
def allowsSingle (cs : List Char) : Bool :=
  cs.all isPrintable && !hasPair isSpace isAnyBreak cs && !hasPair isAnyBreak isSpace cs

/-- A block can hold the text. -/
def allowsBlock (cs : List Char) : Bool :=
  cs.all isPrintable && !hasPair isSpace isAnyBreak cs && !(cs.getLast?.any isSpace)

/-! ### Forms -/

/-- The blanks in front of the lines of a value. -/
def valueIndent : List Char := [' ', ' ']

/-- The lines of a text, each behind the blanks of a value. `atStart` says that a line begins.
An empty line has no blanks. -/
def indentLines (double : Char → List Char) (atStart : Bool) : List Char → List Char
  | [] => []
  | c :: cs =>
    if isBreak c then c :: indentLines double true cs
    else (if atStart then valueIndent else []) ++ double c ++ indentLines double false cs

/-- The text in single quotes. -/
def singleQuoted (cs : List Char) : List Char :=
  let body := indentLines (fun c => if c = '\'' then ['\'', '\''] else [c]) false cs
  let last := if cs.getLast?.any isBreak then valueIndent else []
  '\'' :: body ++ last ++ ['\'']

/-- The letter of an escape. -/
def escapeLetter? (c : Char) : Option Char :=
  match c.toNat with
  | 0x0 => some '0'
  | 0x7 => some 'a'
  | 0x8 => some 'b'
  | 0x9 => some 't'
  | 0xA => some 'n'
  | 0xB => some 'v'
  | 0xC => some 'f'
  | 0xD => some 'r'
  | 0x1B => some 'e'
  | 0x22 => some '"'
  | 0x5C => some '\\'
  | 0x85 => some 'N'
  | 0x2028 => some 'L'
  | 0x2029 => some 'P'
  | _ => none

/-- The last `count` hexadecimal digits of a number. -/
def hexDigits (n : Nat) : Nat → List Char
  | 0 => []
  | count + 1 => hexDigits (n / 16) count ++ [(Json.hexDigit (n % 16)).toUpper]

/-- A character in double quotes. -/
def doubleQuotedChar (c : Char) : List Char :=
  if isPrintable c && !isBreak c && c ≠ '"' && c ≠ '\\' then [c]
  else
    match escapeLetter? c with
    | some letter => ['\\', letter]
    | none =>
      if c.toNat ≤ 0xFF then '\\' :: 'x' :: hexDigits c.toNat 2
      else if c.toNat ≤ 0xFFFF then '\\' :: 'u' :: hexDigits c.toNat 4
      else '\\' :: 'U' :: hexDigits c.toNat 8

/-- The text in double quotes. -/
def doubleQuoted (cs : List Char) : List Char :=
  '"' :: cs.flatMap doubleQuotedChar ++ ['"']

/-- The sign of what happens to the line ends at the end of a block. -/
def chompSign (cs : List Char) : List Char :=
  match cs.reverse with
  | a :: b :: _ => if !isBreak a then ['-'] else if isBreak b then ['+'] else []
  | [a] => if isBreak a then ['+'] else ['-']
  | [] => ['-']

/-- The text as a block. The width of the indentation is given where the text starts with a
blank or an empty line. -/
def blockText (cs : List Char) : List Char :=
  let hint := if cs.head?.any (fun c => isSpace c || isBreak c) then ['2'] else []
  '|' :: hint ++ chompSign cs ++ '\n' :: indentLines (fun c => [c]) true cs

/-- The text of an entry of a mapping, with the line end behind it. -/
def entryText (s : String) : String :=
  let cs := s.toList
  let ended (text : List Char) : String := String.ofList (text ++ ['\n'])
  let quoted := if allowsSingle cs then singleQuoted cs else doubleQuoted cs
  if cs.contains '\n' then
    if allowsBlock cs then
      let text := blockText cs
      if cs.getLast?.any isBreak then String.ofList text else ended text
    else ended (doubleQuoted cs)
  else if plainMeaning s ≠ .text s || isPaddedDigits cs then ended quoted
  else if allowsPlain cs then ended cs
  else ended quoted

/-- A mapping with texts for keys that need no quotes: one entry a line. A value is a text or a
truth value. -/
def mappingText : List (String × (String ⊕ Bool)) → String
  | [] => ""
  | (key, .inl text) :: rest => key ++ ": " ++ entryText text ++ mappingText rest
  | (key, .inr b) :: rest => key ++ ": " ++ (if b then "true" else "false") ++ "\n" ++ mappingText rest

end ApiStubs.Yaml
