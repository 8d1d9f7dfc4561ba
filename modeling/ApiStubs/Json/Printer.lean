import ApiStubs.Json.Basic
import ApiStubs.Number.Shortest

/-!
# Writing JSON

A value on one line without blanks, or on many lines with two blanks for each level.
-/

namespace ApiStubs.Json

/-- The hexadecimal digit of a number below 16. -/
def hexDigit (n : Nat) : Char :=
  if n < 10 then Char.ofNat ('0'.toNat + n) else Char.ofNat ('a'.toNat + (n - 10))

/-- A character inside quotes. -/
def escapeChar (c : Char) : List Char :=
  if c = '"' then ['\\', '"']
  else if c = '\\' then ['\\', '\\']
  else if c = '\n' then ['\\', 'n']
  else if c = '\r' then ['\\', 'r']
  else if c = '\t' then ['\\', 't']
  else if c.toNat = 8 then ['\\', 'b']
  else if c.toNat = 12 then ['\\', 'f']
  else if c.toNat < 0x20 then ['\\', 'u', '0', '0', hexDigit (c.toNat / 16), hexDigit (c.toNat % 16)]
  else [c]

/-- A text in quotes. -/
def quote (s : String) : String :=
  "\"" ++ String.ofList (s.toList.flatMap escapeChar) ++ "\""

/-- A number. -/
def numberText : Number → String
  | .int n => toString n
  | .double d => d.dataText

mutual

/-- The value on one line. -/
def compact : Json → String
  | .null => "null"
  | .bool true => "true"
  | .bool false => "false"
  | .num n => numberText n
  | .str s => quote s
  | .arr items => "[" ++ ",".intercalate (compactItems items) ++ "]"
  | .obj fields => "\x7b" ++ ",".intercalate (compactFields fields) ++ "\x7d"

/-- Each item on one line. -/
def compactItems : List Json → List String
  | [] => []
  | x :: xs => compact x :: compactItems xs

/-- Each field on one line. -/
def compactFields : List (String × Json) → List String
  | [] => []
  | (key, x) :: xs => (quote key ++ ":" ++ compact x) :: compactFields xs

end

/-- The blanks in front of a line of a nesting level. -/
def indentation (level : Nat) : String :=
  String.ofList (List.replicate (2 * level) ' ')

mutual

/-- The value on many lines, the first of which continues a line of the given level. -/
def prettyAt (level : Nat) : Json → String
  | .arr (x :: xs) =>
    "[\n" ++ ",\n".intercalate (prettyItems (level + 1) (x :: xs)) ++ "\n" ++ indentation level ++ "]"
  | .obj (x :: xs) =>
    "\x7b\n" ++ ",\n".intercalate (prettyFields (level + 1) (x :: xs)) ++ "\n" ++ indentation level
      ++ "\x7d"
  | .arr [] => "[]"
  | .obj [] => "\x7b\x7d"
  | .null => "null"
  | .bool true => "true"
  | .bool false => "false"
  | .num n => numberText n
  | .str s => quote s

/-- Each item on lines of its own. -/
def prettyItems (level : Nat) : List Json → List String
  | [] => []
  | x :: xs => (indentation level ++ prettyAt level x) :: prettyItems level xs

/-- Each field on lines of its own. -/
def prettyFields (level : Nat) : List (String × Json) → List String
  | [] => []
  | (key, x) :: xs =>
    (indentation level ++ quote key ++ ": " ++ prettyAt level x) :: prettyFields level xs

end

/-- The value on many lines. -/
def pretty (j : Json) : String :=
  prettyAt 0 j

end ApiStubs.Json
