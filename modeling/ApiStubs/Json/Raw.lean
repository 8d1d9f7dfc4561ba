import ApiStubs.Json.Basic

/-!
# JSON texts

Reading a JSON text in two steps. The first follows the grammar and yields the shape of the
text. The second takes the values: there a number may be too large, a text may hold half of a
surrogate pair, and lists and objects may be nested too deep. Who skips a value takes the
first step only.
-/

namespace ApiStubs.Json

/-- A number as it is spelled. -/
structure Numeral where
  /-- A minus sign stands in front. -/
  negative : Bool
  /-- The digits before the point. -/
  whole : List Char
  /-- The digits after the point, if there is one. -/
  fraction : Option (List Char)
  /-- The sign and the digits of the power of ten, if there is one. -/
  power : Option (Bool × List Char)
  deriving Repr, DecidableEq

/-- The shape of a JSON text. -/
inductive Raw where
  /-- The word `null`. -/
  | null
  /-- The word `true` or `false`. -/
  | bool (value : Bool)
  /-- A number. -/
  | num (value : Numeral)
  /-- A text; `none` when an escape in it names half of a surrogate pair. -/
  | str (value : Option String)
  /-- A list. -/
  | arr (items : List Raw)
  /-- An object, with the fields in the order of the text. -/
  | obj (fields : List (Option String × Raw))
  deriving Repr, Inhabited

namespace Raw

/-! ### The grammar -/

/-- The blanks between the parts of a text. -/
def isSpace (c : Char) : Bool :=
  c = ' ' || c = '\n' || c = '\t' || c = '\r'

/-- The text after the blanks it starts with. -/
def skip (cs : List Char) : List Char :=
  cs.dropWhile isSpace

/-- The value of a hexadecimal digit. -/
def hexDigit? (c : Char) : Option Nat :=
  if '0' ≤ c && c ≤ '9' then some (c.toNat - '0'.toNat)
  else if 'a' ≤ c && c ≤ 'f' then some (c.toNat - 'a'.toNat + 10)
  else if 'A' ≤ c && c ≤ 'F' then some (c.toNat - 'A'.toNat + 10)
  else none

/-- The value of four hexadecimal digits. -/
def hex4? (a b c d : Char) : Option Nat := do
  return (← hexDigit? a) * 4096 + (← hexDigit? b) * 256 + (← hexDigit? c) * 16 + (← hexDigit? d)

/-- One UTF-16 unit of a text, or a character that stands for itself. -/
inductive Unit16 where
  /-- A character. -/
  | char (c : Char)
  /-- A unit given by an escape. -/
  | escaped (n : Nat)

/-- The character named by a one-letter escape. -/
def shortEscape? : Char → Option Char
  | '"' => some '"'
  | '\\' => some '\\'
  | '/' => some '/'
  | 'b' => some (Char.ofNat 8)
  | 'f' => some (Char.ofNat 12)
  | 'n' => some '\n'
  | 'r' => some '\r'
  | 't' => some '\t'
  | _ => none

/-- The units up to the closing quote, and what follows it. -/
def units? : List Char → Option (List Unit16 × List Char)
  | [] => none
  | '"' :: rest => some ([], rest)
  | '\\' :: 'u' :: a :: b :: c :: d :: rest => do
    let n ← hex4? a b c d
    let (us, rest) ← units? rest
    return (.escaped n :: us, rest)
  | '\\' :: e :: rest => do
    let c ← shortEscape? e
    let (us, rest) ← units? rest
    return (.char c :: us, rest)
  | c :: rest => do
    if c.toNat < 0x20 then none
    let (us, rest) ← units? rest
    return (.char c :: us, rest)

/-- The characters of the units; pairs of surrogates are joined. -/
def joinUnits? : List Unit16 → Option (List Char)
  | [] => some []
  | .char c :: rest => (joinUnits? rest).map (c :: ·)
  | .escaped h :: .escaped l :: rest =>
    if 0xD800 ≤ h ∧ h < 0xDC00 then
      if 0xDC00 ≤ l ∧ l < 0xE000 then
        (joinUnits? rest).map (Char.ofNat (0x10000 + (h - 0xD800) * 0x400 + (l - 0xDC00)) :: ·)
      else none
    else if 0xDC00 ≤ h ∧ h < 0xE000 then none
    else (joinUnits? (.escaped l :: rest)).map (Char.ofNat h :: ·)
  | .escaped h :: rest =>
    if 0xD800 ≤ h ∧ h < 0xE000 then none else (joinUnits? rest).map (Char.ofNat h :: ·)

/-- The text up to the closing quote, and what follows it. -/
def string? (cs : List Char) : Option (Option String × List Char) := do
  let (us, rest) ← units? cs
  return ((joinUnits? us).map String.ofList, rest)

/-- The digits a text starts with, and what follows them; at least one is required. -/
def digits? (cs : List Char) : Option (List Char × List Char) :=
  match cs.span Char.isDigit with
  | ([], _) => none
  | (ds, rest) => some (ds, rest)

/-- The power of ten of a number, if there is one. -/
def power? : List Char → Option (Option (Bool × List Char) × List Char)
  | c :: rest =>
    if c = 'e' || c = 'E' then
      let (negative, rest) := match rest with
        | '+' :: rest => (false, rest)
        | '-' :: rest => (true, rest)
        | rest => (false, rest)
      (digits? rest).map fun (ds, rest) => (some (negative, ds), rest)
    else some (none, c :: rest)
  | [] => some (none, [])

/-- A number without its sign. A leading zero stands alone. -/
def numeral? (negative : Bool) (cs : List Char) : Option (Numeral × List Char) := do
  let (whole, rest) ← digits? cs
  if whole.head? = some '0' && whole.length > 1 then none
  let (fraction, rest) ← match rest with
    | '.' :: rest => (digits? rest).map fun (ds, rest) => (some ds, rest)
    | rest => some (none, rest)
  let (power, rest) ← power? rest
  return (⟨negative, whole, fraction, power⟩, rest)

mutual

/-- The value a text starts with, and what follows it. The fuel bounds the number of parts. -/
def value? (cs : List Char) : Nat → Option (Raw × List Char)
  | 0 => none
  | fuel + 1 =>
    match skip cs with
    | 'n' :: 'u' :: 'l' :: 'l' :: rest => some (.null, rest)
    | 't' :: 'r' :: 'u' :: 'e' :: rest => some (.bool true, rest)
    | 'f' :: 'a' :: 'l' :: 's' :: 'e' :: rest => some (.bool false, rest)
    | '"' :: rest => (string? rest).map fun (s, rest) => (.str s, rest)
    | '[' :: rest =>
      match skip rest with
      | ']' :: rest => some (.arr [], rest)
      | rest => (items? rest fuel).map fun (xs, rest) => (.arr xs, rest)
    | '\x7b' :: rest =>
      match skip rest with
      | '\x7d' :: rest => some (.obj [], rest)
      | rest => (fields? rest fuel).map fun (xs, rest) => (.obj xs, rest)
    | '-' :: rest => (numeral? true rest).map fun (n, rest) => (.num n, rest)
    | rest => (numeral? false rest).map fun (n, rest) => (.num n, rest)

/-- The items of a list up to its closing bracket. -/
def items? (cs : List Char) : Nat → Option (List Raw × List Char)
  | 0 => none
  | fuel + 1 => do
    let (x, rest) ← value? cs fuel
    match skip rest with
    | ',' :: rest => (items? rest fuel).map fun (xs, rest) => (x :: xs, rest)
    | ']' :: rest => some ([x], rest)
    | _ => none

/-- The fields of an object up to its closing brace. -/
def fields? (cs : List Char) : Nat → Option (List (Option String × Raw) × List Char)
  | 0 => none
  | fuel + 1 =>
    match skip cs with
    | '"' :: rest => do
      let (key, rest) ← string? rest
      match skip rest with
      | ':' :: rest =>
        let (x, rest) ← value? rest fuel
        match skip rest with
        | ',' :: rest => (fields? rest fuel).map fun (xs, rest) => ((key, x) :: xs, rest)
        | '\x7d' :: rest => some ([(key, x)], rest)
        | _ => none
      | _ => none
    | _ => none

end

/-- The shape of a whole text. -/
def ofText? (text : String) : Option Raw :=
  let cs := text.toList
  match value? cs (2 * cs.length + 2) with
  | some (x, rest) => if (skip rest).isEmpty then some x else none
  | none => none

/-! ### The values -/

/-- The deepest nesting of lists and objects that is read. -/
def maxDepth : Nat := 127

/-- The largest significand that a number with a point or a power keeps. -/
def maxSignificand : Nat := Nat.pow 2 64 - 1

/-- The value of a digit. -/
def digitValue (c : Char) : Nat := c.toNat - '0'.toNat

/-- The digits before the point that fit into the significand, and how many do not. -/
def foldWhole (acc : Nat) : List Char → Nat × Nat
  | [] => (acc, 0)
  | c :: cs =>
    let next := acc * 10 + digitValue c
    if next ≤ maxSignificand then foldWhole next cs else (acc, cs.length + 1)

/-- The digits after the point that fit into the significand, and how many do. -/
def foldFraction (acc : Nat) (used : Nat) : List Char → Nat × Nat
  | [] => (acc, used)
  | c :: cs =>
    let next := acc * 10 + digitValue c
    if next ≤ maxSignificand then foldFraction next (used + 1) cs else (acc, used)

/-- The value of a list of digits. -/
def natOfDigits (cs : List Char) : Nat :=
  cs.foldl (fun acc c => acc * 10 + digitValue c) 0

/-- The largest power of ten that is looked at. -/
def maxPower : Nat := Nat.pow 2 31 - 1

/-- The value of a number. A whole number in the range of 64 bits is exact; the others are
doubles, and so is minus zero. -/
def Numeral.value? (n : Numeral) : Option Number :=
  let (significand, dropped) := foldWhole 0 n.whole
  match n.fraction, n.power, dropped with
  | none, none, 0 =>
    if !n.negative then some (.int significand)
    else if 0 < significand ∧ significand ≤ Nat.pow 2 63 then some (.int (-significand))
    else (Double.nearest? true significand 1).map .double
  | _, _, _ =>
    let (significand, places) := foldFraction significand 0 (n.fraction.getD [])
    let point : Int := Int.ofNat dropped - Int.ofNat places
    match n.power with
    | none => (Double.ofParts? n.negative significand point).map .double
    | some (down, ds) =>
      let power := natOfDigits ds
      if power > maxPower then
        if significand ≠ 0 ∧ !down then none else some (.double (Double.zero n.negative))
      else
        let exponent := if down then point - Int.ofNat power else point + Int.ofNat power
        (Double.ofParts? n.negative significand exponent).map .double

mutual

/-- The value of a shape that may be nested `depth` deep. -/
def valueWithin? (depth : Nat) : Raw → Option Json
  | .null => some .null
  | .bool b => some (.bool b)
  | .num n => (Numeral.value? n).map .num
  | .str s => s.map .str
  | .arr items => if depth = 0 then none else (valuesWithin? (depth - 1) items).map .arr
  | .obj fields => if depth = 0 then none else (fieldsWithin? (depth - 1) fields).map .obj

/-- The values of the items of a list. -/
def valuesWithin? (depth : Nat) : List Raw → Option (List Json)
  | [] => some []
  | x :: xs => do return (← valueWithin? depth x) :: (← valuesWithin? depth xs)

/-- The values of the fields of an object. -/
def fieldsWithin? (depth : Nat) : List (Option String × Raw) → Option (List (String × Json))
  | [] => some []
  | (key, x) :: xs => do
    return (← key, ← valueWithin? depth x) :: (← fieldsWithin? depth xs)

end

end Raw

/-- The value of a JSON text. -/
def ofText (text : String) : Option Json :=
  (Raw.ofText? text).bind (Raw.valueWithin? Raw.maxDepth)

end ApiStubs.Json
