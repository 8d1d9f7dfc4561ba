import ApiStubs.Template.Basic
import ApiStubs.Template.Lexer

/-!
# Reading templates

The chunks of a template are put together to parts: every block has an end, and the text next
to a tag with a minus sign is trimmed.
-/

namespace ApiStubs.Template

/-! ### Expressions -/

/-- The operand of a word. -/
def operand? : Word → Option Operand
  | .path "true" [] | .path "True" [] => some (.bool true)
  | .path "false" [] | .path "False" [] => some (.bool false)
  | .path name keys => some (.variable name keys)
  | .int n => some (.int n)
  | .double d => some (.double d)
  | .text s => some (.text s)
  | _ => none

/-- The filters behind an operand, up to the end of the tag. -/
def filters? : List Word → Option (List String)
  | [] => some []
  | .bar :: .path name [] :: .openParen :: .closeParen :: rest => (filters? rest).map (name :: ·)
  | .bar :: .path name [] :: rest => (filters? rest).map (name :: ·)
  | _ => none

/-- An expression that takes up all words. -/
def expression? (negatable : Bool) (words : List Word) : Option Expression := do
  let (negated, words) := match words with
    | .path "not" [] :: rest => if negatable then (true, rest) else (false, words)
    | words => (false, words)
  match words with
  | w :: rest => return { negated, operand := ← operand? w, filters := ← filters? rest }
  | [] => none

/-- The variable of a loop, the key if there is one, and the value it runs over. A text cannot
stand there. -/
def loopHead? : List Word → Option (Option String × String × Expression)
  | .path key [] :: .comma :: .path name [] :: .path "in" [] :: rest => do
    let e ← expression? false rest
    return (some key, name, e)
  | .path _ [] :: .path "in" [] :: .text _ :: _ => none
  | .path name [] :: .path "in" [] :: rest => do
    let e ← expression? false rest
    return (none, name, e)
  | _ => none

/-! ### Pieces -/

/-- A part of a template whose text may still have to be trimmed. -/
inductive Piece where
  /-- Text. -/
  | text (s : List Char)
  /-- Any other part. -/
  | part (p : Part)
  /-- A place where a comment stood. -/
  | gap

/-- The pieces with the white space at their start dropped. -/
def trimStart : List Piece → List Piece
  | .text s :: rest => .text (Text.trimLeft s) :: rest
  | pieces => pieces

/-- The pieces with the white space at their end dropped. -/
def trimEnd : List Piece → List Piece
  | [] => []
  | [.text s] => [.text (Text.trimRight s)]
  | p :: rest => p :: trimEnd rest

/-- The pieces, trimmed where the flags say so. -/
def trimWhere (start stop : Bool) (pieces : List Piece) : List Piece :=
  let pieces := if start then trimStart pieces else pieces
  if stop then trimEnd pieces else pieces

/-- The parts that the pieces make. -/
def parts : List Piece → List Part
  | [] => []
  | .text s :: rest => if s.isEmpty then parts rest else .text (String.ofList s) :: parts rest
  | .part p :: rest => p :: parts rest
  | .gap :: rest => parts rest

/-- What ends a list of pieces. -/
inductive Ending where
  /-- The end of the template. -/
  | done
  /-- Another condition. -/
  | elseIf (t : Trimming) (e : Expression)
  /-- The tag in front of the other case. -/
  | otherwise (t : Trimming)
  /-- The end of a choice. -/
  | endIf (t : Trimming)
  /-- The end of a loop. -/
  | endFor (t : Trimming)

/-- The minus sign at the start of the tag that ends a list of pieces. -/
def Ending.before : Ending → Bool
  | .done => false
  | .elseIf t _ => t.before
  | .otherwise t => t.before
  | .endIf t => t.before
  | .endFor t => t.before

/-- What a block tag ends, if it ends something. -/
def ending? (t : Trimming) : List Word → Option Ending
  | .path "elif" [] :: rest => (expression? true rest).map (.elseIf t)
  | [.path "else" []] => some (.otherwise t)
  | [.path "endif" []] => some (.endIf t)
  | [.path "endfor" []] => some (.endFor t)
  | _ => none

/-- The pieces of a list in which a part with these flags comes first. -/
def consPiece (after : Bool) (p : Piece) (rest : List Piece) : List Piece :=
  p :: (if after then trimStart rest else rest)

/-- Text in front of a tag that trims it or not. -/
def textBefore (s : List Char) (before : Bool) : Piece :=
  .text (if before then Text.trimRight s else s)

/-- The list of chunks begins with a tag that trims the text before it. A tag that ends a list
of pieces is left to the block that it belongs to. -/
def startsTrimming : List Chunk → Bool
  | .print t _ :: _ => t.before
  | .block t words :: _ => t.before && (ending? t words).isNone
  | .comment t :: _ => t.before
  | _ => false

mutual

/-- The pieces up to an ending, that ending, and the chunks behind it. -/
def pieces? (cs : List Chunk) : Nat → Option (List Piece × Ending × List Chunk)
  | 0 => none
  | fuel + 1 =>
    match cs with
    | [] => some ([], .done, [])
    | .text s :: cs => do
      let (ps, e, rest) ← pieces? cs fuel
      return (textBefore s (startsTrimming cs) :: ps, e, rest)
    | .comment t :: cs => do
      let (ps, e, rest) ← pieces? cs fuel
      return (consPiece t.after .gap ps, e, rest)
    | .print t words :: cs => do
      let x ← expression? true words
      let (ps, e, rest) ← pieces? cs fuel
      return (consPiece t.after (.part (.print x)) ps, e, rest)
    | .block t words :: cs =>
      match ending? t words with
      | some e => some ([], e, cs)
      | none =>
        match words with
        | .path "if" [] :: head => do
          let x ← expression? true head
          let (p, after, cs) ← choice? t.after x cs fuel
          let (ps, e, rest) ← pieces? cs fuel
          return (consPiece after (.part p) ps, e, rest)
        | .path "for" [] :: head => do
          let h ← loopHead? head
          let (p, after, cs) ← loop? t.after h cs fuel
          let (ps, e, rest) ← pieces? cs fuel
          return (consPiece after (.part p) ps, e, rest)
        | _ => none

/-- A choice from behind the tag with its condition; whether the text behind the choice is
trimmed, and the chunks there. -/
def choice? (after : Bool) (x : Expression) (cs : List Chunk) :
    Nat → Option (Part × Bool × List Chunk)
  | 0 => none
  | fuel + 1 => do
    let (yes, e, cs) ← pieces? cs fuel
    let yes := parts (trimWhere after e.before yes)
    match e with
    | .endIf t => some (.choice x yes [], t.after, cs)
    | .elseIf t y => do
      let (p, after, cs) ← choice? t.after y cs fuel
      return (.choice x yes [p], after, cs)
    | .otherwise t => do
      let (no, e, cs) ← pieces? cs fuel
      match e with
      | .endIf u => some (.choice x yes (parts (trimWhere t.after u.before no)), u.after, cs)
      | _ => none
    | _ => none

/-- A loop from behind its first tag. The minus signs of the first and the last tag count for
both of its lists, those of the tag between them for none. -/
def loop? (after : Bool) (h : Option String × String × Expression) (cs : List Chunk) :
    Nat → Option (Part × Bool × List Chunk)
  | 0 => none
  | fuel + 1 => do
    let (key, name, items) := h
    let (body, e, cs) ← pieces? cs fuel
    match e with
    | .endFor t =>
      some (.each key name items (parts (trimWhere after t.before body)) [], t.after, cs)
    | .otherwise _ => do
      let (empty, e, cs) ← pieces? cs fuel
      match e with
      | .endFor t =>
        let finish (ps : List Piece) : List Part := parts (trimWhere after t.before ps)
        some (.each key name items (finish body) (finish empty), t.after, cs)
      | _ => none
    | _ => none

end

/-- The parts of a template. -/
def ofSource? (source : String) : Option (List Part) := do
  let cs ← chunksOf? source
  let (ps, e, _) ← pieces? cs (2 * cs.length + 2)
  match e with
  | .done => some (parts ps)
  | _ => none

end ApiStubs.Template
