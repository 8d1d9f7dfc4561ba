import ApiStubs.Yaml.Token

/-!
# The tree of a YAML text

The tokens of a text make up one document: a tree of scalars, sequences and mappings. A node
may have an anchor, and an alias stands for the node with its anchor. Anchors are numbered as
they are met; a name that is used again moves to a new number, and a number that was used
before then means the later node.
-/

namespace ApiStubs.Yaml

/-- A node of a document. -/
inductive Tree where
  /-- The node with the numbered anchor. -/
  | alias (number : Nat)
  /-- A scalar, with its tag if it has one. -/
  | scalar (tag : Option String) (text : String) (style : ScalarStyle)
  /-- A sequence. -/
  | sequence (tag : Option String) (items : List Tree)
  /-- A mapping. -/
  | mapping (tag : Option String) (entries : List (Tree × Tree))
  deriving Repr, Inhabited

/-- What is known of anchors and tags while a tree is read. -/
structure Scope where
  /-- The number of each name. -/
  names : List (String × Nat) := []
  /-- The nodes with anchors: the number, the position of the node, the node. -/
  nodes : List (Nat × Nat × Tree) := []
  /-- The number of nodes met so far that have an anchor. -/
  met : Nat := 0
  /-- The starts of tags, by handle. -/
  handles : List (String × String) := [("!", "!"), ("!!", "tag:yaml.org,2002:")]

namespace Scope

/-- Enter the name of an anchor. -/
def name (s : Scope) (n : String) : Scope × Nat × Nat :=
  let number := s.names.length
  let names := (n, number) :: s.names.filter (fun x => x.1 != n)
  ({ s with names, met := s.met + 1 }, number, s.met)

/-- Enter the node of an anchor. -/
def define (s : Scope) (anchor : Option (Nat × Nat)) (t : Tree) : Scope :=
  match anchor with
  | some (number, position) => { s with nodes := (number, position, t) :: s.nodes }
  | none => s

/-- The node with a numbered anchor: of several, the one that starts last. -/
def node? (s : Scope) (number : Nat) : Option Tree :=
  let all := s.nodes.filter (fun x => x.1 == number)
  (all.foldl (fun best x =>
    match best with
    | some (position, t) => if x.2.1 > position then some x.2 else some (position, t)
    | none => some x.2) none).map Prod.snd

/-- The text of a tag. -/
def tagText? (s : Scope) (handle rest : String) : Option String :=
  if handle.isEmpty then some rest else (s.handles.lookup handle).map (· ++ rest)

end Scope

/-- The empty scalar, which stands where nothing is written. -/
def Tree.nothing : Tree := .scalar none "" .plain

/-- The anchor and the tag in front of a node. -/
structure Marks where
  /-- The number and the position of the anchor. -/
  anchor : Option (Nat × Nat) := none
  /-- The tag. -/
  tag : Option String := none

/-- The anchor and the tag at the start of the tokens, in either order. -/
def marks? (s : Scope) (ts : List Token) : Option (Marks × Scope × List Token) :=
  let enter (n : String) (tag : Option String) (ts : List Token) :=
    let (s, number, position) := s.name n
    some (({ anchor := some (number, position), tag } : Marks), s, ts)
  match ts with
  | .anchor n :: .tag h r :: ts => do enter n (← s.tagText? h r) ts
  | .anchor n :: ts => enter n none ts
  | .tag h r :: .anchor n :: ts => do enter n (← s.tagText? h r) ts
  | .tag h r :: ts => do return ({ tag := ← s.tagText? h r }, s, ts)
  | ts => some ({}, s, ts)

/-- The tag of a scalar: a single exclamation mark says that the scalar has none. -/
def scalarTag : Option String → Option String
  | some "!" => none
  | tag => tag

/-- The scalar that a tag and a style make. A lone exclamation mark in front of a quoted scalar
changes nothing. -/
def Marks.scalar (m : Marks) (text : String) (style : ScalarStyle) : Tree :=
  .scalar (scalarTag m.tag) text style

/-- The token ends the part of a block that may be missing. -/
def endsBlockPart : List Token → Bool
  | .key :: _ => true
  | .value :: _ => true
  | .blockEnd :: _ => true
  | [] => true
  | _ => false

/-- There is an anchor or a tag. -/
def Marks.present (m : Marks) : Bool :=
  m.anchor.isSome || m.tag.isSome

/-- The empty scalar behind an anchor or a tag. -/
def Marks.empty (m : Marks) : Tree :=
  .scalar m.tag "" .plain

mutual

/-- The node at the start of the tokens. Blocks may begin only where `block` allows it, and a
sequence without indentation of its own only where `indentless` does. -/
def node? (block indentless : Bool) (s : Scope) (ts : List Token) :
    Nat → Option (Tree × Scope × List Token)
  | 0 => none
  | fuel + 1 =>
    match ts with
    | .alias n :: ts => do return (.alias (← s.names.lookup n), s, ts)
    | ts => do
      let (m, s, ts) ← marks? s ts
      let (t, s, ts) ←
        match ts with
        | .entry :: _ =>
          if indentless then do
            let (items, s, ts) ← entries? s ts fuel
            some (Tree.sequence m.tag items, s, ts)
          else if m.present then some (m.empty, s, ts)
          else none
        | .scalar text style :: ts => some (m.scalar text style, s, ts)
        | .openList :: ts => do
          let (items, s, ts) ← listItems? true s ts fuel
          some (.sequence m.tag items, s, ts)
        | .openMap :: ts => do
          let (entries, s, ts) ← mapEntries? true s ts fuel
          some (.mapping m.tag entries, s, ts)
        | ts =>
          match block, ts with
          | true, .blockSequence :: ts => do
            let (items, s, ts) ← entries? s ts fuel
            match ts with
            | .blockEnd :: ts => some (.sequence m.tag items, s, ts)
            | _ => none
          | true, .blockMapping :: ts => do
            let (entries, s, ts) ← pairs? s ts fuel
            some (.mapping m.tag entries, s, ts)
          | _, ts =>
            if m.present then some (m.empty, s, ts) else none
      return (t, s.define m.anchor t, ts)

/-- The entries of a block sequence, up to a token that is no dash. -/
def entries? (s : Scope) (ts : List Token) : Nat → Option (List Tree × Scope × List Token)
  | 0 => none
  | fuel + 1 =>
    match ts with
    | .entry :: ts => do
      let empty := endsBlockPart ts || (match ts with | .entry :: _ => true | _ => false)
      let (t, s, ts) ← if empty then some (Tree.nothing, s, ts) else node? true false s ts fuel
      let (items, s, ts) ← entries? s ts fuel
      return (t :: items, s, ts)
    | ts => some ([], s, ts)

/-- The entries of a block mapping, up to its end. -/
def pairs? (s : Scope) (ts : List Token) : Nat → Option (List (Tree × Tree) × Scope × List Token)
  | 0 => none
  | fuel + 1 =>
    match ts with
    | .blockEnd :: ts => some ([], s, ts)
    | .key :: ts => do
      let (k, s, ts) ← if endsBlockPart ts then some (Tree.nothing, s, ts) else node? true true s ts fuel
      let (v, s, ts) ←
        match ts with
        | .value :: ts =>
          if endsBlockPart ts then some (Tree.nothing, s, ts) else node? true true s ts fuel
        | ts => some (Tree.nothing, s, ts)
      let (entries, s, ts) ← pairs? s ts fuel
      return ((k, v) :: entries, s, ts)
    | _ => none

/-- The items of a list in brackets, up to its end. -/
def listItems? (first : Bool) (s : Scope) (ts : List Token) :
    Nat → Option (List Tree × Scope × List Token)
  | 0 => none
  | fuel + 1 =>
    let item? (ts : List Token) : Option (List Tree × Scope × List Token) :=
      match ts with
      | .closeList :: ts => some ([], s, ts)
      | .key :: ts => do
        let (t, s, ts) ← singlePair? s ts fuel
        let (items, s, ts) ← listItems? false s ts fuel
        return (t :: items, s, ts)
      | ts => do
        let (t, s, ts) ← node? false false s ts fuel
        let (items, s, ts) ← listItems? false s ts fuel
        return (t :: items, s, ts)
    match first, ts with
    | false, .closeList :: ts => some ([], s, ts)
    | false, .comma :: ts => item? ts
    | false, _ => none
    | true, ts => item? ts

/-- A mapping of one entry, written without braces in a list; from behind the sign of its
key. -/
def singlePair? (s : Scope) (ts : List Token) : Nat → Option (Tree × Scope × List Token)
  | 0 => none
  | fuel + 1 => do
    let (k, s, ts) ←
      match ts with
      | .value :: ts => some (Tree.nothing, s, ts)
      | .comma :: ts => some (Tree.nothing, s, ts)
      | .closeList :: ts => some (Tree.nothing, s, ts)
      | ts => node? false false s ts fuel
    let (v, s, ts) ←
      match ts with
      | .value :: ts =>
        match ts with
        | .comma :: _ => some (Tree.nothing, s, ts)
        | .closeList :: _ => some (Tree.nothing, s, ts)
        | ts => node? false false s ts fuel
      | ts => some (Tree.nothing, s, ts)
    return (.mapping none [(k, v)], s, ts)

/-- The entries of a mapping in braces, up to its end. -/
def mapEntries? (first : Bool) (s : Scope) (ts : List Token) :
    Nat → Option (List (Tree × Tree) × Scope × List Token)
  | 0 => none
  | fuel + 1 =>
    let endsPart (ts : List Token) : Bool :=
      match ts with
      | .comma :: _ => true
      | .closeMap :: _ => true
      | _ => false
    let entry? (ts : List Token) : Option (List (Tree × Tree) × Scope × List Token) :=
      match ts with
      | .closeMap :: ts => some ([], s, ts)
      | .key :: ts => do
        let valueNext := match ts with
          | .value :: _ => true
          | _ => false
        let (k, s, ts) ←
          if valueNext || endsPart ts then some (Tree.nothing, s, ts) else node? false false s ts fuel
        let (v, s, ts) ←
          match ts with
          | .value :: ts =>
            if endsPart ts then some (Tree.nothing, s, ts) else node? false false s ts fuel
          | ts => some (Tree.nothing, s, ts)
        let (entries, s, ts) ← mapEntries? false s ts fuel
        return ((k, v) :: entries, s, ts)
      | ts => do
        let (k, s, ts) ← node? false false s ts fuel
        let (entries, s, ts) ← mapEntries? false s ts fuel
        return ((k, Tree.nothing) :: entries, s, ts)
    match first, ts with
    | false, .closeMap :: ts => some ([], s, ts)
    | false, .comma :: ts => entry? ts
    | false, _ => none
    | true, ts => entry? ts

end

/-! ### Documents -/

/-- The directives in front of a document: at most one version, and no handle twice. -/
def directives? (s : Scope) (named : List String) (versionSeen : Bool) :
    List Token → Option (Scope × List Token)
  | .version major minor :: ts =>
    if versionSeen || major ≠ 1 || (minor ≠ 1 && minor ≠ 2) then none
    else directives? s named true ts
  | .tagDirective handle start :: ts =>
    if named.contains handle then none
    else
      let handles := (handle, start) :: s.handles.filter (fun x => x.1 != handle)
      directives? { s with handles } (handle :: named) versionSeen ts
  | ts => some (s, ts)

/-- The root of the only document, or none when there is no document. -/
def document? (ts : List Token) : Option (Option Tree × Scope) :=
  let fuel := 2 * ts.length + 2
  let ended (ts : List Token) : Bool := (ts.dropWhile (· = .documentEnd)).isEmpty
  let node (s : Scope) (ts : List Token) : Option (Option Tree × Scope) := do
    let (t, s, rest) ← node? true false s ts fuel
    if ended rest then some (some t, s) else none
  match ts with
  | [] => some (none, {})
  | .documentEnd :: _ => none
  | .version .. :: _ | .tagDirective .. :: _ | .documentStart :: _ => do
    let (s, ts) ← directives? {} [] false ts
    match ts with
    | .documentStart :: ts =>
      match ts with
      | [] => some (some .nothing, s)
      | .documentEnd :: ts => if ended ts then some (some .nothing, s) else none
      | ts => node s ts
    | _ => none
  | ts => node {} ts

/-- The tree of a text and the anchors in it. -/
def treeOfText? (text : String) : Option (Option Tree × Scope) :=
  (tokens? text).bind document?

end ApiStubs.Yaml
