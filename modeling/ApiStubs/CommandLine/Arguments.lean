/-!
# Arguments

The arguments of a program are options, each with a name and, unless it is a flag, a value.
The value follows the name after `=` or as an argument of its own, which then may not look
like an option. No option is given twice, and a path is not empty.
-/

namespace ApiStubs.CommandLine

/-- The shapes of an argument. -/
inductive Argument where
  /-- The `--` after which no options follow. -/
  | separator
  /-- A name after two dashes, with the value after `=` if there is one. -/
  | long (name : String) (value : Option String)
  /-- Letters after one dash. -/
  | short (letters : List Char)
  /-- Anything else. -/
  | word (text : String)
  deriving Repr, DecidableEq

/-- The shape of an argument. A single dash is a word. -/
def Argument.ofText (s : String) : Argument :=
  match s.toList with
  | ['-', '-'] => .separator
  | '-' :: '-' :: cs =>
    let name := String.ofList (cs.takeWhile (· ≠ '='))
    match cs.dropWhile (· ≠ '=') with
    | _ :: value => .long name (some (String.ofList value))
    | [] => .long name none
  | '-' :: c :: cs => .short (c :: cs)
  | _ => .word s

/-- What an option takes. -/
inductive OptionKind where
  /-- Nothing. -/
  | flag
  /-- Any text. -/
  | text
  /-- A path. -/
  | path
  deriving Repr, DecidableEq

/-- Why arguments are not a command. -/
inductive Refusal where
  /-- They do not fit. -/
  | misuse
  /-- They ask for help. -/
  | help
  /-- They ask for the version. -/
  | version
  deriving Repr, DecidableEq

/-- The options that are given, with their values; that of a flag is empty. -/
abbrev Given := List (String × String)

/-- One more option. -/
def Given.add (given : Given) (kind : OptionKind) (name value : String) : Except Refusal Given :=
  if (given.lookup name).isSome ∨ (kind = .path ∧ value.isEmpty) then .error .misuse
  else .ok ((name, value) :: given)

/-- The options in arguments, added to those that are given already. -/
def Given.read (table : List (String × OptionKind)) (given : Given) :
    List String → Except Refusal Given
  | [] => .ok given
  | argument :: rest =>
    match Argument.ofText argument with
    | .separator => if rest.isEmpty then .ok given else .error .misuse
    | .word _ => .error .misuse
    | .short letters => .error (if letters.head? = some 'h' then .help else .misuse)
    | .long name value =>
      match table.lookup name, value with
      | none, none => .error (if name = "help" then .help else .misuse)
      | none, some _ => .error .misuse
      | some .flag, none => do read table (← given.add .flag name "") rest
      | some .flag, some _ => .error .misuse
      | some kind, some value => do read table (← given.add kind name value) rest
      | some kind, none =>
        match rest with
        | [] => .error .misuse
        | value :: rest =>
          match Argument.ofText value with
          | .word value => do read table (← given.add kind name value) rest
          | _ => .error .misuse

end ApiStubs.CommandLine
