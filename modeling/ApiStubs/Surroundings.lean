import ApiStubs.FileTree

/-!
# The surroundings of a program

What a program finds when it starts: the files, the environment variables, and the home directory
of the user that runs it. The system tells the home directory. A variable may name it; where none
does, it is the one that the table of accounts has for the user.
-/

namespace ApiStubs

/-- What the system tells a program. -/
structure Environment where
  /-- The environment variables, by name. -/
  vars : List (String × String) := []
  /-- The home directory of the user, if there is one. -/
  home : Option Path := none
  deriving Repr, DecidableEq

/-- What a program knows of its surroundings. -/
structure Surroundings where
  /-- The files. -/
  files : FileTree
  /-- What the system tells. -/
  environment : Environment
  deriving Repr, DecidableEq

namespace Environment

/-- A directory that is named by a text; the empty text names none. -/
def directory? (text : String) : Option Path :=
  if text.isEmpty then none else some ⟨text⟩

/-- The lines of a table, each cut into its fields where the mark stands. -/
def rows (mark : Char) (table : String) : List (List String) :=
  (Text.splitWhere (· = '\n') table.toList).map fun line =>
    (Text.splitWhere (· = mark) line).map String.ofList

/-- The number of the user in what the system tells of a running program: the first of the numbers
behind `Uid:`. -/
def user? (status : String) : Option String :=
  ((rows '\t' status).find? fun fields => fields.head? = some "Uid:").bind fun fields => fields[1]?

/-- The home directory of a user in a table of accounts. The user's number is the third field of an
account, and the home directory the sixth. -/
def accountHome? (accounts user : String) : Option Path :=
  (((rows ':' accounts).find? fun fields => fields[2]? = some user).bind fun fields => fields[5]?).bind
    directory?

example :
    accountHome? "root:x:0:0::/root:/bin/sh\nweb:x:33:33::/srv/web:/bin/sh\n" "33"
      = some ⟨"/srv/web"⟩ := by
  decide +kernel

/-- The environment with these variables. Unless the variable `HOME` names the home directory, it is
that of the account. -/
def ofVars (vars : List (String × String)) (account : Option Path) : Environment where
  vars
  home := ((vars.lookup "HOME").bind directory?).or account

end Environment

end ApiStubs
