import ApiStubs.FileTree
import ApiStubs.Ignore.Glob
import ApiStubs.Log

/-!
# Ignore rules

Which files a run leaves alone. A path is left alone when a pattern matches it, seen from the
root of the rules, or when it is there already and lies below a protected directory.
-/

namespace ApiStubs

/-- The file of patterns that is looked for in the output directory. -/
def ignoreFileName : String := ".stubforge-ignore"

/-- The files a run leaves alone. -/
structure IgnoreRules where
  /-- The directory that patterns are relative to. -/
  root : Path
  /-- The patterns. -/
  patterns : List Glob := []
  /-- The directories that keep what is in them. -/
  protectedDirs : List Path := []
  deriving Repr, DecidableEq

namespace IgnoreRules

/-- The rules with one more pattern. -/
def withPattern (r : IgnoreRules) (pattern : String) : IgnoreRules :=
  { r with patterns := r.patterns ++ [Glob.ofText pattern] }

/-- The rules with one more protected directory. -/
def protect (r : IgnoreRules) (dir : Path) : IgnoreRules :=
  { r with protectedDirs := r.protectedDirs ++ [dir] }

/-- A line of an ignore file that is a pattern: neither empty nor a comment. -/
def isPatternLine (line : List Char) : Bool :=
  !line.isEmpty && line.head? != some '#'

/-- The patterns of an ignore file. -/
def patternLines (content : String) : List (List Char) :=
  ((Text.lines content.toList).map Text.trim).filter isPatternLine

/-- The rules of an ignore file with this content. -/
def ofContent (root : Path) (content : String) : IgnoreRules :=
  (patternLines content).foldl (fun r line => r.withPattern (String.ofList line)) { root }

/-- The rules of an ignore file, relative to its directory. -/
def ofFile (t : FileTree) (file : Path) : Except Error (IgnoreRules × List LogLine) :=
  match t.readText file with
  | .error fault => .error (.file fault none)
  | .ok content =>
    let rules := ofContent file.parentD content
    let count := toString rules.patterns.length
    .ok (rules, [⟨.debug, "Loaded " ++ count ++ " ignore pattern(s) from " ++ file.text⟩])

/-- A path as patterns see it: from the root of the rules where it lies below that, and as a
whole elsewhere. -/
def relative (r : IgnoreRules) (p : Path) : String :=
  "/".intercalate (((Path.below? r.root p).getD p.components).map Component.text)

/-- The path lies below a protected directory. -/
def isProtected (r : IgnoreRules) (p : Path) : Bool :=
  r.protectedDirs.any fun dir => p.isBelow dir

/-- A pattern matches the path. -/
def matchesPattern (r : IgnoreRules) (p : Path) : Bool :=
  r.patterns.any fun g => g.accepts (r.relative p)

/-- The path is left alone, the files being as in the tree. -/
def ignores (r : IgnoreRules) (t : FileTree) (p : Path) : Bool :=
  (t.holds p && r.isProtected p) || r.matchesPattern p

end IgnoreRules

end ApiStubs
