import ApiStubs.Ignore.Rules
import ApiStubs.Proofs.NewFiles

/-!
# Paths in another directory

The rules of a run see a path from the output directory: its components behind those of the
directory. They see the same when the components in front are those of another directory
(`Path.Moves`), however either is spelled. Only whether something is there already may differ.

What is there already is a question of places. A file at a loose place, and the directories on the
way to it, leave what is elsewhere as it was.

## What is proved

* `Path.Moves.ignores_eq`: the rules answer alike if they find alike what they keep.
* `FileTree.StaysBut.writeFile`: a file at a loose place leaves everything elsewhere as it was.
-/

namespace ApiStubs

/-- What stands in front of both lists makes no difference. -/
theorem Text.dropStart?_append_append [DecidableEq α] (front start cs : List α) :
    dropStart? (front ++ start) (front ++ cs) = dropStart? start cs := by
  induction front with
  | nil => rfl
  | cons a front ih => rw [List.cons_append, List.cons_append, dropStart?, if_pos rfl, ih]

variable {output other p q : Path} {name dir : String}

/-! ### Paths -/

namespace Path

/-- In front of `q` is the directory `other` where `output` is in front of `p`. -/
def Moves (output other p q : Path) : Prop :=
  ∃ rest, p.components = output.components ++ rest ∧ q.components = other.components ++ rest

theorem Moves.self (output other : Path) : Moves output other output other := by
  refine ⟨[], ?_, ?_⟩ <;> rw [List.append_nil]

theorem Moves.child (moves : Moves output other p q) (h : IsName name) :
    Moves output other (p.child name) (q.child name) := by
  obtain ⟨rest, hp, hq⟩ := moves
  refine ⟨rest ++ [.name name], ?_, ?_⟩
  · rw [p.child_components h, hp, List.append_assoc]
  · rw [q.child_components h, hq, List.append_assoc]

end Path

/-! ### Rules -/

namespace IgnoreRules

/-- The rules of an output directory: patterns are seen from there, and some directories in it keep
what is in them. -/
def within (output : Path) (patterns : List Glob) (kept : List String) : IgnoreRules where
  root := output
  patterns := patterns
  protectedDirs := kept.map output.child

variable {patterns : List Glob} {kept : List String} {rest : List Component}

theorem relative_within (h : p.components = output.components ++ rest) :
    (within output patterns kept).relative p = "/".intercalate (rest.map Component.text) := by
  unfold relative within Path.below?
  rw [h, Text.dropStart?_append]
  rfl

theorem isBelow_child (hd : Path.IsName dir) (h : p.components = output.components ++ rest) :
    p.isBelow (output.child dir) = (Text.dropStart? [Component.name dir] rest).isSome := by
  unfold Path.isBelow Path.below?
  rw [output.child_components hd, h, Text.dropStart?_append_append]

theorem isProtected_within (hk : ∀ dir ∈ kept, Path.IsName dir)
    (h : p.components = output.components ++ rest) :
    (within output patterns kept).isProtected p =
      kept.any fun dir => (Text.dropStart? [Component.name dir] rest).isSome := by
  change (kept.map output.child).any (fun dir => p.isBelow dir) = _
  rw [List.any_map]
  induction kept with
  | nil => rfl
  | cons dir kept ih =>
    rw [List.any_cons, List.any_cons, ih fun d hd => hk d (List.mem_cons_of_mem _ hd),
      Function.comp_apply, isBelow_child (hk dir List.mem_cons_self) h]

end IgnoreRules

namespace Path.Moves

open IgnoreRules

variable {patterns : List Glob} {kept : List String} {t u : FileTree}

theorem isProtected_eq (moves : Moves output other p q) (hk : ∀ dir ∈ kept, IsName dir) :
    (within output patterns kept).isProtected p = (within other patterns kept).isProtected q := by
  obtain ⟨rest, hp, hq⟩ := moves
  rw [isProtected_within hk hp, isProtected_within hk hq]

theorem matchesPattern_eq (moves : Moves output other p q) :
    (within output patterns kept).matchesPattern p
      = (within other patterns kept).matchesPattern q := by
  obtain ⟨rest, hp, hq⟩ := moves
  unfold matchesPattern
  rw [relative_within hp, relative_within hq]
  rfl

/-- **Rules answer alike** in two directories, if something is in one where something is in the
other, as far as they keep what is there. -/
theorem ignores_eq (moves : Moves output other p q) (hk : ∀ dir ∈ kept, IsName dir)
    (found : (within output patterns kept).isProtected p = true → t.holds p = u.holds q) :
    (within output patterns kept).ignores t p = (within other patterns kept).ignores u q := by
  unfold ignores
  rw [← moves.isProtected_eq hk, ← moves.matchesPattern_eq]
  cases kept_there : (within output patterns kept).isProtected p with
  | false => rw [Bool.and_false, Bool.and_false]
  | true => rw [found kept_there]

end Path.Moves

/-! ### Trees -/

namespace FileTree

variable {t w w' : FileTree} {loose : Place → Prop} {text : String} {there : Bool}

/-- In `w` is what was in `t`, and it is as it was, but for files at loose places. -/
structure StaysBut (loose : Place → Prop) (t w : FileTree) : Prop where
  /-- What was there is there. -/
  grows : Grows t w
  /-- At the other places it is as it was. -/
  entry : ∀ place, ¬ loose place → ∀ e, t.entry? place = some e → w.entry? place = some e

namespace StaysBut

theorem refl (loose : Place → Prop) (t : FileTree) :
    StaysBut loose t t := ⟨.refl t, fun _ _ _ h => h⟩

theorem current (stays : StaysBut loose t w) : w.current = t.current := stays.grows.current

/-- A file that is written at a loose place leaves everything elsewhere as it was. -/
theorem writeFile (stays : StaysBut loose t w) (h : p.IsFile) (own : loose (p.place t.current))
    (text : String) :
    StaysBut loose t (w.writeFile p text).2 := by
  refine ⟨stays.grows.trans (writeFile_grows h w text), fun place other e there => ?_⟩
  have ne : place ≠ p.place w.current := by
    rw [stays.current]
    rintro rfl
    exact other own
  exact writeFile_keeps h text ne (stays.entry place other e there)

/-- A text that was there can still be read, unless its place is loose. -/
theorem readText (stays : StaysBut loose t w) (other : ¬ loose (p.place t.current)) {s : String}
    (h : t.readText p = .ok s) : w.readText p = .ok s := by
  unfold FileTree.readText at h ⊢
  split at h
  · next found =>
    obtain rfl := Except.ok.inj h
    rw [stays.grows.find_file found (stays.entry _ other _ (entry_of_find_file found))]
  · cases h
  · cases h
  · cases h

end StaysBut

/-- Something is at the path, or its place is free. -/
def Tells (t : FileTree) (p : Path) : Bool → Prop
  | true => t.holds p = true
  | false => t.entry? (p.place t.current) = none

theorem holds_of_tells (h : t.Tells p there) : t.holds p = there := by
  cases there with
  | true => exact h
  | false => exact holds_eq_false_of_free h

theorem tells_written (h : p.IsFile) (written : w.writeFile p text = (.ok (), w')) :
    w'.Tells p true :=
  holds_of_find_file (find_of_writeFile h written)

/-- Writing a file changes nothing at a path that it avoids. -/
theorem Tells.writeFile (told : w.Tells q there) (h : p.IsFile) (avoids : p.Avoids q w.current)
    (written : w.writeFile p text = (.ok (), w')) : w'.Tells q there := by
  have grows := writeFile_grows h w text
  rw [written] at grows
  cases there with
  | true => exact grows.holds told
  | false =>
    have free := writeFile_frees h text avoids.1 avoids.2
    rw [written] at free
    change w'.entry? (q.place w'.current) = none
    rw [grows.current, free]
    exact told

end FileTree

end ApiStubs
