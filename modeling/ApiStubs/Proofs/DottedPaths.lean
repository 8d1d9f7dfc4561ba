import ApiStubs.Proofs.Places

/-!
# A dot in front

A relative path may be spelled with `./` in front. To the file system that is the same path
(`find_dotted`): the dot is a step that stays where it is. To its components it is not: the dot is
kept as a component of its own, in front of the others, unless there was one already
(`dotted_components`). What lies below a directory does so when both get a dot, and not when one of
them does.

## What is proved

* `dotted_components`, `dotted_child`, `isBelow_dotted`: the components of a path with a dot in
  front.
* `FileTree.find_dotted`: where it leads.
-/

namespace ApiStubs

namespace Path

/-- The path with a dot in front. -/
def dotted (p : Path) : Path := ⟨"./" ++ p.text⟩

/-- The components behind the root or the dot in front. -/
def stepComponents (p : Path) : List Component := (p.pieces.filter isStep).map stepComponent

variable {p base : Path} {name : String}

theorem toList_dotted (p : Path) : p.dotted.text.toList = '.' :: '/' :: p.text.toList := by
  simp [dotted]

theorem isAbsolute_dotted (p : Path) : p.dotted.isAbsolute = false := by
  rw [← Bool.not_eq_true, isAbsolute_iff, toList_dotted]
  simp

theorem pieces_dotted (p : Path) : p.dotted.pieces = ['.'] :: p.pieces := by
  have dot : Text.splitWhere (· = '/') ['.'] = [['.']] := by decide
  unfold pieces
  rw [toList_dotted]
  exact (Text.splitWhere_append_separator (by simp) ['.'] p.text.toList).trans (by rw [dot]; rfl)

theorem components_eq (p : Path) : p.components = p.frontComponent ++ p.stepComponents := rfl

/-- **The components of a path with a dot in front** are a dot, and those behind the root or the dot
that was there. -/
theorem dotted_components (p : Path) : p.dotted.components = .here :: p.stepComponents := by
  have front : p.dotted.frontComponent = [.here] := by
    simp [frontComponent, isAbsolute_dotted, pieces_dotted]
  have steps : p.dotted.pieces.filter isStep = p.pieces.filter isStep := by
    rw [pieces_dotted, List.filter_cons_of_neg (by decide)]
  rw [components_eq, front, stepComponents, steps, stepComponents, List.singleton_append]

/-- The path of something inside a directory with a dot in front. -/
theorem dotted_child (p : Path) (h : IsName name) :
    p.dotted.child name = (p.child name).dotted := by
  have full : p.dotted.text.toList.getLast? ≠ none := by simp [toList_dotted]
  have ends : p.dotted.text.toList.getLast? = some '/' ↔
      p.text.toList.getLast? = none ∨ p.text.toList.getLast? = some '/' := by
    rw [toList_dotted]
    cases p.text.toList with
    | nil => simp
    | cons c cs => simp [List.getLast?_cons_cons]
  unfold child join
  rw [h.not_isAbsolute]
  simp only [Bool.false_eq_true, if_false, full, false_or, ends]
  split <;> simp [dotted, String.append_assoc]

/-- What lies below a directory lies below it when both get a dot. -/
theorem isBelow_dotted (same : p.frontComponent = base.frontComponent) :
    p.dotted.isBelow base.dotted = p.isBelow base := by
  rw [Bool.eq_iff_iff, isBelow_iff, isBelow_iff, dotted_components, dotted_components,
    components_eq p, components_eq base, same, List.cons_prefix_cons, List.prefix_append_right_inj]
  simp

/-- A relative path has steps, unless it is empty. -/
theorem steps_ne_nil (relative : p.isAbsolute = false) (ne : p.text.toList ≠ []) :
    p.steps ≠ [] := by
  obtain ⟨c, cs, text⟩ := List.exists_cons_of_ne_nil ne
  have name : c ≠ '/' := by
    rintro rfl
    rw [← Bool.not_eq_true, isAbsolute_iff, text] at relative
    exact relative rfl
  obtain ⟨piece, pieces, rest⟩ := List.exists_cons_of_ne_nil (Text.splitWhere_ne_nil (· = '/') cs)
  rw [steps, Path.pieces, text, Text.splitWhere_cons_other (by simpa using name) rest,
    List.filter_cons_of_pos (by simp)]
  exact List.cons_ne_nil _ _

end Path

namespace FileTree

variable {p : Path}

theorem walk_dot {steps : List (List Char)} (ne : steps ≠ []) (t : FileTree) (place : Place) :
    t.walk place (['.'] :: steps) = t.walk place steps := by
  obtain ⟨step, steps, rfl⟩ := List.exists_cons_of_ne_nil ne
  rw [walk]
  cases h : t.entry? place with
  | none => simp [walk, h]
  | some e =>
    cases e with
    | directory => simp
    | file content => simp [walk, h]

/-- **A dot in front leads nowhere else.** -/
theorem find_dotted (relative : p.isAbsolute = false) (ne : p.text.toList ≠ []) (t : FileTree) :
    t.find p.dotted = t.find p := by
  obtain ⟨c, cs, text⟩ := List.exists_cons_of_ne_nil ne
  have steps : p.dotted.steps = ['.'] :: p.steps := by
    rw [Path.steps, Path.pieces_dotted, List.filter_cons_of_pos (by decide), Path.steps]
  have nul : p.dotted.text.toList.contains '\x00' = p.text.toList.contains '\x00' := by
    rw [Path.toList_dotted]
    simp
  have filled : ∀ q : Path, q.text.toList ≠ [] → q.text.isEmpty = false := by
    intro q h
    rw [← Bool.not_eq_true, String.isEmpty_iff, ← String.toList_eq_nil_iff]
    exact h
  have full : p.dotted.text.isEmpty = p.text.isEmpty := by
    rw [filled p.dotted (by simp [Path.toList_dotted]), filled p ne]
  have resolved : t.resolve p.dotted = t.resolve p := by
    unfold resolve
    rw [nul, full, Path.isAbsolute_dotted, relative]
    have walked := walk_dot (Path.steps_ne_nil relative ne) t t.current
    rw [← steps] at walked
    exact congrArg _ (congrArg _ walked)
  have slash : endsInSlash p.dotted = endsInSlash p := by
    rw [endsInSlash, endsInSlash, Path.toList_dotted, text]
    simp [List.getLast?_cons_cons]
  unfold find
  rw [resolved, slash]

end FileTree

end ApiStubs
