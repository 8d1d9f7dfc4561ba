import ApiStubs.Proofs.BuiltinTemplates
import ApiStubs.Proofs.PathSteps

/-!
# Where templates are found

A directory of templates is found in two ways. The user names it, or the directory of the kind
inside it: one way goes from the outer directory down to the kind, the other from the kind up to the
directory it lies in, and the two meet because the components of that directory are those of the
path without the last one (`Path.components_of_fileName?`). Otherwise the standard places are
searched. There the first place that is there decides, whether it has templates of the kind or not:
a directory that belongs to something else hides every later place.

## What is proved

* `of_ofUser`, `of_ofRoot`, `of_discover`: what is found is there, and is the directory of the kind
  below its root.
* `named_directories_agree`: naming the outer directory or that of the kind comes to the same.
* `first_place_decides`: the search finds the first place with templates of the kind exactly if no
  other place is there before it, or if there is none; the built-in templates are used exactly if
  the first place that is there, if any, has none of the kind.
-/

namespace ApiStubs

theorem TargetKind.isName_name (kind : TargetKind) : Path.IsName kind.name := by
  cases kind <;> constructor <;> decide

namespace FileTree

theorem holds_of_isDirectory {t : FileTree} {p : Path} (h : t.isDirectory p = true) :
    t.holds p = true := by
  unfold isDirectory at h
  split at h
  · next found => rw [holds, found]
  · cases h

end FileTree

namespace TemplateLocation

open ApiStubs.Path

variable {t : FileTree} {s : Surroundings} {kind : TargetKind} {dir root : Path}
  {l : TemplateLocation}

/-! ### What is found -/

/-- The location stands in the tree: it is there, and it is the directory of its kind below its
root. -/
structure Stands (l : TemplateLocation) (t : FileTree) : Prop where
  /-- The directory of the kind is there. -/
  there : t.holds l.path = true
  /-- It is the one below the root. -/
  inside : l.path.components = (l.root.child l.kind.name).components

theorem below_ok_iff : below t kind root = .ok l ↔
    t.holds (root.child kind.name) = true ∧ l = { root, path := root.child kind.name, kind } := by
  unfold below
  dsimp only
  split
  · next there => simp [there, eq_comm]
  · next missing => simp [missing]

theorem of_below (h : below t kind root = .ok l) : l.kind = kind ∧ l.Stands t := by
  obtain ⟨there, rfl⟩ := below_ok_iff.mp h
  exact ⟨rfl, there, rfl⟩

theorem of_ofRoot (h : ofRoot t kind dir = .ok l) : l.kind = kind ∧ l.Stands t := by
  unfold ofRoot at h
  split at h
  · exact of_below h
  · cases h

theorem of_discover (h : discover s kind = .ok l) : l.kind = kind ∧ l.Stands s.files := by
  unfold discover at h
  split at h
  · exact of_below h
  · cases h

/-- The directory that a path to the directory of a kind lies in has that directory inside. -/
theorem components_of_kind (h : dir.fileName? = some kind.name) :
    dir.components = (dir.parentD.child kind.name).components := by
  rw [child_components _ kind.isName_name]
  exact components_of_fileName? h

theorem of_ofUser (h : ofUser t kind dir = .ok l) : l.kind = kind ∧ l.Stands t := by
  unfold ofUser at h
  split at h
  · next own =>
    cases h
    exact ⟨rfl, FileTree.holds_of_isDirectory own.2, components_of_kind own.1⟩
  · exact of_ofRoot h

/-! ### Two ways to name a directory -/

theorem fileName?_child (root : Path) (kind : TargetKind) :
    (root.child kind.name).fileName? = some kind.name := by
  rw [fileName?, child_components _ kind.isName_name, List.getLast?_concat]

/-- What the directory of a kind lies in says the same as the directory it was made from. -/
theorem parentD_child_components (root : Path) (kind : TargetKind) :
    (root.child kind.name).parentD.components = root.components := by
  have whole := components_of_fileName? (fileName?_child root kind)
  rw [child_components _ kind.isName_name] at whole
  exact (List.append_cancel_right whole).symm

/-- **Naming a directory of templates or the directory of the kind inside** comes to the same: both
are found, with the same root and the same path, if the outer directory is not named like the kind
itself. Whatever is found for a name or at a standard place is there, and is the directory of the
kind below the root that is given for it. -/
theorem named_directories_agree (t : FileTree) (kind : TargetKind) :
    (∀ root, t.isDirectory root = true → root.fileName? ≠ some kind.name →
      t.isDirectory (root.child kind.name) = true →
      ofUser t kind root = .ok { root, path := root.child kind.name, kind } ∧
      ∃ outer, ofUser t kind (root.child kind.name) = .ok { root := outer, path := root.child kind.name, kind } ∧
        outer.components = root.components) ∧
    (∀ dir l, ofUser t kind dir = .ok l → l.kind = kind ∧ l.Stands t) ∧
    (∀ dir l, ofRoot t kind dir = .ok l → l.kind = kind ∧ l.Stands t) ∧
    ∀ environment l, discover { files := t, environment } kind = .ok l →
      l.kind = kind ∧ l.Stands t := by
  refine ⟨fun root there other inside => ⟨?_, ?_⟩, fun dir l => of_ofUser, fun dir l => of_ofRoot,
    fun environment l => of_discover⟩
  · rw [ofUser, if_neg fun own => other own.1, ofRoot, if_pos (FileTree.holds_of_isDirectory there)]
    exact below_ok_iff.mpr ⟨FileTree.holds_of_isDirectory inside, rfl⟩
  · refine ⟨(root.child kind.name).parentD, ?_, parentD_child_components root kind⟩
    rw [ofUser, if_pos ⟨fileName?_child root kind, inside⟩]

/-- A tree with templates in `gen`. -/
def genTree : FileTree where
  entries := [(["w"], .directory), (["w", "gen"], .directory), (["w", "gen", "php"], .directory)]
  current := ["w"]

/-- However the outer directory is spelled, the directory of the kind leads back to it. -/
theorem detour_to_gen_agrees :
    genTree.isDirectory ⟨"./gen/../gen//."⟩ = true ∧
      Path.fileName? ⟨"./gen/../gen//."⟩ ≠ some TargetKind.php.name ∧
    genTree.isDirectory (Path.child ⟨"./gen/../gen//."⟩ TargetKind.php.name) = true ∧
    ∃ outer, ofUser genTree .php ⟨"./gen/../gen//./php"⟩ = .ok ⟨outer, ⟨"./gen/../gen//./php"⟩, .php⟩ ∧
      outer.components = Path.components ⟨"./gen/../gen//."⟩ := by
  have there : genTree.isDirectory ⟨"./gen/../gen//."⟩ = true := by decide +kernel
  have other : Path.fileName? ⟨"./gen/../gen//."⟩ ≠ some TargetKind.php.name := by decide +kernel
  have inside : genTree.isDirectory (Path.child ⟨"./gen/../gen//."⟩ TargetKind.php.name)
      = true := by decide +kernel
  exact ⟨there, other, inside, ((named_directories_agree genTree .php).1 _ there other inside).2⟩

/-! ### Searching the standard places -/

/-- A place has templates of the kind: it is there, and something named after the kind is inside. -/
def provides (t : FileTree) (kind : TargetKind) (root : Path) : Bool :=
  t.holds root && t.holds (root.child kind.name)

/-- The search finds the first standard place with templates of the kind, and fails only if there is
none. -/
def FindsFirst (s : Surroundings) (kind : TargetKind) : Prop :=
  match (standardRoots s).find? (provides s.files kind) with
  | some root => discover s kind = .ok { root, path := root.child kind.name, kind }
  | none => ∃ e, discover s kind = .error e

/-- No place with templates comes before the first place that is there. -/
theorem find?_provides {roots : List Path} (h : roots.find? t.holds = some root)
    (own : provides t kind root = true) :
    roots.find? (provides t kind) = some root := by
  obtain ⟨-, before, after, rfl, earlier⟩ := List.find?_eq_some_iff_append.mp h
  refine List.find?_eq_some_iff_append.mpr ⟨own, before, after, rfl, fun place hp => ?_⟩
  rw [provides, Bool.not_and, earlier place hp, Bool.true_or]

theorem provides_of_find? {roots : List Path} (kind : TargetKind)
    (h : roots.find? t.holds = some root) :
    provides t kind root = t.holds (root.child kind.name) := by
  have there : t.holds root = true := List.find?_some h
  rw [provides, there, Bool.true_and]

/-- The search fails exactly if the first place that is there, if any, has no templates of the
kind. -/
theorem discover_error_iff : (∃ e, discover s kind = .error e) ↔
    ∀ root, (standardRoots s).find? s.files.holds = some root →
      provides s.files kind root = false := by
  unfold discover
  cases hf : (standardRoots s).find? s.files.holds with
  | none => simp
  | some root =>
    have same := provides_of_find? kind hf
    cases hp : s.files.holds (root.child kind.name) with
    | true => simp [below, hp, same]
    | false => simp [below, hp, same]

/-- If the first place that is there has templates of the kind, it is the one that is found. -/
theorem findsFirst_of_provides (first : (standardRoots s).find? s.files.holds = some root)
    (own : provides s.files kind root = true) : FindsFirst s kind := by
  unfold FindsFirst
  rw [find?_provides first own]
  rw [provides_of_find? kind first] at own
  have found : discover s kind = below s.files kind root := by rw [discover, first]
  exact found.trans (below_ok_iff.mpr ⟨own, rfl⟩)

/-- A search that fails is right only if no place has templates of the kind. -/
theorem findsFirst_iff_of_error (failed : ∃ e, discover s kind = .error e) :
    FindsFirst s kind ↔ ∀ place ∈ standardRoots s, provides s.files kind place = false := by
  unfold FindsFirst
  cases found : (standardRoots s).find? (provides s.files kind) with
  | none =>
    rw [List.find?_eq_none] at found
    exact ⟨fun _ place hp => by simpa using found place hp, fun _ => failed⟩
  | some place =>
    obtain ⟨e, failed⟩ := failed
    constructor
    · intro same
      rw [failed] at same
      cases same
    · intro none
      have has : provides s.files kind place = true := List.find?_some found
      rw [none place (List.mem_of_find?_eq_some found)] at has
      cases has

end TemplateLocation

namespace TemplateLibrary

variable {t : FileTree} {s : Surroundings} {kind : TargetKind} {l : TemplateLibrary}

theorem location_ofSources {sources : List (String × String)} (h : ofSources kind sources = .ok l) :
    l.location = none := by
  induction sources generalizing l with
  | nil =>
    cases h
    rfl
  | cons entry sources ih =>
    rw [ofSources] at h
    split at h
    · cases h
    · cases hr : ofSources kind sources with
      | error e =>
        rw [hr] at h
        cases h
      | ok rest =>
        rw [hr] at h
        cases h
        have outer : rest.location = none := ih hr
        exact outer

theorem location_ofLocation {place : TemplateLocation} (h : ofLocation t place = .ok l) :
    l.location = some place := by
  unfold ofLocation at h
  split at h
  · cases h
    rfl
  · split at h
    · cases h
      rfl
    · cases h

/-- Without a named directory, the library comes from no directory exactly if the search fails. -/
theorem load_builtin_iff : (∃ l, (load s kind none).1 = .ok l ∧ l.location = none) ↔
    ∃ e, TemplateLocation.discover s kind = .error e := by
  rw [load]
  cases TemplateLocation.discover s kind with
  | error e =>
    obtain ⟨l, built, -⟩ := exists_builtin kind
    exact ⟨fun _ => ⟨e, rfl⟩, fun _ => ⟨l, built, location_ofSources built⟩⟩
  | ok place =>
    constructor
    · rintro ⟨l, loaded, none⟩
      rw [location_ofLocation loaded] at none
      cases none
    · rintro ⟨e, same⟩
      cases same

end TemplateLibrary

namespace TemplateLocation

/-- **The first standard place that is there decides.** The search finds the first place with
templates of the kind exactly if the first place that is there has them, or none has. The built-in
templates are used exactly if the first place that is there has none of the kind, or no place is
there. -/
theorem first_place_decides (s : Surroundings) (kind : TargetKind) :
    (FindsFirst s kind ↔ ∀ root, (standardRoots s).find? s.files.holds = some root →
      provides s.files kind root = true ∨ ∀ place ∈ standardRoots s, provides s.files kind place = false) ∧
    ((∃ l, (TemplateLibrary.load s kind none).1 = .ok l ∧ l.location = none) ↔
      ∀ root, (standardRoots s).find? s.files.holds = some root →
        provides s.files kind root = false) := by
  refine ⟨?_, TemplateLibrary.load_builtin_iff.trans discover_error_iff⟩
  by_cases own : ∃ root, (standardRoots s).find? s.files.holds = some root ∧
    provides s.files kind root = true
  · obtain ⟨root, first, own⟩ := own
    refine ⟨fun _ other same => .inl ?_, fun _ => findsFirst_of_provides first own⟩
    rw [first] at same
    exact Option.some.inj same ▸ own
  · have foreign (root : Path) (first : (standardRoots s).find? s.files.holds = some root) :
        provides s.files kind root = false := by
      rw [← Bool.not_eq_true]
      exact fun has => own ⟨root, first, has⟩
    rw [findsFirst_iff_of_error (discover_error_iff.mpr foreign)]
    refine ⟨fun none _ _ => .inr none, fun h place hp => ?_⟩
    cases first : (standardRoots s).find? s.files.holds with
    | none =>
      have gone : s.files.holds place = false := by simpa using List.find?_eq_none.mp first place hp
      rw [provides, gone, Bool.false_and]
    | some root =>
      -- the first place that is there hides the others
      refine (h root first).resolve_left (fun has => ?_) place hp
      rw [foreign root first] at has
      cases has

/-- Templates in the directory outside the working directory, and nothing where the search looks
before. -/
def outerTemplates : Surroundings where
  files := {
    entries := [
      (["w"], .directory), (["w", "shop"], .directory), (["w", "templates"], .directory),
      (["w", "templates", "php"], .directory)]
    current := ["w", "shop"] }
  environment := { vars := [(templateVariable, "gone")], home := some ⟨"/home"⟩ }

/-- The same, with a directory in the working directory that holds templates of letters. -/
def letterTemplates : Surroundings :=
  let files := outerTemplates.files.put ["w", "shop", "templates"] .directory
  { outerTemplates with files := files.put ["w", "shop", "templates", "letters"] .directory }

/-- Where nothing is in the way, the templates outside are found. -/
theorem outer_templates_found :
    (standardRoots outerTemplates).find? (provides outerTemplates.files .php) = some ⟨"../templates"⟩ ∧
    FindsFirst outerTemplates .php ∧
    ¬ ∃ l, (TemplateLibrary.load outerTemplates .php none).1 = .ok l ∧ l.location = none := by
  have first : (standardRoots outerTemplates).find? outerTemplates.files.holds
      = some ⟨"../templates"⟩ := by
    decide +kernel
  have own : provides outerTemplates.files .php ⟨"../templates"⟩ = true := by decide +kernel
  obtain ⟨finds, builtin⟩ := first_place_decides outerTemplates .php
  refine ⟨find?_provides first own, finds.mpr fun root hr => ?_, fun none => ?_⟩
  · rw [first] at hr
    exact .inl (Option.some.inj hr ▸ own)
  · rw [builtin.mp none _ first] at own
    cases own

/-- A directory of templates for letters hides them: the search fails, and the built-in templates
are used. -/
theorem letter_templates_hide :
    (standardRoots letterTemplates).find? (provides letterTemplates.files .php) = some ⟨"../templates"⟩ ∧
    discover letterTemplates .php = .error (missing ⟨"templates/php"⟩) ∧
    ∃ l, (TemplateLibrary.load letterTemplates .php none).1 = .ok l ∧ l.location = none := by
  have failed : discover letterTemplates .php = .error (missing ⟨"templates/php"⟩) := by
    decide +kernel
  exact ⟨by decide +kernel, failed, TemplateLibrary.load_builtin_iff.mpr ⟨_, failed⟩⟩

end TemplateLocation

end ApiStubs
