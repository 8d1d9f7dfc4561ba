import ApiStubs.Proofs.Places

/-!
# Rooted trees

A tree that a run can see has a directory for its root, and every directory lies in a directory.
So no path that ends in `.` or `..` leads to a file, and a text that could be put into a file is
read from it by the same path.

## What is proved

* `isRooted_start`, `IsRooted.makeDirectory` and `IsRooted.putFile`: trees are rooted to begin
  with, and stay so as directories are made and files are put; so `IsRooted.writeFile`.
* `IsRooted.readText_putFile`: what was put into a file is read from it.
* `putFile_of_readText` and `putFile_error`: whether a file can be put does not depend on what it
  is to hold, and a file that can be read can be put again.
-/

namespace ApiStubs

/-- A path without steps is made of slashes. -/
theorem Path.isAbsolute_of_steps_nil {p : Path} (full : p.text.toList ≠ []) (none : p.steps = []) :
    p.isAbsolute = true := by
  obtain ⟨c, cs, same⟩ := List.exists_cons_of_ne_nil full
  by_cases slash : c = '/'
  · rw [isAbsolute_iff, same, slash]
    rfl
  · obtain ⟨first, others, pieces⟩ :=
      List.exists_cons_of_ne_nil (Text.splitWhere_ne_nil (fun c => decide (c = '/')) cs)
    rw [steps, Path.pieces, same, Text.splitWhere_cons_other (by simpa using slash) pieces] at none
    simp at none

namespace FileTree

variable {t t' : FileTree} {p : Path} {spot : Spot} {place : Place} {steps : List (List Char)}

/-! ### Directories around directories -/

/-- The root is a directory, and what lies above a directory is one. -/
structure IsRooted (t : FileTree) : Prop where
  root : t.entry? [] = some .directory
  above : ∀ place, t.entry? place = some .directory → t.entry? place.dropLast = some .directory

theorem isRooted_start (current : Place) : (start current).IsRooted where
  root := start_entry_iff.mpr ⟨rfl, List.nil_prefix⟩
  above _ there :=
    start_entry_iff.mpr ⟨rfl, (List.dropLast_prefix _).trans (start_entry_iff.mp there).2⟩

/-- Trees stay rooted when something new or a file is put in a directory. -/
theorem IsRooted.put (h : t.IsRooted) {e : Entry} (free : t.entry? place ≠ some .directory)
    (inside : e = .directory → t.entry? place.dropLast = some .directory) :
    (t.put place e).IsRooted := by
  have kept (other : Place) (there : t.entry? other = some .directory) :
      entry? (t.put place e) other = some .directory := by
    have ne : other ≠ place := by
      rintro rfl
      exact free there
    rwa [put_entry_of_ne _ _ ne]
  refine ⟨kept [] h.root, fun other there => ?_⟩
  by_cases same : other = place
  · rw [same, put_entry_self] at there
    rw [same]
    exact kept _ (inside (Option.some.inj there))
  · rw [put_entry_of_ne _ _ same] at there
    exact kept _ (h.above other there)

/-- A free name that steps lead to lies in a directory. -/
theorem walk_vacant {free : Place} (walked : t.walk place steps = .ok (.vacant free)) :
    t.entry? free.dropLast = some .directory := by
  induction steps generalizing place with
  | nil =>
    unfold walk at walked
    split at walked <;> cases walked
  | cons step steps ih =>
    rcases walk_cons_iff.mp walked with ⟨-, walked⟩ | ⟨⟨directory, here, up, -⟩, -, same⟩
    · exact ih walked
    · rw [Spot.vacant.inj same, Path.stepFrom, if_neg here, if_neg up, List.dropLast_concat]
      exact directory

/-- A path that leads somewhere is followed step by step. -/
theorem resolve_walk (resolved : t.resolve p = .ok spot) :
    p.text.toList ≠ [] ∧ t.walk (p.origin t.current) p.steps = .ok spot := by
  unfold resolve at resolved
  split at resolved
  · cases resolved
  · split at resolved
    · cases resolved
    · next full => exact ⟨by simpa using full, resolved⟩

theorem IsRooted.makeDirectory (h : t.IsRooted) (made : t.makeDirectory p = .ok t') :
    t'.IsRooted := by
  unfold FileTree.makeDirectory at made
  split at made
  · cases made
  · next resolved =>
    cases made
    have free := found_vacant.mp (resolve_found resolved).2
    exact h.put (by simp [free]) fun _ => walk_vacant (resolve_walk resolved).2
  · cases made

theorem IsRooted.putFile (h : t.IsRooted) {c : Content} (written : t.putFile p c = .ok t') :
    t'.IsRooted := by
  obtain ⟨rfl, free, -⟩ := putFile_ok written
  exact h.put free nofun

theorem IsRooted.ensureDirectory (h : t.IsRooted) (ensured : t.ensureDirectory p = .ok t') :
    t'.IsRooted := by
  unfold FileTree.ensureDirectory at ensured
  split at ensured
  · next made =>
    cases ensured
    exact h.makeDirectory made
  · split at ensured
    · cases ensured
      exact h
    · cases ensured

/-- Directories that were made stay, also when a later one could not be made. -/
theorem IsRooted.makeDirectories (h : t.IsRooted) (fuel : Nat) :
    (t.makeDirectories p fuel).2.IsRooted := by
  induction fuel generalizing p with
  | zero => exact h
  | succ fuel ih =>
    unfold FileTree.makeDirectories
    split
    · exact h
    · split
      · next made => exact h.makeDirectory made
      · split
        · exact h
        · next parent _ =>
          have outer := ih (p := parent)
          split
          · next made => rwa [made] at outer
          · next made =>
            rw [made] at outer
            split
            · next ensured => exact outer.ensureDirectory ensured
            · exact outer
      · split <;> exact h

/-- **Writing a file** keeps a tree rooted, whether it succeeds or not. -/
theorem IsRooted.writeFile (h : t.IsRooted) (p : Path) (text : String) :
    (t.writeFile p text).2.IsRooted := by
  unfold FileTree.writeFile
  cases p.parent? with
  | none =>
    cases written : t.putFile p (.text text) with
    | error fault => simpa [written] using h
    | ok t' => simpa [written] using h.putFile written
  | some parent =>
    have rooted : (t.ensureDirectories parent).2.IsRooted := h.makeDirectories _
    dsimp only
    generalize t.ensureDirectories parent = outer at rooted ⊢
    obtain ⟨made, t₁⟩ := outer
    cases made with
    | error fault => exact rooted
    | ok _ =>
      cases written : t₁.putFile p (.text text) with
      | error fault => simpa [written] using rooted
      | ok t' => simpa [written] using rooted.putFile written

/-! ### Reading a written file -/

/-- Steps that end with a dot or two lead to a directory, if they lead anywhere. -/
theorem IsRooted.walk_dots (h : t.IsRooted) (start : steps = [] → t.entry? place = some .directory)
    (dots : ∀ step ∈ steps.getLast?, step = ['.'] ∨ step = ['.', '.']) (walked : t.walk place steps = .ok spot) :
    ∃ place, spot = .taken place .directory := by
  induction steps generalizing place with
  | nil =>
    rw [walk, start rfl] at walked
    cases walked
    exact ⟨place, rfl⟩
  | cons step steps ih =>
    have last (none : steps = []) : step = ['.'] ∨ step = ['.', '.'] := dots step (by simp [none])
    have others : ∀ step ∈ steps.getLast?, step = ['.'] ∨ step = ['.', '.'] := by
      cases steps with
      | nil => simp
      | cons next steps => rwa [List.getLast?_cons_cons] at dots
    rcases walk_cons_iff.mp walked with ⟨leads, walked⟩ | ⟨free, none, _⟩
    · refine ih (fun none => ?_) others walked
      rcases last none with rfl | rfl
      · exact leads.1
      · exact h.above place leads.1
    · -- a dot or two are no free name
      exact absurd (last none) (not_or.mpr ⟨free.2.1, free.2.2.1⟩)

theorem IsRooted.resolve_dots (h : t.IsRooted)
    (dots : ∀ step ∈ p.steps.getLast?, step = ['.'] ∨ step = ['.', '.']) (resolved : t.resolve p = .ok spot) :
    ∃ place, spot = .taken place .directory := by
  obtain ⟨full, walked⟩ := resolve_walk resolved
  refine h.walk_dots (fun none => ?_) dots walked
  rw [Path.origin, Path.isAbsolute_of_steps_nil full none]
  exact h.root

/-- The last step before a slash is a dot or two, unless it names a directory. -/
theorem dots_of_namesDirectory (slash : endsInSlash p = true) (unnamed : namesDirectory p = false) :
    ∀ step ∈ p.steps.getLast?, step = ['.'] ∨ step = ['.', '.'] := by
  intro step last
  have steps : p.pieces.filter (fun s => !s.isEmpty) = p.steps := rfl
  rw [namesDirectory, slash, Bool.true_and, steps, Option.mem_def.mp last] at unnamed
  simpa [Decidable.or_iff_not_imp_left] using unnamed

/-- A path that ends in a slash leads to no file. -/
theorem IsRooted.endsInSlash_eq_false (h : t.IsRooted) {c : Content}
    (written : t.putFile p c = .ok t') :
    endsInSlash p = false := by
  rw [Bool.eq_false_iff]
  intro slash
  unfold FileTree.putFile at written
  cases resolved : t.resolve p with
  | error fault => simp [resolved] at written
  | ok spot =>
    rw [resolved] at written
    cases named : namesDirectory p with
    | true =>
      cases spot with
      | vacant place => simp [named] at written
      | taken place e => cases e <;> simp [named] at written
    | false =>
      obtain ⟨place, rfl⟩ := h.resolve_dots (dots_of_namesDirectory slash named) resolved
      cases written

/-- **What is put into a file** is read from it. -/
theorem IsRooted.readText_putFile (h : t.IsRooted) {s : String}
    (written : t.putFile p (.text s) = .ok t') :
    t'.readText p = .ok s := by
  obtain ⟨-, -, found⟩ := putFile_ok written
  rw [readText, found (h.endsInSlash_eq_false written)]

/-- A file that is read can be put again. -/
theorem putFile_of_readText {s : String} (read : t.readText p = .ok s) (c : Content) :
    ∃ t', t.putFile p c = .ok t' := by
  unfold readText at read
  split at read
  · next found =>
    obtain ⟨⟨place, resolved⟩, slash⟩ := find_file_iff.mp found
    refine ⟨t.put place (.file c), ?_⟩
    rw [putFile, resolved, namesDirectory, slash]
    rfl
  · cases read
  · cases read
  · cases read

/-- What a file is to hold does not decide whether it can be put. -/
theorem putFile_error {c : Content} {fault : FileFault} (failed : t.putFile p c = .error fault)
    (other : Content) :
    t.putFile p other = .error fault := by
  unfold putFile at failed ⊢
  split at failed
  · split at failed
    · next named => rwa [if_pos named]
    · cases failed
  · exact failed
  · split at failed
    · next named => rwa [if_pos named]
    · cases failed
  · exact failed

end FileTree

end ApiStubs
