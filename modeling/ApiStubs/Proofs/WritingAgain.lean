import ApiStubs.Proofs.Places

/-!
# Writing a file again

Writing where a file is finds its directories there, creates nothing and puts the new text into the
place of the old one (`writeFile_of_find`). Trees are *alike* when the same is found at every place;
no path can tell them apart. The entries of a tree are kept in the order in which they were put, so
writing a file again with the same text leaves a tree that is alike, though not the same value.
-/

namespace ApiStubs

/-! ### The spelling of a directory -/

namespace Path

variable {p parent : Path}

/-- The directory that a path lies in is spelled with slashes and characters of the path. -/
theorem mem_text_of_parent? (h : p.parent? = some parent) {c : Char} (hc : c ∈ parent.text.toList) :
    c = '/' ∨ c ∈ p.text.toList := by
  obtain ⟨first, others, hp⟩ := p.exists_pieces
  rcases parent?_cut hp h with ⟨-, -, rfl⟩ | ⟨kept, between, x, behind, cut, -, -, -, -, same⟩
  · simp at hc
  · by_cases slash : c = '/'
    · exact .inl slash
    · obtain ⟨piece, hm, hc⟩ : ∃ piece ∈ parent.pieces, c ∈ piece :=
        Text.exists_mem_splitWhere_iff.mpr ⟨hc, decide_eq_false slash⟩
      have full : piece ∈ parent.pieces.filter fun piece => !piece.isEmpty :=
        List.mem_filter.mpr ⟨hm, by simp [List.ne_nil_of_mem hc]⟩
      rw [same _ rfl] at full
      have inside : piece ∈ p.pieces := by
        rw [hp, cut]
        rcases List.mem_cons.mp (List.mem_filter.mp full).1 with rfl | hm
        · exact List.mem_cons_self
        · exact List.mem_cons_of_mem _ (by simp [hm])
      exact .inr (Text.exists_mem_splitWhere_iff.mp ⟨piece, inside, hc⟩).1

end Path

namespace FileTree

variable {t t' t₁ t₂ : FileTree} {p parent : Path} {place : Place} {spot : Spot}

/-! ### Directories on the way -/

/-- Where steps lead on, a directory is. -/
theorem walk_directory {front steps : List (List Char)} (more : steps ≠ [])
    (h : t.walk place (front ++ steps) = .ok spot) :
    t.walk place front = .ok (.taken (Path.walkFrom place front) .directory) := by
  induction front generalizing place with
  | nil =>
    obtain ⟨step, steps, rfl⟩ := List.exists_cons_of_ne_nil more
    rw [List.nil_append] at h
    unfold walk at h ⊢
    split at h
    · next dir => rw [dir, Path.walkFrom_nil]
    · cases h
    · cases h
  | cons step front ih =>
    rcases walk_cons_iff.mp h with ⟨leads, on⟩ | ⟨-, none, -⟩
    · exact walk_cons_iff.mpr (.inl ⟨leads, ih on⟩)
    · simp [more] at none

/-- The directory of a file that a path leads to is there. -/
theorem isDirectory_of_find {c : Content} {dir : Path} {name : String} (hn : Path.IsName name)
    (there : t.find (dir.child name) = .ok (.file c)) (hp : (dir.child name).parent? = some parent)
    (full : parent.text ≠ "") :
    t.resolve parent = .ok (.taken (parent.place t.current) .directory) := by
  obtain ⟨⟨place, hr⟩, -⟩ := find_file_iff.mp there
  obtain ⟨absolute, -, steps⟩ := Path.parent?_steps hp
  obtain ⟨rest, hrest⟩ := steps _ _ (dir.child_steps hn) hn.isStep
  unfold resolve at hr ⊢
  split at hr
  · cases hr
  · next valid =>
    have legal : ¬ parent.text.toList.contains '\x00' = true := by
      intro no
      rw [List.contains_iff_mem] at no
      rcases Path.mem_text_of_parent? hp no with h | h
      · exact absurd h (by decide)
      · exact valid (List.contains_iff_mem.mpr h)
    rw [if_neg legal]
    split at hr
    · cases hr
    · have nonempty : ¬ parent.text.isEmpty = true := fun h => full (String.isEmpty_iff.mp h)
      rw [if_neg nonempty, absolute]
      have whole : (dir.child name).steps = parent.steps ++ (rest ++ [name.toList]) := by
        rw [dir.child_steps hn, ← hrest, List.append_assoc]
      change t.walk _ (dir.child name).steps = _ at hr
      rw [whole] at hr
      have walked := walk_directory (by simp) hr
      rw [Path.place, Path.origin, absolute]
      exact walked

/-! ### Writing where a file is -/

/-- The directory of a file that is there need not be created. -/
theorem ensureDirectories_of_find {c : Content} {dir : Path} {name : String} (hn : Path.IsName name)
    (there : t.find (dir.child name) = .ok (.file c)) (hp : (dir.child name).parent? = some parent) :
    t.ensureDirectories parent = (.ok (), t) := by
  unfold ensureDirectories makeDirectories
  by_cases full : parent.text = ""
  · rw [full]
    rfl
  · have nonempty : ¬ parent.text.isEmpty = true := fun h => full (String.isEmpty_iff.mp h)
    have there := isDirectory_of_find hn there hp full
    have made : t.makeDirectory parent = .error .alreadyExists := by rw [makeDirectory, there]
    have directory : t.isDirectory parent = true := by rw [isDirectory, find, there]
    rw [if_neg nonempty, made]
    dsimp only
    rw [if_pos directory]

/-- **Writing where a file is** puts the text into its place and changes nothing else. -/
theorem writeFile_of_find {c : Content} (h : p.IsFile) (there : t.find p = .ok (.file c))
    (text : String) :
    t.writeFile p text = (.ok (), t.put (p.place t.current) (.file (.text text))) := by
  obtain ⟨dir, name, hn, rfl⟩ := h
  have put : t.putFile (dir.child name) (.text text)
      = .ok (t.put ((dir.child name).place t.current) (.file (.text text))) := by
    obtain ⟨⟨place, hr⟩, hs⟩ := find_file_iff.mp there
    have plain : namesDirectory (dir.child name) = false := by
      rw [namesDirectory, hs, Bool.false_and]
    have hp : place = (dir.child name).place t.current := (resolve_found hr).1
    rw [putFile, hr]
    dsimp only
    rw [if_neg (by simp [plain]), hp]
  unfold writeFile
  cases hp : (dir.child name).parent? with
  | none =>
    dsimp only
    rw [put]
  | some parent =>
    dsimp only
    rw [ensureDirectories_of_find hn there hp]
    dsimp only
    rw [put]

/-- The text that was written is at the place that the path spells. -/
theorem entry_of_writeFile {text : String} (h : p.IsFile)
    (written : t.writeFile p text = (.ok (), t')) :
    t'.entry? (p.place t.current) = some (.file (.text text)) := by
  have grows := writeFile_grows h t text
  rw [written] at grows
  rw [← grows.current]
  exact entry_of_find_file (find_of_writeFile h written)

/-! ### Trees that are alike -/

/-- The same is found at every place. -/
structure Alike (t₁ t₂ : FileTree) : Prop where
  /-- Paths start where they started. -/
  current : t₂.current = t₁.current
  /-- The same is found. -/
  entry : ∀ place, t₂.entry? place = t₁.entry? place

namespace Alike

theorem refl (t : FileTree) : Alike t t := ⟨rfl, fun _ => rfl⟩

theorem walk (h : Alike t₁ t₂) (steps : List (List Char)) (place : Place) :
    t₂.walk place steps = t₁.walk place steps := by
  induction steps generalizing place with
  | nil => rw [FileTree.walk, FileTree.walk, h.entry]
  | cons step steps ih => simp only [FileTree.walk, h.entry, ih]

/-- No path can tell the trees apart. -/
theorem find (h : Alike t₁ t₂) (p : Path) : t₂.find p = t₁.find p := by
  unfold FileTree.find resolve
  rw [h.current, h.walk]

end Alike

end FileTree

end ApiStubs
