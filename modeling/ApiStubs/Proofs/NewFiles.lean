import ApiStubs.Proofs.Targets

/-!
# Files in a new directory

A run into a directory in which nothing is finds no stub there before it has written it: writing
one artifact neither takes the place of another nor passes it. Therefore what a run finds at the
target of a stub is the stub of the same target that was made before it.

A directory is new (`Path.IsNewIn`) when nothing is in it and the way to it does not lead through it
and back. So is every directory that is there with nothing in it (`Path.isNewIn_of_holds`), and
every path without `..` below which nothing lies (`Path.isNewIn_of_forward`).
-/

namespace ApiStubs

namespace FileTree

variable {t : FileTree} {p : Path}

/-- Something is wherever steps lead that end at something. -/
theorem exists_of_walk {place at_ : Place} {e : Entry} {steps front : List (List Char)}
    (h : t.walk place steps = .ok (.taken at_ e)) (hf : front <+: steps) :
    ∃ e', t.entry? (Path.walkFrom place front) = some e' := by
  induction steps generalizing place front with
  | nil =>
    obtain rfl := List.prefix_nil.mp hf
    obtain ⟨hp, found⟩ := walk_found h
    rw [Spot.place, Path.walkFrom_nil] at hp
    rw [Path.walkFrom_nil, ← hp]
    exact ⟨e, found⟩
  | cons step steps ih =>
    rcases walk_cons_iff.mp h with ⟨leads, on⟩ | ⟨-, -, vacant⟩
    · rcases List.prefix_cons_iff.mp hf with rfl | ⟨later, rfl, hl⟩
      · exact ⟨_, leads.1⟩
      · rw [Path.walkFrom_cons]
        exact ih on hl
    · cases vacant

/-- Something is wherever the path of something passes. -/
theorem exists_of_passes {place : Place} (h : t.holds p = true)
    (passes : p.Passes t.current place) :
    ∃ e, t.entry? place = some e := by
  obtain ⟨front, hf, rfl⟩ := passes
  obtain ⟨at_, e, taken⟩ := taken_of_holds h
  unfold resolve at taken
  split at taken
  · cases taken
  · split at taken
    · cases taken
    · exact exists_of_walk taken hf

end FileTree

namespace Path

/-- Nothing lies below the place that the path spells, and the way to that place does not lead
below it and back. -/
structure IsNewIn (output : Path) (t : FileTree) : Prop where
  /-- Nothing lies there. -/
  free : ∀ name rest, t.entry? (output.place t.current ++ name :: rest) = none
  /-- The way does not lead there and back. -/
  straight : ∀ place, output.Passes t.current place →
    ∀ name rest, place ≠ output.place t.current ++ name :: rest

/-- Writing a file at `p` does nothing at the place that `q` spells. -/
def Avoids (p q : Path) (current : Place) : Prop :=
  q.place current ≠ p.place current ∧ ¬ p.Enters current (q.place current)

variable {output : Path} {t : FileTree} {dir dir' name name' : String}

/-- A directory that is there, with nothing in it, is new, however it is spelled. -/
theorem isNewIn_of_holds (there : t.holds output = true)
    (bare : ∀ name rest, t.entry? (output.place t.current ++ name :: rest) = none) :
    output.IsNewIn t := by
  refine ⟨bare, fun place passes name rest => ?_⟩
  rintro rfl
  obtain ⟨e, taken⟩ := FileTree.exists_of_passes there passes
  rw [bare name rest] at taken
  cases taken

/-- Without `..`, steps lead on and never back. -/
theorem length_le_walkFrom {steps : List (List Char)} (h : ['.', '.'] ∉ steps) (place : Place) :
    place.length ≤ (walkFrom place steps).length := by
  induction steps generalizing place with
  | nil => exact Nat.le_refl _
  | cons step steps ih =>
    rw [List.mem_cons, not_or] at h
    refine Nat.le_trans ?_ (ih h.2 (stepFrom place step))
    unfold stepFrom
    split
    · exact Nat.le_refl _
    · rw [if_neg (Ne.symm h.1)]
      simp

/-- A directory that is spelled without `..`, with nothing in it, is new, whether it is there or
not. -/
theorem isNewIn_of_forward (forward : ['.', '.'] ∉ output.steps)
    (bare : ∀ name rest, t.entry? (output.place t.current ++ name :: rest) = none) :
    output.IsNewIn t := by
  refine ⟨bare, fun place passes name rest same => ?_⟩
  obtain ⟨front, ⟨behind, whole⟩, rfl⟩ := passes
  have le : (walkFrom (output.origin t.current) front).length ≤ (output.place t.current).length := by
    rw [place, ← whole, walkFrom_append]
    refine length_le_walkFrom (fun up => forward ?_) _
    rw [← whole]
    exact List.mem_append_right _ up
  rw [same] at le
  simp only [List.length_append, List.length_cons] at le
  omega

/-- The place of a file two directories down. -/
theorem child_child_place {current : Place} (hd : IsName dir) (hn : IsName name) :
    ((output.child dir).child name).place current = output.place current ++ [dir, name] := by
  rw [child_place _ _ hn, child_place _ _ hd, List.append_assoc, List.singleton_append]

/-- Two directories down, a file has a place of its own. -/
theorem names_eq_of_place {current : Place} (hd : IsName dir) (hn : IsName name) (hd' : IsName dir')
    (hn' : IsName name')
    (same : ((output.child dir).child name).place current = ((output.child dir').child name').place current) :
    dir = dir' ∧ name = name' := by
  rw [child_child_place hd hn, child_child_place hd' hn'] at same
  simpa using List.append_cancel_left same

/-- Writing one file two directories down avoids another if the way to the output directory does not
lead through that one. -/
theorem avoids_of_aside {current : Place} (hd : IsName dir) (hn : IsName name) (hd' : IsName dir')
    (hn' : IsName name') (ne : (output.child dir).child name ≠ (output.child dir').child name')
    (aside : ¬ output.Passes current (((output.child dir').child name').place current)) :
    ((output.child dir).child name).Avoids ((output.child dir').child name') current := by
  constructor
  · intro same
    obtain ⟨rfl, rfl⟩ := names_eq_of_place hd' hn' hd hn same
    exact ne rfl
  · rw [child_enters _ hn]
    intro passes
    rcases passes.of_child hd with passes | same
    · exact aside passes
    · rw [child_child_place hd' hn'] at same
      have length := congrArg List.length same
      simp only [List.length_append, List.length_cons, List.length_nil] at length
      omega

/-- The way to a new directory does not lead through a file two directories down. -/
theorem IsNewIn.aside (new : output.IsNewIn t) (hd : IsName dir) (hn : IsName name) :
    ¬ output.Passes t.current (((output.child dir).child name).place t.current) := fun passes =>
  new.straight _ passes dir [name] (child_child_place hd hn)

end Path

/-! ### The target of one artifact while another is made -/

variable {c : Collaborators FileTree} {a : Artifact} {artifacts : List Artifact}
  {w w' : FileTree} {calls : List Call} {o : Outcome} {outcomes : List Outcome}
  {S : Path → Prop} {p : Path}

/-- What is free stays free when the block avoids it. -/
theorem Block.frees (files : c.writer = Writer.files) (ha : a.IsFile)
    (block : Block c a w calls o w') (avoids : a.target.Avoids p w.current) :
    w'.entry? (p.place w.current) = w.entry? (p.place w.current) := by
  rcases block.tree files with rfl | ⟨-, text, rfl⟩
  · rfl
  · exact FileTree.writeFile_frees ha.target text avoids.1 avoids.2

namespace Blocks

theorem frees (files : c.writer = Writer.files) (hf : ∀ a ∈ artifacts, a.IsFile)
    (blocks : Blocks c artifacts w calls outcomes w')
    (avoids : ∀ a ∈ artifacts, a.target.Avoids p w.current) :
    w'.entry? (p.place w.current) = w.entry? (p.place w.current) := by
  induction blocks with
  | nil => rfl
  | fail block => exact block.frees files (hf _ List.mem_cons_self) (avoids _ List.mem_cons_self)
  | cons block complete rest ih =>
    have ha := hf _ List.mem_cons_self
    have current := (block.grows files ha).current
    rw [current] at ih
    rw [ih (fun a ha => hf a (List.mem_cons_of_mem _ ha)) fun a ha => avoids a (List.mem_cons_of_mem _ ha)]
    exact block.frees files ha (avoids _ List.mem_cons_self)

/-- A run spares the paths of `S` if nothing is at the targets that it may write there, and making
one artifact avoids those of later ones. -/
theorem spares_of_free (files : c.writer = Writer.files) (hf : ∀ a ∈ artifacts, a.IsFile)
    (blocks : Blocks c artifacts w calls outcomes w')
    (free : ∀ a ∈ artifacts, S a.target → (∃ t, c.policy t a.target = false) →
      w.entry? (a.target.place w.current) = none)
    (avoids : artifacts.Pairwise fun x y => S y.target → (∃ t, c.policy t y.target = false) →
      x.target.Avoids y.target w.current) : w.Spares S calls := by
  induction blocks with
  | nil => exact FileTree.spares_nil
  | fail block =>
    exact block.spares (hf _ List.mem_cons_self) fun hp asked =>
      FileTree.holds_eq_false_of_free (free _ List.mem_cons_self hp ⟨_, asked⟩)
  | @cons a rest w w₁ _ _ _ _ _ block complete blocks ih =>
    have ha := hf _ List.mem_cons_self
    obtain ⟨first, avoids⟩ := List.pairwise_cons.mp avoids
    refine FileTree.spares_append.mpr ⟨block.spares ha fun hp asked =>
      FileTree.holds_eq_false_of_free (free _ List.mem_cons_self hp ⟨_, asked⟩), ?_⟩
    rw [← block.after_eq files ha complete]
    have current := (block.grows files ha).current
    refine ih (fun b hb => hf b (List.mem_cons_of_mem _ hb)) (fun b hb hp asked => ?_) ?_
    · rw [current, block.frees files ha (first b hb hp asked)]
      exact free b (List.mem_cons_of_mem _ hb) hp asked
    · rwa [current]

/-- A run without a failure that spares what is there writes no path that is there already. -/
theorem policy_of_holds (files : c.writer = Writer.files) (hf : ∀ a ∈ artifacts, a.IsFile)
    (blocks : Blocks c artifacts w calls outcomes w') (done : outcomesResult outcomes () = .ok ())
    (spared : w.Spares S calls) (hp : S p) (there : w.holds p = true) :
    ∀ a ∈ artifacts, a.target = p → ∃ t, c.policy t p = true := by
  induction blocks with
  | nil => exact fun a ha => nomatch ha
  | fail => simp [outcomesResult] at done
  | @cons a rest w w₁ _ _ _ _ _ block complete blocks ih =>
    rw [outcomesResult_cons complete] at done
    have ha := hf _ List.mem_cons_self
    obtain ⟨first, later⟩ := FileTree.spares_append.mp spared
    rw [← block.after_eq files ha complete] at later
    intro b hb target
    rcases List.mem_cons.mp hb with rfl | hb
    · refine ⟨w, ?_⟩
      rw [← Bool.not_eq_false]
      intro asked
      rw [← target] at hp there asked
      rw [block.holds_of_spares first hp asked] at there
      cases there
    · exact ih (fun b hb => hf b (List.mem_cons_of_mem _ hb)) done later
        ((block.grows files ha).holds there) b hb target

/-- In a run without a failure that spares what is there, no two artifacts that may be written have
one target. -/
theorem targets_ne (files : c.writer = Writer.files) (hf : ∀ a ∈ artifacts, a.IsFile)
    (blocks : Blocks c artifacts w calls outcomes w') (done : outcomesResult outcomes () = .ok ())
    (spared : w.Spares S calls) :
    artifacts.Pairwise fun x y => S y.target → x.target = y.target →
      ∃ t, c.policy t y.target = true := by
  induction blocks with
  | nil => exact .nil
  | fail => simp [outcomesResult] at done
  | @cons a rest w w₁ _ _ _ o _ block complete blocks ih =>
    rw [outcomesResult_cons complete] at done
    have ha := hf _ List.mem_cons_self
    have tail := fun b hb => hf b (List.mem_cons_of_mem _ hb)
    obtain ⟨first, later⟩ := FileTree.spares_append.mp spared
    rw [← block.after_eq files ha complete] at later
    refine .cons (fun b hb hp same => ?_) (ih tail done later)
    obtain ⟨asked, -⟩ | ⟨-, rfl⟩ := block.leftAlone_or_made complete
    · exact ⟨w, same ▸ asked⟩
    · obtain ⟨json, text, -, -, -, written, -⟩ := block.of_made files
      have there := FileTree.holds_of_find_file (FileTree.find_of_writeFile ha.target written)
      rw [same] at there
      exact blocks.policy_of_holds files tail done later hp there b hb rfl

end Blocks

/-! ### The stubs of a run -/

namespace Codegen

variable {σ : Type} {g : Codegen σ} {d : Document} {base : String} {output : Path} {t : FileTree}
  {b : Artifact}

/-- A stub lies two directories below the output directory. -/
theorem exists_names (he : '/' ∉ g.collaborators.extension.toList)
    (ha : a ∈ g.stubs d base output) :
    ∃ dir name, Path.IsName dir ∧ Path.IsName name ∧ a.target = (output.child dir).child name := by
  obtain ⟨dir, hd, hn, target⟩ := exists_dir_of_mem_stubs he ha
  refine ⟨dir, _, ?_, hn, target⟩
  rcases hd with rfl | rfl
  · exact isName_handlerDir
  · exact isName_hydratorDir

/-- In a new directory nothing is at the place of a stub. -/
theorem free_of_isNewIn (he : '/' ∉ g.collaborators.extension.toList) (new : output.IsNewIn t)
    (ha : a ∈ g.stubs d base output) : t.entry? (a.target.place t.current) = none := by
  obtain ⟨dir, name, hd, hn, target⟩ := exists_names he ha
  rw [target, Path.child_child_place hd hn]
  exact new.free dir [name]

/-- In a new directory, making one stub avoids those with another target. -/
theorem avoids_of_isNewIn (he : '/' ∉ g.collaborators.extension.toList) (new : output.IsNewIn t)
    (ha : a ∈ g.stubs d base output) (hb : b ∈ g.stubs d base output) (ne : a.target ≠ b.target) :
    a.target.Avoids b.target t.current := by
  obtain ⟨dir, name, hd, hn, ht⟩ := exists_names he ha
  obtain ⟨dir', name', hd', hn', ht'⟩ := exists_names he hb
  rw [ht, ht'] at ne ⊢
  exact Path.avoids_of_aside hd hn hd' hn' ne (new.aside hd' hn')

end Codegen

end ApiStubs
