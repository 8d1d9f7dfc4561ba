import ApiStubs.Proofs.FileRuns

/-!
# Two policies

Two runs with the same artifacts may differ in what is left alone: the stricter policy also leaves
alone what is there at certain paths. As long as the other run spares these paths, both make the
same calls and leave the same tree. Otherwise the stricter run makes less: an artifact that it makes
is made in the other run as well, so equally many artifacts are the same artifacts.
-/

namespace ApiStubs

variable {strict c : Collaborators FileTree} {a : Artifact} {artifacts : List Artifact}
  {w w₁ w₂ : FileTree} {calls₁ calls₂ : List Call} {o₁ o₂ : Outcome} {outcomes₁ outcomes₂ : List Outcome}
  {S : Path → Prop} {p : Path}

/-- The first works like the second, but also leaves alone what is there at paths of `S`. -/
structure Collaborators.AlsoKeeps (strict c : Collaborators FileTree) (S : Path → Prop) : Prop where
  /-- They render alike. -/
  renderer : strict.renderer = c.renderer
  /-- They write alike. -/
  writer : strict.writer = c.writer
  /-- What is there at paths of `S` is left alone as well. -/
  policy : ∀ t p, strict.policy t p = true ↔ c.policy t p = true ∨ S p ∧ t.holds p = true

/-! ### A run that spares what is there -/

namespace Collaborators.AlsoKeeps

variable (keeps : strict.AlsoKeeps c S)
include keeps

/-- The stricter policy leaves alone what is there. -/
theorem protects : strict.policy.Protects S := fun t p hp there =>
  (keeps.policy t p).mpr (.inr ⟨hp, there⟩)

/-- A block that spares its target is a block for the stricter policy. -/
theorem block (block : Block c a w calls₁ o₁ w₁) (spared : w.Spares S calls₁) :
    Block strict a w calls₁ o₁ w₁ := by
  have strict_asked : c.policy w a.target = false → strict.policy w a.target = false := by
    intro asked
    rw [← Bool.not_eq_true, keeps.policy, asked]
    rintro (h | ⟨hp, there⟩)
    · cases h
    · rw [block.holds_of_spares spared hp asked] at there
      cases there
  cases block with
  | leftAlone asked => exact .leftAlone ((keeps.policy w _).mpr (.inl asked))
  | unprepared asked payload => exact .unprepared (strict_asked asked) payload
  | unrendered asked payload rendered =>
    rw [← keeps.renderer] at rendered
    exact .unrendered (strict_asked asked) payload rendered
  | unwritten asked payload rendered written =>
    rw [← keeps.renderer] at rendered
    rw [← keeps.writer] at written
    exact .unwritten (strict_asked asked) payload rendered written
  | made asked payload rendered written =>
    rw [← keeps.renderer] at rendered
    rw [← keeps.writer] at written
    exact .made (strict_asked asked) payload rendered written

/-- **A run that spares what is there** is a run for the stricter policy. -/
theorem blocks (files : c.writer = Writer.files) (hf : ∀ a ∈ artifacts, a.IsFile)
    (blocks : Blocks c artifacts w calls₁ outcomes₁ w₁) (spared : w.Spares S calls₁) :
    Blocks strict artifacts w calls₁ outcomes₁ w₁ := by
  induction blocks with
  | nil => exact .nil
  | fail block => exact .fail (keeps.block block spared)
  | cons block complete rest ih =>
    obtain ⟨first, later⟩ := FileTree.spares_append.mp spared
    rw [← block.after_eq files (hf _ List.mem_cons_self) complete] at later
    exact .cons (keeps.block block first) complete (ih (fun a ha => hf a (List.mem_cons_of_mem _ ha)) later)

/-! ### A run that makes as much as the stricter one -/

/-- Blocks with one outcome are the same for both policies. -/
theorem block_eq (files : c.writer = Writer.files) (complete : o₁.IsComplete)
    (block : Block c a w calls₁ o₁ w₁) (block' : Block strict a w calls₂ o₁ w₂) :
    calls₁ = calls₂ ∧ w₁ = w₂ := by
  obtain ⟨-, rfl, rfl, rfl⟩ | ⟨-, rfl⟩ := block.leftAlone_or_made complete
  · cases block'
    exact ⟨rfl, rfl⟩
  · obtain ⟨json, text, asked, payload, rendered, written, rfl⟩ := block.of_made files
    obtain ⟨json', text', asked', payload', rendered', written', rfl⟩ :=
      block'.of_made (keeps.writer.trans files)
    rw [payload] at payload'
    cases payload'
    rw [keeps.renderer, rendered] at rendered'
    cases rendered'
    rw [written] at written'
    cases written'
    exact ⟨rfl, rfl⟩

/-- Runs with the same outcomes are the same. -/
theorem blocks_eq (files : c.writer = Writer.files) (done : outcomesResult outcomes₁ () = .ok ())
    (blocks : Blocks c artifacts w calls₁ outcomes₁ w₁)
    (blocks' : Blocks strict artifacts w calls₂ outcomes₁ w₂) : calls₁ = calls₂ ∧ w₁ = w₂ := by
  induction blocks generalizing calls₂ w₂ with
  | nil =>
    cases blocks'
    exact ⟨rfl, rfl⟩
  | fail => simp [outcomesResult] at done
  | cons block complete rest ih =>
    rw [outcomesResult_cons complete] at done
    cases blocks' with
    | fail => exact absurd complete (by simp)
    | cons block' _ rest' =>
      obtain ⟨rfl, rfl⟩ := keeps.block_eq files complete block block'
      obtain ⟨rfl, rfl⟩ := ih done rest'
      exact ⟨rfl, rfl⟩

end Collaborators.AlsoKeeps

/-- The second outcome is the first one, or makes what the first leaves alone. -/
def Outcome.MakesMore (less more : Outcome) : Prop := less = more ∨ less = .leftAlone ∧ more = .made

/-- With a policy that does not look at the tree, the stricter run makes no more. -/
theorem Collaborators.AlsoKeeps.makesMore (keeps : strict.AlsoKeeps c S)
    (steady : ∀ t t' p, c.policy t p = c.policy t' p)
    (blocks : Blocks c artifacts w₁ calls₁ outcomes₁ w) (done₁ : outcomesResult outcomes₁ () = .ok ())
    {v₂ : FileTree} (blocks' : Blocks strict artifacts w₂ calls₂ outcomes₂ v₂)
    (done₂ : outcomesResult outcomes₂ () = .ok ()) :
    List.Forall₂ Outcome.MakesMore outcomes₂ outcomes₁ := by
  induction blocks generalizing w₂ calls₂ outcomes₂ v₂ with
  | nil =>
    cases blocks'
    exact .nil
  | fail => simp [outcomesResult] at done₁
  | @cons a rest w₁ _ _ _ _ o₁ outcomes block complete tail ih =>
    rw [outcomesResult_cons complete] at done₁
    cases blocks' with
    | fail => simp [outcomesResult] at done₂
    | @cons _ _ _ _ _ _ _ o₂ _ block' complete' tail' =>
      rw [outcomesResult_cons complete'] at done₂
      refine .cons ?_ (ih done₁ tail' done₂)
      obtain ⟨asked, rfl, -⟩ | ⟨-, rfl⟩ := block.leftAlone_or_made complete
      · rw [steady w₁ w₂] at asked
        exact .inl (block'.leftAlone_of_policy ((keeps.policy _ _).mpr (.inl asked))).1
      · obtain ⟨-, rfl, -⟩ | ⟨-, rfl⟩ := block'.leftAlone_or_made complete'
        · exact .inr ⟨rfl, rfl⟩
        · exact .inl rfl

/-- Outcomes that make more make at least as much. -/
theorem count_le_of_makesMore (h : List.Forall₂ Outcome.MakesMore outcomes₂ outcomes₁) :
    outcomes₂.count .made ≤ outcomes₁.count .made := by
  induction h with
  | nil => exact Nat.le_refl _
  | cons first _ ih =>
    rcases first with rfl | ⟨rfl, rfl⟩
    · rw [List.count_cons, List.count_cons]
      omega
    · rw [List.count_cons_of_ne (by simp), List.count_cons_self]
      omega

/-- Outcomes that make more but no more artifacts are the same. -/
theorem eq_of_makesMore (h : List.Forall₂ Outcome.MakesMore outcomes₂ outcomes₁)
    (same : outcomes₁.count .made ≤ outcomes₂.count .made) : outcomes₂ = outcomes₁ := by
  induction h with
  | nil => rfl
  | cons first rest ih =>
    have le := count_le_of_makesMore rest
    rcases first with rfl | ⟨rfl, rfl⟩
    · rw [List.count_cons, List.count_cons] at same
      rw [ih (by omega)]
    · rw [List.count_cons_self, List.count_cons_of_ne (by simp)] at same
      omega

end ApiStubs
