import ApiStubs.Proofs.Blocks
import ApiStubs.Proofs.Places
import Mathlib.Data.List.Pairwise

/-!
# Runs that write files

When the writer puts files into a tree, the calls of a run say what the tree was like at every
moment: it is the tree of the start after the writes so far. A block changes the tree by one write
at most, so trees only grow along the blocks, and what lies elsewhere stays.

A policy that leaves alone whatever is there at certain paths makes a run *spare* these paths. A
file there is then written once at most, by the first artifact that has it as its target, and what
was there before the run is there afterwards.
-/

namespace ApiStubs

/-- The call is the leave to write the file, or the write. -/
def Call.TakesUp (p : Path) : Call → Prop
  | .asked q answer => q = p ∧ answer = false
  | .wrote q _ => q = p
  | _ => False

/-! ### The tree at every moment -/

namespace FileTree

variable {t : FileTree} {S : Path → Prop} {call : Call} {calls calls₁ calls₂ : List Call}

/-- The tree after a call. -/
def afterCall (t : FileTree) : Call → FileTree
  | .wrote p text => (t.writeFile p text).2
  | _ => t

/-- The tree after some calls. -/
def after (t : FileTree) (calls : List Call) : FileTree := calls.foldl afterCall t

@[simp] theorem after_nil (t : FileTree) : t.after [] = t := rfl

@[simp] theorem after_cons (t : FileTree) (call : Call) (calls : List Call) :
    t.after (call :: calls) = (t.afterCall call).after calls := rfl

theorem after_append (t : FileTree) (calls₁ calls₂ : List Call) :
    t.after (calls₁ ++ calls₂) = (t.after calls₁).after calls₂ := List.foldl_append

/-- From the tree on, the calls take up no path of `S` that leads to something at that moment. -/
def Spares (t : FileTree) (S : Path → Prop) (calls : List Call) : Prop :=
  ∀ before call after, calls = before ++ call :: after →
    ∀ p, call.TakesUp p → S p → (t.after before).holds p = false

theorem spares_nil : t.Spares S [] := fun before call after h => by simp at h

theorem spares_cons : t.Spares S (call :: calls) ↔
    (∀ p, call.TakesUp p → S p → t.holds p = false) ∧ (t.afterCall call).Spares S calls := by
  constructor
  · intro h
    refine ⟨h [] call calls rfl, fun before call' after hc => ?_⟩
    exact h (call :: before) call' after (by rw [hc, List.cons_append])
  · rintro ⟨first, rest⟩ before call' after hc
    cases before with
    | nil =>
      obtain ⟨rfl, -⟩ := List.cons.inj hc
      exact first
    | cons _ before =>
      obtain ⟨rfl, hr⟩ := List.cons.inj hc
      exact rest before call' after hr

theorem spares_of_quiet (h : ∀ call ∈ calls, ∀ p, ¬ call.TakesUp p) : t.Spares S calls := by
  rintro before call after rfl p takes
  exact absurd takes (h call (by simp) p)

theorem spares_append : t.Spares S (calls₁ ++ calls₂) ↔
    t.Spares S calls₁ ∧ (t.after calls₁).Spares S calls₂ := by
  induction calls₁ generalizing t with
  | nil => simp [spares_nil]
  | cons call calls ih => rw [List.cons_append, spares_cons, spares_cons, ih, after_cons, and_assoc]

end FileTree

/-! ### One block -/

/-- The artifact is a file, and the news are no business of the tree. -/
structure Artifact.IsFile (a : Artifact) : Prop where
  /-- The target is a file in a directory. -/
  target : a.target.IsFile
  /-- News are announcements. -/
  news : ∀ call ∈ a.news, ∃ name event, call = .announced name event

theorem Artifact.IsFile.after_news {a : Artifact} (h : a.IsFile) (t : FileTree) :
    t.after a.news = t := by
  have quiet := h.news
  generalize a.news = news at quiet
  induction news with
  | nil => rfl
  | cons call news ih =>
    obtain ⟨name, event, rfl⟩ := quiet call List.mem_cons_self
    exact ih fun call hc => quiet call (List.mem_cons_of_mem _ hc)

theorem Artifact.IsFile.not_takesUp {a : Artifact} (h : a.IsFile) {call : Call} (hc : call ∈ a.news)
    (p : Path) : ¬ call.TakesUp p := by
  obtain ⟨name, event, rfl⟩ := h.news call hc
  exact fun no => no

variable {c : Collaborators FileTree} {a : Artifact} {w w' : FileTree} {calls : List Call}
  {o : Outcome} {p : Path} {text : String} {lines : List LogLine} {S : Path → Prop}

theorem Writer.files_ok (h : Writer.files w p text = (.ok (), w', lines)) :
    w.writeFile p text = (.ok (), w') := by
  unfold Writer.files at h
  rcases hw : w.writeFile p text with ⟨fault | _, t⟩
  · rw [hw] at h
    simp at h
  · rw [hw] at h
    simp only [Prod.mk.injEq] at h
    rw [h.2.1]

theorem Writer.files_of_writeFile (h : w.writeFile p text = (.ok (), w')) :
    ∃ lines, Writer.files w p text = (.ok (), w', lines) := by
  unfold Writer.files
  rw [h]
  exact ⟨_, rfl⟩

theorem Writer.files_world : (Writer.files w p text).2.1 = (w.writeFile p text).2 := by
  unfold Writer.files
  rcases w.writeFile p text with ⟨fault | _, t⟩ <;> rfl

namespace Block

/-- A block leaves the tree, or writes its target when the policy does not leave that alone. -/
theorem tree (files : c.writer = Writer.files) (block : Block c a w calls o w') :
    w' = w ∨ c.policy w a.target = false ∧ ∃ text, w' = (w.writeFile a.target text).2 := by
  have written_tree : ∀ text r lines, c.writer w a.target text = (r, w', lines) →
      w' = (w.writeFile a.target text).2 := by
    intro text r lines h
    rw [files] at h
    rw [← Writer.files_world, h]
  cases block with
  | leftAlone => exact .inl rfl
  | unprepared => exact .inl rfl
  | unrendered => exact .inl rfl
  | unwritten asked _ _ written => exact .inr ⟨asked, _, written_tree _ _ _ written⟩
  | made asked _ _ written => exact .inr ⟨asked, _, written_tree _ _ _ written⟩

/-- What the making of an artifact that was written consists of. -/
theorem of_made (files : c.writer = Writer.files) (block : Block c a w calls .made w') :
    ∃ json text, c.policy w a.target = false ∧ a.payload = .ok json ∧
      (c.renderer w a.key json).1 = .ok text ∧ w.writeFile a.target text = (.ok (), w') ∧
      calls = [Call.asked a.target false, .rendered a.key json, .wrote a.target text] ++ a.news := by
  cases block with
  | made asked payload rendered written =>
    rw [files] at written
    exact ⟨_, _, asked, payload, rendered, Writer.files_ok written, rfl⟩

theorem grows (files : c.writer = Writer.files) (ha : a.IsFile) (block : Block c a w calls o w') :
    FileTree.Grows w w' := by
  rcases block.tree files with rfl | ⟨-, text, rfl⟩
  · exact .refl w'
  · exact FileTree.writeFile_grows ha.target w text

/-- The calls of a block that came to its end say what the tree is. -/
theorem after_eq (files : c.writer = Writer.files) (ha : a.IsFile) (block : Block c a w calls o w')
    (complete : o.IsComplete) : w' = w.after calls := by
  obtain ⟨-, rfl, rfl, rfl⟩ | ⟨-, rfl⟩ := block.leftAlone_or_made complete
  · rfl
  · obtain ⟨json, text, -, -, -, written, rfl⟩ := block.of_made files
    rw [FileTree.after_append, ha.after_news]
    simp [FileTree.afterCall, written]

/-- What a block takes up is its own target, when the policy does not leave that alone. -/
theorem of_takesUp (ha : a.IsFile) (block : Block c a w calls o w') {call : Call}
    (hc : call ∈ calls) (takes : call.TakesUp p) : a.target = p ∧ c.policy w a.target = false := by
  cases block with
  | leftAlone =>
    obtain rfl := List.mem_singleton.mp hc
    exact absurd takes.2 (by simp)
  | unprepared asked =>
    obtain rfl := List.mem_singleton.mp hc
    exact ⟨takes.1, asked⟩
  | unrendered asked =>
    rcases List.mem_cons.mp hc with rfl | hc
    · exact ⟨takes.1, asked⟩
    · obtain rfl := List.mem_singleton.mp hc
      exact takes.elim
  | unwritten asked =>
    rcases List.mem_cons.mp hc with rfl | hc
    · exact ⟨takes.1, asked⟩
    · obtain rfl := List.mem_singleton.mp hc
      exact takes.elim
  | made asked =>
    rcases List.mem_append.mp hc with hc | hc
    · simp only [List.mem_cons, List.not_mem_nil, or_false] at hc
      rcases hc with rfl | rfl | rfl
      · exact ⟨takes.1, asked⟩
      · exact takes.elim
      · exact ⟨takes, asked⟩
    · exact absurd takes (ha.not_takesUp hc p)

/-- A block spares its target if nothing is there or the policy leaves it alone. -/
theorem spares (ha : a.IsFile) (block : Block c a w calls o w')
    (h : S a.target → c.policy w a.target = false → w.holds a.target = false) :
    w.Spares S calls := by
  have start : ∀ {rest : List Call}, c.policy w a.target = false → w.Spares S rest →
      w.Spares S (.asked a.target false :: rest) := by
    intro rest asked spared
    refine FileTree.spares_cons.mpr ⟨fun p takes hp => ?_, spared⟩
    obtain rfl := takes.1
    exact h hp asked
  have rendered : ∀ {key json} {rest : List Call}, w.Spares S rest →
      w.Spares S (.rendered key json :: rest) :=
    fun spared => FileTree.spares_cons.mpr ⟨fun _ takes => takes.elim, spared⟩
  cases block with
  | leftAlone => exact FileTree.spares_cons.mpr ⟨fun _ takes => absurd takes.2 (by simp), FileTree.spares_nil⟩
  | unprepared asked => exact start asked FileTree.spares_nil
  | unrendered asked => exact start asked (rendered FileTree.spares_nil)
  | unwritten asked => exact start asked (rendered FileTree.spares_nil)
  | made asked =>
    refine start asked (rendered (FileTree.spares_cons.mpr ⟨fun p takes hp => ?_, ?_⟩))
    · obtain rfl := takes
      exact h hp asked
    · exact FileTree.spares_of_quiet fun call hc => ha.not_takesUp hc

/-- A block that gets leave and spares its target finds nothing there. -/
theorem holds_of_spares (block : Block c a w calls o w') (spared : w.Spares S calls)
    (hp : S a.target) (asked : c.policy w a.target = false) : w.holds a.target = false := by
  obtain ⟨rest, rfl⟩ := block.exists_asked
  rw [asked] at spared
  exact (FileTree.spares_cons.mp spared).1 _ ⟨rfl, rfl⟩ hp

/-- After the write of a block, no call of it takes anything up. -/
theorem written_last (ha : a.IsFile) (block : Block c a w calls o w') :
    calls.Pairwise fun x y => ∀ p text, x = .wrote p text → ¬ y.TakesUp p := by
  have quiet : ∀ {some : List Call}, (∀ x ∈ some, ∀ p text, x ≠ .wrote p text) →
      some.Pairwise fun x y => ∀ p text, x = .wrote p text → ¬ y.TakesUp p :=
    fun h => List.pairwise_of_forall_mem_list fun x hx _ _ p text e => absurd e (h x hx p text)
  cases block with
  | leftAlone => exact quiet (by simp)
  | unprepared => exact quiet (by simp)
  | unrendered => exact quiet (by simp)
  | unwritten => exact quiet (by simp)
  | made =>
    refine List.pairwise_append.mpr ⟨?_, quiet fun x hx p text e => ?_, ?_⟩
    · simp [Call.TakesUp]
    · exact ha.not_takesUp hx p (e ▸ rfl)
    · exact fun x _ y hy p _ _ => ha.not_takesUp hy p

/-- A file that is somewhere else keeps its content. -/
theorem find_file {content : Content} (files : c.writer = Writer.files) (ha : a.IsFile)
    (block : Block c a w calls o w') (there : w.find p = .ok (.file content))
    (h : o = .leftAlone ∨ p.place w.current ≠ a.target.place w.current) :
    w'.find p = .ok (.file content) := by
  rcases h with rfl | ne
  · cases block with
    | leftAlone => exact there
  · rcases block.tree files with rfl | ⟨-, text, rfl⟩
    · exact there
    · exact FileTree.writeFile_find ha.target text ne there

end Block

/-! ### All blocks -/

/-- Whatever is there at a path of `S` is left alone. -/
def Policy.Protects (policy : Policy FileTree) (S : Path → Prop) : Prop :=
  ∀ t p, S p → t.holds p = true → policy t p = true

/-- What is left alone is left alone in a tree that has grown. -/
def Policy.Lasts (policy : Policy FileTree) : Prop :=
  ∀ t t' p, FileTree.Grows t t' → policy t p = true → policy t' p = true

namespace Blocks

variable {artifacts : List Artifact} {outcomes : List Outcome}

theorem grows (files : c.writer = Writer.files) (hf : ∀ a ∈ artifacts, a.IsFile)
    (blocks : Blocks c artifacts w calls outcomes w') : FileTree.Grows w w' := by
  induction blocks with
  | nil => exact .refl _
  | fail block => exact block.grows files (hf _ List.mem_cons_self)
  | cons block complete rest ih =>
    exact (block.grows files (hf _ List.mem_cons_self)).trans
      (ih fun a ha => hf a (List.mem_cons_of_mem _ ha))

/-- The calls of a run without a failure say what the tree is. -/
theorem after_eq (files : c.writer = Writer.files) (hf : ∀ a ∈ artifacts, a.IsFile)
    (blocks : Blocks c artifacts w calls outcomes w') (done : outcomesResult outcomes () = .ok ()) :
    w' = w.after calls := by
  induction blocks with
  | nil => rfl
  | fail block => simp [outcomesResult] at done
  | cons block complete rest ih =>
    rw [outcomesResult_cons complete] at done
    rw [FileTree.after_append, ← block.after_eq files (hf _ List.mem_cons_self) complete]
    exact ih (fun a ha => hf a (List.mem_cons_of_mem _ ha)) done

/-- **A run spares what its policy protects**, at every moment, also when it fails. -/
theorem spares (files : c.writer = Writer.files) (hf : ∀ a ∈ artifacts, a.IsFile)
    (protects : c.policy.Protects S) (blocks : Blocks c artifacts w calls outcomes w') :
    w.Spares S calls := by
  have free : ∀ (w : FileTree) (a : Artifact), S a.target → c.policy w a.target = false →
      w.holds a.target = false := by
    intro w a hp asked
    rw [← Bool.not_eq_true]
    intro there
    rw [protects w _ hp there] at asked
    cases asked
  induction blocks with
  | nil => exact FileTree.spares_nil
  | fail block => exact block.spares (hf _ List.mem_cons_self) (free _ _)
  | cons block complete rest ih =>
    have ha := hf _ List.mem_cons_self
    refine FileTree.spares_append.mpr ⟨block.spares ha (free _ _), ?_⟩
    rw [← block.after_eq files ha complete]
    exact ih fun a ha => hf a (List.mem_cons_of_mem _ ha)

/-- What the blocks take up are targets of theirs. -/
theorem exists_of_takesUp (hf : ∀ a ∈ artifacts, a.IsFile)
    (blocks : Blocks c artifacts w calls outcomes w') {call : Call} (hc : call ∈ calls)
    (takes : call.TakesUp p) : ∃ a ∈ artifacts, a.target = p := by
  induction blocks with
  | nil => cases hc
  | fail block => exact ⟨_, List.mem_cons_self, (block.of_takesUp (hf _ List.mem_cons_self) hc takes).1⟩
  | cons block complete rest ih =>
    rcases List.mem_append.mp hc with hc | hc
    · exact ⟨_, List.mem_cons_self, (block.of_takesUp (hf _ List.mem_cons_self) hc takes).1⟩
    · obtain ⟨a, ha, target⟩ := ih (fun a ha => hf a (List.mem_cons_of_mem _ ha)) hc
      exact ⟨a, List.mem_cons_of_mem _ ha, target⟩

/-- What the policy leaves alone is left alone by all blocks, and no call takes it up. -/
theorem leftAlone_of_policy (files : c.writer = Writer.files) (hf : ∀ a ∈ artifacts, a.IsFile)
    (lasts : c.policy.Lasts) (blocks : Blocks c artifacts w calls outcomes w')
    (h : c.policy w p = true) :
    (∀ x ∈ artifacts.zip outcomes, x.1.target = p → x.2 = .leftAlone) ∧
      ∀ call ∈ calls, ¬ call.TakesUp p := by
  induction blocks with
  | nil => exact ⟨fun _ hx => (nomatch hx), fun _ hc => (nomatch hc)⟩
  | @fail a rest w w' calls e block =>
    refine ⟨fun x hx target => ?_, fun call hc takes => ?_⟩
    · rw [List.zip_cons_cons, List.zip_nil_right, List.mem_singleton] at hx
      subst hx
      rw [← target] at h
      exact (block.leftAlone_of_policy h).1
    · obtain ⟨rfl, asked⟩ := block.of_takesUp (hf _ List.mem_cons_self) hc takes
      rw [h] at asked
      cases asked
  | @cons a rest w w₁ w₂ calls₁ calls₂ o outcomes block complete blocks ih =>
    have ha := hf _ List.mem_cons_self
    obtain ⟨left, quiet⟩ := ih (fun a ha => hf a (List.mem_cons_of_mem _ ha))
      (lasts _ _ _ (block.grows files ha) h)
    refine ⟨fun x hx target => ?_, fun call hc takes => ?_⟩
    · rw [List.zip_cons_cons, List.mem_cons] at hx
      rcases hx with rfl | hx
      · rw [← target] at h
        exact (block.leftAlone_of_policy h).1
      · exact left x hx target
    · rcases List.mem_append.mp hc with hc | hc
      · obtain ⟨rfl, asked⟩ := block.of_takesUp ha hc takes
        rw [h] at asked
        cases asked
      · exact quiet call hc takes

/-- A file keeps its content if the blocks leave it alone or are about other places. -/
theorem find_file {content : Content} (files : c.writer = Writer.files)
    (hf : ∀ a ∈ artifacts, a.IsFile) (blocks : Blocks c artifacts w calls outcomes w')
    (there : w.find p = .ok (.file content)) (h : ∀ x ∈ artifacts.zip outcomes,
      x.2 = .leftAlone ∨ ∀ current, p.place current ≠ x.1.target.place current) :
    w'.find p = .ok (.file content) := by
  induction blocks with
  | nil => exact there
  | fail block =>
    have first := h _ List.mem_cons_self
    exact block.find_file files (hf _ List.mem_cons_self) there (first.imp id fun ne => ne _)
  | cons block complete rest ih =>
    have first := h _ List.mem_cons_self
    have now := block.find_file files (hf _ List.mem_cons_self) there (first.imp id fun ne => ne _)
    exact ih (fun a ha => hf a (List.mem_cons_of_mem _ ha)) now
      fun x hx => h x (List.mem_cons_of_mem _ hx)

/-- Once the artifact of a protected target is done with, the target is left alone. -/
theorem policy_of_block (files : c.writer = Writer.files) (ha : a.IsFile)
    (protects : c.policy.Protects S) (block : Block c a w calls o w') (complete : o.IsComplete)
    (hp : S a.target) :
    c.policy w' a.target = true := by
  obtain ⟨asked, -, rfl, -⟩ | ⟨-, rfl⟩ := block.leftAlone_or_made complete
  · exact asked
  · obtain ⟨json, text, -, -, -, written, -⟩ := block.of_made files
    exact protects _ _ hp (FileTree.holds_of_find_file (FileTree.find_of_writeFile ha.target written))

/-- **The first artifact wins**: a protected target is made for the first artifact that has it. -/
theorem firsts (files : c.writer = Writer.files) (hf : ∀ a ∈ artifacts, a.IsFile)
    (protects : c.policy.Protects S) (lasts : c.policy.Lasts)
    (blocks : Blocks c artifacts w calls outcomes w') :
    (artifacts.zip outcomes).Pairwise fun x y =>
      S y.1.target → x.1.target = y.1.target → y.2 = .leftAlone := by
  induction blocks with
  | nil => exact List.Pairwise.nil
  | fail block =>
    rw [List.zip_cons_cons, List.zip_nil_right]
    exact List.pairwise_singleton _ _
  | cons block complete rest ih =>
    have ha := hf _ List.mem_cons_self
    have tail := fun a ha => hf a (List.mem_cons_of_mem _ ha)
    refine List.Pairwise.cons (fun y hy hp same => ?_) (ih tail)
    rw [← same] at hp
    exact (rest.leftAlone_of_policy files tail lasts
      (policy_of_block files ha protects block complete hp)).1 y hy same.symm

/-- **A protected file is written once**: after the write, no call takes it up again. -/
theorem written_once (files : c.writer = Writer.files) (hf : ∀ a ∈ artifacts, a.IsFile)
    (protects : c.policy.Protects S) (lasts : c.policy.Lasts)
    (blocks : Blocks c artifacts w calls outcomes w') :
    calls.Pairwise fun x y => ∀ p text, S p → x = .wrote p text → ¬ y.TakesUp p := by
  induction blocks with
  | nil => exact List.Pairwise.nil
  | fail block =>
    exact (block.written_last (hf _ List.mem_cons_self)).imp fun h p text _ => h p text
  | cons block complete rest ih =>
    have ha := hf _ List.mem_cons_self
    have tail := fun a ha => hf a (List.mem_cons_of_mem _ ha)
    refine List.pairwise_append.mpr ⟨(block.written_last ha).imp fun h p text _ => h p text, ih tail, ?_⟩
    rintro x hx y hy p text hp rfl
    obtain ⟨rfl, -⟩ := block.of_takesUp ha hx rfl
    exact (rest.leftAlone_of_policy files tail lasts
      (policy_of_block files ha protects block complete hp)).2 y hy

end Blocks

end ApiStubs
