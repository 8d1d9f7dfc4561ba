import ApiStubs.Proofs.Rivals
import ApiStubs.Proofs.WritingAgain

/-!
# Regeneration

A run that is repeated on the files it has left leaves them as they are. When files may be
overwritten, the second run makes what the first has made, artifact by artifact, and while it does,
at every place is what the first run left there in the end or what it had there at the same point
(`Repeats`): of artifacts with one target the earlier ones are there for a while and the last one
stays. When files may not be overwritten, every stub is there, so the second run makes no more than
the route table.

## What is proved

* `run_again`: a run that ended well, repeated on the files it left by rules with the same patterns,
  ends well and leaves the same at every place; it reports the same when files may be overwritten,
  and no handlers and no hydrators when they may not.
* `ignoreRules_again`: the rules are read again as they were if there is a file of patterns and no
  artifact takes its place, and none takes that of the file in the output directory
  (`patternFile_place_ne`).
* `renderer_isSteady`: a library of templates renders again what it has rendered. This much is
  assumed of a renderer.
-/

namespace ApiStubs

/-! ### Renderers -/

/-- What is rendered in one world is rendered alike in every other. -/
def Renderer.IsSteady {σ : Type} (r : Renderer σ) : Prop :=
  ∀ w w' key payload text, (r w key payload).1 = .ok text → (r w' key payload).1 = .ok text

/-- A library looks at files only for the message of a failure. -/
theorem TemplateLibrary.renderer_isSteady {σ : Type} (l : TemplateLibrary) (files : σ → FileTree) :
    Renderer.IsSteady (l.renderer files) := by
  intro w w' key payload text h
  unfold renderer renderWith at h ⊢
  dsimp only at h ⊢
  cases found : l.find? (fileName key) with
  | none => simp [found] at h
  | some parts =>
    rw [found] at h
    cases payload with
    | obj fields =>
      dsimp only at h ⊢
      cases rendered : Template.render? parts fields with
      | none => simp [rendered] at h
      | some text' =>
        rw [rendered] at h
        exact h
    | _ => simp at h

/-! ### The same rules -/

/-- Rules with the same patterns and the same protected directories leave the same alone, if they
see paths from the same root or have no patterns. -/
theorem IgnoreRules.ignores_congr {r r' : IgnoreRules} (patterns : r'.patterns = r.patterns)
    (dirs : r'.protectedDirs = r.protectedDirs) (root : r'.root = r.root ∨ r.patterns = []) :
    r'.ignores = r.ignores := by
  funext t p
  unfold ignores isProtected matchesPattern relative
  rw [patterns, dirs]
  rcases root with root | none
  · rw [root]
  · rw [none, List.any_nil, List.any_nil]

namespace Config

variable {c : Config} {t t' : FileTree} {r r' rules rules' : IgnoreRules}
  {lines lines' : List LogLine}

/-- Patterns that are the same, if there are any, are those of one file. -/
theorem patternRules_root (h : c.patternRules t = .ok (r, lines))
    (h' : c.patternRules t' = .ok (r', lines'))
    (same : r'.patterns = r.patterns) : r'.root = r.root ∨ r.patterns = [] := by
  unfold patternRules at h h'
  cases hf : c.ignoreFile with
  | some file =>
    rw [hf] at h h'
    exact .inl ((IgnoreRules.ofFile_ok h').1.trans (IgnoreRules.ofFile_ok h).1.symm)
  | none =>
    rw [hf] at h h'
    dsimp only at h h'
    split at h
    · split at h'
      · exact .inl ((IgnoreRules.ofFile_ok h').1.trans (IgnoreRules.ofFile_ok h).1.symm)
      · cases h'
        exact .inr same.symm
    · cases h
      exact .inr rfl

/-- The rules of a configuration leave the same alone whenever its patterns are the same. -/
theorem ignores_eq (hr : c.ignoreRules t = .ok (rules, lines))
    (hr' : c.ignoreRules t' = .ok (rules', lines'))
    (same : rules'.patterns = rules.patterns) : rules'.ignores = rules.ignores := by
  obtain ⟨r, found, hr⟩ := ignoreRules_ok hr
  obtain ⟨r', found', hr'⟩ := ignoreRules_ok hr'
  have dirs := protectedDirs_patternRules found
  have dirs' := protectedDirs_patternRules found'
  cases ho : c.overwrite with
  | true =>
    obtain rfl : rules = r := by rw [hr, ho, if_pos rfl]
    obtain rfl : rules' = r' := by rw [hr', ho, if_pos rfl]
    exact IgnoreRules.ignores_congr same (dirs'.trans dirs.symm) (patternRules_root found found' same)
  | false =>
    rw [ho] at hr hr'
    subst hr hr'
    have same : r'.patterns = r.patterns := same
    have root := patternRules_root found found' same
    refine IgnoreRules.ignores_congr same ?_ root
    simp [IgnoreRules.protect, dirs, dirs']

end Config

/-! ### Making again what was made -/

/-- A tree while a run is repeated that has left `ended`: everything is there, and at every place is
what was left there, or what was there when the run came to the same point, in the tree `w`. -/
structure FileTree.Repeats (w ended v : FileTree) : Prop where
  /-- Everything is there. -/
  grows : Grows ended v
  /-- It is what was left, or what was there before that. -/
  entry : ∀ place, v.entry? place = ended.entry? place ∨ v.entry? place = w.entry? place

namespace FileTree.Repeats

variable {t w w' ended v : FileTree} {place : Place} {e : Entry}

theorem start (w ended : FileTree) : Repeats w ended ended := ⟨.refl ended, fun _ => .inl rfl⟩

/-- At the end of a repeated run the tree is as it was. -/
theorem alike (h : Repeats ended ended v) : Alike ended v :=
  ⟨h.grows.current, fun place => (h.entry place).elim id id⟩

/-- Putting a file where there is one, when the first run has put it there as well and has kept what
was elsewhere. -/
theorem put {content content' : Content} (h : Repeats w ended v)
    (there : v.entry? place = some (.file content')) (made : w'.entry? place = some (.file content))
    (keeps : ∀ other, other ≠ place → ∀ e, w.entry? other = some e → w'.entry? other = some e) :
    Repeats w' ended (v.put place (.file content)) := by
  refine ⟨h.grows.trans (.put_file v content (by simp [there])), fun other => ?_⟩
  by_cases same : other = place
  · rw [same, put_entry_self, made]
    exact .inr rfl
  · rw [put_entry_of_ne v _ same]
    rcases h.entry other with left | before
    · exact .inl left
    · cases found : w.entry? other with
      | some e =>
        rw [before, found, keeps other same e found]
        exact .inr rfl
      | none =>
        -- nothing was there, and nothing is left there, as everything that is left is there
        left
        rw [before, found]
        cases left : ended.entry? other with
        | none => rfl
        | some e =>
          obtain ⟨e', taken⟩ := h.grows.taken left
          rw [before, found] at taken
          cases taken

end FileTree.Repeats

variable {c : Collaborators FileTree} {a : Artifact} {artifacts : List Artifact}
  {w w' v ended : FileTree} {calls : List Call} {o : Outcome} {outcomes : List Outcome} {S : Path → Prop}

/-- A block is repeated when the policy answers what it answered. -/
theorem Block.again (files : c.writer = Writer.files) (steady : c.renderer.IsSteady) (ha : a.IsFile)
    (block : Block c a w calls o w') (complete : o.IsComplete) (grows : FileTree.Grows w' ended)
    (repeats : FileTree.Repeats w ended v) (answer : c.policy v a.target = c.policy w a.target) :
    ∃ v', Block c a v calls o v' ∧ FileTree.Repeats w' ended v' := by
  have grown := block.grows files ha
  obtain ⟨asked, rfl, rfl, rfl⟩ | ⟨-, rfl⟩ := block.leftAlone_or_made complete
  · exact ⟨v, .leftAlone (answer.trans asked), repeats⟩
  · have both := grown.trans grows
    obtain ⟨json, text, asked, payload, rendered, written, rfl⟩ := block.of_made files
    obtain ⟨_, left⟩ := grows.exists_find_file (FileTree.find_of_writeFile ha.target written)
    obtain ⟨content, there⟩ := repeats.grows.exists_find_file left
    have again := FileTree.writeFile_of_find ha.target there text
    obtain ⟨lines, again⟩ := Writer.files_of_writeFile again
    rw [← files] at again
    refine ⟨_, .made (answer.trans asked) payload (steady _ _ _ _ _ rendered) again, ?_⟩
    have current : v.current = w.current := repeats.grows.current.trans both.current
    refine repeats.put (FileTree.entry_of_find_file there) ?_ fun other ne e found => ?_
    · rw [current]
      exact FileTree.entry_of_writeFile ha.target written
    · have kept := FileTree.writeFile_keeps ha.target text (current ▸ ne) found
      rwa [written] at kept

namespace Blocks

/-- **Blocks are repeated** when the policy does not look at the tree. -/
theorem again (files : c.writer = Writer.files) (steady : c.renderer.IsSteady)
    (hf : ∀ a ∈ artifacts, a.IsFile) (blind : ∀ t t' p, c.policy t p = c.policy t' p)
    (blocks : Blocks c artifacts w calls outcomes w') (done : outcomesResult outcomes () = .ok ())
    (grows : FileTree.Grows w' ended) (repeats : FileTree.Repeats w ended v) :
    ∃ v', Blocks c artifacts v calls outcomes v' ∧ FileTree.Repeats w' ended v' := by
  induction blocks generalizing v with
  | nil => exact ⟨v, .nil, repeats⟩
  | fail => simp [outcomesResult] at done
  | cons block complete rest ih =>
    rw [outcomesResult_cons complete] at done
    have tail := fun a ha => hf a (List.mem_cons_of_mem _ ha)
    obtain ⟨v₁, first, repeats⟩ := block.again files steady (hf _ List.mem_cons_self) complete
      ((rest.grows files tail).trans grows) repeats (blind _ _ _)
    obtain ⟨v', others, repeats⟩ := ih tail done grows repeats
    exact ⟨v', .cons first complete others, repeats⟩

/-- What is protected is left alone after its turn, whatever became of it. -/
theorem policy_of_mem (files : c.writer = Writer.files) (hf : ∀ a ∈ artifacts, a.IsFile)
    (protects : c.policy.Protects S) (lasts : c.policy.Lasts) (hS : ∀ a ∈ artifacts, S a.target)
    (blocks : Blocks c artifacts w calls outcomes w') (done : outcomesResult outcomes () = .ok ()) :
    ∀ a ∈ artifacts, c.policy w' a.target = true := by
  induction blocks with
  | nil => exact fun a ha => nomatch ha
  | fail => simp [outcomesResult] at done
  | cons block complete rest ih =>
    rw [outcomesResult_cons complete] at done
    have tail := fun a ha => hf a (List.mem_cons_of_mem _ ha)
    intro a ha
    rcases List.mem_cons.mp ha with rfl | ha
    · have kept := policy_of_block files (hf _ List.mem_cons_self) protects block complete
        (hS _ List.mem_cons_self)
      exact lasts _ _ _ (rest.grows files tail) kept
    · exact ih tail (fun a ha => hS a (List.mem_cons_of_mem _ ha)) done a ha

/-- The blocks of artifacts that are all left alone. -/
theorem of_policy (h : ∀ a ∈ artifacts, c.policy w a.target = true) :
    ∃ calls, Blocks c artifacts w calls (artifacts.map fun _ => .leftAlone) w := by
  induction artifacts with
  | nil => exact ⟨[], .nil⟩
  | cons a rest ih =>
    obtain ⟨calls, blocks⟩ := ih fun a ha => h a (List.mem_cons_of_mem _ ha)
    exact ⟨_, .cons (.leftAlone (h a List.mem_cons_self)) (by simp) blocks⟩

/-- **Blocks are repeated** in the tree that they have left, which they leave alike. -/
theorem again_alike (files : c.writer = Writer.files) (steady : c.renderer.IsSteady)
    (hf : ∀ a ∈ artifacts, a.IsFile) (blind : ∀ t t' p, c.policy t p = c.policy t' p)
    (blocks : Blocks c artifacts w calls outcomes w') (done : outcomesResult outcomes () = .ok ()) :
    ∃ v, Blocks c artifacts w' calls outcomes v ∧ FileTree.Alike w' v := by
  obtain ⟨v, blocks, repeats⟩ := blocks.again files steady hf blind done (.refl w') (.start w w')
  exact ⟨v, blocks, repeats.alike⟩

/-- In the tree that they have left, blocks of protected artifacts and one more artifact leave alone
all of the former, and the tree as it is. -/
theorem again_of_protects (files : c.writer = Writer.files) (steady : c.renderer.IsSteady)
    (hf : ∀ b ∈ artifacts ++ [a], b.IsFile) (protects : c.policy.Protects S) (lasts : c.policy.Lasts)
    (hS : ∀ b ∈ artifacts, S b.target) (blocks : Blocks c (artifacts ++ [a]) w calls outcomes w')
    (done : outcomesResult outcomes () = .ok ()) :
    ∃ calls' o v, Blocks c (artifacts ++ [a]) w' calls' ((artifacts.map fun _ => .leftAlone) ++ [o]) v ∧
      o.IsComplete ∧ FileTree.Alike w' v := by
  have front : ∀ b ∈ artifacts, b.IsFile := fun b hb => hf b (List.mem_append_left _ hb)
  have last : ∀ b ∈ [a], b.IsFile := fun b hb => hf b (List.mem_append_right _ hb)
  obtain ⟨calls₁, calls₂, outcomes₁, outcomes₂, w₁, rfl, rfl, first, done₁, second, done₂⟩ :=
    blocks.cut done
  have grows := second.grows files last
  have kept : ∀ b ∈ artifacts, c.policy w' b.target = true := fun b hb =>
    lasts _ _ _ grows (first.policy_of_mem files front protects lasts hS done₁ b hb)
  obtain ⟨calls₁', left⟩ := of_policy kept
  have quiet : outcomesResult (artifacts.map fun _ => Outcome.leftAlone) () = .ok () :=
    outcomesResult_leftAlone artifacts ()
  suffices h : ∃ calls₂' o v, Block c a w' calls₂' o v ∧ o.IsComplete ∧ FileTree.Alike w' v by
    obtain ⟨calls₂', o, v, block, complete, alike⟩ := h
    exact ⟨_, o, v, left.append quiet (.single block), complete, alike⟩
  cases second with
  | fail => simp [outcomesResult] at done₂
  | cons block complete rest =>
    cases rest
    cases asked : c.policy w' a.target with
    | true => exact ⟨_, _, w', .leftAlone asked, by simp, .refl w'⟩
    | false =>
      -- what gets leave now has had it before, as fewer files were there
      have before : c.policy w₁ a.target = false := by
        rw [← Bool.not_eq_true]
        intro no
        rw [lasts _ _ _ grows no] at asked
        cases asked
      obtain ⟨v, block, repeats⟩ := block.again files steady (last a List.mem_cons_self) complete
        (.refl w') (.start w₁ w') (asked.trans before.symm)
      exact ⟨_, _, v, block, complete, repeats.alike⟩

end Blocks

/-! ### Runs -/

namespace Config

variable {c : Config} {t t' : FileTree}

/-- The file that the patterns of a configuration are read from, if it is there. -/
def patternFile (c : Config) : Path :=
  match c.ignoreFile with
  | some file => ⟨file⟩
  | none => c.output.child ignoreFileName

/-- The rules are those of the file of patterns. -/
theorem ignoreRules_congr (same : t'.find c.patternFile = t.find c.patternFile) :
    c.ignoreRules t' = c.ignoreRules t := by
  have rules : c.patternRules t' = c.patternRules t := by
    unfold patternFile at same
    unfold patternRules IgnoreRules.ofFile FileTree.readText FileTree.isFile
    cases hf : c.ignoreFile with
    | some file =>
      rw [hf] at same
      dsimp only at same ⊢
      rw [same]
    | none =>
      rw [hf] at same
      dsimp only at same ⊢
      rw [same]
  unfold ignoreRules
  rw [rules]

end Config

namespace Codegen

variable {g : Codegen FileTree} {c : Config} {t : FileTree} {d : Document} {base : String}
  {output config : Path} {rules rules' : IgnoreRules} {s : RunState FileTree}

/-- What the blocks of a run say of it. -/
theorem fileRun_of_blocks
    (blocks : Blocks (g.intoFiles rules).collaborators (g.artifacts d base output config) s.world
      calls outcomes w) :
    (g.fileRun rules d base output config s).1 = outcomesResult outcomes (g.reportOf d base output outcomes) ∧
      (g.fileRun rules d base output config s).2.world = w := by
  obtain ⟨calls', outcomes', ends, -, blocks'⟩ :=
    (g.intoFiles rules).run_ends d base output config s
  obtain ⟨-, rfl, world⟩ := blocks.det blocks'
  exact ⟨ends, world.symm⟩

/-- The report of a run that leaves all stubs alone. -/
theorem reportOf_leftAlone (g : Codegen FileTree) (d : Document) (base : String) (output : Path)
    (o : Outcome) :
    g.reportOf d base output (((g.stubs d base output).map fun _ => .leftAlone) ++ [o])
      = { handlers := [], hydrators := [], routesWritten := o = .made } := by
  rw [stubs, List.map_append, g.reportOf_append d base output o (List.length_map _) (List.length_map _),
    madeNames_leftAlone, madeNames_leftAlone]

/-- The rules of a configuration are read as they were after a run that writes no file in the place
of the file of patterns. -/
theorem ignoreRules_again (he : '/' ∉ g.collaborators.extension.toList) {content : Content}
    (there : s.world.find c.patternFile = .ok (.file content))
    (apart : ∀ a ∈ g.artifacts d base output config, ∀ current,
      c.patternFile.place current ≠ a.target.place current) :
    c.ignoreRules (g.fileRun rules d base output config s).2.world = c.ignoreRules s.world := by
  obtain ⟨calls, outcomes, -, -, blocks⟩ := (g.intoFiles rules).run_ends d base output config s
  refine Config.ignoreRules_congr (there ▸ ?_)
  exact blocks.find_file rfl (fun a ha => isFile_of_mem he ha) there
    fun x hx => .inr (apart _ (List.of_mem_zip hx).1)

/-- No artifact takes the place of the file of patterns in the output directory. -/
theorem patternFile_place_ne (he : '/' ∉ g.collaborators.extension.toList)
    (unnamed : c.ignoreFile = none) {a : Artifact} (ha : a ∈ g.artifacts d base output config)
    (current : Place) :
    c.patternFile.place current ≠ a.target.place current := by
  intro same
  have last := congrArg List.getLast? same
  have name : Path.IsName ignoreFileName := by constructor <;> decide
  have file : c.patternFile = c.output.child ignoreFileName := by rw [Config.patternFile, unnamed]
  rw [file, Path.child_place _ _ name, List.getLast?_concat, getLast?_place he ha] at last
  obtain ⟨first, rest, starts, ne⟩ := head_name_ne_dot ha
  have chars := congrArg String.toList (Option.some.inj last)
  rw [fileName, String.toList_append, String.toList_append, starts] at chars
  exact ne (List.cons.inj chars).1.symm

/-- **Regeneration changes nothing.** Whatever the document, the patterns, the directories and the
files that were there, a run that has ended well can be repeated on the files it left, by the rules
of the same configuration with the same patterns: it ends well again, and leaves the same at every
place. It reports the same if files may be overwritten; if they may not, it reports no handlers and
no hydrators. -/
theorem run_again (g : Codegen FileTree) (he : '/' ∉ g.collaborators.extension.toList)
    (steady : g.collaborators.renderer.IsSteady) {c : Config} {t t' : FileTree} {rules rules' : IgnoreRules}
    {lines lines' : List LogLine} (hr : c.ignoreRules t = .ok (rules, lines))
    (hr' : c.ignoreRules t' = .ok (rules', lines')) (same : rules'.patterns = rules.patterns) (d : Document)
    (base : String) (config : Path) (s s' : RunState FileTree) {report : Report}
    (ok : (g.fileRun rules d base c.output config s).1 = .ok report)
    (left : s'.world = (g.fileRun rules d base c.output config s).2.world) :
    ∃ report', (g.fileRun rules' d base c.output config s').1 = .ok report' ∧
      FileTree.Alike s'.world (g.fileRun rules' d base c.output config s').2.world ∧
      (c.overwrite = true → report' = report) ∧
      (c.overwrite = false → report'.handlers = [] ∧ report'.hydrators = []) := by
  have ignores := Config.ignores_eq hr hr' same
  have policy : g.intoFiles rules' = g.intoFiles rules := by rw [intoFiles, ignores, intoFiles]
  have files : (g.intoFiles rules).collaborators.writer = Writer.files := rfl
  have hf : ∀ a ∈ g.artifacts d base c.output config, a.IsFile := fun a ha => isFile_of_mem he ha
  obtain ⟨calls, outcomes, ends, -, blocks⟩ := (g.intoFiles rules).run_ends d base c.output config s
  obtain ⟨done, rfl⟩ := of_outcomesResult_ok (ends.symm.trans ok)
  change Blocks _ (g.artifacts d base c.output config) _ _ _ (g.fileRun rules d base c.output config s).2.world
    at blocks
  rw [← left] at blocks
  cases ho : c.overwrite with
  | true =>
    obtain ⟨r, found, hr⟩ := Config.ignoreRules_ok hr
    rw [ho, if_pos rfl] at hr
    have blind : ∀ t t' p, rules.ignores t p = rules.ignores t' p := fun t t' p => by
      have none : rules.protectedDirs = [] := hr ▸ Config.protectedDirs_patternRules found
      rw [IgnoreRules.ignores_eq_matchesPattern none, IgnoreRules.ignores_eq_matchesPattern none]
    obtain ⟨v, again, alike⟩ := blocks.again_alike files steady hf blind done
    rw [← policy] at again
    obtain ⟨result, rfl⟩ := fileRun_of_blocks again
    rw [outcomesResult_eq_map, done] at result
    exact ⟨_, result, alike, fun _ => rfl, fun no => absurd no (by simp)⟩
  | false =>
    have protects := Config.ignoreRules_protect ho hr
    have hS : ∀ a ∈ g.stubs d base c.output, c.output.IsStubOf a.target :=
      fun a ha => isStubOf_of_mem he ha
    rw [artifacts_eq] at blocks hf
    obtain ⟨calls', o, v, again, complete, alike⟩ :=
      Blocks.again_of_protects files steady hf protects rules.ignores_lasts hS blocks done
    rw [← policy] at again
    obtain ⟨result, rfl⟩ := fileRun_of_blocks again
    rw [outcomesResult_append_of_ok (outcomesResult_leftAlone _ ()), outcomesResult_cons complete,
      g.reportOf_leftAlone] at result
    exact ⟨_, result, alike, fun no => absurd no (by simp), fun _ => ⟨rfl, rfl⟩⟩

end Codegen

/-! ### Rivals, made twice -/

/-- A tree with a file of patterns in `out`. -/
def notedTree : FileTree := (emptyTree.writeFile ⟨"out/.stubforge-ignore"⟩ "# ours\n*.bak\n").2

/-- The rules of the configuration that keeps what is there, with these patterns. -/
def notedRules : IgnoreRules := { outRules with patterns := [.ofText "*.bak"] }

/-- The rules of the configuration that may overwrite, with these patterns. -/
def notedOverRules : IgnoreRules := { overRules with patterns := [.ofText "*.bak"] }

/-- A run of rivals by the rules of a configuration. -/
def rivalRun (c : Config) (rules : IgnoreRules) (s : RunState FileTree) :
    Except Error Report × RunState FileTree :=
  (Config.codegen .php shortTemplates rules).fileRun rules rivals "App" c.output c.routesDir s

/-- A second run of rivals reports both again when files may be overwritten, and none of them when
they may not. It leaves the files as they are. -/
theorem rivals_again :
    (∃ lines report, overOut.ignoreRules notedTree = .ok (notedOverRules, lines) ∧
      (rivalRun overOut notedOverRules (rivalRun overOut notedOverRules { world := notedTree }).2).1 = .ok report ∧
      report = ⟨["ABHandler", "ABHandler"], [], true⟩ ∧
      FileTree.Alike (rivalRun overOut notedOverRules { world := notedTree }).2.world
        (rivalRun overOut notedOverRules (rivalRun overOut notedOverRules { world := notedTree }).2).2.world) ∧
    ∃ lines report, intoOut.ignoreRules notedTree = .ok (notedRules, lines) ∧
      (rivalRun intoOut notedRules (rivalRun intoOut notedRules { world := notedTree }).2).1 = .ok report ∧
      report.handlers = [] ∧ report.hydrators = [] ∧
      FileTree.Alike (rivalRun intoOut notedRules { world := notedTree }).2.world
        (rivalRun intoOut notedRules (rivalRun intoOut notedRules { world := notedTree }).2).2.world := by
  have overwritten : (rivalRun overOut notedOverRules { world := notedTree }).1
      = .ok ⟨["ABHandler", "ABHandler"], [], true⟩ := eq_ok_of_toOption (by decide +kernel)
  have kept : (rivalRun intoOut notedRules { world := notedTree }).1
      = .ok ⟨["ABHandler"], [], true⟩ := eq_ok_of_toOption (by decide +kernel)
  have over_file : notedTree.find overOut.patternFile = .ok (.file (.text "# ours\n*.bak\n")) := rfl
  have kept_file : notedTree.find intoOut.patternFile = .ok (.file (.text "# ours\n*.bak\n")) := rfl
  have slash := Codegen.slash_not_mem_extension .php shortTemplates
  obtain ⟨lines, over_rules⟩ : ∃ lines, overOut.ignoreRules notedTree = .ok (notedOverRules, lines) := ⟨_, rfl⟩
  obtain ⟨lines', kept_rules⟩ : ∃ lines, intoOut.ignoreRules notedTree = .ok (notedRules, lines) :=
    ⟨_, rfl⟩
  -- the file of patterns is read again as it was
  have over_again : overOut.ignoreRules (rivalRun overOut notedOverRules { world := notedTree }).2.world
      = .ok (notedOverRules, lines) := by
    rw [rivalRun, Codegen.ignoreRules_again (slash _) over_file fun _ ha =>
      Codegen.patternFile_place_ne (slash _) rfl ha]
    exact over_rules
  have kept_again : intoOut.ignoreRules (rivalRun intoOut notedRules { world := notedTree }).2.world
      = .ok (notedRules, lines') := by
    rw [rivalRun, Codegen.ignoreRules_again (slash _) kept_file fun _ ha =>
      Codegen.patternFile_place_ne (slash _) rfl ha]
    exact kept_rules
  obtain ⟨report, ends, alike, reported, -⟩ :=
    (Config.codegen .php shortTemplates notedOverRules).run_again (slash _)
      (shortTemplates.renderer_isSteady id) over_rules over_again rfl rivals "App" overOut.routesDir
      { world := notedTree } (rivalRun overOut notedOverRules { world := notedTree }).2 overwritten (by rw [rivalRun])
  obtain ⟨report', ends', alike', -, nothing⟩ :=
    (Config.codegen .php shortTemplates notedRules).run_again (slash _)
      (shortTemplates.renderer_isSteady id) kept_rules kept_again rfl rivals "App" intoOut.routesDir
      { world := notedTree } (rivalRun intoOut notedRules { world := notedTree }).2 kept (by rw [rivalRun])
  rw [← rivalRun] at ends alike ends' alike'
  exact ⟨⟨lines, report, over_rules, ends, reported rfl, alike⟩,
    ⟨lines', report', kept_rules, ends', (nothing rfl).1, (nothing rfl).2, alike'⟩⟩

end ApiStubs
