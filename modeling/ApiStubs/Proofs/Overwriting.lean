import ApiStubs.Proofs.KeptFiles
import ApiStubs.Proofs.NewFiles
import ApiStubs.Proofs.TwoPolicies

/-!
# Overwriting in a new directory

Whether files may be overwritten should make no difference where there are none yet. But what a run
has written is there when the next artifact comes: two paths, or two schemas, whose names are the
same have one file, which a run that may overwrite makes twice, and reports twice, while a run that
may not makes it once. `overwriting_agrees_iff` says that this is the only difference.
-/

namespace ApiStubs

/-! ### The rules of both runs -/

namespace IgnoreRules

/-- Without protected directories only the patterns count. -/
theorem ignores_eq_matchesPattern {r : IgnoreRules} (h : r.protectedDirs = []) (t : FileTree)
    (p : Path) :
    r.ignores t p = r.matchesPattern p := by
  simp [ignores, isProtected, h]

end IgnoreRules

namespace Config

variable {c : Config} {t : FileTree} {loose kept : IgnoreRules} {lines lines' : List LogLine}

/-- What the rules of one configuration are when files may be overwritten and when they may not. -/
theorem ignoreRules_both (ho : ({ c with overwrite := true } : Config).ignoreRules t = .ok (loose, lines))
    (hk : ({ c with overwrite := false } : Config).ignoreRules t = .ok (kept, lines')) :
    loose.protectedDirs = [] ∧
      kept = (loose.protect (c.output.child handlerDir)).protect (c.output.child hydratorDir) := by
  obtain ⟨r, hr, ho⟩ := ignoreRules_ok ho
  obtain ⟨r', hr', hk⟩ := ignoreRules_ok hk
  have same : Except.ok (r, lines) = Except.ok (r', lines') := hr.symm.trans hr'
  obtain ⟨rfl, -⟩ := Prod.mk.inj (Except.ok.inj same)
  obtain rfl : loose = r := ho
  exact ⟨protectedDirs_patternRules hr, hk⟩

end Config

/-- Rules that protect the directories of handlers and hydrators also keep what is there. -/
theorem Codegen.intoFiles_alsoKeeps (g : Codegen FileTree) (rules : IgnoreRules) (output : Path) :
    (g.intoFiles ((rules.protect (output.child handlerDir)).protect
      (output.child hydratorDir))).collaborators.AlsoKeeps (g.intoFiles rules).collaborators output.IsStubOf where
  renderer := rfl
  writer := rfl
  policy t p := by
    change IgnoreRules.ignores _ t p = true ↔ rules.ignores t p = true ∨ _
    unfold IgnoreRules.ignores Path.IsStubOf
    simp only [IgnoreRules.isProtected_protect, IgnoreRules.matchesPattern_protect, Bool.or_eq_true,
      Bool.and_eq_true]
    constructor
    · rintro (⟨there, (inside | handler) | hydrator⟩ | matched)
      · exact .inl (.inl ⟨there, inside⟩)
      · exact .inr ⟨.inl handler, there⟩
      · exact .inr ⟨.inr hydrator, there⟩
      · exact .inl (.inr matched)
    · rintro ((⟨there, inside⟩ | matched) | ⟨handler | hydrator, there⟩)
      · exact .inl ⟨there, .inl (.inl inside)⟩
      · exact .inr matched
      · exact .inl ⟨there, .inl (.inr handler)⟩
      · exact .inl ⟨there, .inr hydrator⟩

/-! ### What a report counts -/

theorem length_madeNames {artifacts : List Artifact} {outcomes : List Outcome}
    (h : outcomes.length = artifacts.length) :
    (madeNames artifacts outcomes).length = outcomes.count Outcome.made := by
  induction artifacts generalizing outcomes with
  | nil =>
    obtain rfl := List.eq_nil_of_length_eq_zero h
    rfl
  | cons a rest ih =>
    cases outcomes with
    | nil => simp at h
    | cons o outcomes =>
      have ih : (madeNames rest outcomes).length = outcomes.count Outcome.made :=
        ih (by simpa using h)
      cases o with
      | leftAlone => rw [List.count_cons_of_ne (by simp)]; exact ih
      | made => rw [List.count_cons_self, madeNames, List.length_cons, ih]
      | failed e => rw [List.count_cons_of_ne (by simp)]; exact ih

namespace Codegen

section

variable {σ : Type} (g : Codegen σ) (d : Document) (base : String) (output config : Path)

/-- The outcomes of the handlers, of the hydrators and of the route table. -/
theorem exists_outcomes {outcomes : List Outcome}
    (h : outcomes.length = (g.artifacts d base output config).length) :
    ∃ first second o, outcomes = first ++ second ++ [o] ∧
      first.length = (g.handlerArtifacts d base output).length ∧
      second.length = (g.hydratorArtifacts d base output).length := by
  rw [artifacts, List.length_append, List.length_append, List.length_singleton] at h
  generalize (g.handlerArtifacts d base output).length = n at *
  generalize (g.hydratorArtifacts d base output).length = m at *
  rcases List.eq_nil_or_concat outcomes with rfl | ⟨stubs, o, rfl⟩
  · simp at h
  · rw [List.concat_eq_append, List.length_append, List.length_singleton] at h
    refine ⟨stubs.take n, stubs.drop n, o, ?_, ?_, ?_⟩
    · rw [List.take_append_drop, List.concat_eq_append]
    · rw [List.length_take]
      omega
    · rw [List.length_drop]
      omega

/-- A report counts the artifacts that were made. -/
theorem count_made {outcomes : List Outcome}
    (h : outcomes.length = (g.artifacts d base output config).length) :
    outcomes.count Outcome.made = (g.reportOf d base output outcomes).handlers.length
      + (g.reportOf d base output outcomes).hydrators.length
      + (g.reportOf d base output outcomes).routesWritten.toNat := by
  obtain ⟨first, second, o, rfl, h₁, h₂⟩ := g.exists_outcomes d base output config h
  rw [g.reportOf_append d base output o h₁ h₂]
  dsimp only
  rw [length_madeNames h₁, length_madeNames h₂, List.count_append, List.count_append]
  cases o <;> simp

end

/-! ### Two runs -/

/-- No two stubs have one target, unless a pattern keeps it. -/
def HasOwnTargets (g : Codegen FileTree) (rules : IgnoreRules) (d : Document) (base : String)
    (output : Path) : Prop :=
  (g.stubs d base output).Pairwise fun x y =>
    x.target = y.target → rules.matchesPattern y.target = true

variable {g : Codegen FileTree} {d : Document} {base : String} {output config : Path}
  {rules : IgnoreRules} {calls : List Call} {outcomes : List Outcome} {w w' : FileTree}

/-- In a new directory, with only patterns and a route table that lies elsewhere, a run spares what
is there if the stubs have targets of their own. -/
theorem spares_of_hasOwnTargets (he : '/' ∉ g.collaborators.extension.toList)
    (none : rules.protectedDirs = [])
    (new : output.IsNewIn w) (apart : ¬ output.IsStubOf (g.routesTarget config))
    (own : g.HasOwnTargets rules d base output)
    (blocks : Blocks (g.intoFiles rules).collaborators (g.artifacts d base output config) w calls outcomes w') :
    w.Spares output.IsStubOf calls := by
  have stub : ∀ a ∈ g.artifacts d base output config, output.IsStubOf a.target →
      a ∈ g.stubs d base output := by
    intro a ha hp
    rw [artifacts_eq, List.mem_append, List.mem_singleton] at ha
    rcases ha with ha | rfl
    · exact ha
    · rw [tableArtifact_target] at hp
      exact absurd hp apart
  have matched : ∀ a : Artifact, (∃ t, (g.intoFiles rules).collaborators.policy t a.target = false) →
      rules.matchesPattern a.target = false := by
    rintro a ⟨t, ht⟩
    rw [← IgnoreRules.ignores_eq_matchesPattern none t]
    exact ht
  refine blocks.spares_of_free rfl (fun a ha => isFile_of_mem he ha) (fun a ha hp _ => ?_) ?_
  · exact free_of_isNewIn he new (stub a ha hp)
  · refine List.pairwise_append.mpr ⟨?_, List.pairwise_singleton _ _, fun a _ b hb hp => ?_⟩
    · refine List.Pairwise.imp_of_mem (fun {x y} hx hy h hp asked => ?_) own
      refine avoids_of_isNewIn he new hx hy fun same => ?_
      have kept := h same
      rw [matched y asked] at kept
      cases kept
    · rw [List.mem_singleton.mp hb, tableArtifact_target] at hp
      exact absurd hp apart

/-- The stubs of a run without a failure that spares what is there have targets of their own. -/
theorem hasOwnTargets_of_spares (he : '/' ∉ g.collaborators.extension.toList)
    (none : rules.protectedDirs = [])
    (blocks : Blocks (g.intoFiles rules).collaborators (g.artifacts d base output config) w calls outcomes w')
    (done : outcomesResult outcomes () = .ok ()) (spared : w.Spares output.IsStubOf calls) :
    g.HasOwnTargets rules d base output := by
  have apart := blocks.targets_ne rfl (fun a ha => isFile_of_mem he ha) done spared
  refine List.Pairwise.imp_of_mem (fun {x y} _ hy h same => ?_) (List.pairwise_append.mp apart).1
  obtain ⟨t, ht⟩ := h (isStubOf_of_mem he hy) same
  rw [← IgnoreRules.ignores_eq_matchesPattern none t]
  exact ht

end Codegen

/-- **Overwriting makes a difference where a run meets what is there.** A run that may overwrite and
one that may not end in the same and leave the same files if the first takes up no path in the
directories of handlers and hydrators that leads to something at that moment; when it ends well,
only then. In a new directory, with the route table elsewhere, this is so if every stub that no
pattern keeps has a target of its own; when it ends well, only then. -/
theorem Codegen.overwriting_agrees_iff (g : Codegen FileTree)
    (he : '/' ∉ g.collaborators.extension.toList) {c : Config} {t : FileTree}
    {loose kept : IgnoreRules} {lines lines' : List LogLine}
    (ho : ({ c with overwrite := true } : Config).ignoreRules t = .ok (loose, lines))
    (hk : ({ c with overwrite := false } : Config).ignoreRules t = .ok (kept, lines'))
    (d : Document) (base : String) (config : Path) (s : RunState FileTree) :
    ∃ calls, (g.fileRun loose d base c.output config s).2.calls = s.calls ++ calls ∧
      (s.world.Spares c.output.IsStubOf calls →
        (g.fileRun loose d base c.output config s).1 = (g.fileRun kept d base c.output config s).1 ∧
        (g.fileRun loose d base c.output config s).2.world = (g.fileRun kept d base c.output config s).2.world) ∧
      (∀ report, (g.fileRun loose d base c.output config s).1 = .ok report →
        (g.fileRun kept d base c.output config s).1 = .ok report →
          s.world.Spares c.output.IsStubOf calls) ∧
      (c.output.IsNewIn s.world → ¬ c.output.IsStubOf (g.routesTarget config) →
        (g.HasOwnTargets loose d base c.output → s.world.Spares c.output.IsStubOf calls) ∧
        ∀ report, (g.fileRun loose d base c.output config s).1 = .ok report →
          s.world.Spares c.output.IsStubOf calls → g.HasOwnTargets loose d base c.output) := by
  obtain ⟨none, hp⟩ := Config.ignoreRules_both ho hk
  have keeps := g.intoFiles_alsoKeeps loose c.output
  rw [← hp] at keeps
  have files : (g.intoFiles loose).collaborators.writer = Writer.files := rfl
  have hf : ∀ a ∈ g.artifacts d base c.output config, a.IsFile := fun a ha => isFile_of_mem he ha
  obtain ⟨calls, outcomes, ends, hc, blocks⟩ :=
    (g.intoFiles loose).run_ends d base c.output config s
  obtain ⟨calls', outcomes', ends', -, blocks'⟩ :=
    (g.intoFiles kept).run_ends d base c.output config s
  refine ⟨calls, hc, fun spared => ?_, fun report h h' => ?_,
    fun new apart => ⟨fun own => ?_, fun report h spared => ?_⟩⟩
  · obtain ⟨-, same, world⟩ := (keeps.blocks files hf blocks spared).det blocks'
    refine ⟨?_, world⟩
    unfold fileRun
    rw [ends, ends', same]
    rfl
  · obtain ⟨done, report_eq⟩ := of_outcomesResult_ok (ends.symm.trans h)
    obtain ⟨done', report_eq'⟩ := of_outcomesResult_ok (ends'.symm.trans h')
    have steady : ∀ t t' p, (g.intoFiles loose).collaborators.policy t p
        = (g.intoFiles loose).collaborators.policy t' p := fun t t' p =>
      (IgnoreRules.ignores_eq_matchesPattern none t p).trans
        (IgnoreRules.ignores_eq_matchesPattern none t' p).symm
    have more := keeps.makesMore steady blocks done blocks' done'
    have count := g.count_made d base c.output config (blocks.length_outcomes done)
    have count' := g.count_made d base c.output config (blocks'.length_outcomes done')
    rw [reportOf_intoFiles] at report_eq report_eq'
    rw [← report_eq] at count
    rw [← report_eq'] at count'
    obtain rfl := eq_of_makesMore more (Nat.le_of_eq (count.trans count'.symm))
    obtain ⟨rfl, -⟩ := keeps.blocks_eq files done blocks blocks'
    exact blocks'.spares (keeps.writer.trans files) hf keeps.protects
  · exact spares_of_hasOwnTargets he none new apart own blocks
  · exact hasOwnTargets_of_spares he none blocks (of_outcomesResult_ok (ends.symm.trans h)).1 spared

/-! ### Runs into an empty tree -/

/-- The rules of the configuration that may overwrite, where there is no file of patterns. -/
def overRules : IgnoreRules := { root := ⟨"out"⟩ }

theorem ignoreRules_over :
    ({ intoOut with overwrite := true } : Config).ignoreRules emptyTree = .ok (overRules, []) := rfl

theorem ignoreRules_kept :
    ({ intoOut with overwrite := false } : Config).ignoreRules emptyTree = .ok (outRules, []) := rfl

/-- There is nothing in `out`, and the way there is straight. -/
theorem isNewIn_emptyTree : Path.IsNewIn ⟨"out"⟩ emptyTree := by
  refine Path.isNewIn_of_forward (by decide) fun name rest => FileTree.start_entry_of_lt ?_
  have place : Path.place ⟨"out"⟩ emptyTree.current = ["w", "out"] := rfl
  simp [place]

/-- A document with two paths whose handlers have different names. -/
def neighbours : Document where
  openapi := "3.0.3"
  title := "Neighbours"
  version := "1"
  paths := [("/a/b", .item { operations := [(.get, {})] }), ("/a/c", .item { operations := [(.post, {})] })]

/-- Neighbours are made alike whether files may be overwritten or not. -/
theorem neighbours_agree :
    plainly.HasOwnTargets overRules neighbours "App" intoOut.output ∧
    (plainly.fileRun overRules neighbours "App" intoOut.output intoOut.routesDir { world := emptyTree }).1
      = (plainly.fileRun outRules neighbours "App" intoOut.output intoOut.routesDir { world := emptyTree }).1 ∧
    (plainly.fileRun overRules neighbours "App" intoOut.output intoOut.routesDir { world := emptyTree }).2.world
      = (plainly.fileRun outRules neighbours "App" intoOut.output intoOut.routesDir
          { world := emptyTree }).2.world := by
  have own : plainly.HasOwnTargets overRules neighbours "App" intoOut.output := by
    unfold Codegen.HasOwnTargets
    decide +kernel
  have apart : ¬ intoOut.output.IsStubOf (plainly.routesTarget intoOut.routesDir) := by
    unfold Path.IsStubOf
    decide +kernel
  obtain ⟨calls, -, agree, -, fresh⟩ := plainly.overwriting_agrees_iff (by decide) ignoreRules_over
    ignoreRules_kept neighbours "App" intoOut.routesDir { world := emptyTree }
  exact ⟨own, agree ((fresh isNewIn_emptyTree apart).1 own)⟩

/-- Rivals are not: the handler is reported twice and knows the last method if it may be
overwritten, and once with the first method if it may not. -/
theorem rivals_differ :
    emptyTree.holds intoOut.output = false ∧
    ({ intoOut with overwrite := true } : Config).ignoreRules emptyTree = .ok (overRules, []) ∧
    ({ intoOut with overwrite := false } : Config).ignoreRules emptyTree = .ok (outRules, []) ∧
    (plainly.fileRun overRules rivals "App" intoOut.output intoOut.routesDir { world := emptyTree }).1
      = .ok ⟨["ABHandler", "ABHandler"], [], true⟩ ∧
    (plainly.fileRun outRules rivals "App" intoOut.output intoOut.routesDir { world := emptyTree }).1
      = .ok ⟨["ABHandler"], [], true⟩ ∧
    (plainly.fileRun overRules rivals "App" intoOut.output intoOut.routesDir
      { world := emptyTree }).2.world.readText ⟨"out/Handler/ABHandler.php"⟩ = .ok "handler: POST" ∧
    (plainly.fileRun outRules rivals "App" intoOut.output intoOut.routesDir
      { world := emptyTree }).2.world.readText ⟨"out/Handler/ABHandler.php"⟩ = .ok "handler: GET" := by
  refine ⟨by decide +kernel, ignoreRules_over, ignoreRules_kept, ?_, ?_, ?_, ?_⟩
  · exact eq_ok_of_toOption (by decide +kernel)
  · exact eq_ok_of_toOption (by decide +kernel)
  · exact eq_ok_of_toOption (by decide +kernel)
  · exact eq_ok_of_toOption (by decide +kernel)

end ApiStubs
