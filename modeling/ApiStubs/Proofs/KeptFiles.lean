import ApiStubs.Generation
import ApiStubs.Proofs.RunBlocks
import ApiStubs.Proofs.Targets

/-!
# Files that are kept

Unless files may be overwritten, the ignore rules of a configuration protect the directories of
handlers and hydrators: whatever is there is left alone when its turn comes. So files that were
there before the run are there afterwards as they were, and of artifacts with one target only the
first is made. All of this also holds when the run fails.
-/

namespace ApiStubs

/-! ### Rules -/

namespace IgnoreRules

variable {r : IgnoreRules} {t : FileTree} {p : Path}

/-- What rules leave alone they leave alone when more files are there. -/
theorem ignores_lasts (r : IgnoreRules) : Policy.Lasts r.ignores := by
  intro t t' p grows h
  rw [ignores, Bool.or_eq_true, Bool.and_eq_true] at h ⊢
  exact h.imp (fun ⟨there, inside⟩ => ⟨grows.holds there, inside⟩) id

theorem ignores_protects {S : Path → Prop} (h : ∀ p, S p → r.isProtected p = true) :
    Policy.Protects r.ignores S := by
  intro t p hp there
  rw [ignores, there, h p hp]
  rfl

@[simp] theorem isProtected_protect (r : IgnoreRules) (dir p : Path) :
    (r.protect dir).isProtected p = (r.isProtected p || p.isBelow dir) := by
  simp [isProtected, protect]

@[simp] theorem matchesPattern_protect (r : IgnoreRules) (dir p : Path) :
    (r.protect dir).matchesPattern p = r.matchesPattern p := rfl

/-- The rules of an ignore file: its patterns, in order. -/
theorem ofContent_eq (root : Path) (content : String) : ofContent root content =
    { root, patterns := (patternLines content).map fun line => Glob.ofText (String.ofList line) } := by
  unfold ofContent
  generalize patternLines content = lines
  suffices h : ∀ r : IgnoreRules, lines.foldl (fun r line => r.withPattern (String.ofList line)) r =
      { r with patterns := r.patterns ++ lines.map fun line => Glob.ofText (String.ofList line) } by
    rw [h]
    rfl
  induction lines with
  | nil => exact fun r => by simp
  | cons line lines ih =>
    intro r
    rw [List.foldl_cons, ih]
    simp [withPattern]

/-- An ignore file has patterns only, relative to its directory. -/
theorem ofFile_ok {t : FileTree} {file : Path} {r : IgnoreRules} {lines : List LogLine}
    (h : ofFile t file = .ok (r, lines)) : r.root = file.parentD ∧ r.protectedDirs = [] := by
  unfold ofFile at h
  split at h
  · cases h
  · simp only [Except.ok.injEq, Prod.mk.injEq] at h
    rw [← h.1, ofContent_eq]
    exact ⟨rfl, rfl⟩

end IgnoreRules

namespace Config

variable {c : Config} {t : FileTree} {rules : IgnoreRules} {lines : List LogLine}

/-- The rules of a configuration: those of its patterns, and protection unless files may be
overwritten. -/
theorem ignoreRules_ok (h : c.ignoreRules t = .ok (rules, lines)) :
    ∃ r, c.patternRules t = .ok (r, lines) ∧
      rules = (if c.overwrite then r
        else (r.protect (c.output.child handlerDir)).protect (c.output.child hydratorDir)) := by
  unfold ignoreRules at h
  cases hr : c.patternRules t with
  | error e => rw [hr] at h; cases h
  | ok found =>
    obtain ⟨r, lines'⟩ := found
    rw [hr] at h
    cases ho : c.overwrite with
    | true =>
      rw [ho] at h
      cases h
      exact ⟨_, rfl, rfl⟩
    | false =>
      rw [ho] at h
      cases h
      exact ⟨_, rfl, rfl⟩

/-- Unless files may be overwritten, the rules protect what lies in the directories of handlers and
hydrators. -/
theorem ignoreRules_protect (keep : c.overwrite = false)
    (h : c.ignoreRules t = .ok (rules, lines)) :
    Policy.Protects rules.ignores c.output.IsStubOf := by
  obtain ⟨r, -, rfl⟩ := ignoreRules_ok h
  refine IgnoreRules.ignores_protects fun p hp => ?_
  rw [keep]
  rcases hp with below | below <;> simp [below]

/-- Patterns protect no directory. -/
theorem protectedDirs_patternRules (h : c.patternRules t = .ok (rules, lines)) :
    rules.protectedDirs = [] := by
  unfold patternRules at h
  split at h
  · exact (IgnoreRules.ofFile_ok h).2
  · dsimp only at h
    split at h
    · exact (IgnoreRules.ofFile_ok h).2
    · simp only [Except.ok.injEq, Prod.mk.injEq] at h
      rw [← h.1]

/-- The rules with the directories of handlers and hydrators protected, unless files may be
overwritten. -/
def protectStubs (c : Config) (r : IgnoreRules) : IgnoreRules :=
  if c.overwrite then r else (r.protect (c.output.child handlerDir)).protect (c.output.child hydratorDir)

/-- What is there is kept since files may not be overwritten. -/
def Keeps (c : Config) (t : FileTree) (p : Path) : Prop :=
  c.overwrite = false ∧ c.output.IsStubOf p ∧ t.holds p = true

theorem matchesPattern_protectStubs (c : Config) (r : IgnoreRules) (p : Path) :
    (c.protectStubs r).matchesPattern p = r.matchesPattern p := by
  unfold protectStubs
  split <;> rfl

/-- What rules with patterns leave alone with this protection. -/
theorem ignores_protectStubs_iff {r : IgnoreRules} (none : r.protectedDirs = []) (p : Path) :
    (c.protectStubs r).ignores t p = true ↔ c.Keeps t p ∨ r.matchesPattern p = true := by
  have free : r.isProtected p = false := by rw [IgnoreRules.isProtected, none, List.any_nil]
  rw [IgnoreRules.ignores, matchesPattern_protectStubs, Bool.or_eq_true, protectStubs, Keeps]
  cases c.overwrite with
  | true => simp [free]
  | false => simp [free, Path.IsStubOf, and_comm]

end Config

/-! ### Names that are reported -/

theorem mem_madeNames {artifacts : List Artifact} {outcomes : List Outcome} {name : String}
    (h : name ∈ madeNames artifacts outcomes) :
    ∃ a, (a, .made) ∈ artifacts.zip outcomes ∧ a.name = name := by
  induction artifacts generalizing outcomes with
  | nil => simp [madeNames] at h
  | cons a rest ih =>
    have later : ∀ {o outcomes}, name ∈ madeNames rest outcomes →
        ∃ b, (b, .made) ∈ (a :: rest).zip (o :: outcomes) ∧ b.name = name := by
      intro o outcomes h
      obtain ⟨b, hb, hn⟩ := ih h
      exact ⟨b, List.mem_cons_of_mem _ hb, hn⟩
    cases outcomes with
    | nil => simp at h
    | cons o outcomes =>
      cases o with
      | leftAlone => exact later h
      | failed e => exact later h
      | made =>
        rcases List.mem_cons.mp h with rfl | h
        · exact ⟨a, List.mem_cons_self, rfl⟩
        · exact later h

/-- No name is reported twice if of artifacts of the same name only the first can be made. -/
theorem madeNames_nodup {artifacts : List Artifact} {outcomes : List Outcome}
    (h : (artifacts.zip outcomes).Pairwise fun x y => x.1.name = y.1.name → y.2 = .leftAlone) :
    (madeNames artifacts outcomes).Nodup := by
  induction artifacts generalizing outcomes with
  | nil => simp [madeNames]
  | cons a rest ih =>
    cases outcomes with
    | nil => simp
    | cons o outcomes =>
      rw [List.zip_cons_cons, List.pairwise_cons] at h
      have tail := ih h.2
      cases o with
      | leftAlone => exact tail
      | failed e => exact tail
      | made =>
        refine List.nodup_cons.mpr ⟨fun again => ?_, tail⟩
        obtain ⟨b, hb, hn⟩ := mem_madeNames again
        exact absurd (h.1 _ hb hn.symm) (by simp)

/-- The outcomes of two lists of artifacts, one after the other. -/
theorem zip_append_drop (first second : List α) (outcomes : List β) :
    (first ++ second).zip outcomes = first.zip outcomes ++ second.zip (outcomes.drop first.length) := by
  induction first generalizing outcomes with
  | nil => simp
  | cons a first ih =>
    cases outcomes with
    | nil => simp
    | cons o outcomes => simp [ih]

/-! ### Runs into files -/

/-- The extension of the files of a kind holds neither of the characters that no file name has. -/
theorem TargetKind.extension_isPlain (kind : TargetKind) :
    '/' ∉ kind.extension.toList ∧ '\x00' ∉ kind.extension.toList := by
  cases kind <;> decide

namespace Codegen

/-- The generators, writing files by the given rules. -/
def intoFiles (g : Codegen FileTree) (rules : IgnoreRules) : Codegen FileTree :=
  { g with collaborators := { g.collaborators with policy := rules.ignores, writer := Writer.files } }

/-- A run that writes files by the given rules. -/
def fileRun (g : Codegen FileTree) (rules : IgnoreRules) (d : Document) (base : String)
    (output config : Path) (s : RunState FileTree) : Except Error Report × RunState FileTree :=
  ((g.intoFiles rules).run d base output config).start s

/-- The generators of a configuration write files by its rules. -/
theorem codegen_intoFiles (kind : TargetKind) (l : TemplateLibrary) (rules : IgnoreRules) :
    (Config.codegen kind l rules).intoFiles rules = Config.codegen kind l rules := rfl

/-- The extension of the files of a configuration holds no slash, whatever the kind. That is all
that is assumed of generators below. -/
theorem slash_not_mem_extension (kind : TargetKind) (l : TemplateLibrary) (rules : IgnoreRules) :
    '/' ∉ (Config.codegen kind l rules).collaborators.extension.toList :=
  kind.extension_isPlain.1

variable (g : Codegen FileTree) (rules : IgnoreRules) (d : Document) (base : String)
  (output config : Path)

theorem reportOf_intoFiles (outcomes : List Outcome) :
    (g.intoFiles rules).reportOf d base output outcomes = g.reportOf d base output outcomes := rfl

variable {g d base output config}

/-- A stub that is there keeps its content if what is there is left alone. -/
theorem find_stub {c : Collaborators FileTree} {a : Artifact} {outcomes : List Outcome}
    {calls : List Call} {w w' : FileTree} {content : Content} (files : c.writer = Writer.files)
    (he : '/' ∉ g.collaborators.extension.toList) (protects : c.policy.Protects output.IsStubOf)
    (lasts : c.policy.Lasts) (blocks : Blocks c (g.artifacts d base output config) w calls outcomes w')
    (ha : a ∈ g.stubs d base output) (there : w.find a.target = .ok (.file content)) :
    w'.find a.target = .ok (.file content) := by
  have hf : ∀ b ∈ g.artifacts d base output config, b.IsFile := fun b hb => isFile_of_mem he hb
  have kept := protects w _ (isStubOf_of_mem he ha) (FileTree.holds_of_find_file there)
  have left := (blocks.leftAlone_of_policy files hf lasts kept).1
  refine blocks.find_file files hf there fun x hx => ?_
  by_cases same : x.1.target = a.target
  · exact .inl (left x hx same)
  · right
    intro current h
    exact same (target_eq_of_place_eq he ha (List.of_mem_zip hx).1 h).symm

/-- Of stubs of one name only the first can be made, so no name is reported twice. -/
theorem reportOf_nodup {outcomes : List Outcome} (he : '/' ∉ g.collaborators.extension.toList)
    (firsts : ((g.artifacts d base output config).zip outcomes).Pairwise fun x y =>
      output.IsStubOf y.1.target → x.1.target = y.1.target → y.2 = .leftAlone) :
    (g.reportOf d base output outcomes).handlers.Nodup ∧
      (g.reportOf d base output outcomes).hydrators.Nodup := by
  have part : ∀ {some : List Artifact} {os : List Outcome}, (∀ a ∈ some, a ∈ g.stubs d base output) →
      ((some.zip os).Pairwise fun x y =>
        output.IsStubOf y.1.target → x.1.target = y.1.target → y.2 = .leftAlone) →
      (madeNames some os).Nodup := by
    intro some os stubs h
    refine madeNames_nodup (List.Pairwise.imp_of_mem ?_ h)
    intro x y hx hy one name
    have hx := stubs _ (List.of_mem_zip hx).1
    have hy := stubs _ (List.of_mem_zip hy).1
    exact one (isStubOf_of_mem he hy)
      (target_eq_of_name_eq hx (mem_artifacts_of_mem_stubs config hy) name)
  have length : (g.handlerArtifacts d base output).length = d.inlinePaths.length :=
    List.length_map _
  rw [artifacts, zip_append_drop, zip_append_drop, length] at firsts
  have both := (List.pairwise_append.mp firsts).1
  exact ⟨part (fun a ha => List.mem_append_left _ ha) (List.pairwise_append.mp both).1,
    part (fun a ha => List.mem_append_right _ ha) (List.pairwise_append.mp both).2.1⟩

/-- **What is there is kept.** Whatever the document, the patterns and the directories, when files
may not be overwritten, a run takes up no path in the directories of handlers and hydrators that
leads to something at that moment, also when the run fails. So what a stub had in its file before
the run is still there, a file in these directories is written once at most, of artifacts with one
target only the first is made, and no name is reported twice. -/
theorem run_keeps_stubs (g : Codegen FileTree) (he : '/' ∉ g.collaborators.extension.toList)
    {c : Config} (keep : c.overwrite = false) {t : FileTree} {rules : IgnoreRules}
    {lines : List LogLine} (hr : c.ignoreRules t = .ok (rules, lines)) (d : Document)
    (base : String) (config : Path) (s : RunState FileTree) :
    ∃ calls outcomes,
      (g.fileRun rules d base c.output config s).2.calls = s.calls ++ calls ∧
      Blocks (g.intoFiles rules).collaborators (g.artifacts d base c.output config) s.world calls outcomes
        (g.fileRun rules d base c.output config s).2.world ∧
      s.world.Spares c.output.IsStubOf calls ∧
      (∀ a ∈ g.stubs d base c.output, ∀ content, s.world.find a.target = .ok (.file content) →
        (g.fileRun rules d base c.output config s).2.world.find a.target = .ok (.file content)) ∧
      (calls.Pairwise fun x y => ∀ p text, c.output.IsStubOf p → x = .wrote p text →
        ∀ text', y ≠ .wrote p text') ∧
      (((g.artifacts d base c.output config).zip outcomes).Pairwise fun x y =>
        c.output.IsStubOf y.1.target → x.1.target = y.1.target → y.2 = .leftAlone) ∧
      ∀ report, (g.fileRun rules d base c.output config s).1 = .ok report →
        report.handlers.Nodup ∧ report.hydrators.Nodup := by
  obtain ⟨calls, outcomes, ends, hc, blocks⟩ :=
    (g.intoFiles rules).run_ends d base c.output config s
  have protects := Config.ignoreRules_protect keep hr
  have lasts := rules.ignores_lasts
  have files : (g.intoFiles rules).collaborators.writer = Writer.files := rfl
  have hf : ∀ a ∈ g.artifacts d base c.output config, a.IsFile := fun a ha => isFile_of_mem he ha
  have firsts := blocks.firsts files hf protects lasts
  refine ⟨calls, outcomes, hc, blocks, blocks.spares files hf protects, ?_, ?_, firsts, ?_⟩
  · exact fun a ha content there => find_stub files he protects lasts blocks ha there
  · refine (blocks.written_once files hf protects lasts).imp ?_
    rintro x y once p text hp hx text' rfl
    exact once p text hp hx rfl
  · intro report h
    rw [(of_outcomesResult_ok (ends.symm.trans h)).2]
    exact reportOf_nodup he firsts

end Codegen

/-! ### A file that has been edited -/

theorem eq_ok_of_toOption {r : Except ε α} {a : α} (h : r.toOption = some a) : r = .ok a := by
  cases r with
  | error e => cases h
  | ok b => exact congrArg Except.ok (Option.some.inj h)

/-- A document with two paths whose handlers have one name. -/
def rivals : Document where
  openapi := "3.0.3"
  title := "Rivals"
  version := "1"
  paths := [("/a/b", .item { operations := [(.get, {})] }), ("/a-b", .item { operations := [(.post, {})] })]

/-- Generators that render the methods of a handler. -/
def plainly : Codegen FileTree where
  collaborators := {
    renderer := fun _ key payload =>
      match payload.field? "operationMethods" with
      | some (.arr methods) => (.ok (key ++ ": " ++ ", ".intercalate (methods.filterMap Json.text?)), [])
      | _ => (.ok key, [])
    policy := fun _ _ => false
    writer := Writer.files
    extension := "php" }
  namespacing := ⟨"\\"⟩
  properties := fun _ _ => pure []

/-- A configuration that keeps what is in `out`. -/
def intoOut : Config where
  spec := "rivals.yaml"
  space := "App"
  outputDir := "out"

/-- A tree with an empty working directory. -/
def emptyTree : FileTree := FileTree.start ["w"]

/-- The rules of the configuration, where there is no file of patterns. -/
def outRules : IgnoreRules :=
  (IgnoreRules.protect { root := ⟨"out"⟩ } ⟨"out/Handler"⟩).protect ⟨"out/Hydrator"⟩

/-- Templates that print a little of what they are given. -/
def shortTemplates : TemplateLibrary where
  kind := .php
  templates := [
    ("handler.tera", [.print ⟨false, .variable "operationMethods" [], []⟩]),
    ("model-hydrator.tera", [.print ⟨false, .variable "modelName" [], []⟩]),
    ("routes.tera", [.print ⟨false, .variable "routes" [], ["length"]⟩])]

/-- The tree with a handler that somebody has written. -/
def editedTree : FileTree := (emptyTree.writeFile ⟨"out/Handler/ABHandler.php"⟩ "mine").2

/-- A run of the configuration leaves it as it is. -/
theorem run_keeps_edited_handler :
    intoOut.overwrite = false ∧ intoOut.ignoreRules editedTree = .ok (outRules, []) ∧
    editedTree.find ⟨"out/Handler/ABHandler.php"⟩ = .ok (.file (.text "mine")) ∧
    (((Config.codegen .php shortTemplates outRules).run rivals "App" intoOut.output intoOut.routesDir).start
      { world := editedTree }).2.world.find ⟨"out/Handler/ABHandler.php"⟩ = .ok (.file (.text "mine")) := by
  have rules : intoOut.ignoreRules editedTree = .ok (outRules, []) := rfl
  have there : editedTree.find ⟨"out/Handler/ABHandler.php"⟩ = .ok (.file (.text "mine")) := rfl
  obtain ⟨calls, outcomes, -, -, -, kept, -⟩ :=
    (Config.codegen .php shortTemplates outRules).run_keeps_stubs
      (Codegen.slash_not_mem_extension .php shortTemplates outRules) (c := intoOut) rfl rules rivals "App"
      intoOut.routesDir { world := editedTree }
  rw [Codegen.fileRun, Codegen.codegen_intoFiles] at kept
  have target : ((Config.codegen .php shortTemplates outRules).handlerArtifact "App" intoOut.output
      ("/a/b", { operations := [(.get, {})] })).target = ⟨"out/Handler/ABHandler.php"⟩ := by decide +kernel
  refine ⟨rfl, rules, there, ?_⟩
  rw [← target] at there ⊢
  refine kept _ (List.mem_append_left _ (List.mem_map.mpr ⟨_, ?_, rfl⟩)) _ there
  exact List.mem_cons_self

end ApiStubs
