import ApiStubs.Proofs.KeptFiles

/-!
# Writing inside the directories

The names of files come from the paths and the schemas of a document, which may be any text: with
slashes, with dots, with a slash in front. An absolute name would make a path forget its directory,
and two dots would lead out of it. But what a name keeps of such a text has none of these
characters, so every file of a run lies directly in the directory it is made for.

The calls of a run tell of a write only when it has succeeded. Here the writer itself notes each
path that it is given; that changes nothing else.

## What is proved

* `Blocks.of_noting`: a run with a writer that takes notes is a run, and the notes are targets.
* `writes_are_confined`: whatever the document, every path that the writer is given is a file
  directly in the directory of handlers, in that of hydrators, or the route table, with the ending
  of its kind; the three have different names.
-/

namespace ApiStubs

variable {σ : Type}

/-! ### Taking notes -/

/-- Writes like another writer, and notes every path it is given, also when the writing fails. -/
def Writer.noting (writer : Writer σ) : Writer (σ × List Path) := fun v path text =>
  let (result, world, lines) := writer v.1 path text
  (result, (world, v.2 ++ [path]), lines)

/-- The collaborators, with a writer that takes notes. -/
def Collaborators.noting (c : Collaborators σ) : Collaborators (σ × List Path) where
  renderer := fun v => c.renderer v.1
  policy := fun v => c.policy v.1
  writer := c.writer.noting
  extension := c.extension

/-- The generators, with a writer that takes notes. -/
def Codegen.noting (g : Codegen σ) : Codegen (σ × List Path) where
  collaborators := g.collaborators.noting
  namespacing := g.namespacing
  properties := g.properties
  listener := g.listener

/-- The state without the notes. -/
def RunState.withoutNotes (s : RunState (σ × List Path)) : RunState σ where
  world := s.world.1
  calls := s.calls
  log := s.log

variable {c : Collaborators σ} {a : Artifact} {artifacts : List Artifact} {v v' : σ × List Path}
  {calls : List Call} {o : Outcome} {outcomes : List Outcome}

theorem Writer.of_noting {writer : Writer σ} {p : Path} {text : String} {r : Except Error Unit}
    {lines : List LogLine} (h : writer.noting v p text = (r, v', lines)) :
    writer v.1 p text = (r, v'.1, lines) ∧ v'.2 = v.2 ++ [p] := by
  unfold noting at h
  obtain ⟨rfl, rfl, rfl⟩ : _ ∧ _ ∧ _ := by simpa only [Prod.mk.injEq] using h
  exact ⟨rfl, rfl⟩

/-- A block with a writer that takes notes is a block; the note is its target. -/
theorem Block.of_noting (block : Block c.noting a v calls o v') :
    Block c a v.1 calls o v'.1 ∧ (v'.2 = v.2 ∨ v'.2 = v.2 ++ [a.target]) := by
  cases block with
  | leftAlone asked => exact ⟨.leftAlone asked, .inl rfl⟩
  | unprepared asked payload => exact ⟨.unprepared asked payload, .inl rfl⟩
  | unrendered asked payload rendered => exact ⟨.unrendered asked payload rendered, .inl rfl⟩
  | unwritten asked payload rendered written =>
    obtain ⟨written, noted⟩ := Writer.of_noting written
    exact ⟨.unwritten asked payload rendered written, .inr noted⟩
  | made asked payload rendered written =>
    obtain ⟨written, noted⟩ := Writer.of_noting written
    exact ⟨.made asked payload rendered written, .inr noted⟩

/-- **A run with a writer that takes notes** is a run; the notes are targets of its artifacts. -/
theorem Blocks.of_noting (blocks : Blocks c.noting artifacts v calls outcomes v') :
    Blocks c artifacts v.1 calls outcomes v'.1 ∧
      ∃ paths, v'.2 = v.2 ++ paths ∧ ∀ p ∈ paths, ∃ a ∈ artifacts, a.target = p := by
  induction blocks with
  | nil => exact ⟨.nil, [], (List.append_nil _).symm, fun p hp => nomatch hp⟩
  | @fail a rest v v' calls e block =>
    obtain ⟨block, noted⟩ := block.of_noting
    refine ⟨.fail block, ?_⟩
    rcases noted with noted | noted
    · exact ⟨[], by rw [noted, List.append_nil], fun p hp => nomatch hp⟩
    · exact ⟨[a.target], noted, fun p hp => ⟨a, List.mem_cons_self, (List.mem_singleton.mp hp).symm⟩⟩
  | @cons a rest v v₁ v₂ _ _ _ _ block complete _ ih =>
    obtain ⟨block, noted⟩ := block.of_noting
    obtain ⟨others, paths, later, targets⟩ := ih
    refine ⟨.cons block complete others, ?_⟩
    have tail : ∀ p ∈ paths, ∃ b ∈ a :: rest, b.target = p := by
      intro p hp
      obtain ⟨b, hb, target⟩ := targets p hp
      exact ⟨b, List.mem_cons_of_mem _ hb, target⟩
    rcases noted with noted | noted
    · exact ⟨paths, by rw [later, noted], tail⟩
    · refine ⟨a.target :: paths, by rw [later, noted, List.append_assoc, List.singleton_append],
        fun p hp => ?_⟩
      rcases List.mem_cons.mp hp with rfl | hp
      · exact ⟨a, List.mem_cons_self, rfl⟩
      · exact tail p hp

/-! ### Files in a directory -/

/-- The path is a file directly in a directory: its name is one step of a path, without a character
that ends it, and the path is the directory and that step. -/
structure Path.IsFileIn (p dir : Path) (name : String) : Prop where
  /-- The path is joined from the directory and the name. -/
  eq : p = dir.child name
  /-- The name is one step that leads neither nowhere nor out of the directory. -/
  isName : IsName name
  /-- Every file can have the name. -/
  no_nul : '\x00' ∉ name.toList
  /-- The directory is not forgotten, and nothing lies between it and the file. -/
  components : p.components = dir.components ++ [.name name]

namespace Path

variable {p dir : Path} {name : String}

theorem child_isFileIn (dir : Path) (hn : IsName name) (nul : '\x00' ∉ name.toList) :
    (dir.child name).IsFileIn dir name :=
  ⟨rfl, hn, nul, child_components dir hn⟩

/-- The last component of a file in a directory is its name. -/
theorem IsFileIn.fileName? (h : p.IsFileIn dir name) : p.fileName? = some name := by
  rw [Path.fileName?, h.components, List.getLast?_concat]

end Path

namespace Codegen

variable {g : Codegen σ} {d : Document} {base : String} {output config : Path}

/-- The path is the file of a handler, of a hydrator or of the route table, in its directory. -/
def MayWrite (g : Codegen σ) (output config p : Path) : Prop :=
  (∃ stem, p.IsFileIn (output.child handlerDir) (stem ++ handlerSuffix ++ "." ++ g.collaborators.extension)) ∨
  (∃ stem, p.IsFileIn (output.child hydratorDir) (stem ++ hydratorSuffix ++ "." ++ g.collaborators.extension)) ∨
  p.IsFileIn config (routesStem ++ "." ++ g.collaborators.extension)

theorem nul_not_mem_fileName (nul : '\x00' ∉ g.collaborators.extension.toList) {stem : String}
    (hs : '\x00' ∉ stem.toList) : '\x00' ∉ (g.fileName stem).toList := by
  simp [fileName, hs, nul]

/-- A handler, a hydrator and the route table have three different file names. -/
theorem fileNames_differ (g : Codegen σ) (path name : String) :
    g.fileName (handlerName path) ≠ g.fileName (hydratorName name) ∧
      g.fileName (handlerName path) ≠ g.fileName routesStem ∧
      g.fileName (hydratorName name) ≠ g.fileName routesStem :=
  ⟨fun h => handlerName_ne_hydratorName path name (stem_inj h),
    fun h => handlerName_ne_routesStem path (stem_inj h),
    fun h => hydratorName_ne_routesStem name (stem_inj h)⟩

section

variable (he : '/' ∉ g.collaborators.extension.toList)
  (nul : '\x00' ∉ g.collaborators.extension.toList)
include he nul

theorem handlerTarget_isFileIn (output : Path) (path : String) :
    (g.handlerTarget output path).IsFileIn (output.child handlerDir) (g.fileName (handlerName path)) := by
  rw [handlerTarget_eq]
  refine Path.child_isFileIn _ (isName_handler he path) (nul_not_mem_fileName nul ?_)
  rw [handlerName, String.toList_append, List.mem_append, not_or]
  exact ⟨not_mem_modelName (by decide) path, by decide⟩

theorem hydratorTarget_isFileIn (output : Path) (name : String) :
    (g.hydratorTarget output name).IsFileIn (output.child hydratorDir) (g.fileName (hydratorName name)) := by
  rw [hydratorTarget_eq]
  refine Path.child_isFileIn _ (isName_hydrator he name) (nul_not_mem_fileName nul ?_)
  rw [hydratorName, String.toList_append, List.mem_append, not_or]
  exact ⟨not_mem_modelName (by decide) name, by decide⟩

theorem routesTarget_isFileIn (config : Path) :
    (g.routesTarget config).IsFileIn config (g.fileName routesStem) := by
  rw [routesTarget_eq]
  exact Path.child_isFileIn _ (isName_routes he) (nul_not_mem_fileName nul (by decide))

/-- Every artifact of a run is a file of its kind in its directory. -/
theorem mayWrite_of_mem (h : a ∈ g.artifacts d base output config) :
    g.MayWrite output config a.target := by
  rw [artifacts_eq, stubs, List.mem_append, List.mem_append, List.mem_singleton] at h
  rcases h with (h | h) | rfl
  · obtain ⟨⟨path, item⟩, -, rfl⟩ := List.mem_map.mp h
    rw [handlerArtifact_target]
    exact .inl ⟨modelName path, handlerTarget_isFileIn he nul output path⟩
  · obtain ⟨⟨name, schema⟩, -, rfl⟩ := List.mem_map.mp h
    rw [hydratorArtifact_target]
    exact .inr (.inl ⟨modelName name, hydratorTarget_isFileIn he nul output name⟩)
  · rw [tableArtifact_target]
    exact .inr (.inr (routesTarget_isFileIn he nul config))

end

/-- **No document leads out of the directories.** Whatever the paths and the names of schemas are,
and whatever the collaborators answer, every path that the writer of a run is given is a file
directly in the directory of handlers or in that of hydrators, each directly in the output
directory, or the route table directly in its directory, and its name has the ending of its kind. So
a handler, a hydrator and the route table have three different file names. Taking notes of these
paths changes neither what the run ends in nor its calls nor what it leaves. -/
theorem writes_are_confined (g : Codegen σ) (he : '/' ∉ g.collaborators.extension.toList)
    (nul : '\x00' ∉ g.collaborators.extension.toList) (d : Document) (base : String) (output config : Path)
    (s : RunState (σ × List Path)) :
    (∃ paths, ((g.noting.run d base output config).start s).2.world.2 = s.world.2 ++ paths ∧
      ∀ p ∈ paths, g.MayWrite output config p) ∧
    (output.child handlerDir).components = output.components ++ [.name handlerDir] ∧
    (output.child hydratorDir).components = output.components ++ [.name hydratorDir] ∧
    (∀ path name, ∃ handler hydrator routes, (g.handlerTarget output path).fileName? = some handler ∧
      (g.hydratorTarget output name).fileName? = some hydrator ∧
        (g.routesTarget config).fileName? = some routes ∧
      handler ≠ hydrator ∧ handler ≠ routes ∧ hydrator ≠ routes) ∧
    ((g.noting.run d base output config).start s).1 = ((g.run d base output config).start s.withoutNotes).1 ∧
    ((g.noting.run d base output config).start s).2.calls
      = ((g.run d base output config).start s.withoutNotes).2.calls ∧
    ((g.noting.run d base output config).start s).2.world.1
      = ((g.run d base output config).start s.withoutNotes).2.world := by
  obtain ⟨calls, outcomes, ends, hc, blocks⟩ := g.noting.run_ends d base output config s
  obtain ⟨calls', outcomes', ends', hc', blocks'⟩ := g.run_ends d base output config s.withoutNotes
  obtain ⟨blocks, paths, noted, targets⟩ := Blocks.of_noting (c := g.collaborators) blocks
  obtain ⟨rfl, rfl, world⟩ := blocks.det blocks'
  refine ⟨⟨paths, noted, fun p hp => ?_⟩, Path.child_components _ isName_handlerDir,
    Path.child_components _ isName_hydratorDir, fun path name => ?_, ends.trans ends'.symm,
    hc.trans hc'.symm, world⟩
  · obtain ⟨a, ha, rfl⟩ := targets p hp
    have ha : a ∈ g.artifacts d base output config := ha
    exact mayWrite_of_mem he nul ha
  · exact ⟨_, _, _, (handlerTarget_isFileIn he nul output path).fileName?,
      (hydratorTarget_isFileIn he nul output name).fileName?, (routesTarget_isFileIn he nul config).fileName?,
      g.fileNames_differ path name⟩

end Codegen

/-- A document with a path and a schema whose names lead elsewhere. -/
def outsiders : Document where
  openapi := "3.0.3"
  title := "Outsiders"
  version := "1"
  paths := [("/../../x", .item { operations := [(.get, {})] })]
  components := some { schemas := [("../../etc/passwd", .item (.mk false .string))] }

/-- The generators of a configuration that keeps what is in `out`, taking notes of what they
write. -/
def notingOut : Codegen (FileTree × List Path) := (Config.codegen .php shortTemplates outRules).noting

/-- Their files lie in the directories of handlers and hydrators. -/
theorem outsiders_are_confined :
    ((notingOut.run outsiders "App" intoOut.output intoOut.routesDir).start { world := (emptyTree, []) }).2.world.2
      = [⟨"out/Handler/XHandler.php"⟩, ⟨"out/Hydrator/EtcPasswdHydrator.php"⟩,
        ⟨"out/config/swagger.routes.php"⟩] ∧
    ∀ p ∈ ((notingOut.run outsiders "App" intoOut.output intoOut.routesDir).start
        { world := (emptyTree, []) }).2.world.2,
      (Config.codegen .php shortTemplates outRules).MayWrite intoOut.output intoOut.routesDir p := by
  obtain ⟨slash, nul⟩ := TargetKind.extension_isPlain .php
  obtain ⟨⟨paths, noted, confined⟩, -⟩ :=
    (Config.codegen .php shortTemplates outRules).writes_are_confined slash nul
      outsiders "App" intoOut.output intoOut.routesDir { world := (emptyTree, []) }
  refine ⟨by decide +kernel, fun p hp => confined p ?_⟩
  rw [notingOut, noted] at hp
  exact hp

end ApiStubs
