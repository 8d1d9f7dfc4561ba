import ApiStubs.Proofs.Generations
import ApiStubs.Proofs.Overwriting
import ApiStubs.Proofs.Regeneration

/-!
# The route table of the current document

The route table has the routes of all operations, so an old one is out of date as soon as the
document has another operation. It is meant to be kept by patterns only. But unless files may be
overwritten, what is there is kept everywhere below the directories of handlers and hydrators, and
nothing forbids to put the route table there (`KeepsTable`); from the second generation on, it then
stays as it was.

In every other directory, and in these as long as there is no table, a generation that ends well
leaves the table of its document, or the table was kept by a pattern. This does not depend on what
was generated before: the handlers and hydrators that are made first have other names, so none of
them touches the file of the route table.

## What is proved

* `ignores_table_iff`: what keeps the route table.
* `not_keepsTable`: the standard directory is none of those that keep the table.
* `holdsTable_of_made`: what is in a table that is made.
* `route_table_is_current`: when a generation brings the route table up to date.
-/

namespace ApiStubs

/-! ### Below a directory -/

namespace Path

variable {p base : Path} {name dir : String}

/-- A file lies below a directory of another name if the directory that it is in does. -/
theorem child_isBelow_iff (hn : IsName name) (hd : IsName dir) (ne : name ≠ dir) :
    (p.child name).isBelow (base.child dir) = true ↔ p.isBelow (base.child dir) = true := by
  rw [isBelow_iff, isBelow_iff, p.child_components hn, base.child_components hd,
    List.prefix_concat_iff]
  refine or_iff_right fun same => ne ?_
  have last := (List.append_inj' same rfl).2
  simpa using last.symm

/-- A directory does not lie below a sister. -/
theorem not_child_isBelow (hn : IsName name) (hd : IsName dir) (ne : name ≠ dir) :
    ¬ (p.child name).isBelow (p.child dir) = true := by
  rw [child_isBelow_iff hn hd ne, isBelow_iff, p.child_components hd]
  intro longer
  have length := longer.length_le
  rw [List.length_append, List.length_singleton] at length
  omega

end Path

namespace Config

/-! ### The file of the route table -/

variable {c : Config} {t : FileTree} {rules : IgnoreRules} {lines : List LogLine}

/-- The path of the route table. -/
def table (c : Config) (kind : TargetKind) :
    Path := c.routesDir.child (routesStem ++ "." ++ kind.extension)

/-- What is at the path of the route table is kept, as handlers and hydrators are. -/
def KeepsTable (c : Config) : Prop := c.overwrite = false ∧ c.output.IsStubOf c.routesDir

theorem isName_table (kind : TargetKind) : Path.IsName (routesStem ++ "." ++ kind.extension) := by
  cases kind <;> constructor <;> decide

theorem table_isFile (c : Config) (kind : TargetKind) : (c.table kind).IsFile :=
  ⟨c.routesDir, _, isName_table kind, rfl⟩

theorem isStubOf_table_iff (c : Config) (kind : TargetKind) :
    c.output.IsStubOf (c.table kind) ↔ c.output.IsStubOf c.routesDir := by
  have hn := isName_table kind
  have ne : ∀ dir, '.' ∉ dir.toList → routesStem ++ "." ++ kind.extension ≠ dir := by
    rintro _ no rfl
    simp at no
  unfold Path.IsStubOf table
  rw [Path.child_isBelow_iff hn isName_handlerDir (ne _ (by decide)),
    Path.child_isBelow_iff hn isName_hydratorDir (ne _ (by decide))]

/-- **What keeps the route table**: a pattern, or a table directory in that of handlers or
hydrators. -/
theorem ignores_table_iff (h : c.ignoreRules t = .ok (rules, lines)) (w : FileTree)
    (kind : TargetKind) :
    rules.ignores w (c.table kind) = true ↔
      rules.matchesPattern (c.table kind) = true ∨
        c.KeepsTable ∧ w.holds (c.table kind) = true := by
  obtain ⟨r, found, rfl⟩ := ignoreRules_ok h
  rw [← protectStubs, ignores_protectStubs_iff (protectedDirs_patternRules found),
    matchesPattern_protectStubs, or_comm, Keeps, isStubOf_table_iff, ← and_assoc, ← KeepsTable]

/-- The standard directory is neither that of handlers nor that of hydrators. -/
theorem not_keepsTable (unnamed : c.configDir = none) : ¬ c.KeepsTable := by
  rintro ⟨-, stub⟩
  have dir : c.routesDir = c.output.child defaultConfigDir := by rw [routesDir, unnamed]
  have hn : Path.IsName defaultConfigDir := by constructor <;> decide
  rw [dir] at stub
  rcases stub with below | below
  · exact Path.not_child_isBelow hn isName_handlerDir (by decide) below
  · exact Path.not_child_isBelow hn isName_hydratorDir (by decide) below

end Config

/-! ### Generations -/

namespace Config

variable {c : Config} {d : Document} {kind : TargetKind} {l : TemplateLibrary} {rules : IgnoreRules}
  {w ended : FileTree} {calls : List Call} {outcomes : List Outcome}

/-- The file holds the table of the routes of the document: one for every endpoint, in order, and as
the library renders them. -/
def HoldsTable (c : Config) (kind : TargetKind) (l : TemplateLibrary) (d : Document)
    (t : FileTree) : Prop :=
  ∃ routes text, List.Forall₂ (fun x r => x.route ⟨kind.separator⟩ d c.space = .ok r) d.endpoints routes ∧
    (∀ w, (l.renderWith w routesTemplate (routesPayload routes)).1 = .ok text) ∧
    t.readText (c.table kind) = .ok text

theorem tableArtifact_target_eq (c : Config) (d : Document) (kind : TargetKind)
    (l : TemplateLibrary) (rules : IgnoreRules) :
    ((codegen kind l rules).tableArtifact d c.space c.routesDir).target = c.table kind := by
  rw [Codegen.tableArtifact_target, Codegen.routesTarget_eq]
  rfl

theorem codegen_policy (kind : TargetKind) (l : TemplateLibrary) (rules : IgnoreRules) :
    (codegen kind l rules).collaborators.policy = rules.ignores := rfl

theorem codegen_writer (kind : TargetKind) (l : TemplateLibrary) (rules : IgnoreRules) :
    (codegen kind l rules).collaborators.writer = Writer.files := rfl

/-- A route table that is made is that of the document. -/
theorem holdsTable_of_made
    (block : Block (codegen kind l rules).collaborators
      ((codegen kind l rules).tableArtifact d c.space c.routesDir)
      w calls .made ended) : c.HoldsTable kind l d ended := by
  obtain ⟨json, text, -, payload, rendered, written, -⟩ := block.of_made rfl
  rw [tableArtifact_target_eq] at written
  obtain ⟨routes, found, rfl⟩ :=
    (Codegen.tableArtifact_payload_eq_ok_iff _ d c.space c.routesDir).mp payload
  rw [Codegen.tableArtifact_key] at rendered
  refine ⟨routes, text, Document.forall₂_routeList found, fun t => ?_, ?_⟩
  · exact l.renderer_isSteady id w t _ _ _ rendered
  · rw [FileTree.readText, FileTree.find_of_writeFile (c.table_isFile kind) written]

/-- Handlers and hydrators do not touch the file of the route table. -/
theorem find_table {content : Content}
    (stubs : Blocks (codegen kind l rules).collaborators ((codegen kind l rules).stubs d c.space c.output)
      w calls outcomes ended) (there : w.find (c.table kind) = .ok (.file content)) :
    ended.find (c.table kind) = .ok (.file content) := by
  have he := Codegen.slash_not_mem_extension kind l rules
  refine stubs.find_file rfl (fun a ha => ?_) there fun x hx => .inr fun current => ?_
  · exact Codegen.isFile_of_mem he (Codegen.mem_artifacts_of_mem_stubs c.routesDir ha)
  · rw [← tableArtifact_target_eq c d kind l rules, Codegen.tableArtifact_target]
    exact Codegen.place_ne_of_mem_stubs he (List.of_mem_zip hx).1 current

/-- A table that is there and not left alone is made anew. -/
theorem exists_made {routes : List Route} {content : Content} (serves : l.Serves)
    (free : rules.ignores w (c.table kind) = false) (there : w.find (c.table kind) = .ok (.file content))
    (found : d.routeList ⟨kind.separator⟩ c.space = .ok routes) :
    ∃ calls ended, Block (codegen kind l rules).collaborators
      ((codegen kind l rules).tableArtifact d c.space c.routesDir) w calls .made ended := by
  obtain ⟨text, rendered⟩ := serves.routes w routes
  obtain ⟨lines, written⟩ :=
    Writer.files_of_writeFile (FileTree.writeFile_of_find (c.table_isFile kind) there text)
  rw [← codegen_policy kind l, ← tableArtifact_target_eq c d kind l rules] at free
  rw [← codegen_writer kind l rules, ← tableArtifact_target_eq c d kind l rules] at written
  have payload : ((codegen kind l rules).tableArtifact d c.space c.routesDir).payload
      = .ok (routesPayload routes) :=
    (Codegen.tableArtifact_payload_eq_ok_iff _ d c.space c.routesDir).mpr ⟨routes, found, rfl⟩
  refine ⟨_, _, .made free payload ?_ written⟩
  rw [Codegen.tableArtifact_key]
  exact rendered

/-- **When a generation brings the route table up to date.** The rules of a configuration leave the
route table alone if a pattern matches it, or if it is there and its directory lies below that of
handlers or of hydrators and files may not be overwritten, which is not so in the standard
directory. A generation that ends well asks about the table after all handlers and hydrators. It
writes the table unless one of the two is so at that moment; a table that is written has one route
for every endpoint of the document that was read, and one that is not stays as it was. -/
theorem route_table_is_current (c : Config) :
    (c.configDir = none → ¬ c.KeepsTable) ∧
    (∀ t rules lines, c.ignoreRules t = .ok (rules, lines) → ∀ w kind,
      (rules.ignores w (c.table kind) = true ↔
        rules.matchesPattern (c.table kind) = true ∨
          c.KeepsTable ∧ w.holds (c.table kind) = true)) ∧
    ∀ environment (s : RunState FileTree) report, ((c.generate environment).start s).1 = .ok report →
      ∃ d kind l rules before after, c.Prepared environment s.world d kind l rules ∧
        ((c.generate environment).start s).2.calls
          = s.calls ++ before ++ .asked (c.table kind) (!report.routesWritten) :: after ∧
        (report.routesWritten = true ↔ rules.matchesPattern (c.table kind) = false ∧
          ¬ (c.KeepsTable ∧ (s.world.after before).holds (c.table kind) = true)) ∧
        (report.routesWritten = true → c.HoldsTable kind l d ((c.generate environment).start s).2.world) ∧
        (report.routesWritten = false → ∀ content, s.world.find (c.table kind) = .ok (.file content) →
          ((c.generate environment).start s).2.world.find (c.table kind)
            = .ok (.file content)) := by
  refine ⟨not_keepsTable, fun t rules lines h w kind => ignores_table_iff h w kind,
    fun environment s report ends => ?_⟩
  obtain ⟨d, kind, l, rules, calls, outcomes, prepared, hc, blocks, done, rfl⟩ :=
    exists_prepared ends
  obtain ⟨lines, found⟩ := prepared.rules
  obtain ⟨before, rest, stubs, o, w₁, rfl, rfl, front, done₁, block, complete⟩ :=
    Codegen.exists_table_block blocks done
  obtain rfl :=
    front.after_eq rfl (fun a ha => Codegen.isFile_of_mem (Codegen.slash_not_mem_extension kind l rules)
      (Codegen.mem_artifacts_of_mem_stubs c.routesDir ha)) done₁
  have written : ((codegen kind l rules).reportOf d c.space c.output (stubs ++ [o])).routesWritten = true ↔
      o = .made := by
    simp [Codegen.reportOf]
  obtain ⟨after, rfl⟩ := block.exists_asked
  have answer := block.made_iff complete
  rw [tableArtifact_target_eq, codegen_policy] at answer
  rw [tableArtifact_target_eq, codegen_policy] at hc
  refine ⟨d, kind, l, rules, before, after, prepared, ?_, ?_, fun made => ?_,
    fun unmade content there => ?_⟩
  · have same : rules.ignores (s.world.after before) (c.table kind)
        = !((codegen kind l rules).reportOf d c.space c.output (stubs ++ [o])).routesWritten := by
      rw [Bool.eq_iff_iff, Bool.not_eq_true', ← Bool.not_eq_true, written, answer,
        Bool.not_eq_false]
    rw [hc, same, List.append_assoc]
  · rw [written, answer, ← Bool.not_eq_true, ignores_table_iff found, not_or, Bool.not_eq_true]
  · obtain rfl := written.mp made
    exact holdsTable_of_made block
  · have left : rules.ignores (s.world.after before) (c.table kind) = true := by
      rw [← Bool.not_eq_false, ← answer, ← written, unmade]
      exact Bool.false_ne_true
    rw [← codegen_policy kind l, ← tableArtifact_target_eq c d kind l rules] at left
    rw [(block.leftAlone_of_policy left).2.1]
    exact find_table front there

end Config

/-! ### A table in the directory of handlers -/

/-- A document with one path, as JSON. -/
def petsText : String :=
  "\x7b\"openapi\":\"3.0.3\",\"info\":\x7b\"title\":\"Pets\",\"version\":\"1\"\x7d,"
    ++ "\"paths\":\x7b\"/pets\":\x7b\"get\":\x7b\"responses\":\x7b\x7d\x7d\x7d\x7d\x7d"

/-- A tree with the document, its handler and two tables, all written before. -/
def petsTree : FileTree where
  entries := [
    (["w"], .directory), (["w", "pets.json"], .file (.text petsText)), (["w", "out"], .directory),
    (["w", "out", "Handler"], .directory), (["w", "out", "Handler", "PetsHandler.rs"], .file (.text "mine")),
    (["w", "out", "Handler", "swagger.routes.rs"], .file (.text "old")),
    (["w", "out", "config"], .directory), (["w", "out", "config", "swagger.routes.rs"], .file (.text "old"))]
  current := ["w"]

/-- A configuration with a table in the directory of tables. -/
def petsConfig : Config := { intoOut with spec := "pets.json" }

/-- A configuration with a table in the directory of handlers. -/
def amongHandlers : Config := { petsConfig with configDir := some "out/Handler" }

theorem petsTree_document : ∃ d, Document.ofSource petsTree "pets.json" = .ok d ∧
    d.inlinePaths.map Prod.fst = ["/pets"] ∧ d.inlineSchemas.isEmpty = true ∧
      d.endpoints.length = 1 ∧
    (d.routeList ⟨"::"⟩ "App").toOption.isSome = true := by
  have read : ((Document.ofSource petsTree "pets.json").toOption.any fun d =>
      d.inlinePaths.map Prod.fst == ["/pets"] && d.inlineSchemas.isEmpty && d.endpoints.length == 1 &&
      (d.routeList ⟨"::"⟩ "App").toOption.isSome) = true := by decide +kernel
  cases found : Document.ofSource petsTree "pets.json" with
  | error e =>
    rw [found] at read
    cases read
  | ok d =>
    rw [found] at read
    simp only [Except.toOption, Option.any_some, Bool.and_eq_true, beq_iff_eq] at read
    obtain ⟨⟨⟨paths, schemas⟩, endpoints⟩, routes⟩ := read
    exact ⟨d, rfl, paths, schemas, endpoints, routes⟩

/-- The handler of the document is there, and kept. -/
theorem petsTree_stubs {c : Config} (output : c.output = ⟨"out"⟩) {d : Document}
    (paths : d.inlinePaths.map Prod.fst = ["/pets"]) (schemas : d.inlineSchemas.isEmpty = true)
    (l : TemplateLibrary) :
    ∀ a ∈ (Config.codegen .rust l outRules).stubs d c.space c.output,
      outRules.ignores petsTree a.target = true := by
  intro a ha
  have kept : outRules.ignores petsTree ⟨"out/Handler/PetsHandler.rs"⟩ = true := by decide +kernel
  have spelled : (Path.child ⟨"out"⟩ handlerDir).child (handlerName "/pets" ++ "." ++ TargetKind.extension .rust)
      = ⟨"out/Handler/PetsHandler.rs"⟩ := by decide +kernel
  rcases List.mem_append.mp ha with ha | ha
  · obtain ⟨entry, he, rfl⟩ := List.mem_map.mp ha
    have path : entry.1 = "/pets" := by simpa [paths] using List.mem_map_of_mem (f := Prod.fst) he
    rw [Codegen.handlerArtifact_target, Codegen.handlerTarget_eq, path, output]
    exact spelled ▸ kept
  · rw [Codegen.hydratorArtifacts, List.isEmpty_iff.mp schemas] at ha
    cases ha

/-- The tree has what generations into `out` read. -/
theorem petsTree_prepared {c : Config} (spec : c.spec = "pets.json") (kind : c.kind = .ok .rust)
    (templates : c.templateDir = none) (rules : c.ignoreRules petsTree = .ok (outRules, [])) :
    ∃ d l, c.Prepared {} petsTree d .rust l outRules ∧ l.Serves ∧
      d.inlinePaths.map Prod.fst = ["/pets"] ∧
      d.inlineSchemas.isEmpty = true ∧ d.endpoints.length = 1 ∧
      (d.routeList ⟨"::"⟩ "App").toOption.isSome = true := by
  obtain ⟨d, document, facts⟩ := petsTree_document
  obtain ⟨l, -, serves, library⟩ : ∃ l, TemplateLibrary.builtin .rust = .ok l ∧ l.Serves ∧
      c.libraryIn {} petsTree .rust = .ok l := Config.exists_libraryIn templates (by decide +kernel) .rust
  exact ⟨d, l, ⟨by rw [spec, document], kind, library, _, rules⟩, serves, facts⟩

/-- In the directory of tables, the old table makes way for that of the document. -/
theorem pets_table_is_current :
    petsConfig.configDir = none ∧ petsConfig.ignoreRules petsTree = .ok (outRules, []) ∧
    ∃ report d l, ((petsConfig.generate {}).start { world := petsTree }).1 = .ok report ∧
      report.routesWritten = true ∧ Document.ofSource petsTree "pets.json" = .ok d ∧
      petsConfig.HoldsTable .rust l d ((petsConfig.generate {}).start { world := petsTree }).2.world := by
  have rules : petsConfig.ignoreRules petsTree = .ok (outRules, []) :=
    eq_ok_of_toOption (by decide +kernel)
  have free : outRules.ignores petsTree (petsConfig.table .rust) = false := by decide +kernel
  obtain ⟨d, l, prepared, serves, paths, schemas, -, listed⟩ :=
    petsTree_prepared (c := petsConfig) rfl rfl rfl rules
  obtain ⟨calls, stubs⟩ := Blocks.of_policy (c := (Config.codegen .rust l outRules).collaborators)
    (petsTree_stubs (c := petsConfig) rfl paths schemas l)
  obtain ⟨routes, found⟩ : ∃ routes, d.routeList ⟨"::"⟩ "App" = .ok routes := by
    cases h : d.routeList ⟨"::"⟩ "App" with
    | error e => simp [h, Except.toOption] at listed
    | ok routes => exact ⟨routes, rfl⟩
  have there : petsTree.find (petsConfig.table .rust) = .ok (.file (.text "old")) :=
    eq_ok_of_toOption (by decide +kernel)
  obtain ⟨calls', w', table⟩ := Config.exists_made (c := petsConfig) serves free there found
  obtain ⟨ends, -⟩ := prepared.ends (s := { world := petsTree })
    (stubs.append (outcomesResult_leftAlone _ ()) (.single table)) (by
      rw [outcomesResult_append_of_ok (outcomesResult_leftAlone _ ())]
      rfl)
  rw [Codegen.reportOf_leftAlone] at ends
  obtain ⟨-, -, current⟩ := Config.route_table_is_current petsConfig
  obtain ⟨d', kind, l', _, _, _, prepared', -, -, holds, -⟩ :=
    current {} { world := petsTree } _ ends
  obtain rfl := Except.ok.inj (prepared.named.symm.trans prepared'.named)
  exact ⟨rfl, rules, _, d', l', ends, rfl, prepared'.document, holds rfl⟩

/-- In the directory of handlers, the old table stays, though no pattern says so and the document
has a route that it does not have. -/
theorem old_table_stays :
    amongHandlers.ignoreRules petsTree = .ok (outRules, []) ∧ outRules.patterns = [] ∧
    outRules.ignores petsTree (amongHandlers.table .rust) = true ∧
    ∃ report d, ((amongHandlers.generate {}).start { world := petsTree }).1 = .ok report ∧
      report.routesWritten = false ∧ Document.ofSource petsTree "pets.json" = .ok d ∧
        d.endpoints.length = 1 ∧
      ((amongHandlers.generate {}).start { world := petsTree }).2.world.readText (amongHandlers.table .rust)
        = .ok "old" := by
  have rules : amongHandlers.ignoreRules petsTree = .ok (outRules, []) :=
    eq_ok_of_toOption (by decide +kernel)
  have kept : outRules.ignores petsTree (amongHandlers.table .rust) = true := by decide +kernel
  have old : petsTree.readText (amongHandlers.table .rust) = .ok "old" :=
    eq_ok_of_toOption (by decide +kernel)
  obtain ⟨d, l, prepared, -, paths, schemas, endpoints, -⟩ :=
    petsTree_prepared (c := amongHandlers) rfl rfl rfl rules
  have all : ∀ a ∈ (Config.codegen .rust l outRules).artifacts d amongHandlers.space
        amongHandlers.output amongHandlers.routesDir,
      (Config.codegen .rust l outRules).collaborators.policy petsTree a.target = true := by
    rw [Config.codegen_policy, Codegen.artifacts_eq, List.forall_mem_append]
    refine ⟨petsTree_stubs rfl paths schemas l, fun a ha => ?_⟩
    rw [List.mem_singleton.mp ha, Config.tableArtifact_target_eq amongHandlers d]
    exact kept
  obtain ⟨calls, blocks⟩ := Blocks.of_policy all
  obtain ⟨ends, tree⟩ :=
    prepared.ends (s := { world := petsTree }) blocks (outcomesResult_leftAlone _ ())
  rw [Codegen.artifacts_eq, List.map_append, List.map_singleton, Codegen.reportOf_leftAlone] at ends
  exact ⟨rules, rfl, kept, _, d, ends, rfl, prepared.document, endpoints, by rw [tree, old]⟩

end ApiStubs
