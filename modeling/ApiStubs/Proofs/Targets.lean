import ApiStubs.Proofs.FileNames
import ApiStubs.Proofs.FileRuns

/-!
# The files of a run

Every artifact of a run is one file in one of three directories, and its name tells which. So two
handlers or hydrators that spell the same place have the same target, and the route table never
takes the place of one of them.
-/

namespace ApiStubs

variable {σ : Type}

/-- The path lies in the directory of handlers or in that of hydrators. -/
def Path.IsStubOf (output p : Path) : Prop :=
  p.isBelow (output.child handlerDir) = true ∨ p.isBelow (output.child hydratorDir) = true

theorem isName_handlerDir : Path.IsName handlerDir := by constructor <;> decide

theorem isName_hydratorDir : Path.IsName hydratorDir := by constructor <;> decide

namespace Codegen

variable (g : Codegen σ) (d : Document) (base : String) (output config : Path)

/-- The name of the file of an artifact. -/
def fileName (stem : String) : String := stem ++ "." ++ g.collaborators.extension

/-- The handlers and the hydrators. -/
def stubs : List Artifact := g.handlerArtifacts d base output ++ g.hydratorArtifacts d base output

theorem artifacts_eq :
    g.artifacts d base output config = g.stubs d base output ++ [g.tableArtifact d base config] := rfl

theorem handlerTarget_eq (path : String) :
    g.handlerTarget output path = (output.child handlerDir).child (g.fileName (handlerName path)) := by
  simp only [handlerTarget, Collaborators.artifactPath, fileName]

theorem hydratorTarget_eq (name : String) :
    g.hydratorTarget output name = (output.child hydratorDir).child (g.fileName (hydratorName name)) := by
  simp only [hydratorTarget, Collaborators.artifactPath, fileName]

theorem routesTarget_eq : g.routesTarget config = config.child (g.fileName routesStem) := by
  simp only [routesTarget, Collaborators.artifactPath, fileName]

variable {g d base output config} {a b : Artifact}

/-- A handler is one of a path, and in the directory of handlers. -/
theorem of_mem_handlerArtifacts (h : a ∈ g.handlerArtifacts d base output) :
    ∃ path, a.name = handlerName path ∧ a.news = [] ∧
      a.target = (output.child handlerDir).child (g.fileName a.name) := by
  obtain ⟨⟨path, item⟩, -, rfl⟩ := List.mem_map.mp h
  refine ⟨path, g.handlerArtifact_name .., g.handlerArtifact_news .., ?_⟩
  rw [handlerArtifact_target, handlerTarget_eq, handlerArtifact_name]

/-- A hydrator is one of a schema, and in the directory of hydrators. -/
theorem of_mem_hydratorArtifacts (h : a ∈ g.hydratorArtifacts d base output) :
    ∃ name event, a.name = hydratorName name ∧ a.news = [.announced generatedEventName event] ∧
      a.target = (output.child hydratorDir).child (g.fileName a.name) := by
  obtain ⟨⟨name, schema⟩, -, rfl⟩ := List.mem_map.mp h
  refine ⟨name, _, g.hydratorArtifact_name .., g.hydratorArtifact_news .., ?_⟩
  rw [hydratorArtifact_target, hydratorTarget_eq, hydratorArtifact_name]

theorem mem_artifacts_of_mem_stubs (config : Path) (h : a ∈ g.stubs d base output) :
    a ∈ g.artifacts d base output config := List.mem_append_left _ h

/-! ### Names of files -/

theorem isName_handler (he : '/' ∉ g.collaborators.extension.toList) (path : String) :
    Path.IsName (g.fileName (handlerName path)) :=
  isName_of_modelName path (by decide) (by decide) he

theorem isName_hydrator (he : '/' ∉ g.collaborators.extension.toList) (name : String) :
    Path.IsName (g.fileName (hydratorName name)) :=
  isName_of_modelName name (by decide) (by decide) he

theorem isName_routes (he : '/' ∉ g.collaborators.extension.toList) :
    Path.IsName (g.fileName routesStem) :=
  isName_of_stem (by decide) (by decide) he

/-- No artifact has a name that starts with a dot. -/
theorem head_name_ne_dot (ha : a ∈ g.artifacts d base output config) :
    ∃ first rest, a.name.toList = first :: rest ∧ first ≠ '.' := by
  have model : ∀ text suffix first rest, suffix.toList = first :: rest → first ≠ '.' →
      ∃ first rest, (modelName text ++ suffix).toList = first :: rest ∧ first ≠ '.' := by
    intro text suffix first rest hs ne
    rw [String.toList_append]
    cases hm : (modelName text).toList with
    | nil => exact ⟨first, rest, by rw [hs, List.nil_append], ne⟩
    | cons c cs =>
      refine ⟨c, _, List.cons_append, ?_⟩
      rintro rfl
      exact not_mem_modelName (by decide) text (hm ▸ List.mem_cons_self)
  rw [artifacts_eq, stubs, List.mem_append, List.mem_append, List.mem_singleton] at ha
  rcases ha with (ha | ha) | rfl
  · obtain ⟨path, name, -⟩ := of_mem_handlerArtifacts ha
    rw [name]
    exact model path handlerSuffix _ _ rfl (by decide)
  · obtain ⟨schema, -, name, -⟩ := of_mem_hydratorArtifacts ha
    rw [name]
    exact model schema hydratorSuffix _ _ rfl (by decide)
  · rw [tableArtifact_name]
    exact ⟨_, _, rfl, by decide⟩

/-- A handler or hydrator is a file in its directory. -/
theorem exists_dir_of_mem_stubs (he : '/' ∉ g.collaborators.extension.toList)
    (h : a ∈ g.stubs d base output) :
    ∃ dir, (dir = handlerDir ∨ dir = hydratorDir) ∧ Path.IsName (g.fileName a.name) ∧
      a.target = (output.child dir).child (g.fileName a.name) := by
  rcases List.mem_append.mp h with h | h
  · obtain ⟨path, name, -, target⟩ := of_mem_handlerArtifacts h
    refine ⟨handlerDir, .inl rfl, ?_, target⟩
    rw [name]
    exact isName_handler he path
  · obtain ⟨schema, event, name, -, target⟩ := of_mem_hydratorArtifacts h
    refine ⟨hydratorDir, .inr rfl, ?_, target⟩
    rw [name]
    exact isName_hydrator he schema

/-- Every artifact is a file in a directory, with its name. -/
theorem exists_dir_of_mem (he : '/' ∉ g.collaborators.extension.toList)
    (h : a ∈ g.artifacts d base output config) :
    ∃ dir : Path, Path.IsName (g.fileName a.name) ∧ a.target = dir.child (g.fileName a.name) := by
  rw [artifacts_eq, List.mem_append, List.mem_singleton] at h
  rcases h with h | rfl
  · obtain ⟨dir, -, hn, target⟩ := exists_dir_of_mem_stubs he h
    exact ⟨_, hn, target⟩
  · rw [tableArtifact_name, tableArtifact_target]
    exact ⟨config, isName_routes he, routesTarget_eq g config⟩

theorem hasNews_of_mem (h : a ∈ g.artifacts d base output config) : a.HasNews := by
  unfold Artifact.HasNews
  rw [artifacts_eq, stubs, List.mem_append, List.mem_append, List.mem_singleton] at h
  rcases h with (h | h) | rfl
  · obtain ⟨path, -, news, -⟩ := of_mem_handlerArtifacts h
    simp [news]
  · obtain ⟨schema, event, -, news, -⟩ := of_mem_hydratorArtifacts h
    simp [news]
  · simp

theorem isFile_of_mem (he : '/' ∉ g.collaborators.extension.toList)
    (h : a ∈ g.artifacts d base output config) : a.IsFile := by
  obtain ⟨dir, hn, target⟩ := exists_dir_of_mem he h
  exact ⟨⟨dir, _, hn, target⟩, hasNews_of_mem h⟩

/-- Handlers and hydrators lie in their directories. -/
theorem isStubOf_of_mem (he : '/' ∉ g.collaborators.extension.toList)
    (h : a ∈ g.stubs d base output) : output.IsStubOf a.target := by
  obtain ⟨dir, hd, hn, target⟩ := exists_dir_of_mem_stubs he h
  have below := Path.child_isBelow (output.child dir) _ hn (Path.isBelow_self _)
  rw [target]
  rcases hd with rfl | rfl
  · exact .inl below
  · exact .inr below

/-! ### Different targets, different places -/

theorem handlerName_ne_routesStem (path : String) : handlerName path ≠ routesStem :=
  ne_of_getLast? (n := 0) (by simp [handlerName, handlerSuffix, routesStem])

theorem hydratorName_ne_routesStem (name : String) : hydratorName name ≠ routesStem :=
  ne_of_getLast? (n := 0) (by simp [hydratorName, hydratorSuffix, routesStem])

/-- No handler and no hydrator has the name of the route table. -/
theorem name_ne_routesStem (h : a ∈ g.stubs d base output) : a.name ≠ routesStem := by
  rcases List.mem_append.mp h with h | h
  · obtain ⟨path, name, -⟩ := of_mem_handlerArtifacts h
    exact name ▸ handlerName_ne_routesStem path
  · obtain ⟨schema, -, name, -⟩ := of_mem_hydratorArtifacts h
    exact name ▸ hydratorName_ne_routesStem schema

/-- The place of an artifact ends in the name of its file. -/
theorem getLast?_place (he : '/' ∉ g.collaborators.extension.toList)
    (h : a ∈ g.artifacts d base output config) (current : Place) :
    (a.target.place current).getLast? = some (g.fileName a.name) := by
  obtain ⟨dir, hn, target⟩ := exists_dir_of_mem he h
  rw [target, Path.child_place _ _ hn, List.getLast?_concat]

/-- The name of a handler or hydrator tells its target. -/
theorem target_eq_of_name_eq (ha : a ∈ g.stubs d base output)
    (hb : b ∈ g.artifacts d base output config) (h : a.name = b.name) : a.target = b.target := by
  rw [artifacts_eq, List.mem_append, List.mem_singleton] at hb
  rcases hb with hb | rfl
  · rcases List.mem_append.mp ha with ha | ha <;> rcases List.mem_append.mp hb with hb | hb
    · obtain ⟨-, -, -, ha⟩ := of_mem_handlerArtifacts ha
      obtain ⟨-, -, -, hb⟩ := of_mem_handlerArtifacts hb
      rw [ha, hb, h]
    · obtain ⟨path, ha, -⟩ := of_mem_handlerArtifacts ha
      obtain ⟨schema, -, hb, -⟩ := of_mem_hydratorArtifacts hb
      exact absurd (ha.symm.trans (h.trans hb)) (handlerName_ne_hydratorName path schema)
    · obtain ⟨schema, -, ha, -⟩ := of_mem_hydratorArtifacts ha
      obtain ⟨path, hb, -⟩ := of_mem_handlerArtifacts hb
      exact absurd (hb.symm.trans (h.symm.trans ha)) (handlerName_ne_hydratorName path schema)
    · obtain ⟨-, -, -, -, ha⟩ := of_mem_hydratorArtifacts ha
      obtain ⟨-, -, -, -, hb⟩ := of_mem_hydratorArtifacts hb
      rw [ha, hb, h]
  · rw [tableArtifact_name] at h
    exact absurd h (name_ne_routesStem ha)

theorem name_eq_of_place_eq (he : '/' ∉ g.collaborators.extension.toList)
    (ha : a ∈ g.artifacts d base output config) (hb : b ∈ g.artifacts d base output config) {current : Place}
    (h : a.target.place current = b.target.place current) : a.name = b.name := by
  have hl := congrArg List.getLast? h
  rw [getLast?_place he ha, getLast?_place he hb] at hl
  exact stem_inj (Option.some.inj hl)

/-- No handler and no hydrator takes the place of the route table. -/
theorem place_ne_of_mem_stubs (he : '/' ∉ g.collaborators.extension.toList)
    (ha : a ∈ g.stubs d base output)
    (current : Place) : (g.routesTarget config).place current ≠ a.target.place current := by
  intro same
  have table : g.tableArtifact d base config ∈ g.artifacts d base output config :=
    List.mem_append_right _ (List.mem_singleton_self _)
  rw [← tableArtifact_target g d base] at same
  have name := name_eq_of_place_eq he (mem_artifacts_of_mem_stubs config ha) table same.symm
  rw [tableArtifact_name] at name
  exact name_ne_routesStem ha name

/-- **A handler or hydrator shares its place only with artifacts of the same target.** -/
theorem target_eq_of_place_eq (he : '/' ∉ g.collaborators.extension.toList)
    (ha : a ∈ g.stubs d base output) (hb : b ∈ g.artifacts d base output config) {current : Place}
    (h : a.target.place current = b.target.place current) : a.target = b.target :=
  target_eq_of_name_eq ha hb (name_eq_of_place_eq he (mem_artifacts_of_mem_stubs config ha) hb h)

/-! ### The last artifact -/

/-- A run that ends well comes to the route table, after the handlers and the hydrators. -/
theorem exists_table_block {c : Collaborators σ} {w w' : σ} {calls : List Call}
    {outcomes : List Outcome}
    (blocks : Blocks c (g.artifacts d base output config) w calls outcomes w')
    (done : outcomesResult outcomes () = .ok ()) :
    ∃ before rest stubs o w₁, calls = before ++ rest ∧ outcomes = stubs ++ [o] ∧
      Blocks c (g.stubs d base output) w before stubs w₁ ∧ outcomesResult stubs () = .ok () ∧
      Block c (g.tableArtifact d base config) w₁ rest o w' ∧ o.IsComplete := by
  rw [artifacts_eq] at blocks
  obtain ⟨before, rest, stubs, last, w₁, rfl, rfl, front, done₁, table, done⟩ := blocks.cut done
  cases table with
  | fail => simp [outcomesResult] at done
  | cons block complete none =>
    cases none
    exact ⟨before, _, stubs, _, w₁, by rw [List.append_nil], rfl, front, done₁, block, complete⟩

end Codegen

end ApiStubs
