import ApiStubs.Proofs.Blocks

/-!
# What a run does

Each generator makes the blocks of its artifacts. Along a list of artifacts that is an induction on
the list: the blocks of the rest follow the first block unless that is a failure. The three
generators are then put one after the other.
-/

namespace ApiStubs

variable {σ : Type}

/-! ### One artifact -/

/-- Whether an artifact was written. -/
def Outcome.written : Outcome → Except Error Bool
  | .leftAlone => .ok false
  | .made => .ok true
  | .failed e => .error e

/-- The name of an artifact, if it was written. -/
def Outcome.named (name : String) : Outcome → Except Error (Option String)
  | .leftAlone => .ok none
  | .made => .ok (some name)
  | .failed e => .error e

/-- An artifact that is not announced is made by `emit`. -/
theorem Collaborators.emit_makes (c : Collaborators σ) (a : Artifact) {json : Json}
    (payload : a.payload = .ok json) (news : a.news = []) (w : σ) :
    ∃ calls o w', Block c a w calls o w' ∧ (c.emit a.key json a.target).Does w o.written calls w' := by
  have ask := c.leavesAlone_does a.target w
  cases asked : c.policy w a.target with
  | true =>
    rw [asked] at ask
    exact ⟨_, _, _, .leftAlone asked, ask.bind_quiet (Run.Does.pure false w)⟩
  | false =>
    rw [asked] at ask
    rcases c.write_makes a asked payload with ⟨calls, w', write, block⟩ | ⟨e, calls, w', write, block⟩
    · rw [news, List.append_nil] at block
      exact ⟨_, _, _, block, ask.bind (write.bind_quiet (Run.Does.pure true w'))⟩
    · exact ⟨_, _, _, block, ask.bind (write.bind_error _)⟩

/-- An artifact whose template needs something that is looked up first is made by a program that
asks, looks it up, writes, and then only announces the artifact. -/
theorem Collaborators.lookup_makes (c : Collaborators σ) (a : Artifact) {lookup : Run σ β}
    {found : Except Error β} {toJson : β → Json} {behind : β → Run σ α}
    {ends : Outcome → Except Error α} {skipped : α} {w : σ} (looks : lookup.Does w found [] w)
    (payload : a.payload = (do return toJson (← found))) (leftAlone : ends .leftAlone = .ok skipped)
    (failed : ∀ e, ends (.failed e) = .error e)
    (made : ∀ b w', (behind b).Does w' (ends .made) a.news w') :
    ∃ calls o w', Block c a w calls o w' ∧
      (do
        if ← c.leavesAlone a.target then return skipped
        let b ← lookup
        c.write a.key (toJson b) a.target
        behind b : Run σ α).Does w (ends o) calls w' := by
  have ask := c.leavesAlone_does a.target w
  cases asked : c.policy w a.target with
  | true =>
    rw [asked] at ask
    refine ⟨_, _, _, .leftAlone asked, ask.bind_quiet ?_⟩
    rw [leftAlone]
    exact Run.Does.pure skipped w
  | false =>
    rw [asked] at ask
    cases found with
    | error e =>
      refine ⟨_, _, _, .unprepared asked payload, ask.bind_quiet ?_⟩
      rw [failed]
      exact looks.bind_error _
    | ok b =>
      rcases c.write_makes a asked payload with ⟨calls, w', write, block⟩ | ⟨e, calls, w', write, block⟩
      · refine ⟨_, _, _, block, ?_⟩
        rw [List.append_assoc]
        exact ask.bind (looks.bind (write.bind (made b w')))
      · refine ⟨_, _, _, block, ask.bind (looks.bind ?_)⟩
        rw [failed]
        exact write.bind_error _

namespace Codegen

variable (g : Codegen σ) (d : Document) (base : String) (output config : Path) (w : σ)

theorem handler_makes (path : String) (item : PathItem) :
    ∃ calls o w', Block g.collaborators (g.handlerArtifact base output (path, item)) w calls o w' ∧
      (g.handler output base path item).Does w (o.named (handlerName path)) calls w' := by
  obtain ⟨calls, o, w', block, emit⟩ := g.collaborators.emit_makes _
    (g.handlerArtifact_payload base output (path, item)) (g.handlerArtifact_news base output (path, item)) w
  refine ⟨calls, o, w', block, ?_⟩
  rw [handlerArtifact_key, handlerArtifact_target] at emit
  unfold handler
  cases o with
  | leftAlone => exact emit.bind_quiet (Run.Does.pure none w')
  | made => exact emit.bind_quiet ((Run.Does.say _ _ w').bind_quiet (Run.Does.pure _ w'))
  | failed e => exact emit.bind_error _

theorem hydrator_makes (name : String) (schema : Schema) :
    ∃ calls o w', Block g.collaborators (g.hydratorArtifact base output (name, schema)) w calls o w' ∧
      (g.hydrator output base name schema).Does w (o.named (hydratorName name)) calls w' := by
  have properties : (Run.ofLogged (g.properties schema name)).Does w (g.propertiesOf (name, schema)) [] w :=
    Run.Does.ofLogged _ w
  unfold hydrator
  rw [← g.hydratorArtifact_target base output (name, schema),
    ← g.hydratorArtifact_key base output (name, schema)]
  refine g.collaborators.lookup_makes _ properties (g.hydratorArtifact_payload base output (name, schema)) rfl
    (fun _ => rfl) fun ps w' => ?_
  have announce : (g.announce (hydratorName name)).Does w' (.ok ()) [_] w' :=
    (Run.Does.record _ w').bind_quiet (Run.Does.report _ w')
  rw [hydratorArtifact_news]
  exact announce.bind_quiet ((Run.Does.say _ _ w').bind_quiet (Run.Does.pure _ w'))

theorem routeTable_makes :
    ∃ calls o w', Block g.collaborators (g.tableArtifact d base config) w calls o w' ∧
      (g.routeTable d base config).Does w o.written calls w' := by
  unfold routeTable
  rw [← g.tableArtifact_target d base config, ← g.tableArtifact_key d base config]
  refine g.collaborators.lookup_makes _ (g.routes_computes d base w) (g.tableArtifact_payload d base config) rfl
    (fun _ => rfl) fun routes w' => ?_
  rw [tableArtifact_news]
  exact (Run.Does.say _ _ w').bind_quiet (Run.Does.pure true w')

/-! ### All artifacts -/

/-- The handlers of the paths that are written out, in order. -/
theorem forPaths_makes (paths : List (String × RefOr PathItem)) :
    ∃ calls outcomes w' found,
      Blocks g.collaborators ((inlineEntries paths).map (g.handlerArtifact base output)) w calls outcomes w' ∧
      (forPaths (fun path item => g.handler output base path item) paths).Does w
        (outcomesResult outcomes found) calls w' ∧
      found.filterMap id = madeNames ((inlineEntries paths).map (g.handlerArtifact base output)) outcomes := by
  induction paths generalizing w with
  | nil => exact ⟨_, _, _, [], .nil, Run.Does.pure [] w, rfl⟩
  | cons entry rest ih =>
    obtain ⟨path, pointer | item⟩ := entry
    · obtain ⟨calls, outcomes, w', found, blocks, does, names⟩ := ih w
      exact ⟨calls, outcomes, w', found, blocks, (Run.Does.report _ w).bind does, names⟩
    · obtain ⟨calls, o, w₁, block, first⟩ := g.handler_makes base output w path item
      obtain ⟨calls', outcomes, w', found, blocks, others, names⟩ := ih w₁
      rw [inlineEntries_item, List.map_cons]
      cases o with
      | failed e => exact ⟨_, _, _, [], .fail block, first.bind_error _, by simp [madeNames]⟩
      | leftAlone =>
        have others := others.map (none :: ·)
        rw [← outcomesResult_map] at others
        exact ⟨_, _, _, _, .cons block (by simp) blocks, first.bind others, names⟩
      | made =>
        have others := others.map (some (handlerName path) :: ·)
        rw [← outcomesResult_map] at others
        refine ⟨_, _, _, _, .cons block (by simp) blocks, first.bind others, ?_⟩
        rw [List.filterMap_cons_some (f := id) (a := some (handlerName path)) rfl, names, madeNames,
          handlerArtifact_name]

theorem handlers_make :
    ∃ calls outcomes w', Blocks g.collaborators (g.handlerArtifacts d base output) w calls outcomes w' ∧
      (g.handlers d output base).Does w
        (outcomesResult outcomes (madeNames (g.handlerArtifacts d base output) outcomes)) calls w' := by
  obtain ⟨calls, outcomes, w', found, blocks, does, names⟩ := g.forPaths_makes base output w d.paths
  refine ⟨calls, outcomes, w', blocks, ?_⟩
  have does := does.map (List.filterMap id)
  rwa [← outcomesResult_map, names] at does

/-- The hydrators of the schemas that are written out, in order. -/
theorem hydratorsOf_make (schemas : List (String × RefOr Schema)) :
    ∃ calls outcomes w',
      Blocks g.collaborators ((inlineEntries schemas).map (g.hydratorArtifact base output)) w calls outcomes w' ∧
      (g.hydratorsOf output base schemas).Does w (outcomesResult outcomes
        (madeNames ((inlineEntries schemas).map (g.hydratorArtifact base output)) outcomes)) calls w' := by
  induction schemas generalizing w with
  | nil => exact ⟨_, _, _, .nil, Run.Does.pure [] w⟩
  | cons entry rest ih =>
    obtain ⟨name, pointer | schema⟩ := entry
    · obtain ⟨calls, outcomes, w', blocks, does⟩ := ih w
      exact ⟨calls, outcomes, w', blocks, (Run.Does.say _ _ w).bind does⟩
    · obtain ⟨calls, o, w₁, block, first⟩ := g.hydrator_makes base output w name schema
      obtain ⟨calls', outcomes, w', blocks, others⟩ := ih w₁
      rw [inlineEntries_item, List.map_cons]
      cases o with
      | failed e => exact ⟨_, _, _, .fail block, first.bind_error _⟩
      | leftAlone =>
        have others := others.map ((none : Option String).toList ++ ·)
        rw [← outcomesResult_map] at others
        exact ⟨_, _, _, .cons block (by simp) blocks, first.bind others⟩
      | made =>
        have others := others.map ((some (hydratorName name)).toList ++ ·)
        rw [← outcomesResult_map] at others
        refine ⟨_, _, _, .cons block (by simp) blocks, ?_⟩
        simp only [madeNames, hydratorArtifact_name]
        exact first.bind others

/-- The blocks of a run and what it ends in, from any world. -/
theorem run_makes :
    ∃ calls outcomes w', Blocks g.collaborators (g.artifacts d base output config) w calls outcomes w' ∧
      (g.run d base output config).Does w (outcomesResult outcomes (g.reportOf d base output outcomes))
        calls w' := by
  obtain ⟨calls₁, outcomes₁, w₁, handlers, does₁⟩ := g.handlers_make d base output w
  unfold artifacts run
  rw [outcomesResult_eq_map] at does₁
  cases done₁ : outcomesResult outcomes₁ () with
  | error e =>
    -- hydrators and the route table are not reached
    refine ⟨_, _, _, (handlers.append_failed done₁ _).append_failed done₁ _, ?_⟩
    rw [outcomesResult_eq_map, done₁]
    rw [done₁] at does₁
    exact does₁.bind_error _
  | ok _ =>
    rw [done₁] at does₁
    obtain ⟨calls₂, outcomes₂, w₂, hydrators, does₂⟩ := g.hydratorsOf_make base output w₁ d.schemas
    rw [outcomesResult_eq_map] at does₂
    have both := outcomesResult_append_of_ok done₁ outcomes₂ ()
    cases done₂ : outcomesResult outcomes₂ () with
    | error e =>
      rw [done₂] at does₂ both
      refine ⟨_, _, _, (handlers.append done₁ hydrators).append_failed both _, ?_⟩
      rw [outcomesResult_eq_map, both]
      exact does₁.bind (does₂.bind_error _)
    | ok _ =>
      rw [done₂] at does₂ both
      obtain ⟨calls₃, o, w₃, table, does₃⟩ := g.routeTable_makes d base config w₂
      have length₁ := handlers.length_outcomes done₁
      have length₂ := hydrators.length_outcomes done₂
      refine ⟨_, _, _, (handlers.append done₁ hydrators).append both (.single table), ?_⟩
      rw [outcomesResult_append_of_ok both, g.reportOf_append d base output o length₁ length₂,
        List.append_assoc]
      refine does₁.bind (does₂.bind ?_)
      cases o with
      | leftAlone => exact does₃.bind_quiet (Run.Does.pure _ w₃)
      | made => exact does₃.bind_quiet (Run.Does.pure _ w₃)
      | failed e => exact does₃.bind_error _

/-- The calls of a run from any state are blocks, and their outcomes say what the run ends in. -/
theorem run_ends (s : RunState σ) :
    ∃ calls outcomes,
      ((g.run d base output config).start s).1 = outcomesResult outcomes (g.reportOf d base output outcomes) ∧
      ((g.run d base output config).start s).2.calls = s.calls ++ calls ∧
      Blocks g.collaborators (g.artifacts d base output config) s.world calls outcomes
        ((g.run d base output config).start s).2.world := by
  obtain ⟨calls, outcomes, w', blocks, does⟩ := g.run_makes d base output config s.world
  refine ⟨calls, outcomes, does.result s rfl, does.calls s rfl, ?_⟩
  rw [does.world s rfl]
  exact blocks

end Codegen

end ApiStubs
