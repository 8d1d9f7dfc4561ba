import ApiStubs.Proofs.Overwriting

/-!
# Rival handlers

Two paths of a document are rivals when their handlers have the same name, and so the same file. In
a new directory one of them wins: the last one when files may be overwritten, the first one when
they may not. The route table has the routes of all of them, so its routes are served by the
handlers that are there exactly if the winner knows the methods of its rivals, which nothing in a
document ensures.
-/

namespace ApiStubs

/-- What stands around the last element of a kind is determined. -/
theorem append_cons_inj_last {P : α → Prop} {before before' after after' : List α} {x x' : α}
    (h : before ++ x :: after = before' ++ x' :: after') (hx : P x) (hx' : P x')
    (last : ∀ y ∈ after, ¬ P y) (last' : ∀ y ∈ after', ¬ P y) : before = before' ∧ x = x' := by
  rcases List.append_eq_append_iff.mp h with ⟨between, rfl, hb⟩ | ⟨between, rfl, hb⟩
  · cases between with
    | nil =>
      obtain ⟨rfl, -⟩ := List.cons.inj hb
      exact ⟨(List.append_nil _).symm, rfl⟩
    | cons y between =>
      obtain ⟨-, rfl⟩ := List.cons.inj hb
      exact absurd hx' (last x' (by simp))
  · cases between with
    | nil =>
      obtain ⟨rfl, -⟩ := List.cons.inj hb
      exact ⟨List.append_nil _, rfl⟩
    | cons y between =>
      obtain ⟨-, rfl⟩ := List.cons.inj hb
      exact absurd hx (last' x (by simp))

/-! ### The last artifact of a target -/

namespace Blocks

variable {c : Collaborators FileTree} {a : Artifact} {front back : List Artifact} {w w' : FileTree}
  {calls : List Call} {outcomes : List Outcome} {S : Path → Prop}

/-- An artifact that gets leave is written; what it writes stays if later artifacts of the target,
should there be any, find it protected. -/
theorem leaves (files : c.writer = Writer.files) (hf : ∀ b ∈ front ++ a :: back, b.IsFile)
    (blocks : Blocks c (front ++ a :: back) w calls outcomes w') (done : outcomesResult outcomes () = .ok ())
    (leave : ∀ calls₁ outcomes₁ w₁, Blocks c front w calls₁ outcomes₁ w₁ → c.policy w₁ a.target = false)
    (places : ∀ b ∈ back, b.target ≠ a.target → ∀ current, a.target.place current ≠ b.target.place current)
    (last : (∀ b ∈ back, b.target ≠ a.target) ∨ c.policy.Protects S ∧ c.policy.Lasts ∧ S a.target) :
    ∃ before json text after, a.payload = .ok json ∧
      calls = before ++ Call.rendered a.key json :: Call.wrote a.target text :: after ∧
      (c.renderer (w.after before) a.key json).1 = .ok text ∧
      (∀ text', Call.wrote a.target text' ∉ after) ∧
        w'.find a.target = .ok (.file (.text text)) := by
  obtain ⟨calls₁, rest, outcomes₁, others, w₁, rfl, rfl, first, done₁, second, done⟩ :=
    blocks.cut done
  have hfront : ∀ b ∈ front, b.IsFile := fun b hb => hf b (List.mem_append_left _ hb)
  have ha : a.IsFile := hf a (by simp)
  have hback : ∀ b ∈ back, b.IsFile := fun b hb => hf b (by simp [hb])
  cases second with
  | fail => simp [outcomesResult] at done
  | @cons _ _ _ w₂ _ _ calls₃ o outcomes₃ block complete tail =>
    obtain rfl := (block.made_iff complete).mpr (leave _ _ _ first)
    have kept : c.policy.Protects S ∧ c.policy.Lasts ∧ S a.target →
        c.policy w₂ a.target = true := by
      rintro ⟨protects, -, hp⟩
      exact policy_of_block files ha protects block complete hp
    obtain ⟨json, text, -, payload, rendered, written, rfl⟩ := block.of_made files
    have there := FileTree.find_of_writeFile ha.target written
    have tree := first.after_eq files hfront done₁
    have quiet : ∀ call ∈ calls₃, ¬ call.TakesUp a.target := by
      intro call hc takes
      rcases last with apart | guarded
      · -- no later artifact has the target
        obtain ⟨b, hb, target⟩ := tail.exists_of_takesUp hback hc takes
        exact apart b hb target
      · -- later artifacts of the target find the file there
        exact (tail.leftAlone_of_policy files hback guarded.2.1 (kept guarded)).2 call hc takes
    have stays : ∀ x ∈ back.zip outcomes₃,
        x.2 = .leftAlone ∨ ∀ current, a.target.place current ≠ x.1.target.place current := by
      intro x hx
      have hb := (List.of_mem_zip hx).1
      by_cases target : x.1.target = a.target
      · rcases last with apart | guarded
        · exact absurd target (apart _ hb)
        · exact .inl ((tail.leftAlone_of_policy files hback guarded.2.1 (kept guarded)).1 x hx target)
      · exact .inr (places _ hb target)
    refine ⟨calls₁ ++ [.asked a.target false], json, text, a.news ++ calls₃, payload, by simp, ?_, ?_,
      tail.find_file files hback there stays⟩
    · rw [FileTree.after_append, ← tree]
      exact rendered
    · intro text' hw
      rcases List.mem_append.mp hw with hw | hw
      · exact ha.not_takesUp hw a.target rfl
      · exact quiet _ hw rfl

end Blocks

/-! ### The winner -/

namespace Document

variable {d : Document} {overwrite : Bool} {path : String} {entry : String × PathItem}

/-- The path whose handler is left of those of the rivals of a path. -/
def winner? (d : Document) (overwrite : Bool) (path : String) : Option (String × PathItem) :=
  (if overwrite then d.inlinePaths.reverse else d.inlinePaths).find? fun entry =>
    handlerName entry.1 = handlerName path

/-- Every path that is written out has a winner. -/
theorem exists_winner (overwrite : Bool) (h : entry ∈ d.inlinePaths) :
    ∃ winner, d.winner? overwrite entry.1 = some winner := by
  rw [← Option.isSome_iff_exists, winner?, List.find?_isSome]
  refine ⟨entry, ?_, by simp⟩
  cases overwrite with
  | true => exact List.mem_reverse.mpr h
  | false => exact h

/-- The winner is a rival, and the last one or the first one. -/
theorem winner?_cut (h : d.winner? overwrite path = some entry) :
    handlerName entry.1 = handlerName path ∧ ∃ front back, d.inlinePaths = front ++ entry :: back ∧
      (overwrite = true → ∀ e ∈ back, handlerName e.1 ≠ handlerName path) ∧
      (overwrite = false → ∀ e ∈ front, handlerName e.1 ≠ handlerName path) := by
  obtain ⟨rival, front, back, cut, others⟩ := List.find?_eq_some_iff_append.mp h
  refine ⟨by simpa using rival, ?_⟩
  cases overwrite with
  | false => exact ⟨front, back, cut, by simp, fun _ e he => by simpa using others e he⟩
  | true =>
    refine ⟨back.reverse, front.reverse, ?_, fun _ e he => ?_, by simp⟩
    · have cut := congrArg List.reverse cut
      simpa using cut
    · simpa using others e (List.mem_reverse.mp he)

end Document

namespace Codegen

/-- The file holds at the end what was rendered from the payload for the last write of it. -/
def LeavesHandler (g : Codegen FileTree) (t : FileTree) (calls : List Call) (ended : FileTree)
    (p : Path) (payload : HandlerPayload) : Prop :=
  ∃ before text after, calls = before ++ .rendered handlerTemplate payload.toJson :: .wrote p text :: after ∧
    (g.collaborators.renderer (t.after before) handlerTemplate payload.toJson).1 = .ok text ∧
    (∀ text', .wrote p text' ∉ after) ∧ ended.find p = .ok (.file (.text text))

variable {g : Codegen FileTree} {c : Config} {t w w' : FileTree} {rules : IgnoreRules}
  {lines : List LogLine} {d : Document} {base path : String} {config p : Path} {calls : List Call}
  {outcomes : List Outcome} {entry : String × PathItem}

/-- Artifacts of one target have one name. -/
theorem name_eq_of_target_eq {σ : Type} {g : Codegen σ} {output : Path} {a b : Artifact}
    (he : '/' ∉ g.collaborators.extension.toList) (ha : a ∈ g.artifacts d base output config)
    (hb : b ∈ g.artifacts d base output config) (h : a.target = b.target) : a.name = b.name := by
  have places : a.target.place [] = b.target.place [] := by rw [h]
  exact name_eq_of_place_eq he ha hb places

theorem handlerArtifact_mem_stubs {σ : Type} {g : Codegen σ} {output : Path}
    (h : entry ∈ d.inlinePaths) : g.handlerArtifact base output entry ∈ g.stubs d base output :=
  List.mem_append_left _ (List.mem_map.mpr ⟨entry, h, rfl⟩)

/-- The artifacts of a run, cut at the handler of a path. -/
theorem artifacts_of_cut {σ : Type} (g : Codegen σ) {output : Path}
    {front back : List (String × PathItem)} (cut : d.inlinePaths = front ++ entry :: back) :
    g.artifacts d base output config = front.map (g.handlerArtifact base output)
      ++ g.handlerArtifact base output entry :: (back.map (g.handlerArtifact base output)
        ++ (g.hydratorArtifacts d base output ++ [g.tableArtifact d base config])) := by
  unfold artifacts handlerArtifacts
  rw [cut]
  simp

/-- The handlers of paths without rivals have another name. -/
theorem name_ne_of_mem_handlers {σ : Type} {g : Codegen σ} {output : Path}
    {entries : List (String × PathItem)}
    (others : ∀ e ∈ entries, handlerName e.1 ≠ handlerName path) :
    ∀ b ∈ entries.map (g.handlerArtifact base output), b.name ≠ handlerName path := by
  intro b hb
  obtain ⟨e, he, rfl⟩ := List.mem_map.mp hb
  rw [handlerArtifact_name]
  exact others e he

/-- What is made after all handlers has the name of no handler. -/
theorem name_ne_handlerName {σ : Type} {g : Codegen σ} {output : Path} {b : Artifact}
    (hb : b ∈ g.hydratorArtifacts d base output ++ [g.tableArtifact d base config]) :
    b.name ≠ handlerName path := by
  rw [List.mem_append, List.mem_singleton] at hb
  rcases hb with hb | rfl
  · obtain ⟨schema, -, hn, -⟩ := of_mem_hydratorArtifacts hb
    rw [hn]
    exact (handlerName_ne_hydratorName _ _).symm
  · rw [tableArtifact_name]
    exact (handlerName_ne_routesStem _).symm

variable {a : Artifact} {front back : List Artifact}

/-- Without patterns, a stub gets leave when nothing of its target was made before, or when files
may be overwritten. -/
theorem leave_of_isNewIn (he : '/' ∉ g.collaborators.extension.toList)
    (hr : c.ignoreRules t = .ok (rules, lines)) (patternless : rules.patterns = [])
    (new : c.output.IsNewIn w) (ha : a ∈ g.stubs d base c.output)
    (hfront : ∀ b ∈ front, b ∈ g.stubs d base c.output)
    (keeping : c.overwrite = false → ∀ b ∈ front, b.name ≠ a.name)
    (first : Blocks (g.intoFiles rules).collaborators front w calls outcomes w') :
    rules.ignores w' a.target = false := by
  have unmatched : rules.matchesPattern a.target = false := by
    simp [IgnoreRules.matchesPattern, patternless]
  cases ho : c.overwrite with
  | true =>
    obtain ⟨r, found, hr⟩ := Config.ignoreRules_ok hr
    rw [ho, if_pos rfl] at hr
    rw [IgnoreRules.ignores_eq_matchesPattern (hr ▸ Config.protectedDirs_patternRules found),
      unmatched]
  | false =>
    have files : ∀ b ∈ front, b.IsFile := fun b hb =>
      isFile_of_mem he (mem_artifacts_of_mem_stubs c.output (hfront b hb))
    have free := first.frees (p := a.target) rfl files fun b hb =>
      avoids_of_isNewIn he new (hfront b hb) ha fun same => keeping ho b hb
        (name_eq_of_target_eq he (mem_artifacts_of_mem_stubs c.output (hfront b hb))
          (mem_artifacts_of_mem_stubs c.output ha) same)
    rw [free_of_isNewIn he new ha, ← (first.grows rfl files).current] at free
    rw [IgnoreRules.ignores, FileTree.holds_eq_false_of_free free, unmatched]
    rfl

/-- Without patterns, the file of a stub holds at the end what was written for it, if the stub is
the last of its name when files may be overwritten, and the first when they may not. -/
theorem leaves_stub (he : '/' ∉ g.collaborators.extension.toList)
    (hr : c.ignoreRules t = .ok (rules, lines)) (patternless : rules.patterns = [])
    (new : c.output.IsNewIn w)
    (blocks : Blocks (g.intoFiles rules).collaborators (g.artifacts d base c.output config) w calls outcomes w')
    (done : outcomesResult outcomes () = .ok ())
    (whole : g.artifacts d base c.output config = front ++ a :: back) (ha : a ∈ g.stubs d base c.output)
    (hfront : ∀ b ∈ front, b ∈ g.stubs d base c.output)
    (overwriting : c.overwrite = true → ∀ b ∈ back, b.name ≠ a.name)
    (keeping : c.overwrite = false → ∀ b ∈ front, b.name ≠ a.name) :
    ∃ before json text after, a.payload = .ok json ∧
      calls = before ++ Call.rendered a.key json :: Call.wrote a.target text :: after ∧
      (g.collaborators.renderer (w.after before) a.key json).1 = .ok text ∧
      (∀ text', Call.wrote a.target text' ∉ after) ∧
        w'.find a.target = .ok (.file (.text text)) := by
  have hf : ∀ b ∈ g.artifacts d base c.output config, b.IsFile := fun b hb => isFile_of_mem he hb
  have hback : ∀ b ∈ back, b ∈ g.artifacts d base c.output config := fun b hb => by simp [whole, hb]
  have last : (∀ b ∈ back, b.target ≠ a.target) ∨ Policy.Protects rules.ignores c.output.IsStubOf ∧
      Policy.Lasts rules.ignores ∧ c.output.IsStubOf a.target := by
    cases ho : c.overwrite with
    | false => exact .inr ⟨Config.ignoreRules_protect ho hr, rules.ignores_lasts, isStubOf_of_mem he ha⟩
    | true =>
      exact .inl fun b hb same => overwriting ho b hb
        (name_eq_of_target_eq he (hback b hb) (List.mem_append_left _ ha) same)
  have places : ∀ b ∈ back, b.target ≠ a.target →
      ∀ current, a.target.place current ≠ b.target.place current :=
    fun b hb ne _ same => ne (target_eq_of_place_eq he ha (hback b hb) same).symm
  rw [whole] at blocks hf
  exact Blocks.leaves (c := (g.intoFiles rules).collaborators) (S := c.output.IsStubOf) rfl hf blocks done
    (fun _ _ _ first => leave_of_isNewIn he hr patternless new ha hfront keeping first) places last

/-- **What a run into a new directory leaves** in the file of a path, when there are no patterns:
the handler of the winner. -/
theorem leaves_winner (he : '/' ∉ g.collaborators.extension.toList)
    (hr : c.ignoreRules t = .ok (rules, lines)) (patternless : rules.patterns = [])
    (new : c.output.IsNewIn w)
    (blocks : Blocks (g.intoFiles rules).collaborators (g.artifacts d base c.output config) w calls outcomes w')
    (done : outcomesResult outcomes () = .ok ()) (hw : d.winner? c.overwrite path = some entry) :
    g.LeavesHandler w calls w' (g.handlerTarget c.output path) (g.handlerPayload base entry.1 entry.2) := by
  obtain ⟨rival, front, back, cut, overwriting, keeping⟩ := Document.winner?_cut hw
  have name : (g.handlerArtifact base c.output entry).name = handlerName path := by
    rw [handlerArtifact_name, rival]
  have target : (g.handlerArtifact base c.output entry).target = g.handlerTarget c.output path := by
    rw [handlerArtifact_target, handlerTarget_eq, handlerTarget_eq, rival]
  have ha : g.handlerArtifact base c.output entry ∈ g.stubs d base c.output :=
    handlerArtifact_mem_stubs (by simp [cut])
  have hfront : ∀ b ∈ front.map (g.handlerArtifact base c.output), b ∈ g.stubs d base c.output := by
    intro b hb
    obtain ⟨e, he, rfl⟩ := List.mem_map.mp hb
    exact handlerArtifact_mem_stubs (by simp [cut, he])
  have first : c.overwrite = false → ∀ b ∈ front.map (g.handlerArtifact base c.output),
      b.name ≠ (g.handlerArtifact base c.output entry).name := fun ho =>
    name ▸ name_ne_of_mem_handlers (keeping ho)
  have last : c.overwrite = true → ∀ b ∈ back.map (g.handlerArtifact base c.output)
      ++ (g.hydratorArtifacts d base c.output ++ [g.tableArtifact d base config]),
      b.name ≠ (g.handlerArtifact base c.output entry).name := by
    intro ho b hb
    rw [name]
    rcases List.mem_append.mp hb with hb | hb
    · exact name_ne_of_mem_handlers (overwriting ho) b hb
    · exact name_ne_handlerName hb
  obtain ⟨before, json, text, after, hp, hc, rendered, quiet, found⟩ :=
    leaves_stub he hr patternless new blocks done (g.artifacts_of_cut cut) ha hfront last first
  rw [handlerArtifact_payload] at hp
  obtain rfl := Except.ok.inj hp
  rw [target] at hc quiet found
  rw [handlerArtifact_key] at hc rendered
  exact ⟨before, text, after, hc, rendered, quiet, found⟩

end Codegen

/-! ### What the handlers know -/

theorem HandlerPayload.operationMethods_of_toJson {p q : HandlerPayload} (h : p.toJson = q.toJson) :
    p.operationMethods = q.operationMethods := by
  simp only [toJson, Json.ofTexts, Json.obj.injEq, List.cons.injEq, Prod.mk.injEq,
    Json.arr.injEq] at h
  exact (List.map_inj_right fun _ _ same => Json.str.inj same).mp h.2.2.1.2

theorem Method.word_injective {m m' : Method} (h : m.word = m'.word) : m = m' := by
  cases m <;> cases m' <;> first | rfl | (revert h; decide)

/-- A handler knows the methods of its path. -/
theorem Codegen.word_mem_operationMethods {g : Codegen FileTree} {base path : String}
    {item : PathItem} {m : Method} :
    m.word ∈ (g.handlerPayload base path item).operationMethods ↔
      m ∈ item.operations.map Prod.fst := by
  simp only [handlerPayload, List.mem_map]
  constructor
  · rintro ⟨⟨m', o⟩, ho, same⟩
    exact ⟨(m', o), ho, Method.word_injective same⟩
  · rintro ⟨⟨m', o⟩, ho, rfl⟩
    exact ⟨(m', o), ho, rfl⟩

namespace Codegen

variable {g : Codegen FileTree} {d : Document} {base : String} {output config p : Path}
  {w w' : FileTree} {calls : List Call} {outcomes : List Outcome} {c : Collaborators FileTree}

/-- The methods that the handler in a file knows are determined. -/
theorem LeavesHandler.operationMethods_eq {payload payload' : HandlerPayload}
    (h : g.LeavesHandler w calls w' p payload) (h' : g.LeavesHandler w calls w' p payload') :
    payload.operationMethods = payload'.operationMethods := by
  obtain ⟨before, text, after, hc, -, quiet, -⟩ := h
  obtain ⟨before', text', after', hc', -, quiet', -⟩ := h'
  have whole : (before ++ [.rendered handlerTemplate payload.toJson]) ++ .wrote p text :: after
      = (before' ++ [.rendered handlerTemplate payload'.toJson]) ++ .wrote p text' :: after' := by
    rw [List.append_assoc, List.append_assoc]
    exact hc.symm.trans hc'
  have last : ∀ {some : List Call}, (∀ text, .wrote p text ∉ some) →
      ∀ call ∈ some, ¬ ∃ text, call = .wrote p text := by
    rintro some none call hcall ⟨text, rfl⟩
    exact none text hcall
  obtain ⟨front, -⟩ :=
    append_cons_inj_last whole ⟨text, rfl⟩ ⟨text', rfl⟩ (last quiet) (last quiet')
  obtain ⟨-, same⟩ := List.append_inj' front rfl
  have same := (List.cons.inj same).1
  exact HandlerPayload.operationMethods_of_toJson (Call.rendered.inj same).2

/-- The file holds a handler that knows the method. -/
def Serves (g : Codegen FileTree) (t : FileTree) (calls : List Call) (ended : FileTree) (p : Path)
    (method : String) : Prop :=
  ∃ payload, g.LeavesHandler t calls ended p payload ∧ method ∈ payload.operationMethods

/-- A route table that was written was rendered from the routes of the document. -/
theorem exists_routes (files : c.writer = Writer.files)
    (blocks : Blocks c (g.artifacts d base output config) w calls outcomes w')
    (done : outcomesResult outcomes () = .ok ()) (written : outcomes.getLast? = some .made) :
    ∃ routes, d.routeList g.namespacing base = .ok routes ∧
      .rendered routesTemplate (routesPayload routes) ∈ calls := by
  obtain ⟨before, rest, stubs, o, w₁, rfl, rfl, -, -, block, -⟩ := exists_table_block blocks done
  rw [List.getLast?_concat] at written
  obtain rfl := Option.some.inj written
  obtain ⟨json, text, -, payload, -, -, rfl⟩ := block.of_made files
  obtain ⟨routes, found, rfl⟩ := (g.tableArtifact_payload_eq_ok_iff d base config).mp payload
  exact ⟨routes, found, by simp⟩

end Codegen

/-- **The routes are served when winners know the methods of their rivals.** After a run into a new
directory without patterns, the file of every path that is written out holds the handler of its
winner. So the file of every route that was written into the table holds a handler that knows the
method of the route exactly if every operation is one that the winner of its path has as well. -/
theorem Codegen.routes_are_served_iff (g : Codegen FileTree)
    (he : '/' ∉ g.collaborators.extension.toList) {c : Config} {t : FileTree} {rules : IgnoreRules}
    {lines : List LogLine} (hr : c.ignoreRules t = .ok (rules, lines))
    (patternless : rules.patterns = []) (d : Document) (base : String) (config : Path)
    (s : RunState FileTree) (new : c.output.IsNewIn s.world) {report : Report}
    (ok : (g.fileRun rules d base c.output config s).1 = .ok report) (table : report.routesWritten = true) :
    ∃ calls routes, (g.fileRun rules d base c.output config s).2.calls = s.calls ++ calls ∧
      d.routeList g.namespacing base = .ok routes ∧
      .rendered routesTemplate (routesPayload routes) ∈ calls ∧
      (∀ x ∈ d.endpoints, ∃ winner, d.winner? c.overwrite x.path = some winner ∧
        g.LeavesHandler s.world calls (g.fileRun rules d base c.output config s).2.world
          (g.handlerTarget c.output x.path) (g.handlerPayload base winner.1 winner.2)) ∧
      ((∀ x r, (x, r) ∈ d.endpoints.zip routes →
          g.Serves s.world calls (g.fileRun rules d base c.output config s).2.world
            (g.handlerTarget c.output x.path) r.method) ↔
        ∀ x ∈ d.endpoints, ∃ winner, d.winner? c.overwrite x.path = some winner ∧
          x.method ∈ winner.2.operations.map Prod.fst) := by
  obtain ⟨calls, outcomes, ends, hc, blocks⟩ :=
    (g.intoFiles rules).run_ends d base c.output config s
  obtain ⟨done, rfl⟩ := of_outcomesResult_ok (ends.symm.trans ok)
  have written : outcomes.getLast? = some .made := by simpa [reportOf] using table
  obtain ⟨routes, hroutes, rendered⟩ := exists_routes rfl blocks done written
  have winners : ∀ x ∈ d.endpoints, ∃ winner, d.winner? c.overwrite x.path = some winner ∧
      g.LeavesHandler s.world calls (g.fileRun rules d base c.output config s).2.world
        (g.handlerTarget c.output x.path) (g.handlerPayload base winner.1 winner.2) := by
    intro x hx
    obtain ⟨winner, hw⟩ := Document.exists_winner c.overwrite (Document.mem_endpoints.mp hx).1
    exact ⟨winner, hw, leaves_winner he hr patternless new blocks done hw⟩
  obtain ⟨length, each⟩ := List.forall₂_iff_zip.mp (forall₂_of_mapM hroutes)
  refine ⟨calls, routes, hc, hroutes, rendered, winners, fun served x hx => ?_,
    fun known x r hxr => ?_⟩
  · rw [← List.map_fst_zip (Nat.le_of_eq length)] at hx
    obtain ⟨⟨x, r⟩, hxr, rfl⟩ := List.mem_map.mp hx
    obtain ⟨winner, hw, left⟩ := winners x (List.of_mem_zip hxr).1
    obtain ⟨payload, left', knows⟩ := served x r hxr
    rw [left'.operationMethods_eq left, Endpoint.method_of_route (each hxr)] at knows
    exact ⟨winner, hw, word_mem_operationMethods.mp knows⟩
  · obtain ⟨winner, hw, left⟩ := winners x (List.of_mem_zip hxr).1
    obtain ⟨winner', hw', knows⟩ := known x (List.of_mem_zip hxr).1
    obtain rfl := Option.some.inj (hw.symm.trans hw')
    refine ⟨_, left, ?_⟩
    rw [Endpoint.method_of_route (each hxr)]
    exact word_mem_operationMethods.mpr knows

/-- A method that the winner of a path does not have is not served there. -/
theorem Codegen.not_serves {g : Codegen FileTree} (he : '/' ∉ g.collaborators.extension.toList)
    {c : Config} {t w : FileTree} {rules : IgnoreRules} {lines : List LogLine}
    (hr : c.ignoreRules t = .ok (rules, lines)) (patternless : rules.patterns = []) {d : Document}
    {base : String} {config : Path} (new : c.output.IsNewIn w) {report : Report}
    (ok : (g.fileRun rules d base c.output config { world := w }).1 = .ok report) {path method : String}
    {entry : String × PathItem} (hw : d.winner? c.overwrite path = some entry)
    (unknown : method ∉ (g.handlerPayload base entry.1 entry.2).operationMethods) :
    ¬ g.Serves w (g.fileRun rules d base c.output config { world := w }).2.calls
      (g.fileRun rules d base c.output config { world := w }).2.world (g.handlerTarget c.output path) method := by
  obtain ⟨calls, outcomes, ends, hc, blocks⟩ :=
    (g.intoFiles rules).run_ends d base c.output config { world := w }
  have left :=
    leaves_winner he hr patternless new blocks (of_outcomesResult_ok (ends.symm.trans ok)).1 hw
  have hc : (g.fileRun rules d base c.output config { world := w }).2.calls = calls := hc
  rw [hc]
  rintro ⟨payload, left', knows⟩
  rw [left'.operationMethods_eq left] at knows
  exact unknown knows

/-! ### Neighbours and rivals -/

/-- The handlers of neighbours know the methods of their routes. -/
theorem neighbours_are_served :
    (plainly.fileRun outRules neighbours "App" intoOut.output intoOut.routesDir { world := emptyTree }).1
      = .ok ⟨["ABHandler", "ACHandler"], [], true⟩ ∧
    ∃ calls routes,
      (plainly.fileRun outRules neighbours "App" intoOut.output intoOut.routesDir
        { world := emptyTree }).2.calls = calls ∧
      neighbours.routeList plainly.namespacing "App" = .ok routes ∧
      ∀ x r, (x, r) ∈ neighbours.endpoints.zip routes →
        plainly.Serves emptyTree calls (plainly.fileRun outRules neighbours "App" intoOut.output intoOut.routesDir
          { world := emptyTree }).2.world (plainly.handlerTarget intoOut.output x.path) r.method := by
  have ok : (plainly.fileRun outRules neighbours "App" intoOut.output intoOut.routesDir { world := emptyTree }).1
      = .ok ⟨["ABHandler", "ACHandler"], [], true⟩ := eq_ok_of_toOption (by decide +kernel)
  have rules : intoOut.ignoreRules emptyTree = .ok (outRules, []) := rfl
  obtain ⟨calls, routes, hc, found, -, -, served⟩ := plainly.routes_are_served_iff (by decide) rules
    rfl neighbours "App" intoOut.routesDir { world := emptyTree } isNewIn_emptyTree ok rfl
  rw [List.nil_append] at hc
  refine ⟨ok, calls, routes, hc, found, served.mpr fun x hx => ?_⟩
  have paths : neighbours.inlinePaths = [("/a/b", { operations := [(.get, {})] }),
    ("/a/c", { operations := [(.post, {})] })] := rfl
  have ne : handlerName "/a/b" ≠ handlerName "/a/c" := by decide +kernel
  obtain ⟨inside, own⟩ := Document.mem_endpoints.mp hx
  rw [paths, List.mem_cons, List.mem_singleton] at inside
  refine ⟨(x.path, x.item), ?_, List.mem_map.mpr ⟨_, own, rfl⟩⟩
  rw [Document.winner?, paths]
  rcases inside with h | h
  · rw [h, (Prod.mk.inj h).1]
    exact List.find?_cons_of_pos (by simp)
  · rw [h, (Prod.mk.inj h).1]
    exact (List.find?_cons_of_neg (by simpa using ne)).trans (List.find?_cons_of_pos (by simp))

/-- A configuration that may overwrite what is in `out`. -/
def overOut : Config := { intoOut with overwrite := true }

/-- Of rivals only one is served: a route of the other is in the table, but no handler that knows
its method is in the file. -/
theorem rivals_are_not_served :
    intoOut.ignoreRules emptyTree = .ok (outRules, []) ∧
      overOut.ignoreRules emptyTree = .ok (overRules, []) ∧
    Path.IsNewIn ⟨"out"⟩ emptyTree ∧
    (rivals.routeList plainly.namespacing "App").toOption.map
        (fun routes => routes.map fun r => (r.path, r.method))
      = some [("/a/b", "GET"), ("/a-b", "POST")] ∧
    (∃ report, (plainly.fileRun outRules rivals "App" intoOut.output intoOut.routesDir
        { world := emptyTree }).1 = .ok report ∧ report.routesWritten = true) ∧
    ¬ plainly.Serves emptyTree
      (plainly.fileRun outRules rivals "App" intoOut.output intoOut.routesDir { world := emptyTree }).2.calls
      (plainly.fileRun outRules rivals "App" intoOut.output intoOut.routesDir { world := emptyTree }).2.world
      (plainly.handlerTarget intoOut.output "/a-b") "POST" ∧
    (∃ report, (plainly.fileRun overRules rivals "App" overOut.output overOut.routesDir
        { world := emptyTree }).1 = .ok report ∧ report.routesWritten = true) ∧
    ¬ plainly.Serves emptyTree
      (plainly.fileRun overRules rivals "App" overOut.output overOut.routesDir { world := emptyTree }).2.calls
      (plainly.fileRun overRules rivals "App" overOut.output overOut.routesDir { world := emptyTree }).2.world
      (plainly.handlerTarget overOut.output "/a/b") "GET" := by
  have kept : (plainly.fileRun outRules rivals "App" intoOut.output intoOut.routesDir
        { world := emptyTree }).1
      = .ok ⟨["ABHandler"], [], true⟩ := eq_ok_of_toOption (by decide +kernel)
  have overwritten : (plainly.fileRun overRules rivals "App" overOut.output overOut.routesDir
        { world := emptyTree }).1
      = .ok ⟨["ABHandler", "ABHandler"], [], true⟩ := eq_ok_of_toOption (by decide +kernel)
  have paths : rivals.inlinePaths = [("/a/b", { operations := [(.get, {})] }),
    ("/a-b", { operations := [(.post, {})] })] := rfl
  have same : handlerName "/a/b" = handlerName "/a-b" := by decide +kernel
  have first : rivals.winner? false "/a-b" = some ("/a/b", { operations := [(.get, {})] }) := by
    rw [Document.winner?, paths]
    exact List.find?_cons_of_pos (by simpa using same)
  have last : rivals.winner? true "/a/b" = some ("/a-b", { operations := [(.post, {})] }) := by
    rw [Document.winner?, paths]
    exact List.find?_cons_of_pos (by simpa using same.symm)
  have rules : intoOut.ignoreRules emptyTree = .ok (outRules, []) := rfl
  have rules' : overOut.ignoreRules emptyTree = .ok (overRules, []) := rfl
  refine ⟨rules, rules', isNewIn_emptyTree, by decide +kernel, ⟨_, kept, rfl⟩, ?_,
    ⟨_, overwritten, rfl⟩, ?_⟩
  · exact Codegen.not_serves (by decide) rules rfl isNewIn_emptyTree kept first (by decide)
  · exact Codegen.not_serves (by decide) rules' rfl isNewIn_emptyTree overwritten last (by decide)

end ApiStubs
