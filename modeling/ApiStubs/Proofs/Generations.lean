import ApiStubs.Generation
import ApiStubs.Proofs.BuiltinTemplates

/-!
# Generations

Before a generation makes anything it reads the document, the kind, the templates and the ignore
rules, all of them from the tree that it starts in. If one of them cannot be had, that is all:
nothing has been asked, rendered or written, and the tree is as it was. Otherwise the generation is
a run of its generators.

## What is proved

* `Prepared.does`: what a generation does that has read everything.
* `prepared_or_fails`: any other fails and makes nothing.
* `exists_prepared`: what a generation that ends well has read.
* `exists_libraryIn`: with the built-in templates, these can be had.
-/

namespace ApiStubs

/-! ### Steps that fail -/

namespace Run

variable {σ : Type} {w : σ} {P : Prop}

/-- From the world `w` the step fails, without a call, and leaves the world as it is. -/
def Fails (step : Run σ α) (w : σ) : Prop := ∃ e, step.Does w (.error e) [] w

/-- Where a step without calls fails, what would follow fails; else it is up to what follows. -/
theorem Does.or_fails {x : Run σ α} {f : α → Run σ β} {r : Except Error α} (hx : x.Does w r [] w)
    (h : ∀ a, r = .ok a → P ∨ (f a).Fails w) : P ∨ (x >>= f).Fails w := by
  cases r with
  | error e => exact .inr ⟨e, hx.bind_error f⟩
  | ok a => exact (h a rfl).imp id fun ⟨e, fails⟩ => ⟨e, hx.bind fails⟩

theorem get_or_fails {f : RunState σ → Run σ α}
    (blind : ∀ s : RunState σ, s.world = w → f s = f { world := w })
    (h : P ∨ (f { world := w }).Fails w) : P ∨ ((get : Run σ (RunState σ)) >>= f).Fails w :=
  h.imp id fun ⟨e, fails⟩ => ⟨e, Does.get_bind fun s hs => blind s hs ▸ fails⟩

end Run

/-! ### Complete libraries -/

namespace TemplateLibrary

variable {l : TemplateLibrary}

theorem has_of_renderWith {t : FileTree} {key text : String} {payload : Json}
    (h : (l.renderWith t key payload).1 = .ok text) : l.has key = true := by
  cases found : l.find? (fileName key) with
  | none => simp [renderWith, found] at h
  | some parts => rw [has, found, Option.isSome_some]

/-- A library that renders what the generators hand to it lacks no template. -/
theorem Serves.missingKeys (serves : l.Serves) : l.missingKeys = [] := by
  obtain ⟨_, handler⟩ := serves.handler (FileTree.start []) ⟨"", "", []⟩
  obtain ⟨_, hydrator⟩ := serves.hydrator (FileTree.start []) ⟨"", "", "", "", []⟩
  obtain ⟨_, routes⟩ := serves.routes (FileTree.start []) []
  have keys : Template.requiredKeys = [handlerTemplate, hydratorTemplate, routesTemplate] := rfl
  rw [TemplateLibrary.missingKeys, keys]
  simp [has_of_renderWith handler, has_of_renderWith hydrator, has_of_renderWith routes]

end TemplateLibrary

/-! ### Generations -/

namespace Config

variable {c : Config} {environment : Environment} {w w' : FileTree} {calls : List Call}

/-- The templates that the configuration asks for, all of them from one tree. -/
def libraryIn (c : Config) (environment : Environment) (t : FileTree) (kind : TargetKind) :
    Except Error TemplateLibrary := do
  let l ← (TemplateLibrary.load { files := t, environment } kind (c.templateDir.map Path.mk)).1
  if l.missingKeys.isEmpty then return l else throw (incomplete kind l.missingKeys)

theorem library_does (c : Config) (environment : Environment) (kind : TargetKind) (w : FileTree) :
    (c.library environment kind).Does w (c.libraryIn environment w kind) [] w := by
  refine Run.Does.get_bind fun s hs => ?_
  rw [hs]
  have pick : ∀ l : TemplateLibrary, (if l.missingKeys.isEmpty then return l
      else throw (incomplete kind l.missingKeys) : Run FileTree TemplateLibrary).Computes
      (if l.missingKeys.isEmpty then .ok l else .error (incomplete kind l.missingKeys)) := by
    intro l
    split
    · exact Run.Computes.pure l
    · exact Run.Computes.ofExcept (.error _)
  exact (Run.Does.report _ w).bind (((Run.Computes.ofExcept _).bind pick) w)

theorem rules_does (c : Config) (w : FileTree) :
    c.rules.Does w ((c.ignoreRules w).map Prod.fst) [] w := by
  refine Run.Does.get_bind fun s hs => ?_
  rw [hs]
  cases c.ignoreRules w with
  | error e => exact (Run.Does.ofExcept (.error e) w).bind_error _
  | ok found => exact (Run.Does.ofExcept (.ok found) w).bind ((Run.Does.report _ w).bind (Run.Does.pure _ w))

/-- Where no directory of templates is found, the built-in ones are used, and none is missing. -/
theorem exists_libraryIn (unnamed : c.templateDir = none)
    (bare : ∀ root ∈ TemplateLocation.standardRoots { files := w, environment }, w.holds root = false)
    (kind : TargetKind) :
    ∃ l, TemplateLibrary.builtin kind = .ok l ∧ l.Serves ∧
      c.libraryIn environment w kind = .ok l := by
  obtain ⟨l, builtin, found⟩ := TemplateLibrary.exists_builtin kind
  have serves := TemplateLibrary.serves_of_find? found
  refine ⟨l, builtin, serves, ?_⟩
  have nowhere : TemplateLocation.discover { files := w, environment } kind
      = .error TemplateLocation.missingEverywhere := by
    rw [TemplateLocation.discover, List.find?_eq_none.mpr fun root hr => by simp [bare root hr]]
  have loaded : (TemplateLibrary.load { files := w, environment } kind (c.templateDir.map Path.mk)).1 = .ok l := by
    rw [unnamed, Option.map_none, TemplateLibrary.load, nowhere]
    exact builtin
  rw [libraryIn, loaded]
  exact if_pos (by rw [serves.missingKeys]; rfl)

/-- What a generation has read before it makes anything. -/
structure Prepared (c : Config) (environment : Environment) (t : FileTree) (d : Document)
    (kind : TargetKind) (l : TemplateLibrary) (rules : IgnoreRules) : Prop where
  /-- The document. -/
  document : Document.ofSource t c.spec = .ok d
  /-- The kind. -/
  named : c.kind = .ok kind
  /-- The templates. -/
  library : c.libraryIn environment t kind = .ok l
  /-- The ignore rules. -/
  rules : ∃ lines, c.ignoreRules t = .ok (rules, lines)

variable {d : Document} {kind : TargetKind} {l : TemplateLibrary} {rules : IgnoreRules}

/-- **A generation that has read everything** is a run of its generators. -/
theorem Prepared.does (h : c.Prepared environment w d kind l rules) {r : Except Error Report}
    (run : ((codegen kind l rules).run d c.space c.output c.routesDir).Does w r calls w') :
    (c.generate environment).Does w r calls w' := by
  obtain ⟨lines, found⟩ := h.rules
  have library := c.library_does environment kind w
  have rules := c.rules_does w
  rw [h.library] at library
  rw [found] at rules
  refine Run.Does.get_bind fun s hs => ?_
  rw [hs, h.document, h.named]
  refine (Run.Does.ofExcept (.ok d) w).bind ((Run.Does.say _ _ w).bind ?_)
  refine (Run.Does.ofExcept (.ok kind) w).bind (library.bind (rules.bind ?_))
  cases r with
  | ok report => exact run.bind_quiet ((Run.Does.say _ _ w').bind (Run.Does.pure report w'))
  | error e => exact run.bind_error _

/-- **A generation that lacks something** makes nothing. -/
theorem prepared_or_fails (c : Config) (environment : Environment) (w : FileTree) :
    (∃ d kind l rules, c.Prepared environment w d kind l rules) ∨
      (c.generate environment).Fails w := by
  refine Run.get_or_fails (fun s hs => by rw [hs]) ?_
  refine (Run.Does.ofExcept _ w).or_fails fun d document => ?_
  refine (Run.Does.say _ _ w).or_fails fun _ _ => ?_
  refine (Run.Does.ofExcept _ w).or_fails fun kind named => ?_
  refine (c.library_does environment kind w).or_fails fun l library => ?_
  refine (c.rules_does w).or_fails fun rules found => .inl ⟨d, kind, l, rules, document, named, library, ?_⟩
  cases read : c.ignoreRules w with
  | error e =>
    rw [read] at found
    cases found
  | ok both =>
    rw [read] at found
    cases found
    exact ⟨both.2, rfl⟩

/-- **What a generation that ends well does**: it has read everything, and is a run of its
generators. -/
theorem exists_prepared {s : RunState FileTree} {report : Report}
    (ends : ((c.generate environment).start s).1 = .ok report) :
    ∃ d kind l rules calls outcomes, c.Prepared environment s.world d kind l rules ∧
      ((c.generate environment).start s).2.calls = s.calls ++ calls ∧
      Blocks (codegen kind l rules).collaborators ((codegen kind l rules).artifacts d c.space c.output c.routesDir)
        s.world calls outcomes ((c.generate environment).start s).2.world ∧
      outcomesResult outcomes () = .ok () ∧
      report = (codegen kind l rules).reportOf d c.space c.output outcomes := by
  rcases c.prepared_or_fails environment s.world with ⟨d, kind, l, rules, prepared⟩ | ⟨e, fails⟩
  · obtain ⟨calls, outcomes, w', blocks, run⟩ :=
      (codegen kind l rules).run_makes d c.space c.output c.routesDir s.world
    have does := prepared.does run
    obtain ⟨done, same⟩ := of_outcomesResult_ok ((does.result s rfl).symm.trans ends)
    refine ⟨d, kind, l, rules, calls, outcomes, prepared, does.calls s rfl, ?_, done, same⟩
    rw [does.world s rfl]
    exact blocks
  · rw [fails.result s rfl] at ends
    cases ends

/-- What a generation that has read everything ends in, if its artifacts come to their end. -/
theorem Prepared.ends {outcomes : List Outcome} {s : RunState FileTree}
    (h : c.Prepared environment s.world d kind l rules)
    (blocks : Blocks (codegen kind l rules).collaborators
      ((codegen kind l rules).artifacts d c.space c.output c.routesDir) s.world calls outcomes w')
    (done : outcomesResult outcomes () = .ok ()) :
    ((c.generate environment).start s).1 = .ok ((codegen kind l rules).reportOf d c.space c.output outcomes) ∧
      ((c.generate environment).start s).2.world = w' := by
  obtain ⟨calls', outcomes', w₁, made, run⟩ :=
    (codegen kind l rules).run_makes d c.space c.output c.routesDir s.world
  obtain ⟨rfl, rfl, rfl⟩ := made.det blocks
  have does := h.does run
  refine ⟨?_, does.world s rfl⟩
  rw [does.result s rfl, outcomesResult_eq_map, done]
  rfl

end Config

end ApiStubs
