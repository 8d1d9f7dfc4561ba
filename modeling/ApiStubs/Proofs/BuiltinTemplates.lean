import ApiStubs.Proofs.FailingWriter
import ApiStubs.Proofs.Lookups
import ApiStubs.Proofs.Shapes
import ApiStubs.Template.Library

/-!
# The built-in templates never fail

What the generators hand to a template has a shape that does not depend on the document, and the
built-in templates pass the check of `Shapes` for it. So with the built-in templates and a writer
that never fails only the document can be to blame for a failure: a pointer that is no pointer into
a table, or one to a shared parameter that is not there.

## What is proved

* `HandlerPayload.fieldsFit`, `HydratorPayload.fieldsFit`, `routesPayload_fieldsFit`: the shapes of
  what the templates are given.
* `TemplateLibrary.exists_builtin`: the built-in templates of a kind can be read.
* `TemplateLibrary.serves_of_find?`: they render whatever the generators hand them.
* `Blocks.blames`: blocks of artifacts whose templates do not fail end in a fault of the document if
  they fail.
* `run_with_builtin`: so does a run with the built-in templates.
-/

namespace ApiStubs

variable {σ : Type}

/-! ### What templates are given -/

section

open Template

/-- The shapes of what the template of a handler is given. -/
def handlerShapes : List (String × Shape) := [
  ("className", .text), ("namespace", .text), ("operationMethods", .list .text)]

/-- The shape of a property. -/
def propertyShape : Shape :=
  .record [("name", .text), ("type", .text), ("required", .flag), ("nullable", .flag)]

/-- The shapes of what the template of a hydrator is given. -/
def hydratorShapes : List (String × Shape) := [
  ("className", .text), ("namespace", .text), ("modelName", .text), ("modelNamespace", .text),
  ("properties", .list propertyShape)]

/-- The shape of a route. -/
def routeShape : Shape :=
  .record [("middleware", .text), ("modelMiddleware", .optionalText), ("path", .text), ("method", .text),
    ("name", .optionalText)]

/-- The shapes of what the template of the route table is given. -/
def routesShapes : List (String × Shape) := [("routes", .list routeShape)]

end

theorem ModelProperty.fits (p : ModelProperty) : propertyShape.Fits p.toJson := by
  simp [propertyShape, ModelProperty.toJson, Template.Shape.Fits, Template.FieldsFit,
    List.lookup_cons]

theorem Route.fits (r : Route) : routeShape.Fits r.toJson := by
  simp [routeShape, Route.toJson, Template.Shape.Fits, Template.FieldsFit, List.lookup_cons]

/-- What the template of a handler is given has the shapes. -/
theorem HandlerPayload.fieldsFit (p : HandlerPayload) :
    ∃ fields, p.toJson = .obj fields ∧ Template.FieldsFit handlerShapes fields := by
  refine ⟨_, rfl, ?_⟩
  simp [handlerShapes, Json.ofTexts, Template.Shape.Fits, Template.FieldsFit, List.lookup_cons]

/-- What the template of a hydrator is given has the shapes. -/
theorem HydratorPayload.fieldsFit (p : HydratorPayload) :
    ∃ fields, p.toJson = .obj fields ∧ Template.FieldsFit hydratorShapes fields := by
  refine ⟨_, rfl, ?_⟩
  simp [hydratorShapes, ModelProperty.fits, Template.Shape.Fits, Template.FieldsFit,
    List.lookup_cons]

/-- What the template of the route table is given has the shapes. -/
theorem routesPayload_fieldsFit (routes : List Route) :
    ∃ fields, routesPayload routes = .obj fields ∧ Template.FieldsFit routesShapes fields := by
  refine ⟨_, rfl, ?_⟩
  simp [routesShapes, Route.fits, Template.Shape.Fits, Template.FieldsFit]

/-! ### The built-in templates pass -/

namespace Template

/-- The parts of a template, given its characters. -/
def ofChars? (cs : List Char) : Option (List Part) := do
  let chunks ← chunks? cs (cs.length + 1)
  let (ps, e, _) ← pieces? chunks (2 * chunks.length + 2)
  match e with
  | .done => some (parts ps)
  | _ => none

/-- A text that is spelled out is read from its characters. To take them off the text again costs
the kernel a hundred times as much. -/
theorem ofSource?_eq {source : String} {cs : List Char} (h : source = String.ofList cs) :
    ofSource? source = ofChars? cs := by
  rw [ofSource?, chunksOf?, h, String.toList_ofList]
  rfl

/-- The characters are those of a template that passes the check for objects with these fields. -/
def passes (shapes : List (String × Shape)) (cs : List Char) : Bool :=
  (ofChars? cs).any (checkParts { frames := [], fields := shapes })

/-- The source is a template that is rendered with every object whose fields have the shapes. -/
def Renders (source : String) (shapes : List (String × Shape)) : Prop :=
  ∃ parts, ofSource? source = some parts ∧
    ∀ fields, FieldsFit shapes fields → ∃ text, render? parts fields = some text

/-- A source that passes is rendered. -/
theorem renders_of_passes {source : String} {cs : List Char} {shapes : List (String × Shape)}
    (h : source = String.ofList cs) (pass : passes shapes cs = true) : Renders source shapes := by
  unfold passes at pass
  cases read : ofChars? cs with
  | none => simp [read] at pass
  | some parts =>
    rw [read] at pass
    exact ⟨parts, (ofSource?_eq h).trans read, fun fields fit => exists_render? pass fit⟩

set_option maxRecDepth 20000 in
/-- **The built-in templates are rendered** with whatever has the shape that is meant for them. -/
theorem builtinSources_render (kind : TargetKind) :
    List.Forall₂ (fun entry shapes => Renders entry.2 shapes) (builtinSources kind)
      [handlerShapes, hydratorShapes, routesShapes] := by
  cases kind with
  | rust =>
    refine .cons ?_ (.cons ?_ (.cons ?_ .nil))
    · exact renders_of_passes rfl (by decide +kernel)
    · exact renders_of_passes rfl (by decide +kernel)
    · exact renders_of_passes rfl (by decide +kernel)
  | php =>
    refine .cons ?_ (.cons ?_ (.cons ?_ .nil))
    · exact renders_of_passes rfl (by decide +kernel)
    · exact renders_of_passes rfl (by decide +kernel)
    · exact renders_of_passes rfl (by decide +kernel)

end Template

namespace TemplateLibrary

/-- The library renders whatever the generators hand to its templates. -/
structure Serves (l : TemplateLibrary) : Prop where
  /-- Handlers are rendered. -/
  handler : ∀ (t : FileTree) (p : HandlerPayload), ∃ text, (l.renderWith t handlerTemplate p.toJson).1 = .ok text
  /-- Hydrators are rendered. -/
  hydrator : ∀ (t : FileTree) (p : HydratorPayload),
    ∃ text, (l.renderWith t hydratorTemplate p.toJson).1 = .ok text
  /-- Route tables are rendered. -/
  routes : ∀ (t : FileTree) (routes : List Route),
    ∃ text, (l.renderWith t routesTemplate (routesPayload routes)).1 = .ok text

/-- A template that is there and can be rendered is. -/
theorem renderWith_ok {l : TemplateLibrary} {key text : String} {parts : List Template.Part}
    {fields : List (String × Json)} (found : l.find? (fileName key) = some parts)
    (rendered : Template.render? parts fields = some text) (t : FileTree) :
    (l.renderWith t key (.obj fields)).1 = .ok text := by
  simp [renderWith, found, rendered]

/-- So is one for which the payload has the right shape. -/
theorem exists_renderWith {l : TemplateLibrary} {key : String} {parts : List Template.Part}
    {payload : Json} {shapes : List (String × Template.Shape)}
    (found : l.find? (fileName key) = some parts)
    (renders : ∀ fields, Template.FieldsFit shapes fields → ∃ text, Template.render? parts fields = some text)
    (fit : ∃ fields, payload = .obj fields ∧ Template.FieldsFit shapes fields) (t : FileTree) :
    ∃ text, (l.renderWith t key payload).1 = .ok text := by
  obtain ⟨fields, rfl, fit⟩ := fit
  obtain ⟨text, rendered⟩ := renders fields fit
  exact ⟨text, renderWith_ok found rendered t⟩

/-- The built-in templates of a kind have the names that belong to their keys. -/
theorem builtinSources_eq (kind : TargetKind) :
    ∃ handler hydrator routes, Template.builtinSources kind
    = [(fileName handlerTemplate, handler), (fileName hydratorTemplate, hydrator),
        (fileName routesTemplate, routes)] := by
  cases kind with
  | rust => exact ⟨_, _, _, rfl⟩
  | php => exact ⟨_, _, _, rfl⟩

/-- **The built-in templates of a kind can be read**, and each is found under its name. -/
theorem exists_builtin (kind : TargetKind) : ∃ l, builtin kind = .ok l ∧
    ∀ entry ∈ Template.builtinSources kind, l.find? entry.1 = Template.ofSource? entry.2 := by
  obtain ⟨handler, hydrator, routes, sources⟩ := builtinSources_eq kind
  have render := Template.builtinSources_render kind
  rw [sources] at render
  simp only [List.forall₂_cons, List.forall₂_nil_left_iff, and_true] at render
  obtain ⟨⟨handlerParts, read₁, -⟩, ⟨hydratorParts, read₂, -⟩, ⟨routesParts, read₃, -⟩⟩ := render
  refine ⟨{ kind, templates := [(fileName handlerTemplate, handlerParts),
    (fileName hydratorTemplate, hydratorParts), (fileName routesTemplate, routesParts)] }, ?_, ?_⟩
  · simp only [builtin, sources, ofSources, read₁, read₂, read₃]
    rfl
  · simp only [sources, List.forall_mem_cons, List.not_mem_nil, false_implies, implies_true,
      and_true]
    exact ⟨read₁.symm, read₂.symm, read₃.symm⟩

/-- **A library of the built-in templates** renders whatever the generators hand to it. -/
theorem serves_of_find? {kind : TargetKind} {l : TemplateLibrary}
    (found : ∀ entry ∈ Template.builtinSources kind, l.find? entry.1 = Template.ofSource? entry.2) :
    l.Serves := by
  obtain ⟨handler, hydrator, routes, sources⟩ := builtinSources_eq kind
  have render := Template.builtinSources_render kind
  rw [sources] at render found
  simp only [List.forall₂_cons, List.forall₂_nil_left_iff, and_true] at render
  simp only [List.forall_mem_cons, List.not_mem_nil, false_implies, implies_true, and_true] at found
  obtain ⟨⟨_, read₁, render₁⟩, ⟨_, read₂, render₂⟩, ⟨_, read₃, render₃⟩⟩ := render
  obtain ⟨found₁, found₂, found₃⟩ := found
  constructor
  · intro t p
    exact exists_renderWith (found₁.trans read₁) render₁ p.fieldsFit t
  · intro t p
    exact exists_renderWith (found₂.trans read₂) render₂ p.fieldsFit t
  · intro t routes
    exact exists_renderWith (found₃.trans read₃) render₃ (routesPayload_fieldsFit routes) t

end TemplateLibrary

/-! ### Runs -/

/-- The template of the artifact does not fail, and if it cannot be given anything, the document is
to blame. -/
structure Artifact.Renders (c : Collaborators σ) (a : Artifact) : Prop where
  /-- What the template is given fails only by a fault of the document. -/
  payload : Blames a.payload
  /-- The template is rendered with it. -/
  rendered : ∀ json, a.payload = .ok json → ∀ w, ∃ text, (c.renderer w a.key json).1 = .ok text

variable {c : Collaborators σ} {a : Artifact} {artifacts : List Artifact} {w w' : σ}
  {calls : List Call} {o : Outcome} {outcomes : List Outcome}

/-- An artifact whose template is given something that is looked up first. -/
theorem Artifact.renders_of_payload {x : Except Error α} {f : α → Json}
    (payload : a.payload = (do return f (← x))) (lookup : Blames x)
    (rendered : ∀ b w, ∃ text, (c.renderer w a.key (f b)).1 = .ok text) :
    a.Renders c := by
  constructor
  · rw [payload]
    exact lookup.bind fun b => .ok (f b)
  · intro json given w
    rw [payload] at given
    cases found : x with
    | error e =>
      rw [found] at given
      cases given
    | ok b =>
      rw [found] at given
      obtain rfl := Except.ok.inj given
      exact rendered b w

theorem Block.blames (renders : a.Renders c) (never : c.writer.NeverFails)
    (block : Block c a w calls o w') {e : Error} (failed : o = .failed e) : e.IsLookup := by
  cases block with
  | leftAlone => cases failed
  | made => cases failed
  | unprepared _ payload =>
    obtain rfl := Outcome.failed.inj failed
    exact renders.payload _ payload
  | unrendered _ payload rendered =>
    obtain ⟨text, ok⟩ := renders.rendered _ payload w
    rw [ok] at rendered
    cases rendered
  | unwritten _ _ _ written => exact absurd written never.not_error

/-- Blocks of artifacts that are rendered fail only by a fault of the document. -/
theorem Blocks.blames (renders : ∀ a ∈ artifacts, a.Renders c) (never : c.writer.NeverFails)
    (blocks : Blocks c artifacts w calls outcomes w') (a : α) :
    Blames (outcomesResult outcomes a) := by
  induction blocks with
  | nil => exact .ok a
  | fail block => exact .error (block.blames (renders _ List.mem_cons_self) never rfl)
  | cons block complete _ ih =>
    rw [outcomesResult_cons complete]
    exact ih fun a ha => renders a (List.mem_cons_of_mem _ ha)

namespace Codegen

/-- What a run is to make is rendered, if the library renders what the generators hand it. -/
theorem renders_of_mem {g : Codegen σ} {l : TemplateLibrary} (serves : l.Serves)
    {files : σ → FileTree} (renderer : g.collaborators.renderer = l.renderer files)
    {kind : TargetKind} (properties : g.properties = modelProperties kind) {d : Document}
    {base : String} {output config : Path} {a : Artifact}
    (ha : a ∈ g.artifacts d base output config) : a.Renders g.collaborators := by
  have rendered : ∀ w key json, g.collaborators.renderer w key json = l.renderWith (files w) key json := by
    intro w key json
    rw [renderer]
    rfl
  rcases List.mem_append.mp ha with ha | ha
  · rcases List.mem_append.mp ha with ha | ha
    · obtain ⟨entry, -, rfl⟩ := List.mem_map.mp ha
      refine Artifact.renders_of_payload (x := .ok (g.handlerPayload base entry.1 entry.2))
        (g.handlerArtifact_payload base output entry) (.ok _) ?_
      intro p w
      rw [rendered, handlerArtifact_key]
      exact serves.handler _ p
    · obtain ⟨entry, -, rfl⟩ := List.mem_map.mp ha
      have lookup : Blames (g.propertiesOf entry) := by
        rw [propertiesOf, properties]
        exact modelProperties_blames kind entry.2 entry.1 []
      refine Artifact.renders_of_payload (g.hydratorArtifact_payload base output entry) lookup ?_
      intro ps w
      rw [rendered, hydratorArtifact_key]
      exact serves.hydrator _ _
  · obtain rfl := List.mem_singleton.mp ha
    refine Artifact.renders_of_payload (g.tableArtifact_payload d base config)
      (d.routeList_blames g.namespacing base) ?_
    intro routes w
    rw [rendered, tableArtifact_key]
    exact serves.routes _ routes

/-- **The built-in templates never fail.** Those of either kind can be read, and they render
whatever a generator can hand them. So a run with them, with the properties of their kind and with a
writer that never fails ends well, or in a pointer of the document that is none into its table, or
in one to a shared parameter that is not there; whatever the document, the namespace, the
directories and the policy are. -/
theorem run_with_builtin (kind : TargetKind) :
    ∃ l, TemplateLibrary.builtin kind = .ok l ∧ l.Serves ∧
      ∀ {σ : Type} (files : σ → FileTree) (g : Codegen σ), g.collaborators.renderer = l.renderer files →
        g.properties = modelProperties kind → g.collaborators.writer.NeverFails →
        ∀ (d : Document) (base : String) (output config : Path) (s : RunState σ),
          (∃ report, ((g.run d base output config).start s).1 = .ok report) ∨
          (∃ reference table, ((g.run d base output config).start s).1
            = .error (.unsupportedReference reference table)) ∨
          ∃ name, ((g.run d base output config).start s).1
            = .error (.document (Document.missingParameterMessage name)) := by
  obtain ⟨l, loaded, found⟩ := TemplateLibrary.exists_builtin kind
  have serves : l.Serves := TemplateLibrary.serves_of_find? found
  refine ⟨l, loaded, serves, ?_⟩
  intro σ files g renderer properties never d base output config s
  obtain ⟨calls, outcomes, ends, -, blocks⟩ := g.run_ends d base output config s
  have blames := blocks.blames (fun a ha => renders_of_mem serves renderer properties ha) never
    (g.reportOf d base output outcomes)
  rw [← ends] at blames
  cases result : ((g.run d base output config).start s).1 with
  | ok report => exact .inl ⟨report, rfl⟩
  | error e =>
    cases blames e result with
    | pointer reference table => exact .inr (.inl ⟨reference, table, rfl⟩)
    | parameter name => exact .inr (.inr ⟨name, rfl⟩)

end Codegen

/-- Generators that work with a library of templates and put their files on a shelf. -/
def TemplateLibrary.shelving (l : TemplateLibrary) (kind : TargetKind) :
    Codegen (List (Path × String)) where
  collaborators := { ApiStubs.shelving.collaborators with renderer := l.renderer fun _ => emptyTree }
  namespacing := ⟨"\\"⟩
  properties := modelProperties kind

/-- The document of an outsider, made with the built-in templates. -/
theorem outsiders_with_builtin :
    ∃ l, TemplateLibrary.builtin .php = .ok l ∧ (l.shelving .php).collaborators.writer.NeverFails ∧
      ((∃ report, (((l.shelving .php).run outsiders "App" ⟨"out"⟩ ⟨"out/config"⟩).start { world := [] }).1
          = .ok report) ∨
        (∃ reference table, (((l.shelving .php).run outsiders "App" ⟨"out"⟩ ⟨"out/config"⟩).start
          { world := [] }).1 = .error (.unsupportedReference reference table)) ∨
        ∃ name, (((l.shelving .php).run outsiders "App" ⟨"out"⟩ ⟨"out/config"⟩).start { world := [] }).1
          = .error (.document (Document.missingParameterMessage name))) := by
  obtain ⟨l, loaded, -, run⟩ := Codegen.run_with_builtin .php
  have never : (l.shelving .php).collaborators.writer.NeverFails := fun _ _ _ => rfl
  exact ⟨l, loaded, never, run _ (l.shelving .php) rfl rfl never outsiders "App" ⟨"out"⟩ ⟨"out/config"⟩
    { world := [] }⟩

end ApiStubs
