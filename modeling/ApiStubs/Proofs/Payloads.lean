import ApiStubs.Proofs.Overwriting

/-!
# What the templates are given

Handlers are made path by path and routes operation by operation, and the two generators share no
more than the naming. That a route leads to a handler, and to a method which that handler knows, is
therefore a statement about what two templates are given, and about every document.

## What is proved

* `Blocks.payloadsOf_eq` and `Blocks.payloadsOf_prefix`: with nothing left alone, a template is
  given what its artifacts have for it, in order; up to the failure if there is one.
* `map_route_eq`: the handlers and methods of the routes are those of the endpoints.
* `routes_match_handlers`: the handlers and methods of the routes are, in order and one by one,
  those that the handlers are told of, in a run of the handlers alone and in a run of everything.
* `writtenOut_routeList`: a path that is given by a pointer makes no difference to the routes.
-/

namespace ApiStubs

/-! ### Calls of a template -/

/-- What a template is given by a call. -/
def Call.payload? (key : String) : Call → Option Json
  | .rendered k json => if k = key then some json else none
  | _ => none

/-- What a template is given by some calls, in order. -/
def payloadsOf (key : String) (calls : List Call) : List Json := calls.filterMap (Call.payload? key)

theorem payloadsOf_append (key : String) (calls₁ calls₂ : List Call) :
    payloadsOf key (calls₁ ++ calls₂) = payloadsOf key calls₁ ++ payloadsOf key calls₂ :=
  List.filterMap_append

/-- Announcements give nothing to templates. -/
theorem payloadsOf_news (key : String) {a : Artifact} (h : a.HasNews) :
    payloadsOf key a.news = [] := by
  refine List.filterMap_eq_nil_iff.mpr fun call hc => ?_
  obtain ⟨name, event, rfl⟩ := h call hc
  rfl

/-- What an artifact has for the template of a key. -/
def Artifact.payloadsFor (key : String) (a : Artifact) : List Json :=
  if a.key = key then a.payload.toOption.toList else []

theorem Artifact.payloadsFor_of_ne {a : Artifact} {key : String} (h : a.key ≠ key) :
    a.payloadsFor key = [] :=
  if_neg h

theorem Artifact.payloadsFor_of_ok {a : Artifact} {key : String} {json : Json} (hk : a.key = key)
    (hp : a.payload = .ok json) : a.payloadsFor key = [json] := by
  rw [payloadsFor, if_pos hk, hp]
  rfl

/-! ### Blocks -/

variable {σ : Type} {c : Collaborators σ} {a : Artifact} {artifacts : List Artifact} {w w' : σ}
  {calls : List Call} {o : Outcome} {outcomes : List Outcome}

namespace Block

/-- The call that renders an artifact gives its template what the artifact has for it. -/
theorem payloadsOf_rendered {key : String} {json : Json} {rest : List Call}
    (payload : a.payload = .ok json) (quiet : payloadsOf key rest = []) :
    payloadsOf key (.asked a.target false :: .rendered a.key json :: rest) = a.payloadsFor key := by
  unfold payloadsOf at quiet ⊢
  rw [List.filterMap_cons_none rfl]
  by_cases hk : a.key = key
  · have here : (Call.rendered a.key json).payload? key = some json := if_pos hk
    rw [Artifact.payloadsFor_of_ok hk payload, List.filterMap_cons_some here, quiet]
  · have elsewhere : (Call.rendered a.key json).payload? key = none := if_neg hk
    rw [Artifact.payloadsFor_of_ne hk, List.filterMap_cons_none elsewhere, quiet]

/-- What follows the rendering gives nothing to templates. -/
theorem payloadsOf_written (key : String) (news : a.HasNews) (text : String) :
    payloadsOf key (.wrote a.target text :: a.news) = [] :=
  (List.filterMap_cons_none rfl).trans (payloadsOf_news key news)

/-- The block of an artifact gives its template what the artifact has for it, or nothing. -/
theorem payloadsOf_prefix (key : String) (news : a.HasNews)
    (block : Block c a w calls o w') : payloadsOf key calls <+: a.payloadsFor key := by
  have none : payloadsOf key [] = [] := rfl
  have whole : payloadsOf key calls = a.payloadsFor key →
      payloadsOf key calls <+: a.payloadsFor key :=
    fun h => h ▸ List.prefix_refl _
  cases block with
  | leftAlone => exact List.nil_prefix
  | unprepared => exact List.nil_prefix
  | unrendered _ payload => exact whole (payloadsOf_rendered payload none)
  | unwritten _ payload => exact whole (payloadsOf_rendered payload none)
  | made _ payload => exact whole (payloadsOf_rendered payload (payloadsOf_written key news _))

/-- A block that comes to its end gives it that, if the policy does not leave the artifact alone. -/
theorem payloadsOf_eq (key : String) (news : a.HasNews) (block : Block c a w calls o w')
    (complete : o.IsComplete) (free : a.key = key → c.policy w a.target = false) :
    payloadsOf key calls = a.payloadsFor key := by
  cases block with
  | leftAlone asked =>
    refine (Artifact.payloadsFor_of_ne fun hk => ?_).symm
    rw [free hk] at asked
    cases asked
  | unprepared => exact absurd complete (by simp)
  | unrendered => exact absurd complete (by simp)
  | unwritten => exact absurd complete (by simp)
  | made _ payload => exact payloadsOf_rendered payload (payloadsOf_written key news _)

end Block

namespace Blocks

variable (key : String) (news : ∀ a ∈ artifacts, a.HasNews)
  (free : ∀ a ∈ artifacts, a.key = key → ∀ w, c.policy w a.target = false)
include news free

/-- **With nothing left alone, a template is given what its artifacts have for it**, in order. -/
theorem payloadsOf_eq (blocks : Blocks c artifacts w calls outcomes w')
    (done : outcomesResult outcomes () = .ok ()) :
    payloadsOf key calls = artifacts.flatMap (Artifact.payloadsFor key) := by
  induction blocks with
  | nil => rfl
  | fail => simp [outcomesResult] at done
  | cons block complete rest ih =>
    rw [outcomesResult_cons complete] at done
    rw [payloadsOf_append, List.flatMap_cons,
      block.payloadsOf_eq key (news _ List.mem_cons_self) complete fun hk => free _ List.mem_cons_self hk _,
      ih (fun a ha => news a (List.mem_cons_of_mem _ ha)) (fun a ha => free a (List.mem_cons_of_mem _ ha)) done]

/-- A run that fails gives it what comes before the failure. -/
theorem payloadsOf_prefix (blocks : Blocks c artifacts w calls outcomes w') :
    payloadsOf key calls <+: artifacts.flatMap (Artifact.payloadsFor key) := by
  induction blocks with
  | nil => exact List.nil_prefix
  | fail block =>
    rw [List.flatMap_cons]
    exact (block.payloadsOf_prefix key (news _ List.mem_cons_self)).trans (List.prefix_append _ _)
  | cons block complete rest ih =>
    rw [payloadsOf_append, List.flatMap_cons,
      block.payloadsOf_eq key (news _ List.mem_cons_self) complete fun hk => free _ List.mem_cons_self hk _]
    exact List.prefix_append_right_inj _ |>.mpr
      (ih (fun a ha => news a (List.mem_cons_of_mem _ ha)) fun a ha => free a (List.mem_cons_of_mem _ ha))

end Blocks

/-! ### The artifacts of a run -/

theorem handlerTemplate_ne_hydratorTemplate : handlerTemplate ≠ hydratorTemplate := by decide

theorem handlerTemplate_ne_routesTemplate : handlerTemplate ≠ routesTemplate := by decide

theorem hydratorTemplate_ne_routesTemplate : hydratorTemplate ≠ routesTemplate := by decide

/-- Artifacts of other templates have nothing for a template. -/
theorem flatMap_payloadsFor_of_ne {key : String} (h : ∀ a ∈ artifacts, a.key ≠ key) :
    artifacts.flatMap (Artifact.payloadsFor key) = [] :=
  List.flatMap_eq_nil_iff.mpr fun a ha => Artifact.payloadsFor_of_ne (h a ha)

namespace Codegen

variable (g : Codegen σ) (d : Document) (base : String) (output config : Path)

/-- What the handlers of a document are told. -/
def handlerPayloads : List HandlerPayload :=
  d.inlinePaths.map fun entry => g.handlerPayload base entry.1 entry.2

theorem handlerArtifacts_payloadsFor :
    (g.handlerArtifacts d base output).flatMap (Artifact.payloadsFor handlerTemplate)
      = (g.handlerPayloads d base).map HandlerPayload.toJson := by
  unfold handlerArtifacts handlerPayloads
  induction d.inlinePaths with
  | nil => rfl
  | cons entry rest ih =>
    rw [List.map_cons, List.flatMap_cons, ih,
      Artifact.payloadsFor_of_ok (g.handlerArtifact_key base output entry)
        (g.handlerArtifact_payload base output entry)]
    rfl

/-- The template of handlers is given what the handlers are told. -/
theorem artifacts_payloadsFor_handler :
    (g.artifacts d base output config).flatMap (Artifact.payloadsFor handlerTemplate)
      = (g.handlerPayloads d base).map HandlerPayload.toJson := by
  have hydrators : (g.hydratorArtifacts d base output).flatMap (Artifact.payloadsFor handlerTemplate) = [] := by
    refine flatMap_payloadsFor_of_ne fun a ha => ?_
    obtain ⟨entry, -, rfl⟩ := List.mem_map.mp ha
    rw [hydratorArtifact_key]
    exact handlerTemplate_ne_hydratorTemplate.symm
  have table : [g.tableArtifact d base config].flatMap (Artifact.payloadsFor handlerTemplate) = [] := by
    refine flatMap_payloadsFor_of_ne fun a ha => ?_
    rw [List.mem_singleton.mp ha, tableArtifact_key]
    exact handlerTemplate_ne_routesTemplate.symm
  rw [artifacts, List.flatMap_append, List.flatMap_append, handlerArtifacts_payloadsFor, hydrators,
    table, List.append_nil, List.append_nil]

/-- The template of the route table is given the routes. -/
theorem artifacts_payloadsFor_routes {routes : List Route}
    (found : d.routeList g.namespacing base = .ok routes) :
    (g.artifacts d base output config).flatMap (Artifact.payloadsFor routesTemplate)
      = [routesPayload routes] := by
  have stubs : (g.stubs d base output).flatMap (Artifact.payloadsFor routesTemplate) = [] := by
    refine flatMap_payloadsFor_of_ne fun a ha => ?_
    rcases List.mem_append.mp ha with ha | ha
    · obtain ⟨entry, -, rfl⟩ := List.mem_map.mp ha
      rw [handlerArtifact_key]
      exact handlerTemplate_ne_routesTemplate
    · obtain ⟨entry, -, rfl⟩ := List.mem_map.mp ha
      rw [hydratorArtifact_key]
      exact hydratorTemplate_ne_routesTemplate
  have payload : (g.tableArtifact d base config).payload = .ok (routesPayload routes) :=
    (g.tableArtifact_payload_eq_ok_iff d base config).mpr ⟨routes, found, rfl⟩
  rw [artifacts_eq, List.flatMap_append, stubs, List.nil_append, List.flatMap_singleton,
    Artifact.payloadsFor_of_ok (g.tableArtifact_key d base config) payload]

end Codegen

/-! ### Paths that are given by a pointer -/

/-- The document with the paths that are written out. -/
def Document.writtenOut (d : Document) : Document :=
  { d with paths := d.paths.filter fun entry => entry.2.item?.isSome }

theorem inlineEntries_filter (entries : List (String × RefOr α)) :
    inlineEntries (entries.filter fun entry => entry.2.item?.isSome) = inlineEntries entries := by
  induction entries with
  | nil => rfl
  | cons entry rest ih =>
    obtain ⟨name, pointer | a⟩ := entry
    · exact ih
    · rw [List.filter_cons_of_pos rfl, inlineEntries_item, inlineEntries_item, ih]

theorem Document.writtenOut_inlinePaths (d : Document) : d.writtenOut.inlinePaths = d.inlinePaths :=
  inlineEntries_filter d.paths

/-- A path that is given by a pointer has no route. -/
theorem Document.writtenOut_routeList (d : Document) (n : Namespacing) (base : String) :
    d.writtenOut.routeList n base = d.routeList n base :=
  routeList_congr d.writtenOut_inlinePaths rfl n base

/-! ### Handlers and routes -/

namespace Codegen

variable {σ : Type} {g : Codegen σ} {d : Document} {base : String} {output config : Path}

/-- The handlers and methods of the routes are those of the endpoints. -/
theorem map_route_eq {n : Namespacing} {routes : List Route} (h : d.routeList n base = .ok routes) :
    routes.map (fun r => (r.middleware, r.method))
      = d.endpoints.map fun x => (n.qualify (n.child base handlerSuffix) (handlerName x.path), x.method.word) := by
  have each := Document.forall₂_routeList h
  clear h
  generalize d.endpoints = endpoints at each
  induction each with
  | nil => rfl
  | cons first _ ih =>
    obtain ⟨middleware, method⟩ := Endpoint.of_route first
    rw [List.map_cons, List.map_cons, ih, middleware, method]

/-- The handlers and methods of the endpoints are those that the handlers are told of. -/
theorem map_endpoints_eq :
    d.endpoints.map (fun x => (g.namespacing.qualify (g.handlerSpace base) (handlerName x.path), x.method.word))
      = (g.handlerPayloads d base).flatMap fun p =>
          p.operationMethods.map fun m => (g.namespacing.qualify p.space p.className, m) := by
  rw [Document.endpoints, handlerPayloads, List.map_flatMap, List.flatMap_map]
  congr 1
  funext entry
  simp only [endpointsOf, handlerPayload, List.map_map]
  rfl

/-- **Routes lead to handlers that are made, and to methods that these know.** Whatever the
document, the namespace and the separator, if the routes are found, their handlers and methods are,
in order and one by one, those of which the handlers are told. Every operation of a path that is
written out has one route; paths that are given by a pointer count for neither. With nothing left
alone, this is what the template of handlers is given, in a run of the handlers and in a run of
everything, up to a failure if there is one; the template of the route table is given these
routes. -/
theorem routes_match_handlers (g : Codegen σ) (d : Document) (base : String) {s₀ : RunState σ}
    {routes : List Route} (found : ((g.routes d base).start s₀).1 = .ok routes) (output config : Path)
    (free : ∀ w p, g.collaborators.policy w p = false) :
    routes.map (fun r => (r.middleware, r.method)) = (g.handlerPayloads d base).flatMap (fun p =>
      p.operationMethods.map fun m => (p.space ++ g.namespacing.separator ++ p.className, m)) ∧
    List.Forall₂ (fun x r => x.route g.namespacing d base = .ok r) d.endpoints routes ∧
    ((g.routes d.writtenOut base).start s₀).1 = .ok routes ∧
    g.handlerPayloads d.writtenOut base = g.handlerPayloads d base ∧
    (∀ s : RunState σ, ∃ calls, ((g.handlers d output base).start s).2.calls = s.calls ++ calls ∧
      payloadsOf handlerTemplate calls <+: (g.handlerPayloads d base).map HandlerPayload.toJson ∧
      ∀ names, ((g.handlers d output base).start s).1 = .ok names →
        payloadsOf handlerTemplate calls = (g.handlerPayloads d base).map HandlerPayload.toJson) ∧
    ∀ s : RunState σ, ∃ calls, ((g.run d base output config).start s).2.calls = s.calls ++ calls ∧
      payloadsOf handlerTemplate calls <+: (g.handlerPayloads d base).map HandlerPayload.toJson ∧
      ∀ report, ((g.run d base output config).start s).1 = .ok report →
        payloadsOf handlerTemplate calls = (g.handlerPayloads d base).map HandlerPayload.toJson ∧
        payloadsOf routesTemplate calls = [routesPayload routes] := by
  have list : d.routeList g.namespacing base = .ok routes :=
    (((g.routes_computes d base) s₀.world).result s₀ rfl).symm.trans found
  have news : ∀ a ∈ g.artifacts d base output config, a.HasNews := fun a ha => hasNews_of_mem ha
  refine ⟨(map_route_eq list).trans map_endpoints_eq, Document.forall₂_routeList list, ?_, ?_,
    fun s => ?_, fun s => ?_⟩
  · rw [((g.routes_computes d.writtenOut base) s₀.world).result s₀ rfl, d.writtenOut_routeList, list]
  · rw [handlerPayloads, d.writtenOut_inlinePaths, handlerPayloads]
  · obtain ⟨calls, outcomes, w', blocks, does⟩ := g.handlers_make d base output s.world
    have news : ∀ a ∈ g.handlerArtifacts d base output, a.HasNews := fun a ha =>
      news a (List.mem_append_left _ (List.mem_append_left _ ha))
    have told := g.handlerArtifacts_payloadsFor d base output
    refine ⟨calls, does.calls s rfl, ?_, fun names h => ?_⟩
    · rw [← told]
      exact blocks.payloadsOf_prefix handlerTemplate news fun a _ _ w => free w a.target
    · rw [← told]
      have done := (of_outcomesResult_ok ((does.result s rfl).symm.trans h)).1
      exact blocks.payloadsOf_eq handlerTemplate news (fun a _ _ w => free w a.target) done
  · obtain ⟨calls, outcomes, ends, hc, blocks⟩ := g.run_ends d base output config s
    have told := g.artifacts_payloadsFor_handler d base output config
    refine ⟨calls, hc, ?_, fun report h => ?_⟩
    · rw [← told]
      exact blocks.payloadsOf_prefix handlerTemplate news fun a _ _ w => free w a.target
    · have done := (of_outcomesResult_ok (ends.symm.trans h)).1
      rw [← told, ← g.artifacts_payloadsFor_routes d base output config list]
      exact ⟨blocks.payloadsOf_eq handlerTemplate news (fun a _ _ w => free w a.target) done,
        blocks.payloadsOf_eq routesTemplate news (fun a _ _ w => free w a.target) done⟩

end Codegen

/-- Two paths that are written out, and one that is given by a pointer. -/
def pointed : Document :=
  { neighbours with paths := neighbours.paths ++ [("/a/d", .reference "#/paths/~1a~1b")] }

/-- The routes of these. -/
def pointedRoutes : List Route := [
  { middleware := "App\\Handler\\ABHandler", modelMiddleware := none, path := "/a/b",
    method := "GET", name := none },
  { middleware := "App\\Handler\\ACHandler", modelMiddleware := none, path := "/a/c",
    method := "POST", name := none }]

/-- The templates are given two handlers and their two routes. -/
theorem pointed_routes_match :
    ((plainly.routes pointed "App").start { world := emptyTree }).1 = .ok pointedRoutes ∧
    pointedRoutes.map (fun r => (r.middleware, r.method))
      = (plainly.handlerPayloads pointed "App").flatMap (fun p =>
      p.operationMethods.map fun m => (p.space ++ plainly.namespacing.separator ++ p.className, m)) ∧
    ∃ calls, ((plainly.run pointed "App" intoOut.output intoOut.routesDir).start { world := emptyTree }).2.calls
        = [] ++ calls ∧
      payloadsOf handlerTemplate calls = (plainly.handlerPayloads pointed "App").map HandlerPayload.toJson ∧
      payloadsOf routesTemplate calls = [routesPayload pointedRoutes] := by
  have found : ((plainly.routes pointed "App").start { world := emptyTree }).1 = .ok pointedRoutes :=
    eq_ok_of_toOption (by decide +kernel)
  have ok : ((plainly.run pointed "App" intoOut.output intoOut.routesDir).start { world := emptyTree }).1
      = .ok ⟨["ABHandler", "ACHandler"], [], true⟩ := eq_ok_of_toOption (by decide +kernel)
  obtain ⟨pairs, -, -, -, -, given⟩ :=
    plainly.routes_match_handlers pointed "App" found intoOut.output
      intoOut.routesDir fun _ _ => rfl
  obtain ⟨calls, hc, -, whole⟩ := given { world := emptyTree }
  exact ⟨found, pairs, calls, hc, whole _ ok⟩

end ApiStubs
