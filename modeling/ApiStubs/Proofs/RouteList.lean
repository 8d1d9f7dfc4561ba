import ApiStubs.Proofs.Steps
import ApiStubs.Route.Table
import Mathlib.Data.List.Forall2

/-!
# The routes of a document

The routes are found while the document is gone through, path by path and method by method, and
what is passed over goes into the log. Here the same routes are a list: every operation of a path
that is written out is an endpoint, and the routes are those of the endpoints, in order, unless
one of them has none. `routes_computes` says that this is what the generators find.
-/

namespace ApiStubs

variable {σ : Type}

/-- The entries that are written out. -/
def inlineEntries (entries : List (String × RefOr α)) : List (String × α) :=
  entries.filterMap fun (name, entry) => entry.item?.map (name, ·)

@[simp] theorem inlineEntries_nil : inlineEntries ([] : List (String × RefOr α)) = [] := rfl

@[simp] theorem inlineEntries_item (name : String) (a : α) (rest : List (String × RefOr α)) :
    inlineEntries ((name, .item a) :: rest) = (name, a) :: inlineEntries rest := rfl

@[simp] theorem inlineEntries_reference (name pointer : String) (rest : List (String × RefOr α)) :
    inlineEntries ((name, .reference pointer) :: rest) = inlineEntries rest := rfl

theorem inlinePaths_eq (d : Document) : d.inlinePaths = inlineEntries d.paths := rfl

/-- Going through the paths with a step that computes is a `mapM` over those written out. -/
theorem forPaths_computes {step : String → PathItem → Run σ α}
    {r : String × PathItem → Except Error α} (h : ∀ path item, (step path item).Computes (r (path, item)))
    (paths : List (String × RefOr PathItem)) :
    (forPaths step paths).Computes ((inlineEntries paths).mapM r) := by
  induction paths with
  | nil => exact Run.Computes.pure []
  | cons entry rest ih =>
    obtain ⟨path, _ | item⟩ := entry
    · exact (Run.Computes.say _ _).bind fun _ => ih
    · rw [inlineEntries_item, List.mapM_cons]
      exact (h path item).bind fun a => ih.bind fun as => Run.Computes.pure (a :: as)

/-! ### Endpoints -/

/-- An operation of a path. -/
structure Endpoint where
  /-- The path. -/
  path : String
  /-- What the path does. -/
  item : PathItem
  /-- The method. -/
  method : Method
  /-- What the path does for the method. -/
  operation : Operation

/-- The operations of a path. -/
def endpointsOf (entry : String × PathItem) : List Endpoint :=
  entry.2.operations.map fun (m, o) => ⟨entry.1, entry.2, m, o⟩

/-- The operations of the paths that are written out, by path and then by method. -/
def Document.endpoints (d : Document) : List Endpoint :=
  d.inlinePaths.flatMap endpointsOf

theorem Document.mem_endpoints {d : Document} {x : Endpoint} :
    x ∈ d.endpoints ↔ (x.path, x.item) ∈ d.inlinePaths ∧ (x.method, x.operation) ∈ x.item.operations := by
  simp only [Document.endpoints, endpointsOf, List.mem_flatMap, List.mem_map, Prod.exists]
  constructor
  · rintro ⟨path, item, hi, m, o, ho, rfl⟩
    exact ⟨hi, ho⟩
  · rintro ⟨hi, ho⟩
    exact ⟨_, _, hi, _, _, ho, rfl⟩

/-- The model of the JSON body of an operation. -/
def Namespacing.bodyModel (n : Namespacing) (base : String) (o : Operation) :
    Except Error (Option String) :=
  match o.requestBody with
  | some (.item body) =>
    match body.jsonSchema? with
    | some (.reference pointer) => do
      return some (n.qualify (n.child base modelSuffix) (modelName (← schemaName pointer)))
    | _ => .ok none
  | _ => .ok none

/-- The route of an endpoint. -/
def Endpoint.route (x : Endpoint) (n : Namespacing) (d : Document) (base : String) :
    Except Error Route := do
  let names ← pathParameters d (x.item.parameters ++ x.operation.parameters)
  let model ← n.bodyModel base x.operation
  return {
    middleware := n.qualify (n.child base handlerSuffix) (handlerName x.path)
    modelMiddleware := model
    path := markParameters x.path names
    method := x.method.word
    name := x.operation.operationId }

/-- The routes of a document: those of its endpoints. -/
def Document.routeList (d : Document) (n : Namespacing) (base : String) :
    Except Error (List Route) :=
  d.endpoints.mapM fun x => x.route n d base

/-! ### What the routes depend on -/

/-- The shared parameters, in the order of the document. -/
def Document.parameters (d : Document) : List (String × RefOr Parameter) :=
  match d.components with
  | some c => c.parameters
  | none => []

section

variable {d d' : Document}

theorem Document.sharedParameter?_eq (d : Document) (name : String) :
    d.sharedParameter? name = (d.parameters.lookup name).bind RefOr.item? := by
  unfold sharedParameter? parameters
  cases d.components <;> rfl

/-- Parameters are resolved in the table of shared parameters. -/
theorem pathParameters_congr (same : d.parameters = d'.parameters) (ps : List (RefOr Parameter)) :
    pathParameters d ps = pathParameters d' ps := by
  have resolved : ∀ p, d.resolveParameter p = d'.resolveParameter p := by
    intro p
    unfold Document.resolveParameter
    simp only [Document.sharedParameter?_eq, same]
  induction ps with
  | nil => rfl
  | cons p rest ih => rw [pathParameters, pathParameters, resolved, ih]

theorem Endpoint.route_congr (same : d.parameters = d'.parameters) (x : Endpoint) (n : Namespacing)
    (base : String) : x.route n d base = x.route n d' base := by
  rw [Endpoint.route, Endpoint.route, pathParameters_congr same]

/-- The routes depend on the paths that are written out and on the shared parameters. -/
theorem Document.routeList_congr (paths : d.inlinePaths = d'.inlinePaths)
    (same : d.parameters = d'.parameters) (n : Namespacing) (base : String) :
    d.routeList n base = d'.routeList n base := by
  have each : (fun x : Endpoint => x.route n d base) = fun x => x.route n d' base :=
    funext fun x => x.route_congr same n base
  rw [routeList, routeList, endpoints, endpoints, paths, each]

end

/-- What a `mapM` finds, item by item. -/
theorem forall₂_of_mapM {f : α → Except Error β} {as : List α} {bs : List β}
    (h : as.mapM f = .ok bs) :
    List.Forall₂ (fun a b => f a = .ok b) as bs := by
  induction as generalizing bs with
  | nil =>
    cases h
    exact .nil
  | cons a as ih =>
    rw [List.mapM_cons] at h
    cases first : f a with
    | error e =>
      rw [first] at h
      cases h
    | ok b =>
      rw [first] at h
      cases others : as.mapM f with
      | error e =>
        rw [others] at h
        cases h
      | ok rest =>
        rw [others] at h
        cases h
        exact .cons first (ih others)

/-- A `mapM` finds something for every item, or it ends with the first item that goes wrong. -/
theorem mapM_ends (f : α → Except Error β) (as : List α) :
    (∃ bs, as.mapM f = .ok bs) ∨
      ∃ before a after e, as = before ++ a :: after ∧ (∀ b ∈ before, ∃ c, f b = .ok c) ∧
        f a = .error e ∧
        as.mapM f = .error e := by
  induction as with
  | nil => exact .inl ⟨[], rfl⟩
  | cons first rest ih =>
    rw [List.mapM_cons]
    cases h : f first with
    | error e => exact .inr ⟨[], first, rest, e, rfl, by simp, h, rfl⟩
    | ok b =>
      rcases ih with ⟨bs, all⟩ | ⟨before, a, after, e, rfl, good, bad, ended⟩
      · exact .inl ⟨b :: bs, by rw [all]; rfl⟩
      · refine .inr ⟨first :: before, a, after, e, rfl, fun b' hb => ?_, bad, by rw [ended]; rfl⟩
        rcases List.mem_cons.mp hb with rfl | hb
        · exact ⟨b, h⟩
        · exact good b' hb

/-- A `mapM` finds something if there is something to find for every item. -/
theorem exists_mapM_iff {f : α → Except Error β} {as : List α} :
    (∃ bs, as.mapM f = .ok bs) ↔ ∀ a ∈ as, ∃ b, f a = .ok b := by
  constructor
  · rintro ⟨bs, h⟩
    have each := forall₂_of_mapM h
    clear h
    induction each with
    | nil => simp
    | cons first _ ih => exact List.forall_mem_cons.mpr ⟨⟨_, first⟩, ih⟩
  · intro all
    rcases mapM_ends f as with found | ⟨before, a, after, e, rfl, -, bad, -⟩
    · exact found
    · obtain ⟨b, good⟩ := all a (by simp)
      rw [bad] at good
      cases good

/-- What is found item by item is what is found for some item. -/
theorem mem_of_forall₂ {γ : Type*} {f : α → γ} {found : β → γ} (inj : found.Injective) {as : List α}
    {bs : List β} (each : List.Forall₂ (fun a b => f a = found b) as bs) {b : β} :
    b ∈ bs ↔ ∃ a ∈ as, f a = found b := by
  induction each with
  | nil => simp
  | cons first _ ih => simp [ih, first, inj.eq_iff, eq_comm]

/-- What a `mapM` finds is what is found for the items. -/
theorem mem_of_mapM {f : α → Except Error β} {as : List α} {bs : List β} (h : as.mapM f = .ok bs)
    {b : β} :
    b ∈ bs ↔ ∃ a ∈ as, f a = .ok b :=
  mem_of_forall₂ (fun _ _ => Except.ok.inj) (forall₂_of_mapM h)

/-- A `mapM` goes wrong as the first item that does. -/
theorem mapM_error_iff {f : α → Except Error β} {as : List α} {e : Error} :
    as.mapM f = .error e ↔
      ∃ before a after, as = before ++ a :: after ∧ (∀ b ∈ before, ∃ c, f b = .ok c) ∧
        f a = .error e := by
  constructor
  · intro h
    rcases mapM_ends f as with ⟨bs, found⟩ | ⟨before, a, after, e', split, good, bad, ended⟩
    · rw [h] at found
      cases found
    · obtain rfl : e' = e := Except.error.inj (ended.symm.trans h)
      exact ⟨before, a, after, split, good, bad⟩
  · rintro ⟨before, a, after, rfl, good, bad⟩
    obtain ⟨bs, found⟩ := exists_mapM_iff.mpr good
    rw [List.mapM_append, found, List.mapM_cons, bad]
    rfl

/-- The name, if the parameter is one of the path. -/
def Parameter.pathName? (p : Parameter) : Option String :=
  if p.location = .path then some p.name else none

/-- All parameters are resolved, and then those of the path are picked out. -/
theorem pathParameters_eq (d : Document) (ps : List (RefOr Parameter)) :
    pathParameters d ps = (do return (← ps.mapM d.resolveParameter).filterMap Parameter.pathName?) := by
  induction ps with
  | nil => rfl
  | cons p rest ih =>
    rw [pathParameters, ih, List.mapM_cons]
    cases d.resolveParameter p with
    | error e => rfl
    | ok q =>
      cases rest.mapM d.resolveParameter with
      | error e => rfl
      | ok qs =>
        change Except.ok _ = Except.ok (List.filterMap Parameter.pathName? (q :: qs))
        rw [List.filterMap_cons, Parameter.pathName?]
        split <;> rfl

/-- The names of the path parameters are those of the parameters that are meant. -/
theorem mem_of_pathParameters {d : Document} {ps : List (RefOr Parameter)} {names : List String}
    (h : pathParameters d ps = .ok names) {name : String} :
    name ∈ names ↔ ∃ p ∈ ps, ∃ q, d.resolveParameter p = .ok q ∧ q.pathName? = some name := by
  rw [pathParameters_eq] at h
  cases found : ps.mapM d.resolveParameter with
  | error e =>
    rw [found] at h
    cases h
  | ok qs =>
    rw [found] at h
    obtain rfl := Except.ok.inj h
    rw [List.mem_filterMap]
    simp only [mem_of_mapM found]
    constructor
    · rintro ⟨q, ⟨p, hp, resolved⟩, named⟩
      exact ⟨p, hp, q, resolved, named⟩
    · rintro ⟨p, hp, q, resolved, named⟩
      exact ⟨q, ⟨p, hp, resolved⟩, named⟩

/-- The names of the path parameters are found if all parameters can be resolved. -/
theorem exists_pathParameters_iff {d : Document} {ps : List (RefOr Parameter)} :
    (∃ names, pathParameters d ps = .ok names) ↔ ∀ p ∈ ps, ∃ q, d.resolveParameter p = .ok q := by
  rw [pathParameters_eq, ← exists_mapM_iff]
  constructor
  · rintro ⟨names, h⟩
    cases found : ps.mapM d.resolveParameter with
    | error e =>
      rw [found] at h
      cases h
    | ok qs => exact ⟨qs, rfl⟩
  · rintro ⟨qs, found⟩
    rw [found]
    exact ⟨_, rfl⟩

namespace Endpoint

variable {x : Endpoint} {n : Namespacing} {d : Document} {base : String} {r : Route}

/-- What a route is made of. -/
theorem exists_of_route (h : x.route n d base = .ok r) :
    ∃ names model, pathParameters d (x.item.parameters ++ x.operation.parameters) = .ok names ∧
      n.bodyModel base x.operation = .ok model ∧
      r = { middleware := n.qualify (n.child base handlerSuffix) (handlerName x.path)
            modelMiddleware := model
            path := markParameters x.path names
            method := x.method.word
            name := x.operation.operationId } := by
  unfold route at h
  cases names : pathParameters d (x.item.parameters ++ x.operation.parameters) with
  | error e =>
    rw [names] at h
    cases h
  | ok found =>
    rw [names] at h
    cases model : n.bodyModel base x.operation with
    | error e =>
      rw [model] at h
      cases h
    | ok m =>
      rw [model] at h
      cases h
      exact ⟨found, m, rfl, rfl, rfl⟩

/-- A route has the handler of the path of its endpoint, and its method. -/
theorem of_route (h : x.route n d base = .ok r) :
    r.middleware = n.qualify (n.child base handlerSuffix) (handlerName x.path) ∧
      r.method = x.method.word := by
  obtain ⟨names, model, -, -, rfl⟩ := exists_of_route h
  exact ⟨rfl, rfl⟩

theorem method_of_route (h : x.route n d base = .ok r) : r.method = x.method.word := (of_route h).2

end Endpoint

/-- Every endpoint has one route, in order. -/
theorem Document.forall₂_routeList {d : Document} {n : Namespacing} {base : String}
    {routes : List Route} (h : d.routeList n base = .ok routes) :
    List.Forall₂ (fun x r => x.route n d base = .ok r) d.endpoints routes :=
  forall₂_of_mapM h

/-! ### What the generators find -/

namespace Codegen

variable (g : Codegen σ) (d : Document) (base : String)

theorem modelMiddleware_computes (o : Operation) :
    (g.modelMiddleware base o).Computes (g.namespacing.bodyModel base o) := by
  unfold modelMiddleware Namespacing.bodyModel
  cases o.requestBody with
  | none => exact Run.Computes.pure none
  | some body =>
    cases body with
    | reference pointer => exact (Run.Computes.say _ _).bind fun _ => Run.Computes.pure none
    | item body =>
      dsimp only
      cases body.jsonSchema? with
      | none => exact Run.Computes.pure none
      | some schema =>
        cases schema with
        | reference pointer => exact (Run.Computes.ofExcept _).bind fun _ => Run.Computes.pure _
        | item schema => exact Run.Computes.pure none

theorem route_computes (x : Endpoint) :
    (g.route d base x.path x.item x.method x.operation).Computes (x.route g.namespacing d base) :=
  (Run.Computes.ofExcept _).bind fun _ =>
    (g.modelMiddleware_computes base x.operation).bind fun _ => Run.Computes.pure _

theorem routesOf_computes (path : String) (item : PathItem)
    (operations : List (Method × Operation)) :
    (g.routesOf d base path item operations).Computes
      (operations.mapM fun (m, o) => (⟨path, item, m, o⟩ : Endpoint).route g.namespacing d base) := by
  induction operations with
  | nil => exact Run.Computes.pure []
  | cons operation rest ih =>
    obtain ⟨m, o⟩ := operation
    rw [List.mapM_cons]
    exact (g.route_computes d base ⟨path, item, m, o⟩).bind fun r =>
      ih.bind fun rs => Run.Computes.pure (r :: rs)

/-- A `mapM` over all parts of the items, item by item. -/
theorem mapM_flatMap (parts : α → List β) (r : β → Except Error γ) (items : List α) :
    (items.flatMap parts).mapM r
      = (do return (← items.mapM fun a => (parts a).mapM r).flatten) := by
  induction items with
  | nil => rfl
  | cons a rest ih =>
    rw [List.flatMap_cons, List.mapM_append, ih, List.mapM_cons]
    simp

/-- **The routes that are found are those of the endpoints.** -/
theorem routes_computes : (g.routes d base).Computes (d.routeList g.namespacing base) := by
  rw [Document.routeList, Document.endpoints, mapM_flatMap, inlinePaths_eq]
  refine (forPaths_computes (fun path item => ?_) d.paths).bind fun _ => Run.Computes.pure _
  rw [endpointsOf, List.mapM_map]
  exact g.routesOf_computes d base path item item.operations

end Codegen

end ApiStubs
