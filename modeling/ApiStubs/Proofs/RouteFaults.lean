import ApiStubs.Proofs.Lookups
import ApiStubs.Proofs.RunBlocks

/-!
# When there is a route table

An operation has a route if all of its parameters can be resolved, those of its path first, and if
the pointer to the schema of its JSON body, where there is one, leads to a name. Here that is said
without the functions that look things up: a pointer leads to a name or it does not (`PointsTo`),
and the table of shared parameters holds an entry that is written out or it does not.

Each function that looks something up is described by two statements: when it finds something, and
when it ends in which error. The statements go up from a pointer to a parameter, an operation and
the document, where each takes the first fault of its parts.

## What is proved

* `resolveParameter_ok_iff`, `resolveParameter_error_iff`: parameters.
* `bodyModel_ok_iff`, `bodyModel_error_iff`: bodies.
* `Endpoint.route_ok_iff`, `Endpoint.route_error_iff`: operations.
* `Document.routeList_ok_iff`, `Document.routeList_error_iff`: documents.
* `routes_all_or_nothing`: what that means for the route table.
-/

namespace ApiStubs

variable {d : Document} {e : Error}

/-- A step goes wrong, or the next one does. -/
theorem bind_error_iff {x : Except Error α} {f : α → Except Error β} :
    (x >>= f) = .error e ↔ x = .error e ∨ ∃ a, x = .ok a ∧ f a = .error e := by
  cases x with
  | error e' =>
    constructor
    · intro h
      exact .inl (congrArg Except.error (Except.error.inj h))
    · rintro (h | ⟨a, h, -⟩)
      · exact congrArg Except.error (Except.error.inj h)
      · cases h
  | ok a =>
    constructor
    · exact fun h => .inr ⟨a, rfl, h⟩
    · rintro (h | ⟨a', h, failed⟩)
      · cases h
      · obtain rfl := Except.ok.inj h
        exact failed

/-! ### Parameters -/

namespace Document

/-- The parameter is written out, or a pointer leads to a shared one that is written out. -/
inductive Resolves (d : Document) : RefOr Parameter → Parameter → Prop where
  /-- It is written out. -/
  | item (p : Parameter) : Resolves d (.item p) p
  /-- It is shared. -/
  | shared {pointer name : String} {p : Parameter} : PointsTo .parameters pointer name →
    d.parameters.lookup name = some (.item p) → Resolves d (.reference pointer) p

/-- Why a parameter cannot be resolved. -/
inductive ParameterFault (d : Document) : RefOr Parameter → Error → Prop where
  /-- The pointer leads to no name. -/
  | pointer {pointer : String} : (∀ name, ¬ PointsTo .parameters pointer name) →
    ParameterFault d (.reference pointer) (.unsupportedReference pointer .parameters)
  /-- There is no shared parameter of the name, or there is another pointer. -/
  | missing {pointer name : String} : PointsTo .parameters pointer name →
    (∀ p, d.parameters.lookup name ≠ some (.item p)) →
    ParameterFault d (.reference pointer) (.document (missingParameterMessage name))

variable {p : RefOr Parameter} {q : Parameter}

theorem sharedParameter?_eq_some_iff {name : String} :
    d.sharedParameter? name = some q ↔ d.parameters.lookup name = some (.item q) := by
  rw [sharedParameter?_eq]
  cases d.parameters.lookup name with
  | none => simp
  | some entry => cases entry <;> simp [RefOr.item?]

/-- What is found for a parameter. -/
theorem resolveParameter_ok_iff : d.resolveParameter p = .ok q ↔ d.Resolves p q := by
  constructor
  · intro h
    cases p with
    | item p =>
      obtain rfl := Except.ok.inj h
      exact .item p
    | reference pointer =>
      rw [resolveParameter] at h
      split at h
      · cases h
      · next name leads =>
        split at h
        · next found =>
          obtain rfl := Except.ok.inj h
          exact .shared (componentName_ok_iff.mp leads) (sharedParameter?_eq_some_iff.mp found)
        · cases h
  · intro h
    cases h with
    | item => rfl
    | shared leads found =>
      rw [resolveParameter, parameterName, componentName_ok_iff.mpr leads]
      dsimp only
      rw [sharedParameter?_eq_some_iff.mpr found]

/-- The error of a parameter that cannot be resolved. -/
theorem resolveParameter_error_iff : d.resolveParameter p = .error e ↔ d.ParameterFault p e := by
  constructor
  · intro h
    cases p with
    | item p => cases h
    | reference pointer =>
      rw [resolveParameter] at h
      split at h
      · next leads =>
        obtain rfl := Except.error.inj h
        obtain ⟨nowhere, rfl⟩ := componentName_error_iff.mp leads
        exact .pointer nowhere
      · next name leads =>
        split at h
        · cases h
        · next absent =>
          obtain rfl := Except.error.inj h
          refine .missing (componentName_ok_iff.mp leads) fun q found => ?_
          rw [sharedParameter?_eq_some_iff.mpr found] at absent
          cases absent
  · intro h
    cases h with
    | pointer nowhere =>
      rw [resolveParameter, parameterName, componentName_error_iff.mpr ⟨nowhere, rfl⟩]
    | @missing pointer name leads absent =>
      rw [resolveParameter, parameterName, componentName_ok_iff.mpr leads]
      dsimp only
      cases found : d.sharedParameter? name with
      | none => rfl
      | some q => exact absurd (sharedParameter?_eq_some_iff.mp found) (absent q)

end Document

/-- The names of path parameters are not found if a parameter cannot be resolved, and the first such
one is to blame. -/
theorem pathParameters_error_iff {ps : List (RefOr Parameter)} :
    pathParameters d ps = .error e ↔
      ∃ before p after, ps = before ++ p :: after ∧ (∀ q ∈ before, ∃ r, d.Resolves q r) ∧
        d.ParameterFault p e := by
  have ends : pathParameters d ps = .error e ↔ ps.mapM d.resolveParameter = .error e := by
    rw [pathParameters_eq, bind_error_iff]
    refine or_iff_left ?_
    rintro ⟨ps, -, made⟩
    cases made
  rw [ends, mapM_error_iff]
  simp only [Document.resolveParameter_ok_iff, Document.resolveParameter_error_iff]

/-! ### Bodies -/

/-- The operation takes a JSON body that is written out, with this pointer as its schema. -/
def Operation.Takes (o : Operation) (pointer : String) : Prop :=
  ∃ body, o.requestBody = some (.item body) ∧ body.jsonSchema? = some (.reference pointer)

section

variable {n : Namespacing} {base : String} {o : Operation}

/-- The model of a body comes from the pointer to its schema. -/
theorem bodyModel_of_takes {pointer : String} (takes : o.Takes pointer) :
    n.bodyModel base o = (do
      return some (n.qualify (n.child base modelSuffix) (modelName (← schemaName pointer)))) := by
  obtain ⟨body, written, schema⟩ := takes
  rw [Namespacing.bodyModel, written]
  dsimp only
  rw [schema]

/-- A body without such a pointer has no model. -/
theorem bodyModel_of_not_takes (takes : ∀ pointer, ¬ o.Takes pointer) :
    n.bodyModel base o = .ok none := by
  unfold Namespacing.bodyModel
  split
  · next body written =>
    split
    · next pointer schema => exact absurd ⟨body, written, schema⟩ (takes pointer)
    · rfl
  · rfl

/-- Every body has a model or needs none, unless its pointer leads nowhere. -/
theorem bodyModel_ok_iff :
    (∃ m, n.bodyModel base o = .ok m) ↔ ∀ pointer, o.Takes pointer → ∃ name, PointsTo .schemas pointer name := by
  constructor
  · rintro ⟨m, h⟩ pointer takes
    rw [bodyModel_of_takes takes] at h
    cases leads : schemaName pointer with
    | ok name => exact ⟨name, componentName_ok_iff.mp leads⟩
    | error e =>
      rw [leads] at h
      cases h
  · intro all
    by_cases taken : ∃ pointer, o.Takes pointer
    · obtain ⟨pointer, takes⟩ := taken
      obtain ⟨name, leads⟩ := all pointer takes
      rw [bodyModel_of_takes takes, schemaName, componentName_ok_iff.mpr leads]
      exact ⟨_, rfl⟩
    · exact ⟨none, bodyModel_of_not_takes (not_exists.mp taken)⟩

/-- The error of a body. -/
theorem bodyModel_error_iff :
    n.bodyModel base o = .error e ↔ ∃ pointer, o.Takes pointer ∧ (∀ name, ¬ PointsTo .schemas pointer name) ∧
      e = .unsupportedReference pointer .schemas := by
  constructor
  · intro h
    by_cases taken : ∃ pointer, o.Takes pointer
    · obtain ⟨pointer, takes⟩ := taken
      rw [bodyModel_of_takes takes] at h
      cases leads : schemaName pointer with
      | ok name =>
        rw [leads] at h
        cases h
      | error e' =>
        rw [leads] at h
        obtain rfl := Except.error.inj h
        exact ⟨pointer, takes, componentName_error_iff.mp leads⟩
    · rw [bodyModel_of_not_takes (not_exists.mp taken)] at h
      cases h
  · rintro ⟨pointer, takes, fault⟩
    rw [bodyModel_of_takes takes, schemaName, componentName_error_iff.mpr fault]
    rfl

end

/-! ### Operations -/

namespace Endpoint

/-- The parameters of an operation: those of its path, then its own. -/
def parameters (x : Endpoint) : List (RefOr Parameter) := x.item.parameters ++ x.operation.parameters

/-- Everything that the route of an operation needs is there. -/
structure IsSound (d : Document) (x : Endpoint) : Prop where
  /-- Every parameter can be resolved. -/
  parameters : ∀ p ∈ x.parameters, ∃ q, d.Resolves p q
  /-- The pointer to the schema of the body leads to a name. -/
  body : ∀ pointer, x.operation.Takes pointer → ∃ name, PointsTo .schemas pointer name

/-- The first fault of an operation. -/
inductive FirstFault (d : Document) (x : Endpoint) : Error → Prop where
  /-- The first parameter that cannot be resolved. -/
  | parameter {before : List (RefOr Parameter)} {p : RefOr Parameter}
      {after : List (RefOr Parameter)} {e : Error} :
    x.parameters = before ++ p :: after → (∀ q ∈ before, ∃ r, d.Resolves q r) →
      d.ParameterFault p e →
    FirstFault d x e
  /-- All parameters can be resolved, and the pointer to the schema of the body leads nowhere. -/
  | body {pointer : String} : (∀ p ∈ x.parameters, ∃ q, d.Resolves p q) →
      x.operation.Takes pointer →
    (∀ name, ¬ PointsTo .schemas pointer name) →
      FirstFault d x (.unsupportedReference pointer .schemas)

variable {x : Endpoint} {n : Namespacing} {base : String}

theorem exists_names_iff : (∃ names, pathParameters d x.parameters = .ok names) ↔
    ∀ p ∈ x.parameters, ∃ q, d.Resolves p q := by
  rw [exists_pathParameters_iff]
  simp only [Document.resolveParameter_ok_iff]

/-- An operation has a route if everything is there. -/
theorem route_ok_iff : (∃ r, x.route n d base = .ok r) ↔ x.IsSound d := by
  constructor
  · rintro ⟨r, h⟩
    obtain ⟨names, model, found, made, -⟩ := exists_of_route h
    exact ⟨exists_names_iff.mp ⟨names, found⟩, bodyModel_ok_iff.mp ⟨model, made⟩⟩
  · rintro ⟨resolved, leads⟩
    obtain ⟨names, found⟩ := exists_names_iff.mpr resolved
    obtain ⟨model, made⟩ : ∃ model, n.bodyModel base x.operation = .ok model :=
      bodyModel_ok_iff.mpr leads
    rw [route, ← parameters, found, made]
    exact ⟨_, rfl⟩

/-- If not, the first fault is the error. -/
theorem route_error_iff : x.route n d base = .error e ↔ x.FirstFault d e := by
  have ends : x.route n d base = .error e ↔ pathParameters d x.parameters = .error e ∨
      (∃ names, pathParameters d x.parameters = .ok names) ∧
        n.bodyModel base x.operation = .error e := by
    rw [route, ← parameters, bind_error_iff]
    refine or_congr_right ⟨?_, ?_⟩
    · rintro ⟨names, found, h⟩
      refine ⟨⟨names, found⟩, ?_⟩
      obtain failed | ⟨model, -, made⟩ := bind_error_iff.mp h
      · exact failed
      · cases made
    · rintro ⟨⟨names, found⟩, h⟩
      exact ⟨names, found, bind_error_iff.mpr (.inl h)⟩
  rw [ends, pathParameters_error_iff, exists_names_iff, bodyModel_error_iff]
  constructor
  · rintro (⟨before, p, after, split, resolved, fault⟩ | ⟨resolved, pointer, takes, nowhere, rfl⟩)
    · exact .parameter split resolved fault
    · exact .body resolved takes nowhere
  · intro h
    cases h with
    | parameter split resolved fault => exact .inl ⟨_, _, _, split, resolved, fault⟩
    | body resolved takes nowhere => exact .inr ⟨resolved, _, takes, nowhere, rfl⟩

end Endpoint

/-! ### Documents -/

namespace Document

variable {n : Namespacing} {base : String}

/-- There are routes if every operation is sound. -/
theorem routeList_ok_iff : (∃ routes, d.routeList n base = .ok routes) ↔ ∀ x ∈ d.endpoints, x.IsSound d := by
  rw [routeList, exists_mapM_iff]
  simp only [Endpoint.route_ok_iff]

/-- If not, the first operation that is not sound is to blame. -/
theorem routeList_error_iff :
    d.routeList n base = .error e ↔
      ∃ before x after, d.endpoints = before ++ x :: after ∧ (∀ y ∈ before, y.IsSound d) ∧
        x.FirstFault d e := by
  rw [routeList, mapM_error_iff]
  simp only [Endpoint.route_ok_iff, Endpoint.route_error_iff]

end Document

/-- A parameter that is missing comes before the body, though it is none of the path. -/
example :
    Document.routeList
      { openapi := "3.0.3", title := "Faults", version := "1"
        paths := [("/a", .item { operations := [(.post,
          { parameters := [.item ⟨.path, "id"⟩, .reference "#/components/parameters/page"]
            requestBody := some (.item { content := [("application/json", some (.reference "Pet"))] }) })] })] }
      ⟨"::"⟩ "App" = .error (.document "Parameter 'page' not found") := by
  rfl

/-! ### The route table -/

variable {σ : Type}

namespace Codegen

variable {g : Codegen σ} {base : String} {config : Path} {s : RunState σ}

/-- Without routes, nothing follows the question about the route table. -/
theorem routeTable_of_error (asked : g.collaborators.policy s.world (g.routesTarget config) = false)
    (failed : d.routeList g.namespacing base = .error e) :
    ((g.routeTable d base config).start s).1 = .error e ∧
      ((g.routeTable d base config).start s).2.calls = s.calls ++ [.asked (g.routesTarget config) false] ∧
      ((g.routeTable d base config).start s).2.world = s.world := by
  obtain ⟨calls, o, w', block, does⟩ := g.routeTable_makes d base config s.world
  rw [← g.tableArtifact_target d base config] at asked
  have payload : (g.tableArtifact d base config).payload = .error e := by
    rw [tableArtifact_payload, failed]
    rfl
  obtain ⟨rfl, rfl, rfl⟩ := block.det (.unprepared asked payload)
  rw [tableArtifact_target] at does
  exact ⟨does.result s rfl, does.calls s rfl, does.world s rfl⟩

/-- With routes, their rendering is written. -/
theorem routeTable_of_ok (asked : g.collaborators.policy s.world (g.routesTarget config) = false)
    {routes : List Route} (found : d.routeList g.namespacing base = .ok routes) {text : String}
    (rendered : (g.collaborators.renderer s.world routesTemplate (routesPayload routes)).1 = .ok text)
    {world : σ} {lines : List LogLine}
    (written : g.collaborators.writer s.world (g.routesTarget config) text = (.ok (), world, lines)) :
    ((g.routeTable d base config).start s).1 = .ok true ∧
      ((g.routeTable d base config).start s).2.calls
        = s.calls ++ [.asked (g.routesTarget config) false,
        .rendered routesTemplate (routesPayload routes), .wrote (g.routesTarget config) text] ∧
      ((g.routeTable d base config).start s).2.world = world := by
  obtain ⟨calls, o, w', block, does⟩ := g.routeTable_makes d base config s.world
  have payload : (g.tableArtifact d base config).payload = .ok (routesPayload routes) := by
    rw [tableArtifact_payload, found]
    rfl
  rw [← g.tableArtifact_target d base config] at asked written
  rw [← g.tableArtifact_key d base config] at rendered
  obtain ⟨rfl, rfl, rfl⟩ := block.det (.made asked payload rendered written)
  rw [tableArtifact_target, tableArtifact_key, tableArtifact_news, List.append_nil] at does
  exact ⟨does.result s rfl, does.calls s rfl, does.world s rfl⟩

/-- **The route table is made of all operations or not at all.** Whatever the document and the
namespace, there are routes exactly if every operation of a path that is written out is sound: its
parameters, those of the path among them, can be resolved, and the pointer to the schema of its body
leads to a name. If not, the error is the first fault of the first operation that is not sound.
There is one route for each operation, in order. A route table that is not left alone is not
rendered and nothing is written if there are no routes; if there are, and they are rendered and
written, that is done once and with all of them. -/
theorem routes_all_or_nothing (g : Codegen σ) (d : Document) (base : String) (config : Path)
    (s : RunState σ) :
    ((∃ routes, ((g.routes d base).start s).1 = .ok routes) ↔ ∀ x ∈ d.endpoints, x.IsSound d) ∧
    (∀ e, ((g.routes d base).start s).1 = .error e ↔
      ∃ before x after, d.endpoints = before ++ x :: after ∧ (∀ y ∈ before, y.IsSound d) ∧
        x.FirstFault d e) ∧
    (∀ routes, ((g.routes d base).start s).1 = .ok routes → List.Forall₂ (fun x r =>
      ((g.route d base x.path x.item x.method x.operation).start s).1 = .ok r) d.endpoints routes) ∧
    (g.collaborators.policy s.world (g.routesTarget config) = false →
      (∀ e, ((g.routes d base).start s).1 = .error e →
        ((g.routeTable d base config).start s).1 = .error e ∧
        ((g.routeTable d base config).start s).2.calls = s.calls ++ [.asked (g.routesTarget config) false] ∧
        ((g.routeTable d base config).start s).2.world = s.world) ∧
      ∀ routes text world lines, ((g.routes d base).start s).1 = .ok routes →
        (g.collaborators.renderer s.world routesTemplate (routesPayload routes)).1 = .ok text →
        g.collaborators.writer s.world (g.routesTarget config) text = (.ok (), world, lines) →
        ((g.routeTable d base config).start s).1 = .ok true ∧
        ((g.routeTable d base config).start s).2.calls
          = s.calls ++ [.asked (g.routesTarget config) false,
          .rendered routesTemplate (routesPayload routes), .wrote (g.routesTarget config) text] ∧
        ((g.routeTable d base config).start s).2.world = world) := by
  rw [(g.routes_computes d base s.world).result s rfl]
  refine ⟨Document.routeList_ok_iff, fun e => Document.routeList_error_iff, fun routes found => ?_,
    fun asked => ⟨fun e failed => routeTable_of_error asked failed,
      fun routes text world lines found rendered written => routeTable_of_ok asked found rendered written⟩⟩
  refine (Document.forall₂_routeList found).imp fun x r made => ?_
  rw [(g.route_computes d base x s.world).result s rfl, made]

end Codegen

end ApiStubs
