import ApiStubs.Proofs.Lookups
import ApiStubs.Proofs.Payloads
import Mathlib.Logic.Function.Iterate

/-!
# The names of models

A model is named in four places: in the list of hydrators and models, in the payload of its
hydrator, in the route of an operation that takes it and in the type of a property that holds it.
The first two start from the key of the schema, the other two from a pointer to it, and each puts
the name together by itself.

## What is proved

* `schemaName_schemaPointer`: a pointer to a schema leads to its key.
* `typeOf_arrays`: lists of lists are spelled from the inside out.
* `hydrators_named`: with nothing left alone, the hydrators that are returned are those of the
  schemas that are written out.
* `models_are_named_alike`: all four names are one, whatever the document, the namespace and the
  kind.
-/

namespace ApiStubs

/-! ### Pointers -/

/-- The pointer to the schema of a key. -/
def schemaPointer (key : String) : String := ComponentTable.schemas.pointerStart ++ key

/-- A pointer to a schema leads to its key. -/
theorem schemaName_schemaPointer {key : String} (ne : key ≠ "") (slash : '/' ∉ key.toList) :
    schemaName (schemaPointer key) = .ok key :=
  componentName_ok_iff.mpr ⟨rfl, ne, slash⟩

/-! ### Types -/

/-- Lists of lists, from the outside in, with whether each may be null. -/
def arraysOf (nullables : List Bool) (items : RefOr Schema) : RefOr Schema :=
  nullables.foldr (fun nullable items => .item (.mk nullable (.array (some items)))) items

/-- Lists of lists are spelled from the inside out. -/
theorem typeOf_arrays (kind : TargetKind) {items : RefOr Schema} {type : String}
    (h : typeOf kind items = .ok type) (nullables : List Bool) :
    typeOf kind (arraysOf nullables items) = .ok (kind.arrayType^[nullables.length] type) := by
  induction nullables with
  | nil => exact h
  | cons nullable nullables ih =>
    rw [List.length_cons, Function.iterate_succ_apply']
    change typeOfSchema kind (.mk nullable (.array (some (arraysOf nullables items)))) = _
    rw [typeOfSchema, ih]
    rfl

/-! ### Hydrators and models -/

/-- The hydrator and the model of the schema of a key. -/
def Namespacing.hydratorClass (n : Namespacing) (base key : String) : HydratorClass where
  hydrator := n.qualify (n.child base hydratorSuffix) (hydratorName key)
  model := n.qualify (n.child base modelSuffix) (modelName key)

theorem hydratorClasses_eq (n : Namespacing) (d : Document) (base : String) :
    hydratorClasses n d base = d.schemas.map fun entry => n.hydratorClass base entry.1 := rfl

/-- The entry of a key is made from the key. -/
theorem eq_hydratorClass {n : Namespacing} {d : Document} {base key : String}
    {entry : HydratorClass}
    (h : (key, entry) ∈ (d.schemas.map Prod.fst).zip (hydratorClasses n d base)) :
    entry = n.hydratorClass base key := by
  rw [hydratorClasses_eq, List.zip_map'] at h
  obtain ⟨x, -, same⟩ := List.mem_map.mp h
  obtain ⟨rfl, rfl⟩ := Prod.mk.inj same
  rfl

/-- The payload gives the hydrator and the model that are listed. -/
structure HydratorPayload.IsListed (p : HydratorPayload) (n : Namespacing) (entry : HydratorClass) :
    Prop where
  /-- The hydrator in its namespace. -/
  hydrator : p.space ++ n.separator ++ p.className = entry.hydrator
  /-- The model in its namespace. -/
  model : p.modelSpace ++ n.separator ++ p.modelName = entry.model

/-- The entries of the keys whose schemas are written out. -/
def inlineClasses (n : Namespacing) (d : Document) (base : String) : List HydratorClass :=
  ((d.schemas.zip (hydratorClasses n d base)).filter fun x => x.1.2.item?.isSome).map Prod.snd

theorem inlineClasses_eq (n : Namespacing) (d : Document) (base : String) :
    inlineClasses n d base = d.inlineSchemas.map fun entry => n.hydratorClass base entry.1 := by
  rw [inlineClasses, hydratorClasses_eq, Document.inlineSchemas]
  induction d.schemas with
  | nil => rfl
  | cons entry rest ih =>
    obtain ⟨key, pointer | schema⟩ := entry
    · exact ih
    · rw [List.map_cons, List.zip_cons_cons, List.filter_cons_of_pos rfl, List.map_cons, ih]
      rfl

/-! ### What the generators make of a key -/

variable {σ : Type}

namespace Codegen

variable {g : Codegen σ} {d : Document} {base key : String} {output : Path}

/-- With nothing left alone, the hydrators that are returned are those of the schemas that are
written out, in order. -/
theorem hydrators_named (free : ∀ w name, g.collaborators.policy w (g.hydratorTarget output name) = false)
    {s : RunState σ} {names : List String} (ok : ((g.hydrators d output base).start s).1 = .ok names) :
    names = d.inlineSchemas.map fun entry => hydratorName entry.1 := by
  obtain ⟨calls, outcomes, w', blocks, does⟩ := g.hydratorsOf_make base output s.world d.schemas
  obtain ⟨done, rfl⟩ := of_outcomesResult_ok ((does.result s rfl).symm.trans ok)
  change Blocks _ (g.hydratorArtifacts d base output) _ _ _ _ at blocks
  have free : ∀ a ∈ g.hydratorArtifacts d base output, ∀ w, g.collaborators.policy w a.target = false := by
    intro a ha w
    obtain ⟨entry, -, rfl⟩ := List.mem_map.mp ha
    rw [hydratorArtifact_target]
    exact free w entry.1
  rw [blocks.outcomes_of_free free done]
  change madeNames (g.hydratorArtifacts d base output) _ = _
  rw [madeNames_made, hydratorArtifacts, List.map_map]
  exact List.map_congr_left fun entry _ => g.hydratorArtifact_name base output entry

/-- What the template of hydrators is given for a schema is a payload of that schema, and it is
given one for every hydrator that is returned. -/
theorem hydrator_payload (g : Codegen σ) (base : String) (output : Path) (key : String)
    (schema : Schema) (s : RunState σ) :
    ∃ calls, ((g.hydrator output base key schema).start s).2.calls = s.calls ++ calls ∧
      (∀ json ∈ payloadsOf hydratorTemplate calls, ∃ properties,
        g.propertiesOf (key, schema) = .ok properties ∧
          json = (g.hydratorPayload base key properties).toJson) ∧
      ∀ name, ((g.hydrator output base key schema).start s).1 = .ok (some name) →
        (payloadsOf hydratorTemplate calls).length = 1 := by
  obtain ⟨calls, o, w', block, does⟩ := g.hydrator_makes base output s.world key schema
  have news : (g.hydratorArtifact base output (key, schema)).HasNews := by simp [Artifact.HasNews]
  have known := g.hydratorArtifact_key base output (key, schema)
  refine ⟨calls, does.calls s rfl, fun json hj => ?_, fun name h => ?_⟩
  · have given := (block.payloadsOf_prefix hydratorTemplate news).subset hj
    rw [Artifact.payloadsFor, if_pos known, hydratorArtifact_payload] at given
    cases found : g.propertiesOf (key, schema) with
    | error e =>
      rw [found] at given
      cases given
    | ok properties =>
      rw [found] at given
      exact ⟨properties, rfl, List.mem_singleton.mp given⟩
  · rw [does.result s rfl] at h
    cases o with
    | failed e => cases h
    | leftAlone => cases h
    | made =>
      cases block with
      | made asked prepared rendered written =>
        have block := Block.made asked prepared rendered written
        rw [block.payloadsOf_eq hydratorTemplate news (by simp) fun _ => asked,
          Artifact.payloadsFor_of_ok known prepared]
        rfl

/-- An operation that takes the schema of a key has its model as middleware. -/
theorem modelMiddleware_of_pointer (ne : key ≠ "") (slash : '/' ∉ key.toList) {o : Operation}
    {body : RequestBody} (taken : o.requestBody = some (.item body))
    (pointed : body.jsonSchema? = some (.reference (schemaPointer key))) (s : RunState σ) :
    ((g.modelMiddleware base o).start s).1
      = .ok (some (g.namespacing.hydratorClass base key).model) := by
  rw [(g.modelMiddleware_computes base o s.world).result s rfl, Namespacing.bodyModel, taken]
  dsimp only
  rw [pointed]
  dsimp only
  rw [schemaName_schemaPointer ne slash]
  rfl

/-- **A model has one name**, whatever the document, the namespace and the kind. For a key of the
table of schemas that is not empty and holds no slash: the middleware of an operation that takes the
schema by a pointer is the model that is listed for the key; what the template of hydrators is given
for the key gives the hydrator and the model that are listed; a property that holds the schema by a
pointer, or lists of it, is spelled with the name of the model there. With nothing left alone, the
hydrators that are returned are those that are listed for the schemas that are written out, in
order. -/
theorem models_are_named_alike (g : Codegen σ) (d : Document) (base : String) (kind : TargetKind)
    (output : Path) :
    (∀ key entry, (key, entry) ∈ (d.schemas.map Prod.fst).zip (hydratorClasses g.namespacing d base) →
      key ≠ "" → '/' ∉ key.toList →
      (∀ (o : Operation) body, o.requestBody = some (.item body) →
        body.jsonSchema? = some (.reference (schemaPointer key)) →
        ∀ s, ((g.modelMiddleware base o).start s).1 = .ok (some entry.model)) ∧
      (∀ properties, (g.hydratorPayload base key properties).IsListed g.namespacing entry ∧
        ∀ nullables, typeOf kind (arraysOf nullables (.reference (schemaPointer key)))
          = .ok (kind.arrayType^[nullables.length] (g.hydratorPayload base key properties).modelName)) ∧
      ∀ schema s, ∃ calls, ((g.hydrator output base key schema).start s).2.calls = s.calls ++ calls ∧
        (∀ json ∈ payloadsOf hydratorTemplate calls, ∃ properties,
          g.propertiesOf (key, schema) = .ok properties ∧
            json = (g.hydratorPayload base key properties).toJson) ∧
        ∀ name, ((g.hydrator output base key schema).start s).1 = .ok (some name) →
          (payloadsOf hydratorTemplate calls).length = 1) ∧
    ((∀ w name, g.collaborators.policy w (g.hydratorTarget output name) = false) →
      ∀ s names, ((g.hydrators d output base).start s).1 = .ok names →
        names.map (g.namespacing.qualify (g.hydratorSpace base))
          = (inlineClasses g.namespacing d base).map HydratorClass.hydrator) := by
  refine ⟨fun key entry listed ne slash => ?_, fun free s names ok => ?_⟩
  · obtain rfl := eq_hydratorClass listed
    have pointed : typeOf kind (.reference (schemaPointer key)) = .ok (modelName key) := by
      rw [typeOf, schemaName_schemaPointer ne slash]
      rfl
    refine ⟨fun o body taken schema s => ?_, fun properties => ⟨⟨rfl, rfl⟩, fun nullables => ?_⟩,
      fun schema s => ?_⟩
    · exact modelMiddleware_of_pointer ne slash taken schema s
    · exact typeOf_arrays kind pointed nullables
    · exact g.hydrator_payload base output key schema s
  · rw [hydrators_named free ok, inlineClasses_eq, List.map_map, List.map_map]
    rfl

end Codegen

/-- A document with a schema of its own and a second name for it. -/
def labels : Document where
  openapi := "3.0.3"
  title := "Labels"
  version := "1"
  components := some { schemas := [("pet-tag", .item (.mk false .string)),
    ("label", .reference (schemaPointer "pet-tag"))] }

/-- An operation that takes the schema. -/
def labelling : Operation where
  requestBody := some (.item { content := [(jsonMediaType, some (.reference (schemaPointer "pet-tag")))] })

/-- The names of the model of the schema. -/
theorem labels_are_named_alike :
    ((plainly.modelMiddleware "App" labelling).start { world := emptyTree }).1 = .ok (some "App\\Model\\PetTag") ∧
    (plainly.hydratorPayload "App" "pet-tag" []).IsListed plainly.namespacing
      ⟨"App\\Hydrator\\PetTagHydrator", "App\\Model\\PetTag"⟩ ∧
    typeOf .php (arraysOf [false, true] (.reference (schemaPointer "pet-tag")))
      = .ok (TargetKind.php.arrayType^[2] (plainly.hydratorPayload "App" "pet-tag" []).modelName) ∧
    ((plainly.hydrators labels intoOut.output "App").start { world := emptyTree }).1 = .ok ["PetTagHydrator"] ∧
    ["PetTagHydrator"].map (plainly.namespacing.qualify (plainly.hydratorSpace "App"))
      = (inlineClasses plainly.namespacing labels "App").map HydratorClass.hydrator := by
  have listed : ("pet-tag", ⟨"App\\Hydrator\\PetTagHydrator", "App\\Model\\PetTag"⟩)
      ∈ (labels.schemas.map Prod.fst).zip (hydratorClasses plainly.namespacing labels "App") := by decide +kernel
  have made : ((plainly.hydrators labels intoOut.output "App").start { world := emptyTree }).1
      = .ok ["PetTagHydrator"] := eq_ok_of_toOption (by decide +kernel)
  obtain ⟨each, all⟩ := plainly.models_are_named_alike labels "App" .php intoOut.output
  obtain ⟨middleware, payload, -⟩ := each _ _ listed (by decide) (by decide)
  exact ⟨middleware labelling _ rfl rfl _, (payload []).1, (payload []).2 [false, true], made,
    all (fun _ _ => rfl) _ _ made⟩

end ApiStubs
