import ApiStubs.Proofs.RouteList

/-!
# The properties that a schema declares

The properties of a model are collected while its schema is walked: a declaration whose name has
been collected is passed over before its type is looked at, and the first type that cannot be
spelled ends the walk. Here the declarations are listed first (`declarations`), and those that count
are picked out of the list (`counted`): the first of each name.

The walk carries what it has collected along, so the statement about it has to be made for any such
list: what a list of declarations adds to it are the properties of those that count and are not in
it yet (`addAll`). Adding two lists is adding the first and then the second, which is all that the
walk over the members of a schema needs.

## What is proved

* `mem_counted_iff`, `counted_nodup`: what counts.
* `addAll_cons`, `addAll_append`: adding is done from left to right.
* `modelProperties_ends`: the properties of a model are those of the declarations that count, in
  order.
* `properties_are_declared`: what that means for each property and for the error.
-/

namespace ApiStubs

/-! ### Declarations -/

/-- A property as a schema declares it. -/
structure Declaration where
  /-- The name of the property. -/
  name : String
  /-- The schema of the property. -/
  schema : RefOr Schema
  /-- The names that the declaring schema requires. -/
  required : List String

/-- The declarations of properties in a schema that requires some names. -/
def declared (properties : List (String × RefOr Schema)) (required : List String) :
    List Declaration :=
  properties.map fun (name, schema) => { name, schema, required }

mutual

/-- The declarations in a schema, depth first: those of an object, of a schema without a type, and
of the members of a schema of kind `allOf`. -/
def declarations : Schema → List Declaration
  | .mk _ (.object properties required) => declared properties required
  | .mk _ (.any properties required _) => declared properties required
  | .mk _ (.allOf members) => memberDeclarations members
  | _ => []

/-- The declarations in those members that are written out. -/
def memberDeclarations : List (RefOr Schema) → List Declaration
  | [] => []
  | .item member :: rest => declarations member ++ memberDeclarations rest
  | .reference _ :: rest => memberDeclarations rest

end

/-- The declarations that count: the first of each name. -/
def counted : List Declaration → List Declaration
  | [] => []
  | d :: rest => d :: (counted rest).filter fun e => e.name != d.name

section

variable {d : Declaration} {ds : List Declaration} {name : String}

/-- A declaration counts if none before it has its name. -/
theorem mem_counted_iff :
    d ∈ counted ds ↔ ∃ before after, ds = before ++ d :: after ∧ ∀ b ∈ before, b.name ≠ d.name := by
  induction ds with
  | nil => simp [counted]
  | cons first rest ih =>
    rw [counted, List.mem_cons, List.mem_filter, ih, bne_iff_ne]
    constructor
    · rintro (rfl | ⟨⟨before, after, rfl, new⟩, ne⟩)
      · exact ⟨[], rest, rfl, fun b hb => nomatch hb⟩
      · refine ⟨first :: before, after, rfl, fun b hb => ?_⟩
        rcases List.mem_cons.mp hb with rfl | hb
        · exact ne.symm
        · exact new b hb
    · rintro ⟨before, after, split, new⟩
      cases before with
      | nil => exact .inl (List.cons.inj split).1.symm
      | cons b before =>
        obtain ⟨rfl, rfl⟩ := List.cons.inj split
        exact .inr ⟨⟨before, after, rfl, fun b hb => new b (List.mem_cons_of_mem _ hb)⟩,
          (new _ List.mem_cons_self).symm⟩

/-- No two declarations that count have one name. -/
theorem counted_nodup (ds : List Declaration) : ((counted ds).map Declaration.name).Nodup := by
  induction ds with
  | nil => exact List.nodup_nil
  | cons first rest ih =>
    rw [counted, List.map_cons, List.nodup_cons]
    refine ⟨fun again => ?_, ih.sublist (List.filter_sublist.map _)⟩
    obtain ⟨d, hd, same⟩ := List.mem_map.mp again
    exact absurd same (bne_iff_ne.mp (List.mem_filter.mp hd).2)

/-- Every name that is declared counts once. -/
theorem mem_names_counted : name ∈ (counted ds).map Declaration.name ↔ name ∈ ds.map Declaration.name := by
  induction ds with
  | nil => rfl
  | cons first rest ih =>
    rw [counted, List.map_cons, List.mem_cons, List.map_cons, List.mem_cons, ← ih]
    by_cases same : name = first.name
    · simp [same]
    · refine or_congr_right ⟨fun h => ?_, fun h => ?_⟩
      · obtain ⟨d, hd, rfl⟩ := List.mem_map.mp h
        exact List.mem_map_of_mem (List.mem_filter.mp hd).1
      · obtain ⟨d, hd, rfl⟩ := List.mem_map.mp h
        exact List.mem_map_of_mem (List.mem_filter.mpr ⟨hd, bne_iff_ne.mpr same⟩)

end

/-! ### Adding declarations to what has been collected -/

namespace Declaration

/-- Null is allowed: the declaration writes the schema of the property out, and that says so. -/
def nullable (d : Declaration) : Bool :=
  match d.schema with
  | .item schema => schema.nullable
  | .reference _ => false

/-- The type of the property can be spelled. -/
def IsTyped (kind : TargetKind) (d : Declaration) : Prop := ∃ type, typeOf kind d.schema = .ok type

/-- The property is the one that is declared. -/
structure Makes (kind : TargetKind) (d : Declaration) (p : ModelProperty) : Prop where
  /-- It has the name. -/
  name : p.name = d.name
  /-- It has the type of the schema. -/
  type : typeOf kind d.schema = .ok p.type
  /-- It is required if the schema that declares it lists its name. -/
  required : p.required = true ↔ d.name ∈ d.required
  /-- It may be null if its schema says so. -/
  nullable : p.nullable = d.nullable

/-- The property that is declared, if its type can be spelled. -/
def toProperty (kind : TargetKind) (d : Declaration) : Except Error ModelProperty :=
  property kind d.required d.name d.schema

variable {kind : TargetKind} {d : Declaration} {p : ModelProperty}

theorem toProperty_of_error {e : Error} (h : typeOf kind d.schema = .error e) :
    d.toProperty kind = .error e := by
  unfold toProperty property
  rw [h]
  rfl

theorem exists_toProperty (h : d.IsTyped kind) : ∃ p, d.toProperty kind = .ok p := by
  obtain ⟨type, h⟩ := h
  unfold toProperty property
  rw [h]
  exact ⟨_, rfl⟩

theorem makes_of_toProperty (h : d.toProperty kind = .ok p) : d.Makes kind p := by
  unfold toProperty property at h
  cases typed : typeOf kind d.schema with
  | error e =>
    rw [typed] at h
    cases h
  | ok type =>
    rw [typed] at h
    obtain rfl := Except.ok.inj h
    exact ⟨rfl, typed, List.contains_iff_mem, rfl⟩

end Declaration

/-- The name has been collected. -/
def isFound (found : List ModelProperty) (name : String) : Bool := found.any fun p => p.name == name

/-- The declarations that count and whose names have not been collected. -/
def fresh (found : List ModelProperty) (ds : List Declaration) : List Declaration :=
  (counted ds).filter fun d => !isFound found d.name

/-- What has been collected, and the properties of more declarations. -/
def addAll (kind : TargetKind) (found : List ModelProperty) (ds : List Declaration) :
    Except Error (List ModelProperty) := do
  return found ++ (← (fresh found ds).mapM (Declaration.toProperty kind))

section

variable {kind : TargetKind} {found : List ModelProperty} {d : Declaration} {p : ModelProperty}

theorem fresh_cons_of_found (h : isFound found d.name = true) (rest : List Declaration) :
    fresh found (d :: rest) = fresh found rest := by
  rw [fresh, fresh, counted, List.filter_cons_of_neg (by simp [h]), List.filter_filter]
  refine List.filter_congr fun e _ => ?_
  -- a declaration of the same name is left out in any case
  by_cases same : e.name = d.name
  · simp [same, h]
  · simp [same]

theorem fresh_cons_of_new (h : isFound found d.name = false) (name : p.name = d.name)
    (rest : List Declaration) : fresh found (d :: rest) = d :: fresh (found ++ [p]) rest := by
  rw [fresh, fresh, counted, List.filter_cons_of_pos (by simp [h]), List.filter_filter]
  congr 1
  refine List.filter_congr fun e _ => ?_
  have last : isFound (found ++ [p]) e.name = (isFound found e.name || d.name == e.name) := by
    simp [isFound, name]
  rw [last, Bool.not_or]
  rw [bne, Bool.beq_comm]

@[simp] theorem addAll_nil (kind : TargetKind) (found : List ModelProperty) :
    addAll kind found [] = .ok found := by
  change Except.ok (found ++ []) = _
  rw [List.append_nil]

/-- The first declaration is added, unless its name has been collected, and then the others. -/
theorem addAll_cons (kind : TargetKind) (found : List ModelProperty) (d : Declaration)
    (rest : List Declaration) :
    addAll kind found (d :: rest) =
      if isFound found d.name then addAll kind found rest
      else d.toProperty kind >>= fun p => addAll kind (found ++ [p]) rest := by
  cases h : isFound found d.name with
  | true => rw [if_pos rfl, addAll, addAll, fresh_cons_of_found h]
  | false =>
    rw [if_neg (by simp)]
    cases made : d.toProperty kind with
    | error e =>
      rw [addAll, fresh, counted, List.filter_cons_of_pos (by simp [h]), List.mapM_cons, made]
      rfl
    | ok p =>
      have name := (Declaration.makes_of_toProperty made).name
      change _ = addAll kind (found ++ [p]) rest
      rw [addAll, addAll, fresh_cons_of_new h name, List.mapM_cons, made]
      cases (fresh (found ++ [p]) rest).mapM (Declaration.toProperty kind) with
      | error e => rfl
      | ok ps =>
        change Except.ok (found ++ (p :: ps)) = Except.ok (found ++ [p] ++ ps)
        rw [List.append_assoc, List.singleton_append]

/-- **Two lists of declarations** are added one after the other. -/
theorem addAll_append (kind : TargetKind) (found : List ModelProperty) (ds es : List Declaration) :
    addAll kind found (ds ++ es) = addAll kind found ds >>= fun found => addAll kind found es := by
  induction ds generalizing found with
  | nil =>
    rw [addAll_nil]
    rfl
  | cons d ds ih =>
    rw [List.cons_append, addAll_cons, addAll_cons]
    split
    · exact ih found
    · cases d.toProperty kind with
      | error e => rfl
      | ok p => exact ih _

end

/-! ### The walk -/

/-- The work ends in `r`, whatever the log holds. -/
def LogEnds (work : Logged α) (r : Except Error α) :
    Prop := ∀ log, ((ExceptT.run work).run log).1 = r

theorem LogEnds.pure (a : α) : LogEnds (pure a : Logged α) (.ok a) := fun _ => rfl

theorem LogEnds.lift (r : Except Error α) : LogEnds (liftM r : Logged α) r := fun _ => rfl

theorem LogEnds.bind {x : Logged α} {f : α → Logged β} {r : Except Error α} {k : α → Except Error β}
    (hx : LogEnds x r) (hf : ∀ a, LogEnds (f a) (k a)) : LogEnds (x >>= f) (r >>= k) := by
  intro log
  have first := hx log
  change ((ExceptT.bindCont f ((ExceptT.run x).run log).1).run ((ExceptT.run x).run log).2).1 = _
  generalize (ExceptT.run x).run log = done at *
  obtain ⟨r', log'⟩ := done
  obtain rfl : r' = r := first
  cases r' with
  | error e => rfl
  | ok a => exact hf a log'

/-- A line in the log changes nothing. -/
theorem LogEnds.after_note {x : Logged α} {r : Except Error α} (severity : Severity) (text : String)
    (hx : LogEnds x r) : LogEnds (do note severity text; x) r := by
  have line : LogEnds (note severity text) (.ok ()) := fun _ => rfl
  exact line.bind fun _ => hx

variable (kind : TargetKind)

theorem addProperties_eq (required : List String) (found : List ModelProperty)
    (properties : List (String × RefOr Schema)) :
    addProperties kind required found properties
      = addAll kind found (declared properties required) := by
  induction properties generalizing found with
  | nil => exact (addAll_nil kind found).symm
  | cons entry rest ih =>
    obtain ⟨name, schema⟩ := entry
    rw [declared, List.map_cons, addAll_cons, addProperties]
    dsimp only [isFound]
    rw [ih]
    refine if_congr Iff.rfl rfl ?_
    exact congrArg (property kind required name schema >>= ·) (funext fun p => ih (found ++ [p]))

/-- A schema that declares nothing leaves what has been collected. -/
theorem nothing_ends (name : String) (found : List ModelProperty) :
    LogEnds (do note .debug ("Schema '" ++ name ++ "' has no properties"); return found)
      (addAll kind found []) := by
  rw [addAll_nil]
  exact .after_note _ _ (.pure found)

mutual

/-- Walking a schema adds its declarations. -/
theorem collectSchema_ends (name : String) : ∀ (schema : Schema) (found : List ModelProperty),
    LogEnds (collectSchema kind name found schema) (addAll kind found (declarations schema))
  | .mk _ (.object properties required), found => by
    rw [collectSchema, declarations, ← addProperties_eq]
    exact .lift _
  | .mk _ (.any properties required _), found => by
    rw [collectSchema, declarations, ← addProperties_eq]
    exact .lift _
  | .mk _ (.allOf members), found => by
    rw [collectSchema, declarations]
    exact collectMembers_ends name members found
  | .mk _ .string, found => nothing_ends kind name found
  | .mk _ (.integer _), found => nothing_ends kind name found
  | .mk _ (.number _), found => nothing_ends kind name found
  | .mk _ .boolean, found => nothing_ends kind name found
  | .mk _ (.array _), found => nothing_ends kind name found
  | .mk _ .oneOf, found => nothing_ends kind name found
  | .mk _ .anyOf, found => nothing_ends kind name found
  | .mk _ .not, found => nothing_ends kind name found

/-- Walking the members of a schema adds their declarations. -/
theorem collectMembers_ends (name : String) :
    ∀ (members : List (RefOr Schema)) (found : List ModelProperty),
    LogEnds (collectMembers kind name found members) (addAll kind found (memberDeclarations members))
  | [], found => by
    rw [memberDeclarations, addAll_nil]
    exact .pure found
  | .item member :: rest, found => by
    rw [collectMembers, memberDeclarations, addAll_append]
    exact (collectSchema_ends name member found).bind fun found => collectMembers_ends name rest found
  | .reference pointer :: rest, found => by
    rw [collectMembers, memberDeclarations]
    exact .after_note _ _ (collectMembers_ends name rest found)

end

/-- The properties of a model are those of the declarations that count, in order. -/
theorem modelProperties_ends (schema : Schema) (name : String) :
    LogEnds (modelProperties kind schema name)
      ((counted (declarations schema)).mapM (Declaration.toProperty kind)) := by
  have collected := collectSchema_ends kind name schema []
  have all : fresh [] (declarations schema) = counted (declarations schema) :=
    List.filter_eq_self.mpr fun _ _ => rfl
  rw [addAll, all] at collected
  exact bind_pure ((counted (declarations schema)).mapM (Declaration.toProperty kind)) ▸ collected

/-! ### What is found, and what goes wrong -/

mutual

/-- A type that cannot be spelled has a pointer that is none to a schema. -/
theorem typeOf_error {e : Error} : ∀ schema : RefOr Schema, typeOf kind schema = .error e →
    ∃ pointer, e = .unsupportedReference pointer .schemas
  | .reference pointer, h => by
    refine ⟨pointer, ?_⟩
    rw [typeOf, schemaName, componentName] at h
    repeat' split at h
    all_goals cases h
    all_goals rfl
  | .item schema, h => by
    rw [typeOf] at h
    exact typeOfSchema_error schema h

theorem typeOfSchema_error {e : Error} : ∀ schema : Schema, typeOfSchema kind schema = .error e →
    ∃ pointer, e = .unsupportedReference pointer .schemas
  | .mk _ (.array (some items)), h => by
    rw [typeOfSchema] at h
    cases spelled : typeOf kind items with
    | ok type =>
      rw [spelled] at h
      cases h
    | error e' =>
      rw [spelled] at h
      obtain rfl := Except.error.inj h
      exact typeOf_error items spelled
  | .mk _ (.array none), h => nomatch h
  | .mk _ .string, h => nomatch h
  | .mk _ (.integer _), h => nomatch h
  | .mk _ (.number _), h => nomatch h
  | .mk _ .boolean, h => nomatch h
  | .mk _ (.object _ _), h => nomatch h
  | .mk _ .oneOf, h => nomatch h
  | .mk _ (.allOf _), h => nomatch h
  | .mk _ .anyOf, h => nomatch h
  | .mk _ .not, h => nomatch h
  | .mk _ (.any _ _ _), h => nomatch h

end

variable {kind}

/-- What is found is made of the declarations that count, one by one. -/
theorem makes_of_modelProperties {schema : Schema} {name : String} {log : List LogLine}
    {ps : List ModelProperty}
    (h : ((ExceptT.run (modelProperties kind schema name)).run log).1 = .ok ps) :
    List.Forall₂ (Declaration.Makes kind) (counted (declarations schema)) ps := by
  rw [modelProperties_ends kind schema name log] at h
  exact (forall₂_of_mapM h).imp fun _ _ => Declaration.makes_of_toProperty

theorem names_of_makes {ds : List Declaration} {ps : List ModelProperty}
    (h : List.Forall₂ (Declaration.Makes kind) ds ps) :
    ps.map ModelProperty.name = ds.map Declaration.name := by
  induction h with
  | nil => rfl
  | cons made _ ih => rw [List.map_cons, List.map_cons, made.name, ih]

theorem typed_of_makes {ds : List Declaration} {ps : List ModelProperty}
    (h : List.Forall₂ (Declaration.Makes kind) ds ps) : ∀ d ∈ ds, d.IsTyped kind := by
  induction h with
  | nil => simp
  | cons made _ ih => exact List.forall_mem_cons.mpr ⟨⟨_, made.type⟩, ih⟩

theorem made_of_mem {ds : List Declaration} {ps : List ModelProperty} {p : ModelProperty}
    (h : List.Forall₂ (Declaration.Makes kind) ds ps) (hp : p ∈ ps) : ∃ d ∈ ds, d.Makes kind p := by
  induction h with
  | nil => cases hp
  | cons made _ ih =>
    rcases List.mem_cons.mp hp with rfl | hp
    · exact ⟨_, List.mem_cons_self, made⟩
    · obtain ⟨d, hd, made⟩ := ih hp
      exact ⟨d, List.mem_cons_of_mem _ hd, made⟩

/-- **The properties of a model** are those of the declarations that count, in order, if the types
of these can all be spelled. If not, the first type that cannot be spelled is the error. A
declaration that does not count and a member that is not written out have no say in this. -/
theorem properties_are_declared (kind : TargetKind) (schema : Schema) (name : String)
    (log : List LogLine) :
    ((∀ d ∈ counted (declarations schema), d.IsTyped kind) →
      ∃ ps, ((ExceptT.run (modelProperties kind schema name)).run log).1 = .ok ps ∧
        List.Forall₂ (Declaration.Makes kind) (counted (declarations schema)) ps ∧
        (ps.map ModelProperty.name).Nodup) ∧
    ((∃ d ∈ counted (declarations schema), ¬ d.IsTyped kind) →
      ∃ before d after pointer, counted (declarations schema) = before ++ d :: after ∧
        (∀ b ∈ before, b.IsTyped kind) ∧
        typeOf kind d.schema = .error (.unsupportedReference pointer .schemas) ∧
        ((ExceptT.run (modelProperties kind schema name)).run log).1 =
          .error (.unsupportedReference pointer .schemas)) := by
  have result := modelProperties_ends kind schema name log
  have typed_of_ok {d : Declaration} : (∃ p, d.toProperty kind = .ok p) → d.IsTyped kind :=
    fun ⟨p, made⟩ => ⟨p.type, (Declaration.makes_of_toProperty made).type⟩
  rcases mapM_ends (Declaration.toProperty kind) (counted (declarations schema)) with
    ⟨ps, found⟩ | ⟨before, d, after, e, split, good, bad, ended⟩
  · have made := makes_of_modelProperties (result.trans found)
    constructor
    · intro _
      refine ⟨ps, result.trans found, made, ?_⟩
      rw [names_of_makes made]
      exact counted_nodup _
    · rintro ⟨d, hd, untyped⟩
      exact absurd (typed_of_makes made d hd) untyped
  · have untyped : ¬ d.IsTyped kind := by
      intro typed
      obtain ⟨p, made⟩ := Declaration.exists_toProperty typed
      rw [bad] at made
      cases made
    refine ⟨fun all => absurd (all d (by simp [split])) untyped, fun _ => ?_⟩
    cases spelled : typeOf kind d.schema with
    | ok type => exact absurd ⟨type, spelled⟩ untyped
    | error e' =>
      obtain rfl : e = e' :=
        Except.error.inj (bad.symm.trans (Declaration.toProperty_of_error spelled))
      obtain ⟨pointer, rfl⟩ := typeOf_error kind d.schema spelled
      exact ⟨before, d, after, pointer, split, fun b hb => typed_of_ok (good b hb), spelled,
        result.trans ended⟩

/-- A pointer that leads nowhere is passed over as a member and behind another declaration of its
name. -/
example :
    ((ExceptT.run (modelProperties .php (.mk false (.allOf [
        .reference "nowhere",
        .item (.mk false (.object [("id", .item (.mk true .string))] ["id"])),
        .item (.mk false (.allOf [.item (.mk false (.any
          [("id", .reference "nowhere"), ("tag", .reference "#/components/schemas/Tag")] [] []))]))]))
        "Item")).run []).1 =
      .ok [⟨"id", "string", true, true⟩, ⟨"tag", "Tag", false, false⟩] := by
  decide +kernel

end ApiStubs
