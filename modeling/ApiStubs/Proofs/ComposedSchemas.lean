import ApiStubs.Proofs.DeclaredProperties

/-!
# Composed schemas

A schema composes others through the field `allOf`. If that is its only field, the schema is of kind
`allOf` and the members that are written out are walked (`Schema.members`). If other fields stand
beside it, the schema is of kind `any` and the walk stops there, at the properties of the schema
itself; its members (`Schema.besides`) are read and never looked at.

So there are two ways to go down in a schema. `Schema.Reaches` takes the first only, and it leads to
what the model is made of. `Schema.Declares` takes both, and it leads to what the document says.

A name may be declared in several places, and other places may require it. The walk keeps the first
declaration together with what its own schema requires, so a name can be required by a member and
still not be required in the model.

## What is proved

* `mem_declarations_iff`: the walk finds the properties of the schemas that it reaches.
* `nothing_lost_iff`: the names in a model, and when they are all that are declared.
* `required_by_first`: what is required is decided where a name is declared first.
-/

namespace ApiStubs

namespace Schema

/-- The properties that a schema itself declares. -/
def properties : Schema → List (String × RefOr Schema)
  | .mk _ (.object properties _) => properties
  | .mk _ (.any properties _ _) => properties
  | _ => []

/-- The names that a schema itself requires. -/
def required : Schema → List String
  | .mk _ (.object _ required) => required
  | .mk _ (.any _ required _) => required
  | _ => []

/-- The members of a schema of kind `allOf`. -/
def members : Schema → List (RefOr Schema)
  | .mk _ (.allOf members) => members
  | _ => []

/-- The members that stand beside other fields. -/
def besides : Schema → List (RefOr Schema)
  | .mk _ (.any _ _ members) => members
  | _ => []

/-- The schema itself declares a property of this name. -/
def HasProperty (s : Schema) (name : String) : Prop := name ∈ s.properties.map Prod.fst

/-- The walk over a schema comes to another: the schema itself, or a member, to any depth. -/
inductive Reaches : Schema → Schema → Prop
  /-- It starts at the schema. -/
  | self (s : Schema) : Reaches s s
  /-- It goes on in a member that is written out. -/
  | member {s m t : Schema} : .item m ∈ s.members → Reaches m t → Reaches s t

/-- A schema declares a property of this name: itself or through a member that is written out, to
any depth, whether other fields stand beside the members or not. -/
inductive Declares : Schema → String → Prop
  /-- The schema itself does. -/
  | self {s : Schema} {name : String} : s.HasProperty name → Declares s name
  /-- A member does. -/
  | member {s m : Schema} {name : String} : .item m ∈ s.members ++ s.besides → Declares m name →
      Declares s name

theorem Declares.of_reaches {s t : Schema} {name : String} (h : s.Reaches t)
    (ht : t.Declares name) :
    s.Declares name := by
  induction h with
  | self => exact ht
  | member hm _ ih => exact .member (List.mem_append_left _ hm) (ih ht)

/-- A name is declared by a schema that the walk comes to, or beside other fields of such a
schema. -/
theorem Declares.reached_or_beside {s : Schema} {name : String} (h : s.Declares name) :
    (∃ t, s.Reaches t ∧ t.HasProperty name) ∨
      ∃ t, s.Reaches t ∧ ∃ m, .item m ∈ t.besides ∧ m.Declares name := by
  induction h with
  | @self s name own => exact .inl ⟨s, .self s, own⟩
  | @member s m name hm below ih =>
    rcases List.mem_append.mp hm with hm | hm
    · rcases ih with ⟨t, reached, own⟩ | ⟨t, reached, beside⟩
      · exact .inl ⟨t, .member hm reached, own⟩
      · exact .inr ⟨t, .member hm reached, beside⟩
    · exact .inr ⟨s, .self s, m, hm, below⟩

end Schema

/-! ### Where declarations stand -/

/-- The declaration stands in the schema. -/
structure Declaration.StandsIn (d : Declaration) (t : Schema) : Prop where
  /-- It is one of its properties. -/
  property : (d.name, d.schema) ∈ t.properties
  /-- It comes with the names that the schema requires. -/
  required : d.required = t.required

section

variable {d : Declaration} {s t : Schema}

theorem mem_declared_iff {properties : List (String × RefOr Schema)} {required : List String} :
    d ∈ declared properties required ↔ (d.name, d.schema) ∈ properties ∧ d.required = required := by
  rw [declared, List.mem_map]
  constructor
  · rintro ⟨entry, h, rfl⟩
    exact ⟨h, rfl⟩
  · rintro ⟨h, rfl⟩
    exact ⟨(d.name, d.schema), h, rfl⟩

theorem mem_memberDeclarations_iff {members : List (RefOr Schema)} :
    d ∈ memberDeclarations members ↔ ∃ m, .item m ∈ members ∧ d ∈ declarations m := by
  induction members with
  | nil => simp [memberDeclarations]
  | cons first rest ih =>
    cases first with
    | reference pointer => simp [memberDeclarations, ih]
    | item m => simp [memberDeclarations, ih, or_and_right, exists_or]

/-- What stands in a schema is found when the walk comes to it. -/
theorem mem_declarations_self (h : d.StandsIn t) : d ∈ declarations t := by
  obtain ⟨property, required⟩ := h
  unfold Schema.properties at property
  unfold Schema.required at required
  split at property
  · rw [declarations]
    exact mem_declared_iff.mpr ⟨property, required⟩
  · rw [declarations]
    exact mem_declared_iff.mpr ⟨property, required⟩
  · cases property

/-- The declarations of a member are among those of the schema. -/
theorem mem_declarations_of_member {m : Schema} (hm : .item m ∈ s.members)
    (h : d ∈ declarations m) :
    d ∈ declarations s := by
  unfold Schema.members at hm
  split at hm
  · rw [declarations]
    exact mem_memberDeclarations_iff.mpr ⟨m, hm, h⟩
  · cases hm

mutual

theorem reached_of_mem_declarations : ∀ s :
    Schema, d ∈ declarations s → ∃ t, s.Reaches t ∧ d.StandsIn t
  | .mk n (.object properties required), h => by
    rw [declarations, mem_declared_iff] at h
    exact ⟨_, .self _, h.1, h.2⟩
  | .mk n (.any properties required members), h => by
    rw [declarations, mem_declared_iff] at h
    exact ⟨_, .self _, h.1, h.2⟩
  | .mk n (.allOf members), h => by
    rw [declarations] at h
    obtain ⟨m, hm, t, reached, stands⟩ := reached_of_mem_memberDeclarations members h
    exact ⟨t, .member hm reached, stands⟩
  | .mk _ .string, h => nomatch h
  | .mk _ (.integer _), h => nomatch h
  | .mk _ (.number _), h => nomatch h
  | .mk _ .boolean, h => nomatch h
  | .mk _ (.array _), h => nomatch h
  | .mk _ .oneOf, h => nomatch h
  | .mk _ .anyOf, h => nomatch h
  | .mk _ .not, h => nomatch h

theorem reached_of_mem_memberDeclarations : ∀ members :
    List (RefOr Schema), d ∈ memberDeclarations members →
    ∃ m, .item m ∈ members ∧ ∃ t, m.Reaches t ∧ d.StandsIn t
  | [], h => nomatch h
  | .item m :: rest, h => by
    rw [memberDeclarations, List.mem_append] at h
    rcases h with h | h
    · exact ⟨m, List.mem_cons_self, reached_of_mem_declarations m h⟩
    · obtain ⟨m', hm, reached⟩ := reached_of_mem_memberDeclarations rest h
      exact ⟨m', List.mem_cons_of_mem _ hm, reached⟩
  | .reference _ :: rest, h => by
    rw [memberDeclarations] at h
    obtain ⟨m', hm, reached⟩ := reached_of_mem_memberDeclarations rest h
    exact ⟨m', List.mem_cons_of_mem _ hm, reached⟩

end

/-- **The walk** finds the declarations that stand in the schemas it comes to. -/
theorem mem_declarations_iff : d ∈ declarations s ↔ ∃ t, s.Reaches t ∧ d.StandsIn t := by
  constructor
  · exact reached_of_mem_declarations s
  · rintro ⟨t, reached, stands⟩
    induction reached with
    | self t => exact mem_declarations_self stands
    | member hm _ ih => exact mem_declarations_of_member hm (ih stands)

/-- The names that the walk finds are those of the properties of the schemas it comes to. -/
theorem mem_names_declarations_iff {name : String} :
    name ∈ (declarations s).map Declaration.name ↔ ∃ t, s.Reaches t ∧ t.HasProperty name := by
  rw [List.mem_map]
  constructor
  · rintro ⟨d, hd, rfl⟩
    obtain ⟨t, reached, stands⟩ := mem_declarations_iff.mp hd
    exact ⟨t, reached, List.mem_map_of_mem stands.property⟩
  · rintro ⟨t, reached, own⟩
    obtain ⟨⟨name, schema⟩, hp, rfl⟩ := List.mem_map.mp own
    exact ⟨⟨name, schema, t.required⟩, mem_declarations_iff.mpr ⟨t, reached, hp, rfl⟩, rfl⟩

end

/-! ### What a model has -/

section

variable {kind : TargetKind} {schema : Schema} {name : String} {log : List LogLine}
  {ps : List ModelProperty}

/-- The names of the properties of a model are those declared in the schemas that the walk comes
to. -/
theorem mem_names_of_modelProperties {n : String}
    (h : ((ExceptT.run (modelProperties kind schema name)).run log).1 = .ok ps) :
    n ∈ ps.map ModelProperty.name ↔ ∃ t, schema.Reaches t ∧ t.HasProperty n := by
  rw [names_of_makes (makes_of_modelProperties h), mem_names_counted, mem_names_declarations_iff]

end

/-- **The names in a model** are those that the schemas declare to which the walk comes. No declared
name is lost exactly if every name that a member beside other fields declares is one of these. -/
theorem nothing_lost_iff {kind : TargetKind} {schema : Schema} {name : String} {log : List LogLine}
    {ps : List ModelProperty} (h : ((ExceptT.run (modelProperties kind schema name)).run log).1 = .ok ps) :
    (∀ n, n ∈ ps.map ModelProperty.name ↔ ∃ t, schema.Reaches t ∧ t.HasProperty n) ∧
    ((∀ n, schema.Declares n → n ∈ ps.map ModelProperty.name) ↔
      ∀ t, schema.Reaches t → ∀ m, .item m ∈ t.besides → ∀ n, m.Declares n →
        ∃ u, schema.Reaches u ∧ u.HasProperty n) := by
  refine ⟨fun n => mem_names_of_modelProperties h, ?_⟩
  constructor
  · intro kept t reached m hm n below
    refine (mem_names_of_modelProperties h).mp (kept n ?_)
    exact .of_reaches reached (.member (List.mem_append_right _ hm) below)
  · intro covered n declares
    refine (mem_names_of_modelProperties h).mpr ?_
    rcases declares.reached_or_beside with reached | ⟨t, reached, m, hm, below⟩
    · exact reached
    · exact covered t reached m hm n below

/-- An object with one text property, and the names that it requires. -/
def textObject (name : String) (required : List String) : Schema :=
  .mk false (.object [(name, .item (.mk false .string))] required)

/-- A text property, and beside it a member that declares another. -/
def textBeside (own other : String) : Schema :=
  .mk false (.any [(own, .item (.mk false .string))] [] [.item (textObject other [])])

/-- What the member beside `b` declares, another member declares too. -/
def coveredMember : Schema := .mk false (.allOf [.item (textObject "a" []), .item (textBeside "b" "a")])

/-- The member beside `b` declares nothing but `a`, and the walk has come to that before. -/
theorem coveredMember_loses_nothing :
    ((ExceptT.run (modelProperties .php coveredMember "X")).run []).1 =
        .ok [⟨"a", "string", false, false⟩, ⟨"b", "string", false, false⟩] ∧
      ∀ n, coveredMember.Declares n → n ∈ ["a", "b"] := by
  have found : ((ExceptT.run (modelProperties .php coveredMember "X")).run []).1 =
      .ok [⟨"a", "string", false, false⟩, ⟨"b", "string", false, false⟩] := by decide +kernel
  refine ⟨found, (nothing_lost_iff found).2.mpr fun t reached m hm n below => ?_⟩
  refine ⟨textObject "a" [], .member List.mem_cons_self (.self _), ?_⟩
  have only : m = textObject "a" [] := by
    cases reached with
    | self => cases hm
    | @member _ first _ h₁ rest =>
      have either : first = textObject "a" [] ∨ first = textBeside "b" "a" := by
        simpa [coveredMember, Schema.members] using h₁
      rcases either with rfl | rfl
      · cases rest with
        | self => cases hm
        | member h₂ _ => cases h₂
      · cases rest with
        | self => simpa [textBeside, Schema.besides] using hm
        | member h₂ _ => cases h₂
  subst only
  cases below with
  | self own => exact own
  | member h _ => cases h

/-- The walk does not come to the member beside `a`, and the name that it declares is lost. -/
theorem textBeside_loses :
    ∃ ps, ((ExceptT.run (modelProperties .php (textBeside "a" "b") "X")).run []).1 = .ok ps ∧
      (textBeside "a" "b").Declares "b" ∧ "b" ∉ ps.map ModelProperty.name := by
  refine ⟨[⟨"a", "string", false, false⟩], by decide +kernel, ?_, by decide +kernel⟩
  exact .member List.mem_cons_self (.self List.mem_cons_self)

/-! ### What a model requires -/

/-- **A property is required** exactly if the schema requires it in which the walk finds its first
declaration. -/
theorem required_by_first {kind : TargetKind} {schema : Schema} {name : String} {log : List LogLine}
    {ps : List ModelProperty} (h : ((ExceptT.run (modelProperties kind schema name)).run log).1 = .ok ps) :
    ∀ p ∈ ps, ∃ before d after t, declarations schema = before ++ d :: after ∧
      (∀ b ∈ before, b.name ≠ p.name) ∧ d.name = p.name ∧ schema.Reaches t ∧ d.StandsIn t ∧
      (p.required = true ↔ p.name ∈ t.required) := by
  intro p hp
  obtain ⟨d, hd, made⟩ := made_of_mem (makes_of_modelProperties h) hp
  obtain ⟨before, after, split, new⟩ := mem_counted_iff.mp hd
  obtain ⟨t, reached, stands⟩ :=
    mem_declarations_iff.mp (split ▸ List.mem_append_right _ List.mem_cons_self)
  refine ⟨before, d, after, t, split, ?_, made.name.symm, reached, stands, ?_⟩
  · rw [made.name]
    exact new
  · rw [made.required, made.name, stands.required]

/-- Two members that declare `id`; the second requires it. -/
def requiredLater : Schema :=
  .mk false (.allOf [.item (textObject "id" []), .item (textObject "id" ["id"])])

/-- `id` is not required in the model, and the member that declares it first is one that does not
require it. -/
theorem requiredLater_by_first :
    ((ExceptT.run (modelProperties .php requiredLater "X")).run []).1 = .ok [⟨"id", "string", false, false⟩] ∧
      ∃ before d after t, declarations requiredLater = before ++ d :: after ∧
        (∀ b ∈ before, b.name ≠ "id") ∧
        d.name = "id" ∧ requiredLater.Reaches t ∧ d.StandsIn t ∧ "id" ∉ t.required := by
  have found : ((ExceptT.run (modelProperties .php requiredLater "X")).run []).1 =
      .ok [⟨"id", "string", false, false⟩] := by decide +kernel
  obtain ⟨before, d, after, t, split, new, named, reached, stands, required⟩ :=
    required_by_first found _ List.mem_cons_self
  exact ⟨found, before, d, after, t, split, new, named, reached, stands,
    fun h => nomatch required.mpr h⟩

/-- The member that comes later is not asked. -/
theorem requiredLater_is_optional :
    ∃ ps, ((ExceptT.run (modelProperties .php requiredLater "X")).run []).1 = .ok ps ∧
      ∃ p ∈ ps, p.required = false ∧ ∃ t, requiredLater.Reaches t ∧ p.name ∈ t.required := by
  refine ⟨[⟨"id", "string", false, false⟩], by decide +kernel, _, List.mem_cons_self, rfl, ?_⟩
  refine ⟨textObject "id" ["id"], ?_, ?_⟩
  · exact .member (List.mem_cons_of_mem _ List.mem_cons_self) (.self _)
  · exact List.mem_cons_self

end ApiStubs
