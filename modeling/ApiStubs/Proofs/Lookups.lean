import ApiStubs.Proofs.DeclaredProperties
import ApiStubs.Proofs.Split

/-!
# What can go wrong in a document

While properties and routes are looked up in a document two things can go wrong: a pointer may be
none into the table it should lead to, or it may name a shared parameter that is not there. Every
other error comes from outside the document.

The functions that look something up call one another, and `Blames` goes along with `do`: a lookup
fails only in these two ways if its steps do.

## What is proved

* `componentName_ok_iff`, `componentName_error_iff`: which pointers lead into a table.
* `typeOf_blames`: the spelling of a type.
* `modelProperties_blames`: the properties of a model.
* `Document.routeList_blames`: the routes of a document.
-/

namespace ApiStubs

/-! ### Errors -/

/-- The error is a fault of the document that was found while something was looked up in it. -/
inductive Error.IsLookup : Error → Prop where
  /-- A pointer that is none into the table. -/
  | pointer (reference : String) (table : ComponentTable) : IsLookup (.unsupportedReference reference table)
  /-- A pointer to a shared parameter that is not there. -/
  | parameter (name : String) : IsLookup (.document (Document.missingParameterMessage name))

/-- Only the document is to blame if there is an error. -/
def Blames (r : Except Error α) : Prop := ∀ e, r = .error e → e.IsLookup

theorem Blames.ok (a : α) : Blames (.ok a : Except Error α) := by
  intro e h
  cases h

theorem Blames.error {e : Error} (h : e.IsLookup) : Blames (.error e : Except Error α) := by
  intro e' h'
  obtain rfl := Except.error.inj h'
  exact h

theorem Blames.bind {x : Except Error α} {f : α → Except Error β} (hx : Blames x)
    (hf : ∀ a, Blames (f a)) :
    Blames (x >>= f) := by
  cases x with
  | error e => exact .error (hx e rfl)
  | ok a => exact hf a

theorem Blames.mapM {f : α → Except Error β} (h : ∀ a, Blames (f a)) (items : List α) :
    Blames (items.mapM f) := by
  induction items with
  | nil => exact .ok []
  | cons a items ih =>
    rw [List.mapM_cons]
    exact (h a).bind fun b => ih.bind fun bs => .ok (b :: bs)

/-- Only the document is to blame if there is an error, whatever the log holds. -/
def LogBlames (work : Logged α) : Prop := ∀ log, Blames ((ExceptT.run work).run log).1

/-! ### Pointers and types -/

/-- The pointer is the text of the table followed by the name, which is not empty and holds no
slash. -/
structure PointsTo (table : ComponentTable) (pointer name : String) : Prop where
  /-- The text of the table comes first. -/
  spelling : pointer = table.pointerStart ++ name
  /-- The name is not empty. -/
  ne_empty : name ≠ ""
  /-- The name holds no slash. -/
  no_slash : '/' ∉ name.toList

section

variable {table : ComponentTable} {pointer name : String}

/-- A name is accepted if the pointer leads to it. -/
theorem componentName_ok_iff : componentName table pointer = .ok name ↔ PointsTo table pointer name := by
  unfold componentName
  constructor
  · intro h
    split at h
    · next rest found =>
      split at h
      · cases h
      · next plain =>
        obtain rfl := Except.ok.inj h
        rw [Bool.or_eq_true, not_or, List.isEmpty_iff, List.contains_iff_mem] at plain
        refine ⟨?_, fun empty => plain.1 (by simpa using congrArg String.toList empty), ?_⟩
        · refine String.toList_inj.mp ?_
          rw [String.toList_append, String.toList_ofList]
          exact Text.eq_append_of_dropStart? found
        · rw [String.toList_ofList]
          exact plain.2
    · cases h
  · rintro ⟨rfl, full, plain⟩
    have dropped : Text.dropStart? table.pointerStart.toList (table.pointerStart ++ name).toList
        = some name.toList := by
      rw [String.toList_append, Text.dropStart?_append]
    rw [dropped]
    dsimp only
    rw [if_neg, String.ofList_toList]
    rw [Bool.or_eq_true, not_or, List.isEmpty_iff, List.contains_iff_mem]
    exact ⟨fun empty => full (String.toList_eq_nil_iff.mp empty), plain⟩

/-- The error tells the pointer and the table. -/
theorem eq_of_componentName_error {e : Error} (h : componentName table pointer = .error e) :
    e = .unsupportedReference pointer table := by
  unfold componentName at h
  split at h
  · split at h
    · exact (Except.error.inj h).symm
    · cases h
  · exact (Except.error.inj h).symm

/-- A pointer that leads to no name is refused. -/
theorem componentName_error_iff {e : Error} :
    componentName table pointer = .error e ↔
      (∀ name, ¬ PointsTo table pointer name) ∧ e = .unsupportedReference pointer table := by
  constructor
  · intro h
    refine ⟨fun name leads => ?_, eq_of_componentName_error h⟩
    rw [componentName_ok_iff.mpr leads] at h
    cases h
  · rintro ⟨nowhere, rfl⟩
    cases h : componentName table pointer with
    | ok name => exact absurd (componentName_ok_iff.mp h) (nowhere name)
    | error e => rw [eq_of_componentName_error h]

end

theorem componentName_blames (table : ComponentTable) (reference : String) :
    Blames (componentName table reference) := by
  intro e h
  obtain rfl := eq_of_componentName_error h
  exact .pointer reference table

theorem typeOf_blames (kind : TargetKind) (schema : RefOr Schema) :
    Blames (typeOf kind schema) := by
  intro e h
  obtain ⟨pointer, rfl⟩ := typeOf_error kind schema h
  exact .pointer pointer .schemas

/-! ### Properties -/

/-- The properties of a model fail only by a fault of the document. -/
theorem modelProperties_blames (kind : TargetKind) (schema : Schema) (name : String) :
    LogBlames (modelProperties kind schema name) := by
  intro log
  rw [modelProperties_ends kind schema name log]
  refine .mapM (fun d => ?_) _
  exact (typeOf_blames kind d.schema).bind fun type => .ok _

/-! ### Routes -/

theorem Document.resolveParameter_blames (d : Document) (p : RefOr Parameter) :
    Blames (d.resolveParameter p) := by
  cases p with
  | item p => exact .ok p
  | reference pointer =>
    have name : Blames (parameterName pointer) := componentName_blames .parameters pointer
    rw [resolveParameter]
    cases found : parameterName pointer with
    | error e => exact .error (name e found)
    | ok name =>
      dsimp only
      split
      · exact .ok _
      · exact .error (.parameter name)

theorem pathParameters_blames (d : Document) (ps : List (RefOr Parameter)) :
    Blames (pathParameters d ps) := by
  induction ps with
  | nil => exact .ok []
  | cons p rest ih =>
    rw [pathParameters]
    exact (d.resolveParameter_blames p).bind fun p => ih.bind fun names => .ok _

theorem Namespacing.bodyModel_blames (n : Namespacing) (base : String) (o : Operation) :
    Blames (n.bodyModel base o) := by
  unfold bodyModel
  split
  · split
    · exact (componentName_blames .schemas _).bind fun name => .ok _
    · exact .ok none
  · exact .ok none

/-- The routes of a document fail only by a fault of the document. -/
theorem Document.routeList_blames (d : Document) (n : Namespacing) (base : String) :
    Blames (d.routeList n base) := by
  refine .mapM (fun x => ?_) d.endpoints
  exact (pathParameters_blames d _).bind fun names => (n.bodyModel_blames base _).bind fun model => .ok _

end ApiStubs
