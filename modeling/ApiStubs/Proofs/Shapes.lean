import Mathlib.Data.List.Forall2
import ApiStubs.Template.Renderer

/-!
# Shapes of data

Whether a template fails depends on which variables are there and on what kind of value they have,
but not on the values themselves. A shape says the kind of a value and leaves the value open: a list
has any number of items, and a text that may be missing is one shape whether it is there or not.
Over shapes in place of values a template can be checked once and for all.

The check is a walk over the parts that evaluates every expression to a shape. Of a choice it wants
both lists of parts to be sound, since a condition never fails and may go either way.

## What is proved

* `Outline.exists_find?`: a variable with a shape has a value of that shape.
* `Expression.exists_value?`: so has an expression.
* `exists_renderPart?`, `exists_renderParts?`: parts that pass the check are rendered.
* `exists_render?`: a template that passes the check is rendered with every object of the shape.
-/

namespace ApiStubs.Template

/-! ### Shapes -/

/-- The kind of a value. -/
inductive Shape where
  /-- A text. -/
  | text
  /-- A text, or nothing. -/
  | optionalText
  /-- A truth value. -/
  | flag
  /-- A number. -/
  | number
  /-- A list of items of one shape. -/
  | list (item : Shape)
  /-- An object that has these fields. -/
  | record (fields : List (String × Shape))

mutual

/-- The value has the shape. -/
def Shape.Fits : Shape → Json → Prop
  | .text, v => ∃ s, v = .str s
  | .optionalText, v => ∃ s, v = Json.ofText? s
  | .flag, v => ∃ b, v = .bool b
  | .number, v => ∃ n, v = .num n
  | .list item, v => ∃ items, v = .arr items ∧ ∀ x ∈ items, item.Fits x
  | .record shapes, v => ∃ fields, v = .obj fields ∧ FieldsFit shapes fields

/-- The fields are there and have the shapes. -/
def FieldsFit : List (String × Shape) → List (String × Json) → Prop
  | [], _ => True
  | (name, shape) :: rest, fields => (∃ v, fields.lookup name = some v ∧ shape.Fits v) ∧
      FieldsFit rest fields

end

/-- A field with a shape has a value of that shape. -/
theorem FieldsFit.exists_lookup {shapes : List (String × Shape)} {fields : List (String × Json)}
    {name : String} {shape : Shape} (fit : FieldsFit shapes fields)
    (h : shapes.lookup name = some shape) :
    ∃ v, fields.lookup name = some v ∧ shape.Fits v := by
  induction shapes with
  | nil => cases h
  | cons entry rest ih =>
    obtain ⟨key, other⟩ := entry
    rw [FieldsFit] at fit
    rw [List.lookup_cons] at h
    cases same : name == key with
    | true =>
      rw [same] at h
      obtain rfl := Option.some.inj h
      obtain rfl := eq_of_beq same
      exact fit.1
    | false =>
      rw [same] at h
      exact ih fit.2 h

/-- The shape that keys lead to. -/
def Shape.follow? : Shape → List String → Option Shape
  | shape, [] => some shape
  | .record fields, key :: keys => (fields.lookup key).bind fun shape => shape.follow? keys
  | _, _ :: _ => none

/-- Keys that lead to a shape lead to a value of that shape. -/
theorem Shape.Fits.exists_follow? {shape target : Shape} {keys : List String} {v : Json}
    (fit : shape.Fits v) (h : shape.follow? keys = some target) :
    ∃ v', Template.follow? v keys = some v' ∧ target.Fits v' := by
  induction keys generalizing shape v with
  | nil =>
    rw [Shape.follow?] at h
    obtain rfl := Option.some.inj h
    exact ⟨v, rfl, fit⟩
  | cons key keys ih =>
    cases shape with
    | record fields =>
      rw [Shape.Fits] at fit
      obtain ⟨values, rfl, fit⟩ := fit
      rw [Shape.follow?] at h
      obtain ⟨shape, found, rest⟩ := Option.bind_eq_some_iff.mp h
      obtain ⟨v, there, fit⟩ := fit.exists_lookup found
      obtain ⟨v', follow, fit'⟩ := ih fit rest
      exact ⟨v', by simpa [Template.follow?, there] using follow, fit'⟩
    | text => cases h
    | optionalText => cases h
    | flag => cases h
    | number => cases h
    | list item => cases h

/-! ### Variables -/

/-- What is known of a scope: the names and the shapes of the items of the loops around a part, the
innermost first, and the shapes of the fields of the object. -/
structure Outline where
  /-- The loops. -/
  frames : List (String × Shape)
  /-- The fields of the object. -/
  fields : List (String × Shape)

/-- The outline inside one more loop. -/
def Outline.push (o : Outline) (name : String) (item : Shape) : Outline :=
  { o with frames := (name, item) :: o.frames }

/-- The shape of what a loop knows of itself. -/
def loopShape? : List String → Option Shape
  | ["index"] => some .number
  | ["index0"] => some .number
  | ["first"] => some .flag
  | ["last"] => some .flag
  | _ => none

/-- The shape of a variable, given the loops. The innermost loop that could know the variable has
to. -/
def framesShape? (fields : List (String × Shape)) (name : String) (keys : List String) :
    List (String × Shape) → Option Shape
  | [] => (fields.lookup name).bind fun shape => shape.follow? keys
  | (frame, shape) :: rest =>
    if name = "loop" then loopShape? keys
    else if name = frame then shape.follow? keys
    else framesShape? fields name keys rest

/-- The shape of a variable. -/
def Outline.find? (o : Outline) (name : String) (keys : List String) : Option Shape :=
  framesShape? o.fields name keys o.frames

/-- The loop has no key, and its item has the name and the shape. -/
structure Frame.Fits (shape : String × Shape) (f : Frame) : Prop where
  /-- It runs over a list. -/
  key : f.key = none
  /-- The item has the name. -/
  name : f.name = shape.1
  /-- The item has the shape. -/
  value : shape.2.Fits f.value

/-- The scope is as the outline says. -/
structure Scope.Fits (o : Outline) (s : Scope) : Prop where
  /-- The loops are. -/
  frames : List.Forall₂ Frame.Fits o.frames s.frames
  /-- The object is. -/
  fields : FieldsFit o.fields s.fields

/-- A loop knows of itself what `loopShape?` says. -/
theorem Frame.exists_own? (f : Frame) {keys : List String} {shape : Shape}
    (h : loopShape? keys = some shape) :
    ∃ v, f.own? "loop" keys = some v ∧ shape.Fits v := by
  unfold loopShape? at h
  split at h
  · obtain rfl := Option.some.inj h
    exact ⟨.num (.int (f.index + 1)), rfl, by simp [Shape.Fits]⟩
  · obtain rfl := Option.some.inj h
    exact ⟨.num (.int f.index), rfl, by simp [Shape.Fits]⟩
  · obtain rfl := Option.some.inj h
    exact ⟨.bool (f.index = 0), rfl, by simp [Shape.Fits]⟩
  · obtain rfl := Option.some.inj h
    exact ⟨.bool (f.index + 1 = f.count), rfl, by simp [Shape.Fits]⟩
  · cases h

variable {o : Outline} {s : Scope}

/-- A variable with a shape has a value of that shape. -/
theorem Outline.exists_find? {name : String} {keys : List String} {shape : Shape} (fit : s.Fits o)
    (h : o.find? name keys = some shape) : ∃ v, s.find? name keys = some v ∧ shape.Fits v := by
  obtain ⟨shapes, fields⟩ := o
  obtain ⟨frames, values⟩ := s
  obtain ⟨loops, object⟩ := fit
  dsimp only at loops object
  unfold Outline.find? at h
  dsimp only at h
  unfold Scope.find?
  dsimp only
  induction loops with
  | nil =>
    rw [framesShape?] at h
    obtain ⟨shape', found, rest⟩ := Option.bind_eq_some_iff.mp h
    obtain ⟨v, there, fit⟩ := object.exists_lookup found
    obtain ⟨v', follow, fit'⟩ := fit.exists_follow? rest
    exact ⟨v', by simpa [there] using follow, fit'⟩
  | @cons shape' f shapes frames first _ ih =>
    obtain ⟨item, shape'⟩ := shape'
    obtain ⟨key, same, fits⟩ := first
    dsimp only at same fits
    rw [framesShape?] at h
    rw [List.findSome?_cons]
    by_cases loop : name = "loop"
    · subst loop
      rw [if_pos rfl] at h
      obtain ⟨v, own, fit⟩ := f.exists_own? h
      exact ⟨v, by simp [Frame.find?, own], fit⟩
    · rw [if_neg loop] at h
      have own : f.own? name keys = none := by simp [Frame.own?, loop]
      by_cases hit : name = item
      · obtain rfl := hit
        rw [if_pos rfl] at h
        obtain ⟨v, follow, fit⟩ := fits.exists_follow? h
        exact ⟨v, by simp [Frame.find?, own, same, follow], fit⟩
      · rw [if_neg hit] at h
        have miss : f.find? name keys = none := by simp [Frame.find?, own, same, hit, key]
        rw [miss]
        exact ih h

/-- Inside a loop the outline knows the item. -/
theorem Scope.Fits.push (fit : s.Fits o) {f : Frame} {name : String} {item : Shape}
    (loop : f.Fits (name, item)) :
    (s.push f).Fits (o.push name item) :=
  ⟨.cons loop fit.frames, fit.fields⟩

/-! ### Expressions -/

/-- The shape of a value behind a filter. -/
def filteredShape? (name : String) (shape : Shape) : Option Shape :=
  match name, shape with
  | "lower", .text => some .text
  | "upper", .text => some .text
  | "length", .text => some .number
  | "length", .list _ => some .number
  | "length", .record _ => some .number
  | _, _ => none

/-- A filter that has a shape has a value of that shape. -/
theorem exists_filtered? {name : String} {shape target : Shape} {v : Json} (fit : shape.Fits v)
    (h : filteredShape? name shape = some target) :
    ∃ v', filtered? name v = some v' ∧ target.Fits v' := by
  unfold filteredShape? at h
  split at h
  · obtain rfl := Option.some.inj h
    obtain ⟨t, rfl⟩ := by simpa only [Shape.Fits] using fit
    exact ⟨_, rfl, by simp [Shape.Fits]⟩
  · obtain rfl := Option.some.inj h
    obtain ⟨t, rfl⟩ := by simpa only [Shape.Fits] using fit
    exact ⟨_, rfl, by simp [Shape.Fits]⟩
  · obtain rfl := Option.some.inj h
    obtain ⟨t, rfl⟩ := by simpa only [Shape.Fits] using fit
    exact ⟨_, rfl, by simp [Shape.Fits]⟩
  · obtain rfl := Option.some.inj h
    obtain ⟨items, rfl, -⟩ := by simpa only [Shape.Fits] using fit
    exact ⟨_, rfl, by simp [Shape.Fits]⟩
  · obtain rfl := Option.some.inj h
    obtain ⟨fields, rfl, -⟩ := by simpa only [Shape.Fits] using fit
    exact ⟨_, rfl, by simp [Shape.Fits]⟩
  · cases h

/-- The shape of an operand. -/
def Operand.shape? (o : Outline) : Operand → Option Shape
  | .bool _ => some .flag
  | .int _ => some .number
  | .double _ => some .number
  | .text _ => some .text
  | .variable name keys => o.find? name keys

/-- The shape of an expression. -/
def Expression.shape? (o : Outline) (e : Expression) : Option Shape := do
  let shape ← e.operand.shape? o
  let shape ← e.filters.foldlM (fun shape f => filteredShape? f shape) shape
  return if e.negated then .flag else shape

/-- An operand with a shape has a value of that shape. -/
theorem Operand.exists_value? {operand : Operand} {shape : Shape} (fit : s.Fits o)
    (h : operand.shape? o = some shape) : ∃ v, operand.value? s = some v ∧ shape.Fits v := by
  match operand, h with
  | .variable name keys, h => exact Outline.exists_find? fit h
  | .bool b, rfl => exact ⟨.bool b, rfl, b, rfl⟩
  | .int n, rfl => exact ⟨.num (.int n), rfl, .int n, rfl⟩
  | .double d, rfl => exact ⟨.num (.double d), rfl, .double d, rfl⟩
  | .text t, rfl => exact ⟨.str t, rfl, t, rfl⟩

/-- Filters that have a shape have a value of that shape. -/
theorem exists_filters {filters : List String} {shape target : Shape} {v : Json}
    (fit : shape.Fits v)
    (h : filters.foldlM (fun shape f => filteredShape? f shape) shape = some target) :
    ∃ v', filters.foldlM (fun v f => filtered? f v) v = some v' ∧ target.Fits v' := by
  induction filters generalizing shape v with
  | nil =>
    obtain rfl := Option.some.inj h
    exact ⟨v, rfl, fit⟩
  | cons f filters ih =>
    rw [List.foldlM_cons] at h
    obtain ⟨shape', first, rest⟩ := Option.bind_eq_some_iff.mp h
    obtain ⟨v', there, fit'⟩ := exists_filtered? fit first
    obtain ⟨v'', others, fit''⟩ := ih fit' rest
    refine ⟨v'', ?_, fit''⟩
    rw [List.foldlM_cons, there]
    exact others

/-- An expression with a shape has a value of that shape. -/
theorem Expression.exists_value? {e : Expression} {shape : Shape} (fit : s.Fits o)
    (h : e.shape? o = some shape) : ∃ v, e.value? s = some v ∧ shape.Fits v := by
  obtain ⟨start, operand, h⟩ := Option.bind_eq_some_iff.mp h
  obtain ⟨stop, filters, h⟩ := Option.bind_eq_some_iff.mp h
  obtain ⟨v, value, fit⟩ := Operand.exists_value? fit operand
  obtain ⟨v', value', fit'⟩ := exists_filters fit filters
  obtain rfl := Option.some.inj h
  unfold Expression.value?
  rw [value]
  dsimp only
  rw [value']
  cases e.negated with
  | false => exact ⟨v', rfl, fit'⟩
  | true => exact ⟨.bool (!isTruthy v'), rfl, by simp [Shape.Fits]⟩

/-! ### Parts -/

mutual

/-- Every expression that could make the part fail has a shape. Loops over objects do not pass. -/
def Part.checks (o : Outline) : Part → Bool
  | .text _ => true
  | .print e => (e.shape? o).isSome
  | .choice _ yes no => checkParts o yes && checkParts o no
  | .each none name items body empty =>
    match items.shape? o with
    | some (.list item) => checkParts (o.push name item) body && checkParts o empty
    | _ => false
  | .each (some _) _ _ _ _ => false

/-- All of the parts pass. -/
def checkParts (o : Outline) : List Part → Bool
  | [] => true
  | p :: ps => p.checks o && checkParts o ps

end

/-- A step that is there for all items is there for the list. -/
theorem exists_mapM {f : α → Option β} {items : List α} (h : ∀ x ∈ items, ∃ y, f x = some y) :
    ∃ ys, items.mapM f = some ys := by
  induction items with
  | nil => exact ⟨[], rfl⟩
  | cons x items ih =>
    obtain ⟨y, first⟩ := h x List.mem_cons_self
    obtain ⟨ys, rest⟩ := ih fun x hx => h x (List.mem_cons_of_mem _ hx)
    exact ⟨y :: ys, by simp [List.mapM_cons, first, rest]⟩

mutual

/-- **A part that passes is rendered.** -/
theorem exists_renderPart? {o : Outline} {s : Scope} (fit : s.Fits o) :
    ∀ p : Part, p.checks o = true → ∃ text, renderPart? s p = some text
  | .text t, _ => ⟨t, by rw [renderPart?]⟩
  | .print e, h => by
    rw [Part.checks] at h
    obtain ⟨shape, h⟩ := Option.isSome_iff_exists.mp h
    obtain ⟨v, value, -⟩ := Expression.exists_value? fit h
    exact ⟨printed v, by rw [renderPart?, value]; rfl⟩
  | .choice e yes no, h => by
    rw [Part.checks, Bool.and_eq_true] at h
    rw [renderPart?]
    split
    · exact exists_renderParts? fit yes h.1
    · exact exists_renderParts? fit no h.2
  | .each (some key) name items body empty, h => by
    rw [Part.checks] at h
    cases h
  | .each none name items body empty, h => by
    unfold Part.checks at h
    split at h
    · next item found =>
      rw [Bool.and_eq_true] at h
      obtain ⟨v, value, fits⟩ := Expression.exists_value? fit found
      rw [Shape.Fits] at fits
      obtain ⟨values, rfl, fits⟩ := fits
      rw [renderPart?, value]
      simp only [Option.isSome_none, loopItems?, Option.bind_eq_bind, Option.bind_some]
      split
      · exact exists_renderParts? fit empty h.2
      · -- the body passes for every item, whatever number of items is before it
        have each (count : Nat) : ∀ x ∈ (values.map fun v => ((none : Option String), v)).zipIdx,
            ∃ text, renderParts? (s.push (frameOf none name count x.1 x.2)) body = some text := by
          rintro ⟨x, index⟩ hx
          obtain ⟨y, hy, rfl⟩ := List.mem_map.mp (List.fst_mem_of_mem_zipIdx hx)
          exact exists_renderParts? (fit.push ⟨rfl, rfl, fits y hy⟩) body h.1
        obtain ⟨texts, done⟩ := exists_mapM (each _)
        exact ⟨String.join texts, by rw [done]; rfl⟩
    · cases h

/-- **Parts that pass are rendered.** -/
theorem exists_renderParts? {o : Outline} {s : Scope} (fit : s.Fits o) :
    ∀ ps : List Part, checkParts o ps = true → ∃ text, renderParts? s ps = some text
  | [], _ => ⟨"", by rw [renderParts?]⟩
  | p :: ps, h => by
    rw [checkParts, Bool.and_eq_true] at h
    obtain ⟨first, one⟩ := exists_renderPart? fit p h.1
    obtain ⟨rest, others⟩ := exists_renderParts? fit ps h.2
    exact ⟨first ++ rest, by rw [renderParts?, one, others]; rfl⟩

end

/-- **A template that passes is rendered** with every object whose fields have the shapes. -/
theorem exists_render? {parts : List Part} {shapes : List (String × Shape)}
    {fields : List (String × Json)} (h : checkParts { frames := [], fields := shapes } parts = true)
    (fit : FieldsFit shapes fields) :
    ∃ text, render? parts fields = some text :=
  exists_renderParts? ⟨.nil, fit⟩ parts h

end ApiStubs.Template
