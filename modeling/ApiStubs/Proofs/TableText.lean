import ApiStubs.Proofs.BuiltinTemplates

/-!
# The text of the route table

The built-in templates of the route table write one row for each route between a head and a tail.
The values of a route are put into the row as they are; an optional value that is there but empty
counts as one that is not there.

## What is proved

* `renderParts?_rustRow`, `renderParts?_phpRow`: the text of a row.
* `renderPart?_rows`: the rows of a table, one after the other.
* `builtin_tables`: the text of a whole table, as the built-in templates of a kind render it.
-/

namespace ApiStubs

/-! ### Rows -/

/-- The value, unless it is empty. -/
def shownText (value : Option String) : Option String := value.filter fun v => !v.isEmpty

/-- The route as the table shows it. -/
def Route.shown (r : Route) : Route where
  middleware := r.middleware
  modelMiddleware := shownText r.modelMiddleware
  path := r.path
  method := r.method
  name := shownText r.name

/-- An optional value between two texts, or another text. -/
def optionalText (start stop absent : String) : Option String → String
  | some v => start ++ v ++ stop
  | none => absent

/-- The row of a route as Rust. -/
def rustRow (r : Route) : String := String.join [
  "\n    Route \x7b\n        method: \"", r.method,
  "\",\n        path: \"", r.path,
  "\",\n        middleware: \"", r.middleware,
  "\",\n        model_middleware: ", optionalText "Some(\"" "\")" "None" r.modelMiddleware,
  ",\n        name: ", optionalText "Some(\"" "\")" "None" r.name,
  ",\n    \x7d,"]

/-- The row of a route as PHP. -/
def phpRow (r : Route) : String := String.join [
  "\n        [\n            'path' => '", r.path,
  "',\n            'middleware' => [", optionalText "\n                " "::class," "" r.modelMiddleware,
  "\n                ", r.middleware,
  "::class,\n            ],\n            'allowed_methods' => ['", r.method,
  "'],\n            'name' => ", optionalText "'" "'" "null" r.name,
  ",\n        ],"]

/-- The row of a route. -/
def tableRow : TargetKind → Route → String
  | .rust => rustRow
  | .php => phpRow

/-- The text behind the rows. -/
def tableTail : TargetKind → String
  | .rust => "\n];\n"
  | .php => "\n    ],\n];\n"

namespace Template

/-! ### The parts of a row -/

/-- The value of a route under a key. -/
def routeValue (key : String) : Expression where
  negated := false
  operand := .variable "route" [key]
  filters := []

/-- An optional value of a route between two texts, or other parts. -/
def routeChoice (key start stop : String) (absent : List Part) : Part :=
  .choice (routeValue key) [.text start, .print (routeValue key), .text stop] absent

/-- The parts of a row as Rust. -/
def rustRowParts : List Part := [
  .text "\n    Route \x7b\n        method: \"", .print (routeValue "method"),
  .text "\",\n        path: \"", .print (routeValue "path"),
  .text "\",\n        middleware: \"", .print (routeValue "middleware"),
  .text "\",\n        model_middleware: ", routeChoice "modelMiddleware" "Some(\"" "\")" [.text "None"],
  .text ",\n        name: ", routeChoice "name" "Some(\"" "\")" [.text "None"],
  .text ",\n    \x7d,"]

/-- The parts of a row as PHP. -/
def phpRowParts : List Part := [
  .text "\n        [\n            'path' => '", .print (routeValue "path"),
  .text "',\n            'middleware' => [", routeChoice "modelMiddleware" "\n                " "::class," [],
  .text "\n                ", .print (routeValue "middleware"),
  .text "::class,\n            ],\n            'allowed_methods' => ['", .print (routeValue "method"),
  .text "'],\n            'name' => ", routeChoice "name" "'" "'" [.text "null"],
  .text ",\n        ],"]

/-- The parts of a row. -/
def rowParts : TargetKind → List Part
  | .rust => rustRowParts
  | .php => phpRowParts

/-- The parts of the rows of a table. -/
def rowsPart (kind : TargetKind) : Part :=
  .each none "route" { negated := false, operand := .variable "routes" [], filters := [] } (rowParts kind) []

/-- The source of the template of the route table. -/
def routesSource : TargetKind → String
  | .rust => rustRoutes
  | .php => phpRoutes

set_option maxRecDepth 20000 in
/-- A table is a head, its rows and a tail. -/
theorem exists_head (kind : TargetKind) : ∃ head,
    ofSource? (routesSource kind) = some [.text head, rowsPart kind, .text (tableTail kind)] := by
  cases kind with
  | rust => exact ⟨_, (ofSource?_eq rfl).trans rfl⟩
  | php => exact ⟨_, (ofSource?_eq rfl).trans rfl⟩

/-! ### The text of a row -/

variable {s : Scope} {r : Route}

/-- The scope of a row knows the values of the route. -/
def Scope.Knows (s : Scope) (r : Route) : Prop :=
  ∀ key v, r.toJson.field? key = some v → s.find? "route" [key] = some v

theorem Scope.knows_push (s : Scope) (r : Route) (count index : Nat) :
    (s.push (frameOf none "route" count (none, r.toJson) index)).Knows r := by
  intro key v h
  have follow : follow? r.toJson [key] = some v := by
    rw [Route.toJson] at h ⊢
    rw [Json.field?] at h
    simp [follow?, h]
  have found : (frameOf none "route" count (none, r.toJson) index).find? "route" [key] = some v := by
    simp [Frame.find?, Frame.own?, frameOf, follow]
  simp [Scope.find?, Scope.push, found]

/-- Parts with these texts are rendered as the texts, one after the other. -/
theorem renderParts?_join {ps : List Part} {texts : List String}
    (h : List.Forall₂ (fun p text => renderPart? s p = some text) ps texts) :
    renderParts? s ps = some (String.join texts) := by
  induction h with
  | nil => rfl
  | cons one _ ih =>
    rw [renderParts?, one, ih, String.join_cons]
    rfl

theorem renderPart?_text (t : String) : renderPart? s (.text t) = some t := by
  rw [renderPart?]

theorem renderPart?_print {key v : String} (knows : s.Knows r)
    (h : r.toJson.field? key = some (.str v)) :
    renderPart? s (.print (routeValue key)) = some v := by
  have value : (routeValue key).value? s = some (.str v) := by
    simp [Expression.value?, routeValue, Operand.value?, knows key _ h]
  simp [renderPart?, value, printed]

theorem renderPart?_routeChoice {key start stop absent : String} {value : Option String}
    {no : List Part} (knows : s.Knows r) (h : r.toJson.field? key = some (Json.ofText? value))
    (other : renderParts? s no = some absent) :
    renderPart? s (routeChoice key start stop no)
      = some (optionalText start stop absent (shownText value)) := by
  have holds : (routeValue key).holds s = isTruthy (Json.ofText? value) := by
    simp [Expression.holds, routeValue, knows key _ h]
  rw [routeChoice, renderPart?, holds]
  cases value with
  | none => simpa [Json.ofText?, isTruthy, shownText, optionalText] using other
  | some v =>
    rw [Json.ofText?] at h
    by_cases empty : v.isEmpty = true
    · simpa [Json.ofText?, isTruthy, shownText, optionalText, Option.filter, empty] using other
    · simp [Json.ofText?, isTruthy, shownText, optionalText, Option.filter, empty, renderParts?,
        renderPart?_text, renderPart?_print knows h, String.append_assoc]

/-- The text of a row as Rust. -/
theorem renderParts?_rustRow (knows : s.Knows r) :
    renderParts? s rustRowParts = some (rustRow r.shown) := by
  have absent : renderParts? s [.text "None"] = some "None" :=
    renderParts?_join (.cons (renderPart?_text "None") .nil)
  refine renderParts?_join ?_
  refine .cons (renderPart?_text _) (.cons (renderPart?_print knows rfl) ?_)
  refine .cons (renderPart?_text _) (.cons (renderPart?_print knows rfl) ?_)
  refine .cons (renderPart?_text _) (.cons (renderPart?_print knows rfl) ?_)
  refine .cons (renderPart?_text _) (.cons (renderPart?_routeChoice knows rfl absent) ?_)
  refine .cons (renderPart?_text _) (.cons (renderPart?_routeChoice knows rfl absent) ?_)
  exact .cons (renderPart?_text _) .nil

/-- The text of a row as PHP. -/
theorem renderParts?_phpRow (knows : s.Knows r) :
    renderParts? s phpRowParts = some (phpRow r.shown) := by
  have absent : renderParts? s [] = some "" := renderParts?_join .nil
  have null : renderParts? s [.text "null"] = some "null" :=
    renderParts?_join (.cons (renderPart?_text "null") .nil)
  refine renderParts?_join ?_
  refine .cons (renderPart?_text _) (.cons (renderPart?_print knows rfl) ?_)
  refine .cons (renderPart?_text _) (.cons (renderPart?_routeChoice knows rfl absent) ?_)
  refine .cons (renderPart?_text _) (.cons (renderPart?_print knows rfl) ?_)
  refine .cons (renderPart?_text _) (.cons (renderPart?_print knows rfl) ?_)
  refine .cons (renderPart?_text _) (.cons (renderPart?_routeChoice knows rfl null) ?_)
  exact .cons (renderPart?_text _) .nil

/-- The text of a row. -/
theorem renderParts?_row (kind : TargetKind) (knows : s.Knows r) :
    renderParts? s (rowParts kind) = some (tableRow kind r.shown) := by
  cases kind with
  | rust => exact renderParts?_rustRow knows
  | php => exact renderParts?_phpRow knows

/-! ### The text of a table -/

/-- A step that does not look at the number of an item. -/
theorem mapM_zipIdx {items : List α} {k : α → β} {f : β × Nat → Option γ} {g : α → γ}
    (h : ∀ x i, f (k x, i) = some (g x)) (start : Nat) :
    ((items.map k).zipIdx start).mapM f = some (items.map g) := by
  induction items generalizing start with
  | nil => rfl
  | cons x items ih => simp [List.zipIdx_cons, List.mapM_cons, h, ih (start + 1)]

/-- The scope of a route table. -/
def routesScope (routes : List Route) : Scope where
  frames := []
  fields := [("routes", .arr (routes.map Route.toJson))]

/-- **The rows of a table**, one after the other. -/
theorem renderPart?_rows (kind : TargetKind) (routes : List Route) :
    renderPart? (routesScope routes) (rowsPart kind)
    = some (String.join (routes.map fun r => tableRow kind r.shown)) := by
  have value : Expression.value? (routesScope routes)
      { negated := false, operand := .variable "routes" [], filters := [] }
        = some (.arr (routes.map Route.toJson)) := by
    simp [routesScope, Expression.value?, Operand.value?, Scope.find?, follow?]
  rw [rowsPart, renderPart?, value]
  simp only [Option.isSome_none, loopItems?, Option.bind_eq_bind, Option.bind_some, List.map_map]
  split
  · next none_left =>
    obtain rfl : routes = [] := by simpa using none_left
    rfl
  · rw [mapM_zipIdx (g := fun r => tableRow kind r.shown) fun r i => ?_]
    · rfl
    · exact renderParts?_row kind (Scope.knows_push _ r _ i)

end Template

/-! ### The text of a table -/

/-- The text of the table of some routes of a kind, behind its head. -/
def tableBody (kind : TargetKind) (routes : List Route) : String :=
  String.join (routes.map fun r => tableRow kind r.shown) ++ tableTail kind

/-- **The built-in templates of a kind** can be read, and they render every list of routes as its
table. -/
theorem builtin_tables (kind : TargetKind) : ∃ l head, TemplateLibrary.builtin kind = .ok l ∧
    ∀ (t : FileTree) (routes : List Route),
      (l.renderWith t routesTemplate (routesPayload routes)).1
        = .ok (head ++ tableBody kind routes) := by
  obtain ⟨l, loaded, found⟩ := TemplateLibrary.exists_builtin kind
  obtain ⟨head, parts⟩ := Template.exists_head kind
  refine ⟨l, head, loaded, ?_⟩
  intro t routes
  have there : l.find? (TemplateLibrary.fileName routesTemplate)
      = some [.text head, Template.rowsPart kind, .text (tableTail kind)] := by
    rw [← parts]
    cases kind with
    | rust => exact found ("routes.tera", Template.rustRoutes) (by simp [Template.builtinSources])
    | php => exact found ("routes.tera", Template.phpRoutes) (by simp [Template.builtinSources])
  have rendered : Template.render? [.text head, Template.rowsPart kind, .text (tableTail kind)]
      [("routes", .arr (routes.map Route.toJson))] = some (head ++ tableBody kind routes) := by
    refine (Template.renderParts?_join (.cons (Template.renderPart?_text _) (.cons
      (Template.renderPart?_rows kind routes) (.cons (Template.renderPart?_text _) .nil)))).trans ?_
    simp [tableBody, String.join_cons]
  exact TemplateLibrary.renderWith_ok there rendered t

end ApiStubs
