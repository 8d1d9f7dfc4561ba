import ApiStubs.Proofs.TableText

/-!
# Which routes can be read back from their table

The templates put the values of a route into the table as they are: nothing is escaped. So a value
that contains what stands behind it in the table can be taken for several values, and a table for
another one: the path of one route can forge a second route. Values that do not contain what closes
them cannot, and then the table determines the routes, up to optional values that are there but
empty.

A table is read from left to right. `cut` finds the end of a value, and every row is taken apart
value by value.

## What is proved

* `cut`: a value ends at the first closing behind it.
* `rustRow_inj`, `phpRow_inj`: a row determines its route and where it ends.
* `tableBody_inj`: the rows and the tail determine all routes.
* `tables_differ`: legible routes that differ in more than empty values have different tables.
* `tableBody_forge`: without these conditions the path of a route can forge another.
* `routes_rendered_alike`: routes that their table does not tell apart.
-/

namespace ApiStubs

/-! ### The end of a value -/

/-- No end of the text is its beginning as well, apart from the whole text and nothing. So two of
them in one text do not overlap. -/
def IsClosing (closing : List Char) : Prop := ∀ k < closing.length, 0 < k → ¬ closing.drop k <+: closing

instance (closing : List Char) : Decidable (IsClosing closing) :=
  inferInstanceAs (Decidable (∀ k < closing.length, 0 < k → ¬ closing.drop k <+: closing))

/-- Closings do not overlap: what is left of the first one is not the beginning of another. -/
theorem IsClosing.eq_nil_of_overlap {closing start overlap rest rest' : List Char}
    (closes : IsClosing closing) (split : closing = start ++ overlap)
    (overlaps : closing ++ rest = overlap ++ rest') (some_left : overlap ≠ []) :
    start = [] := by
  by_contra more
  have lengths : closing.length = start.length + overlap.length := by rw [split, List.length_append]
  have positive : 0 < start.length := List.length_pos_iff.mpr more
  have positive' : 0 < overlap.length := List.length_pos_iff.mpr some_left
  have begins : overlap <+: closing :=
    List.prefix_of_prefix_length_le ⟨rest', overlaps.symm⟩ (List.prefix_append closing rest) (by omega)
  apply closes start.length (by omega) positive
  have left : closing.drop start.length = overlap := by rw [split, List.drop_left]
  rwa [left]

/-- If a value with a closing behind it is the beginning of another one without closings, it is all
of it. -/
theorem IsClosing.eq_nil_of_shorter {closing value more rest rest' : List Char}
    (closes : IsClosing closing) (starts : closing <+: rest) (starts' : closing <+: rest')
    (clean : ¬ closing <:+: value ++ more) (h : rest = more ++ rest') : more = [] := by
  obtain ⟨x, rfl⟩ := starts
  obtain ⟨y, rfl⟩ := starts'
  rcases List.append_eq_append_iff.mp h with ⟨gap, rfl, -⟩ | ⟨overlap, split, overlaps⟩
  · exact absurd ⟨value, gap, by simp⟩ clean
  · apply closes.eq_nil_of_overlap split overlaps
    rintro rfl
    rw [List.append_nil] at split
    exact clean ⟨value, [], by simp [split]⟩

/-- **A value ends at the first closing behind it**, if it does not contain the closing itself. -/
theorem cut {closing value value' rest rest' : List Char} (closes : IsClosing closing)
    (starts : closing <+: rest) (starts' : closing <+: rest') (clean : ¬ closing <:+: value)
    (clean' : ¬ closing <:+: value') (h : value ++ rest = value' ++ rest') :
    value = value' ∧ rest = rest' := by
  rcases List.append_eq_append_iff.mp h with ⟨more, rfl, tail⟩ | ⟨more, rfl, tail⟩
  · obtain rfl := closes.eq_nil_of_shorter starts starts' clean' tail
    exact ⟨(List.append_nil value).symm, tail⟩
  · obtain rfl := closes.eq_nil_of_shorter starts' starts clean tail
    exact ⟨List.append_nil value', tail.symm⟩

/-- The value does not contain the closing. -/
def Clean (closing value : String) : Prop := ¬ closing.toList <:+: value.toList

instance (closing value : String) : Decidable (Clean closing value) :=
  inferInstanceAs (Decidable (¬ closing.toList <:+: value.toList))

/-- Values with the same text behind them, which starts with a closing. -/
theorem value_inj {closing stop value value' : String} {rest rest' : List Char}
    (closes : IsClosing closing.toList) (starts : closing.toList <+: stop.toList)
    (clean : Clean closing value) (clean' : Clean closing value')
    (h : value.toList ++ (stop.toList ++ rest) = value'.toList ++ (stop.toList ++ rest')) :
    value = value' ∧ rest = rest' := by
  have starts_rest : ∀ x, closing.toList <+: stop.toList ++ x :=
    fun x => starts.trans (List.prefix_append _ x)
  obtain ⟨same, tail⟩ := cut closes (starts_rest rest) (starts_rest rest') clean clean' h
  exact ⟨String.toList_inj.mp same, List.append_cancel_left tail⟩

/-- A closing that two texts start with is also at the start of what follows them. -/
theorem starts_append {closing first second : List Char} (starts : closing <+: first ++ second)
    (rest : List Char) :
    closing <+: first ++ (second ++ rest) := by
  rw [← List.append_assoc]
  exact starts.trans (List.prefix_append _ rest)

/-- Texts that go on in different ways are different. -/
theorem append_ne_append {start start' rest rest' : List Char} (apart : ¬ start <+: start')
    (apart' : ¬ start' <+: start) : start ++ rest ≠ start' ++ rest' := by
  intro h
  rcases List.prefix_or_prefix_of_prefix (List.prefix_append start rest) (h ▸ List.prefix_append start' rest') with
    before | before
  · exact apart before
  · exact apart' before

/-- Optional values with the same text behind them. -/
theorem optionalText_inj {closing start stop absent next : String} {value value' : Option String}
    {rest rest' : List Char} (closes : IsClosing closing.toList)
    (starts : closing.toList <+: stop.toList ++ next.toList)
    (apart : ¬ start.toList <+: absent.toList) (apart' : ¬ absent.toList <+: start.toList)
    (clean : ∀ v ∈ value, Clean closing v) (clean' : ∀ v ∈ value', Clean closing v)
    (h : (optionalText start stop absent value).toList ++ (next.toList ++ rest)
      = (optionalText start stop absent value').toList ++ (next.toList ++ rest')) :
    value = value' ∧ rest = rest' := by
  cases value with
  | none =>
    cases value' with
    | none => exact ⟨rfl, List.append_cancel_left (List.append_cancel_left h)⟩
    | some v' =>
      simp only [optionalText, String.toList_append, List.append_assoc] at h
      exact absurd h (append_ne_append apart' apart)
  | some v =>
    cases value' with
    | none =>
      simp only [optionalText, String.toList_append, List.append_assoc] at h
      exact absurd h (append_ne_append apart apart')
    | some v' =>
      simp only [optionalText, String.toList_append, List.append_assoc] at h
      obtain ⟨same, tail⟩ :=
        cut closes (starts_append starts rest) (starts_append starts rest') (clean v rfl)
          (clean' v' rfl) (List.append_cancel_left h)
      exact ⟨congrArg some (String.toList_inj.mp same),
        List.append_cancel_left (List.append_cancel_left tail)⟩

/-- A line that may be missing, in front of a line that starts and closes in the same way. That the
second line is followed by something else tells which is which. -/
theorem optionalLine_inj {closing start stop last : String} {line line' : Option String}
    {value value' : String} {rest rest' : List Char} (closes : IsClosing closing.toList)
    (starts : closing.toList <+: stop.toList ++ start.toList) (starts' : closing.toList <+: last.toList)
    (apart : ¬ stop.toList ++ start.toList <+: last.toList)
    (apart' : ¬ last.toList <+: stop.toList ++ start.toList) (clean : ∀ v ∈ line, Clean closing v)
    (clean' : ∀ v ∈ line', Clean closing v) (only : Clean closing value)
    (only' : Clean closing value')
    (h : (optionalText start stop "" line).toList ++ (start.toList ++ (value.toList ++ (last.toList ++ rest)))
      = (optionalText start stop "" line').toList ++ (start.toList ++ (value'.toList ++ (last.toList ++ rest')))) :
    line = line' ∧ value = value' ∧ rest = rest' := by
  have starts_last : ∀ x, closing.toList <+: last.toList ++ x :=
    fun x => starts'.trans (List.prefix_append _ x)
  -- a line that is there on one side only would close like the last one and go on like another
  have both : ∀ {v w : String} {x y : List Char}, Clean closing v → Clean closing w →
      v.toList ++ (stop.toList ++ (start.toList ++ x)) ≠ w.toList ++ (last.toList ++ y) := by
    intro v w x y hv hw same
    obtain ⟨-, tail⟩ := cut closes (starts_append starts x) (starts_last y) hv hw same
    rw [← List.append_assoc] at tail
    exact append_ne_append apart apart' tail
  cases line with
  | none =>
    cases line' with
    | none =>
      obtain ⟨rfl, tail⟩ :=
        value_inj closes starts' only only' (List.append_cancel_left (List.append_cancel_left h))
      exact ⟨rfl, rfl, tail⟩
    | some v' =>
      simp only [optionalText, String.toList_append, String.toList_empty, List.append_assoc,
        List.nil_append] at h
      exact absurd (List.append_cancel_left h).symm (both (clean' v' rfl) only)
  | some v =>
    cases line' with
    | none =>
      simp only [optionalText, String.toList_append, String.toList_empty, List.append_assoc,
        List.nil_append] at h
      exact absurd (List.append_cancel_left h) (both (clean v rfl) only')
    | some v' =>
      simp only [optionalText, String.toList_append, List.append_assoc] at h
      obtain ⟨same, tail⟩ :=
        cut closes (starts_append starts _) (starts_append starts _) (clean v rfl)
          (clean' v' rfl) (List.append_cancel_left h)
      obtain ⟨rfl, ends⟩ := value_inj closes starts' only only'
        (List.append_cancel_left (List.append_cancel_left tail))
      exact ⟨congrArg some (String.toList_inj.mp same), rfl, ends⟩

/-! ### Legible routes -/

/-- What the template writes behind the values of a row. -/
structure Closings where
  /-- The text behind the method. -/
  method : String
  /-- The text behind the path. -/
  path : String
  /-- The text behind the handler. -/
  middleware : String
  /-- The text behind the model, if there is one. -/
  modelMiddleware : String
  /-- The text behind the identifier, if there is one. -/
  name : String

/-- The closings of a kind. A quote that opens the next value is not part of them. -/
def closings : TargetKind → Closings
  | .rust => {
      method := "\",\n        path: "
      path := "\",\n        middleware: "
      middleware := "\",\n        model_middleware: "
      modelMiddleware := "\"),\n        name: "
      name := "\"),\n    \x7d," }
  | .php => {
      method := "'],\n            'name' => "
      path := "',\n            'middleware' => ["
      middleware := "::class,\n            "
      modelMiddleware := "::class,\n            "
      name := "',\n        ]," }

/-- No value of the route contains the text that closes it in the table. -/
structure Route.IsLegible (kind : TargetKind) (r : Route) : Prop where
  /-- The method does not. -/
  method : Clean (closings kind).method r.method
  /-- The path does not. -/
  path : Clean (closings kind).path r.path
  /-- The handler does not. -/
  middleware : Clean (closings kind).middleware r.middleware
  /-- The model does not. -/
  modelMiddleware : ∀ m ∈ r.modelMiddleware, Clean (closings kind).modelMiddleware m
  /-- The identifier does not. -/
  name : ∀ n ∈ r.name, Clean (closings kind).name n

/-- What the table shows of a legible route is legible. -/
theorem Route.IsLegible.shown {kind : TargetKind} {r : Route} (h : r.IsLegible kind) :
    r.shown.IsLegible kind where
  method := h.method
  path := h.path
  middleware := h.middleware
  modelMiddleware m hm := h.modelMiddleware m (Option.mem_filter_iff.mp hm).1
  name n hn := h.name n (Option.mem_filter_iff.mp hn).1

variable {r r' : Route} {rest rest' : List Char}

theorem Route.eq_of_fields (method : r.method = r'.method) (path : r.path = r'.path)
    (middleware : r.middleware = r'.middleware) (model : r.modelMiddleware = r'.modelMiddleware)
    (name : r.name = r'.name) : r = r' := by
  cases r
  cases r'
  simp_all

/-- **A row as Rust** determines its route and where it ends. -/
theorem rustRow_inj (legible : r.IsLegible .rust) (legible' : r'.IsLegible .rust)
    (h : (rustRow r).toList ++ rest = (rustRow r').toList ++ rest') : r = r' ∧ rest = rest' := by
  simp only [rustRow, String.toList_join, List.flatMap_cons, List.flatMap_nil, List.append_assoc,
    List.nil_append] at h
  obtain ⟨method, h⟩ :=
    value_inj (by decide +kernel) (by decide +kernel) legible.method legible'.method
      (List.append_cancel_left h)
  obtain ⟨path, h⟩ := value_inj (by decide +kernel) (by decide +kernel) legible.path legible'.path h
  obtain ⟨middleware, h⟩ :=
    value_inj (by decide +kernel) (by decide +kernel) legible.middleware legible'.middleware h
  obtain ⟨model, h⟩ :=
    optionalText_inj (by decide +kernel) (by decide +kernel) (by decide +kernel) (by decide +kernel)
      legible.modelMiddleware legible'.modelMiddleware h
  obtain ⟨name, h⟩ :=
    optionalText_inj (by decide +kernel) (by decide +kernel) (by decide +kernel) (by decide +kernel)
      legible.name legible'.name h
  exact ⟨Route.eq_of_fields method path middleware model name, h⟩

/-- **A row as PHP** determines its route and where it ends. -/
theorem phpRow_inj (legible : r.IsLegible .php) (legible' : r'.IsLegible .php)
    (h : (phpRow r).toList ++ rest = (phpRow r').toList ++ rest') : r = r' ∧ rest = rest' := by
  simp only [phpRow, String.toList_join, List.flatMap_cons, List.flatMap_nil, List.append_assoc,
    List.nil_append] at h
  obtain ⟨path, h⟩ := value_inj (by decide +kernel) (by decide +kernel) legible.path legible'.path
    (List.append_cancel_left h)
  obtain ⟨model, middleware, h⟩ :=
    optionalLine_inj (by decide +kernel) (by decide +kernel) (by decide +kernel)
      (by decide +kernel) (by decide +kernel) legible.modelMiddleware legible'.modelMiddleware legible.middleware
      legible'.middleware h
  obtain ⟨method, h⟩ :=
    value_inj (by decide +kernel) (by decide +kernel) legible.method legible'.method h
  obtain ⟨name, h⟩ :=
    optionalText_inj (by decide +kernel) (by decide +kernel) (by decide +kernel) (by decide +kernel)
      legible.name legible'.name h
  exact ⟨Route.eq_of_fields method path middleware model name, h⟩

/-- **A row** determines its route and where it ends. -/
theorem tableRow_inj {kind : TargetKind} (legible : r.IsLegible kind) (legible' : r'.IsLegible kind)
    (h : (tableRow kind r).toList ++ rest = (tableRow kind r').toList ++ rest') :
    r = r' ∧ rest = rest' := by
  cases kind with
  | rust => exact rustRow_inj legible legible' h
  | php => exact phpRow_inj legible legible' h

/-! ### Tables -/

/-- A row is not taken for the tail. -/
theorem tableRow_ne_tail (kind : TargetKind) (r : Route) (rest : List Char) :
    (tableRow kind r).toList ++ rest ≠ (tableTail kind).toList := by
  intro h
  cases kind with
  | rust =>
    simp only [tableRow, rustRow, String.toList_join, List.flatMap_cons, List.append_assoc] at h
    exact absurd ⟨_, h⟩
      (show ¬ "\n    Route \x7b\n        method: \"".toList <+: "\n];\n".toList by decide +kernel)
  | php =>
    simp only [tableRow, phpRow, String.toList_join, List.flatMap_cons, List.append_assoc] at h
    exact absurd ⟨_, h⟩
      (show ¬ "\n        [\n            'path' => '".toList <+: "\n    ],\n];\n".toList by
        decide +kernel)

/-- Rows in front of the tail determine their routes. -/
theorem rows_inj {kind : TargetKind} {routes routes' : List Route}
    (legible : ∀ r ∈ routes, r.IsLegible kind) (legible' : ∀ r ∈ routes', r.IsLegible kind)
    (h : routes.flatMap (fun r => (tableRow kind r).toList) ++ (tableTail kind).toList
      = routes'.flatMap (fun r => (tableRow kind r).toList) ++ (tableTail kind).toList) : routes = routes' := by
  induction routes generalizing routes' with
  | nil =>
    cases routes' with
    | nil => rfl
    | cons r' routes' =>
      rw [List.flatMap_cons, List.append_assoc] at h
      exact absurd h.symm (tableRow_ne_tail kind r' _)
  | cons r routes ih =>
    cases routes' with
    | nil =>
      rw [List.flatMap_cons, List.append_assoc] at h
      exact absurd h (tableRow_ne_tail kind r _)
    | cons r' routes' =>
      rw [List.flatMap_cons, List.flatMap_cons, List.append_assoc, List.append_assoc] at h
      obtain ⟨rfl, tail⟩ :=
        tableRow_inj (legible r List.mem_cons_self) (legible' r' List.mem_cons_self) h
      rw [ih (fun x hx => legible x (List.mem_cons_of_mem _ hx))
        (fun x hx => legible' x (List.mem_cons_of_mem _ hx))
        tail]

/-- **The table of legible routes** determines what it shows of them. -/
theorem tableBody_inj {kind : TargetKind} {routes routes' : List Route}
    (legible : ∀ r ∈ routes, r.IsLegible kind) (legible' : ∀ r ∈ routes', r.IsLegible kind)
    (h : tableBody kind routes = tableBody kind routes') :
    routes.map Route.shown = routes'.map Route.shown := by
  have chars : ∀ routes : List Route, (tableBody kind routes).toList
      = (routes.map Route.shown).flatMap (fun r => (tableRow kind r).toList) ++ (tableTail kind).toList := by
    intro routes
    rw [tableBody, String.toList_append, String.toList_join, List.flatMap_map, List.flatMap_map]
  have shown : ∀ {routes : List Route}, (∀ r ∈ routes, r.IsLegible kind) →
      ∀ r ∈ routes.map Route.shown, r.IsLegible kind := by
    intro routes h r hr
    obtain ⟨x, hx, rfl⟩ := List.mem_map.mp hr
    exact (h x hx).shown
  have same := congrArg String.toList h
  rw [chars, chars] at same
  exact rows_inj (shown legible) (shown legible') same

/-- **The route table determines the routes.** The built-in templates of a kind can be read and
render every list of routes. If no value of a route contains the text that closes it in the table,
two lists of routes that differ in more than optional values which are not there in one and there
but empty in the other have different tables. -/
theorem tables_differ (kind : TargetKind) : ∃ l, TemplateLibrary.builtin kind = .ok l ∧
    ∀ (t : FileTree) (routes routes' : List Route), (∀ r ∈ routes, r.IsLegible kind) →
      (∀ r ∈ routes', r.IsLegible kind) → routes.map Route.shown ≠ routes'.map Route.shown →
        ∃ text text',
        (l.renderWith t routesTemplate (routesPayload routes)).1 = .ok text ∧
        (l.renderWith t routesTemplate (routesPayload routes')).1 = .ok text' ∧ text ≠ text' := by
  obtain ⟨l, head, loaded, rendered⟩ := builtin_tables kind
  refine ⟨l, loaded, ?_⟩
  intro t routes routes' legible legible' differ
  refine ⟨_, _, rendered t routes, rendered t routes', ?_⟩
  intro same
  apply differ
  apply tableBody_inj legible legible'
  have chars := congrArg String.toList same
  rw [String.toList_append, String.toList_append] at chars
  exact String.toList_inj.mp (List.append_cancel_left chars)

/-! ### Two routes -/

/-- A route with an identifier. -/
def usersRoute : Route where
  middleware := "App\\Handler\\UsersHandler"
  modelMiddleware := none
  path := "/users"
  method := "GET"
  name := some "users"

/-- A route with a model. -/
def teamsRoute : Route where
  middleware := "App\\Handler\\TeamsHandler"
  modelMiddleware := some "App\\Model\\TeamModel"
  path := "/teams"
  method := "PUT"
  name := none

/-- The tables of both, in one order and in the other, are different. -/
theorem users_and_teams_differ :
    usersRoute.IsLegible .php ∧ teamsRoute.IsLegible .php ∧
      ∃ l, TemplateLibrary.builtin .php = .ok l ∧
      ∃ text text',
        (l.renderWith emptyTree routesTemplate (routesPayload [usersRoute, teamsRoute])).1 = .ok text ∧
        (l.renderWith emptyTree routesTemplate (routesPayload [teamsRoute, usersRoute])).1 = .ok text' ∧
        text ≠ text' := by
  have users : usersRoute.IsLegible .php := by
    constructor <;> decide +kernel
  have teams : teamsRoute.IsLegible .php := by
    constructor <;> decide +kernel
  have both : ∀ r ∈ [usersRoute, teamsRoute], r.IsLegible .php :=
    List.forall_mem_cons.mpr ⟨users, List.forall_mem_singleton.mpr teams⟩
  have turned : ∀ r ∈ [teamsRoute, usersRoute], r.IsLegible .php :=
    List.forall_mem_cons.mpr ⟨teams, List.forall_mem_singleton.mpr users⟩
  obtain ⟨l, loaded, differ⟩ := tables_differ .php
  exact ⟨users, teams, l, loaded,
    differ emptyTree [usersRoute, teamsRoute] [teamsRoute, usersRoute] both turned (by decide)⟩

/-! ### Forged tables -/

/-- A route whose path goes on, behind that of the first route, like the table does up to the path
of the second one. -/
def Route.forge (r r' : Route) : TargetKind → Route
  | .rust => {
      method := r.method
      path := String.join [r.path, "\",\n        middleware: \"", r.middleware,
        "\",\n        model_middleware: ", optionalText "Some(\"" "\")" "None" r.modelMiddleware,
        ",\n        name: ", optionalText "Some(\"" "\")" "None" r.name, ",\n    \x7d,",
        "\n    Route \x7b\n        method: \"", r'.method, "\",\n        path: \"", r'.path]
      middleware := r'.middleware
      modelMiddleware := r'.modelMiddleware
      name := r'.name }
  | .php => {
      path := String.join [r.path, "',\n            'middleware' => [",
        optionalText "\n                " "::class," "" r.modelMiddleware, "\n                ", r.middleware,
        "::class,\n            ],\n            'allowed_methods' => ['", r.method, "'],\n            'name' => ",
        optionalText "'" "'" "null" r.name, ",\n        ],", "\n        [\n            'path' => '", r'.path]
      method := r'.method
      middleware := r'.middleware
      modelMiddleware := r'.modelMiddleware
      name := r'.name }

/-- Its row is the rows of both. -/
theorem tableRow_forge (kind : TargetKind) (r r' : Route) :
    tableRow kind (r.forge r' kind) = tableRow kind r ++ tableRow kind r' := by
  rw [← String.toList_inj]
  cases kind with
  | rust =>
    simp only [tableRow, rustRow, Route.forge, String.toList_append, String.toList_join,
      List.flatMap_cons, List.flatMap_nil, List.append_assoc, List.append_nil]
  | php =>
    simp only [tableRow, phpRow, Route.forge, String.toList_append, String.toList_join,
      List.flatMap_cons, List.flatMap_nil, List.append_assoc, List.append_nil]

/-- **A path can forge a route**: its table is the table of two. -/
theorem tableBody_forge (kind : TargetKind) (r r' : Route) (routes : List Route) :
    tableBody kind (r.shown.forge r' kind :: routes) = tableBody kind (r :: r' :: routes) := by
  have shown : (r.shown.forge r' kind).shown = r.shown.forge r'.shown kind := by
    cases kind with
    | rust => rfl
    | php => rfl
  simp only [tableBody, List.map_cons, String.join_cons, shown, tableRow_forge, String.append_assoc]

/-- The built-in templates of the kind render both lists of routes to one text. -/
def RenderedAlike (kind : TargetKind) (routes routes' : List Route) : Prop :=
  ∃ l, TemplateLibrary.builtin kind = .ok l ∧ ∀ t : FileTree, ∃ text,
    (l.renderWith t routesTemplate (routesPayload routes)).1 = .ok text ∧
    (l.renderWith t routesTemplate (routesPayload routes')).1 = .ok text

/-- Routes with the same table are rendered to one text. -/
theorem renderedAlike_of_tableBody {kind : TargetKind} {routes routes' : List Route}
    (h : tableBody kind routes = tableBody kind routes') : RenderedAlike kind routes routes' := by
  obtain ⟨l, head, loaded, rendered⟩ := builtin_tables kind
  refine ⟨l, loaded, fun t => ⟨_, rendered t routes, ?_⟩⟩
  rw [h]
  exact rendered t routes'

/-- A route whose path forges another, and one whose identifier is there but empty, for both
kinds. -/
theorem routes_rendered_alike :
    (RenderedAlike .rust [usersRoute.forge teamsRoute .rust] [usersRoute, teamsRoute] ∧
      RenderedAlike .php [usersRoute.forge teamsRoute .php] [usersRoute, teamsRoute] ∧
      [usersRoute.forge teamsRoute .rust] ≠ [usersRoute, teamsRoute] ∧
      [usersRoute.forge teamsRoute .php] ≠ [usersRoute, teamsRoute]) ∧
    RenderedAlike .rust [{ teamsRoute with name := some "" }] [teamsRoute] ∧
    RenderedAlike .php [{ teamsRoute with name := some "" }] [teamsRoute] ∧
    [{ teamsRoute with name := some "" }] ≠ [teamsRoute] := by
  refine ⟨⟨?_, ?_, by simp, by simp⟩, ?_, ?_, by decide⟩
  · exact renderedAlike_of_tableBody (tableBody_forge .rust usersRoute teamsRoute [])
  · exact renderedAlike_of_tableBody (tableBody_forge .php usersRoute teamsRoute [])
  · exact renderedAlike_of_tableBody rfl
  · exact renderedAlike_of_tableBody rfl

end ApiStubs
