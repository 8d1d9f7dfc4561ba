import ApiStubs.Proofs.FailingWriter
import ApiStubs.Proofs.Overwriting

/-!
# What is left alone has no influence

The policy is asked about a hydrator before the schema is looked at, and about the route table
before a parameter is resolved. So a schema whose hydrator is left alone may say what it likes, and
so may, when the route table is left alone, everything that only the route table shows: two
documents that differ in such parts are treated alike, and no pointer in such a part makes a run
fail.

Which parts are meant is a value of `Hidden`. The policy may change its answers while the run goes
on; what counts is that it never gives leave for the files of the hidden parts.

## What is proved

* `Blocks.of_sameBut`: artifacts that differ in what their templates are given, and only where they
  are left alone, have the same blocks.
* `run_of_sameOutside`: runs of two documents that differ in hidden parts are the same.
* `sameOutside_without`: a document can be stripped of its hidden parts.
* `routes_congr`: the routes do not depend on the schemas.
* `hidden_parts_do_not_matter`: all of that together.
-/

namespace ApiStubs

variable {σ : Type}

/-! ### Artifacts that are left alone -/

/-- The second artifact is the first one, but its template may be given something else if the target
is hidden. -/
structure Artifact.SameBut (hidden : Path → Prop) (a b : Artifact) : Prop where
  /-- They have one name. -/
  name : b.name = a.name
  /-- They have one target. -/
  target : b.target = a.target
  /-- They have one template. -/
  key : b.key = a.key
  /-- They are announced alike. -/
  news : b.news = a.news
  /-- What the template is given is the same, unless nobody sees it. -/
  payload : b.payload = a.payload ∨ hidden a.target

/-- Artifacts that differ in nothing are one. -/
theorem Artifact.SameBut.refl (hidden : Path → Prop) (a : Artifact) : a.SameBut hidden a :=
  ⟨rfl, rfl, rfl, rfl, .inl rfl⟩

variable {c : Collaborators σ} {a b : Artifact} {artifacts others : List Artifact} {w w' : σ}
  {calls : List Call} {o : Outcome} {outcomes : List Outcome} {hidden : Path → Prop}

/-- A block asks about the target first. -/
theorem Block.asked_mem (block : Block c a w calls o w') :
    Call.asked a.target (c.policy w a.target) ∈ calls := by
  obtain ⟨rest, rfl⟩ := block.exists_asked
  exact List.mem_cons_self

/-- A block is one of the other artifact too, if the policy gives no leave for a hidden target. -/
theorem Block.of_sameBut (same : a.SameBut hidden b)
    (kept : hidden a.target → Call.asked a.target false ∉ calls) (block : Block c a w calls o w') :
    Block c b w calls o w' := by
  obtain ⟨name, target, key, news, payload⟩ := same
  cases b
  simp only at name target key news payload
  subst name target key news
  rcases payload with payload | no_leave
  · subst payload
    cases block with
    | leftAlone asked => exact .leftAlone asked
    | unprepared asked given => exact .unprepared asked given
    | unrendered asked given rendered => exact .unrendered asked given rendered
    | unwritten asked given rendered written => exact .unwritten asked given rendered written
    | made asked given rendered written => exact .made asked given rendered written
  · cases asked : c.policy w a.target with
    | true =>
      obtain ⟨rfl, rfl, rfl⟩ := block.leftAlone_of_policy asked
      exact .leftAlone asked
    | false =>
      have mem := block.asked_mem
      rw [asked] at mem
      exact absurd mem (kept no_leave)

/-- **Artifacts that differ where they are left alone** have the same blocks. -/
theorem Blocks.of_sameBut (same : List.Forall₂ (Artifact.SameBut hidden) artifacts others)
    (kept : ∀ a ∈ artifacts, hidden a.target → Call.asked a.target false ∉ calls)
    (blocks : Blocks c artifacts w calls outcomes w') : Blocks c others w calls outcomes w' := by
  induction blocks generalizing others with
  | nil =>
    cases same
    exact .nil
  | fail block =>
    cases same with
    | cons first _ => exact .fail (block.of_sameBut first (kept _ List.mem_cons_self))
  | cons block complete _ ih =>
    cases same with
    | cons first rest =>
      refine .cons (block.of_sameBut first fun h => ?_) complete (ih rest fun a ha h => ?_)
      · exact fun mem => kept _ List.mem_cons_self h (List.mem_append_left _ mem)
      · exact fun mem => kept a (List.mem_cons_of_mem _ ha) h (List.mem_append_right _ mem)

/-- A block gets leave for its target, and from the policy. -/
theorem Block.policy_of_asked {p : Path} (news : a.HasNews) (block : Block c a w calls o w')
    (mem : Call.asked p false ∈ calls) : c.policy w p = false := by
  cases block with
  | leftAlone => simp at mem
  | unprepared asked =>
    obtain rfl : p = a.target := by simpa using mem
    exact asked
  | unrendered asked =>
    obtain rfl : p = a.target := by simpa using mem
    exact asked
  | unwritten asked =>
    obtain rfl : p = a.target := by simpa using mem
    exact asked
  | made asked =>
    rcases List.mem_append.mp mem with mem | mem
    · obtain rfl : p = a.target := by simpa using mem
      exact asked
    · obtain ⟨name, event, h⟩ := news _ mem
      cases h

/-- What gets leave gets it from the policy, in some world. -/
theorem Blocks.policy_of_asked {p : Path} (news : ∀ a ∈ artifacts, a.HasNews)
    (blocks : Blocks c artifacts w calls outcomes w') (mem : Call.asked p false ∈ calls) :
    ∃ v, c.policy v p = false := by
  induction blocks with
  | nil => cases mem
  | fail block => exact ⟨_, block.policy_of_asked (news _ List.mem_cons_self) mem⟩
  | cons block _ _ ih =>
    rcases List.mem_append.mp mem with mem | mem
    · exact ⟨_, block.policy_of_asked (news _ List.mem_cons_self) mem⟩
    · exact ih (fun a ha => news a (List.mem_cons_of_mem _ ha)) mem

/-- The names of what is made depend on the names and the outcomes. -/
theorem madeNames_congr (same : artifacts.map Artifact.name = others.map Artifact.name)
    (outcomes : List Outcome) : madeNames artifacts outcomes = madeNames others outcomes := by
  induction artifacts generalizing others outcomes with
  | nil =>
    rw [List.map_eq_nil_iff.mp same.symm]
  | cons a artifacts ih =>
    obtain ⟨b, others, rfl, name, rest⟩ := List.map_eq_cons_iff.mp same.symm
    cases outcomes with
    | nil => rfl
    | cons o outcomes =>
      have ih := ih rest.symm outcomes
      cases o with
      | made => rw [madeNames, madeNames, ih, name]
      | leftAlone => exact ih
      | failed e => exact ih

/-! ### Documents that differ in hidden parts -/

/-- Parts of a document that nothing is made of. -/
structure Hidden where
  /-- The content of the schema of a name. -/
  schemas : String → Bool
  /-- What only the route table shows: the identifiers, the parameters and the bodies of operations,
  and the shared parameters. -/
  table : Bool

/-- Both are pointers, or both are written out and related. -/
inductive RefOr.Alike (R : α → α → Prop) : RefOr α → RefOr α → Prop where
  /-- Two pointers. -/
  | reference (p q : String) : RefOr.Alike R (.reference p) (.reference q)
  /-- Two items. -/
  | item {a b : α} : R a b → RefOr.Alike R (.item a) (.item b)

/-- The entries have the same names in the same order, and what they hold is alike. -/
def AlikeEntries (R : String → α → α → Prop) (xs ys : List (String × RefOr α)) : Prop :=
  List.Forall₂ (fun x y => x.1 = y.1 ∧ x.2.Alike (R x.1) y.2) xs ys

/-- What is written out is alike as well. -/
theorem AlikeEntries.inlineEntries {R : String → α → α → Prop} {xs ys : List (String × RefOr α)}
    (h : AlikeEntries R xs ys) :
    List.Forall₂ (fun x y => x.1 = y.1 ∧ R x.1 x.2 y.2) (inlineEntries xs) (inlineEntries ys) := by
  induction h with
  | nil => exact .nil
  | @cons x y xs ys first _ ih =>
    obtain ⟨name, x⟩ := x
    obtain ⟨name', y⟩ := y
    obtain ⟨rfl, alike⟩ := first
    cases alike with
    | reference p q => exact ih
    | item related => exact .cons ⟨rfl, related⟩ ih

/-- The two documents differ in hidden parts at most. Titles, versions and the pointers of entries
that are not written out make no difference anyway. -/
structure Document.SameOutside (h : Hidden) (d d' : Document) : Prop where
  /-- The paths are the same and have the same methods, and the rest of them may be hidden. -/
  paths : AlikeEntries (fun _ item item' => item.operations.map Prod.fst = item'.operations.map Prod.fst ∧
    (item = item' ∨ h.table = true)) d.paths d'.paths
  /-- The schemas have the same names, and their contents may be hidden. -/
  schemas : AlikeEntries (fun name schema schema' => schema = schema' ∨ h.schemas name = true)
    d.schemas d'.schemas
  /-- The shared parameters may be hidden. -/
  parameters : d.parameters = d'.parameters ∨ h.table = true

namespace Codegen

variable (g : Codegen σ) (h : Hidden) (d : Document) (base : String) (output config : Path) (w : σ)

/-- A run from the world `w` gives no leave for the path, whenever it asks. -/
def PassesOver (p : Path) : Prop :=
  Call.asked p false ∉ ((g.run d base output config).start { world := w }).2.calls

/-- A run from the world `w` leaves alone what would show the hidden parts. -/
structure Hides : Prop where
  /-- The hydrator of a hidden schema gets no leave. -/
  schemas : ∀ name, h.schemas name = true → g.PassesOver d base output config w (g.hydratorTarget output name)
  /-- If what it shows is hidden, the route table gets no leave. -/
  table : h.table = true → g.PassesOver d base output config w (g.routesTarget config)

/-- A path that the policy leaves alone in every world gets no leave. -/
theorem passesOver_of_policy {p : Path} (left : ∀ v, g.collaborators.policy v p = true) :
    g.PassesOver d base output config w p := by
  obtain ⟨calls, outcomes, -, hc, blocks⟩ := g.run_ends d base output config { world := w }
  unfold PassesOver
  rw [hc, List.nil_append]
  intro mem
  obtain ⟨v, no⟩ := blocks.policy_of_asked (fun a ha => hasNews_of_mem ha) mem
  rw [left v] at no
  cases no

/-- The target shows a part that is hidden. -/
def Shows (p : Path) : Prop :=
  (∃ name, h.schemas name = true ∧ p = g.hydratorTarget output name) ∨
    h.table = true ∧ p = g.routesTarget config

variable {g h d base output config w} {d' : Document}

/-- Handlers show nothing that can be hidden. -/
theorem handlerArtifacts_of_sameOutside (same : d.SameOutside h d') :
    g.handlerArtifacts d base output = g.handlerArtifacts d' base output := by
  have each := same.paths.inlineEntries
  rw [← inlinePaths_eq, ← inlinePaths_eq] at each
  unfold handlerArtifacts
  generalize d.inlinePaths = xs at each
  generalize d'.inlinePaths = ys at each
  induction each with
  | nil => rfl
  | @cons x y _ _ first _ ih =>
    obtain ⟨path, methods, -⟩ := first
    have words := congrArg (List.map Method.word) methods
    rw [List.map_map, List.map_map] at words
    have payload : g.handlerPayload base x.1 x.2 = g.handlerPayload base y.1 y.2 := by
      simp only [handlerPayload, path, HandlerPayload.mk.injEq, true_and]
      exact words
    rw [List.map_cons, List.map_cons, ih, handlerArtifact, handlerArtifact, path, ← path, payload, path]

/-- Hydrators differ where their schemas are hidden. -/
theorem hydratorArtifacts_of_sameOutside (same : d.SameOutside h d') :
    List.Forall₂ (Artifact.SameBut (g.Shows h output config)) (g.hydratorArtifacts d base output)
      (g.hydratorArtifacts d' base output) := by
  unfold hydratorArtifacts
  rw [List.forall₂_map_left_iff, List.forall₂_map_right_iff]
  refine same.schemas.inlineEntries.imp ?_
  rintro ⟨name, schema⟩ ⟨name', schema'⟩ ⟨rfl, rfl | hide⟩
  · exact .refl _ _
  · refine ⟨by simp, by simp, by simp, by simp, .inr (.inl ⟨name, hide, by simp⟩)⟩

/-- The route table differs if what it shows is hidden. -/
theorem tableArtifact_of_sameOutside (same : d.SameOutside h d') :
    (g.tableArtifact d base config).SameBut (g.Shows h output config) (g.tableArtifact d' base config) := by
  refine ⟨by simp, by simp, by simp, by simp, ?_⟩
  by_cases table : h.table = true
  · exact .inr (.inr ⟨table, by simp⟩)
  · have parameters := same.parameters.resolve_right table
    have paths : d.inlinePaths = d'.inlinePaths := by
      rw [inlinePaths_eq, inlinePaths_eq, ← List.forall₂_eq_eq_eq]
      refine same.paths.inlineEntries.imp ?_
      rintro ⟨path, item⟩ ⟨path', item'⟩ ⟨rfl, -, same | hide⟩
      · exact congrArg _ same
      · exact absurd hide table
    left
    rw [tableArtifact_payload, tableArtifact_payload, Document.routeList_congr paths parameters]

/-- What is made of the two documents differs where it shows a hidden part. -/
theorem artifacts_of_sameOutside (same : d.SameOutside h d') :
    List.Forall₂ (Artifact.SameBut (g.Shows h output config)) (g.artifacts d base output config)
      (g.artifacts d' base output config) := by
  unfold Codegen.artifacts
  rw [handlerArtifacts_of_sameOutside same]
  refine List.rel_append (List.rel_append ?_ (hydratorArtifacts_of_sameOutside same))
    (.cons (tableArtifact_of_sameOutside same) .nil)
  exact List.forall₂_same.mpr fun a _ => .refl _ a

/-- With the same outcomes, the same is reported. -/
theorem reportOf_of_sameOutside (same : d.SameOutside h d') (outcomes : List Outcome) :
    g.reportOf d' base output outcomes = g.reportOf d base output outcomes := by
  have handlers : g.handlerArtifacts d base output = g.handlerArtifacts d' base output :=
    handlerArtifacts_of_sameOutside same
  have hydrators : List.Forall₂ (Artifact.SameBut (g.Shows h output output)) (g.hydratorArtifacts d base output)
      (g.hydratorArtifacts d' base output) := hydratorArtifacts_of_sameOutside same
  have names : (g.hydratorArtifacts d base output).map Artifact.name
      = (g.hydratorArtifacts d' base output).map Artifact.name := by
    rw [← List.forall₂_eq_eq_eq, List.forall₂_map_left_iff, List.forall₂_map_right_iff]
    exact hydrators.imp fun _ _ same => same.name.symm
  have count : d.inlinePaths.length = d'.inlinePaths.length := by
    have lengths := congrArg List.length handlers
    rwa [handlerArtifacts, handlerArtifacts, List.length_map, List.length_map] at lengths
  rw [reportOf, reportOf, handlers, count, madeNames_congr names]

/-- What shows a hidden part gets no leave. -/
theorem Hides.no_leave (hides : g.Hides h d base output config w) {result : Except Error Report}
    {calls : List Call} {w' : σ} (does : (g.run d base output config).Does w result calls w') {p : Path}
    (hidden : g.Shows h output config p) : Call.asked p false ∉ calls := by
  have passed : g.PassesOver d base output config w p := by
    obtain ⟨name, hide, target⟩ | ⟨hide, target⟩ := hidden
    · rw [target]
      exact hides.schemas name hide
    · rw [target]
      exact hides.table hide
  have whole := does.calls { world := w } rfl
  rw [List.nil_append] at whole
  rwa [PassesOver, whole] at passed

/-- **Two documents that differ in hidden parts** have the same run: it ends in the same, makes the
same calls and leaves the same world. -/
theorem run_of_sameOutside (same : d.SameOutside h d') (s : RunState σ)
    (hides : g.Hides h d base output config s.world) :
    ((g.run d' base output config).start s).1 = ((g.run d base output config).start s).1 ∧
      ((g.run d' base output config).start s).2.calls = ((g.run d base output config).start s).2.calls ∧
      ((g.run d' base output config).start s).2.world
        = ((g.run d base output config).start s).2.world := by
  obtain ⟨calls, outcomes, w', blocks, does⟩ := g.run_makes d base output config s.world
  obtain ⟨calls', outcomes', w'', blocks', does'⟩ := g.run_makes d' base output config s.world
  have others :=
    blocks.of_sameBut (artifacts_of_sameOutside same) fun a _ hidden => hides.no_leave does hidden
  obtain ⟨rfl, rfl, rfl⟩ := others.det blocks'
  refine ⟨?_, ?_, ?_⟩
  · rw [does'.result s rfl, does.result s rfl, reportOf_of_sameOutside same]
  · rw [does'.calls s rfl, does.calls s rfl]
  · rw [does'.world s rfl, does.world s rfl]

end Codegen

/-! ### Documents without their hidden parts -/

/-- The entry, with another item if it is written out. -/
def RefOr.change (f : α → α) : RefOr α → RefOr α
  | .item a => .item (f a)
  | .reference p => .reference p

/-- The path with nothing but its methods. -/
def PathItem.bare (item : PathItem) : PathItem where
  operations := item.operations.map fun (m, _) => (m, {})

/-- The document without its hidden parts: a hidden schema is a plain text, and operations keep
nothing but their methods. No pointer is left there. -/
def Document.without (d : Document) (h : Hidden) : Document where
  openapi := d.openapi
  title := d.title
  version := d.version
  paths := if h.table then d.paths.map fun (path, item) => (path, item.change PathItem.bare) else d.paths
  components := some {
    schemas := d.schemas.map fun (name, schema) =>
      (name, if h.schemas name then schema.change fun _ => .mk false .string else schema)
    parameters := if h.table then [] else d.parameters }

theorem RefOr.Alike.refl {R : α → α → Prop} (h : ∀ a, R a a) (x : RefOr α) : x.Alike R x := by
  cases x with
  | reference p => exact .reference p p
  | item a => exact .item (h a)

theorem RefOr.Alike.change {R : α → α → Prop} {f : α → α} (h : ∀ a, R a (f a)) (x : RefOr α) :
    x.Alike R (x.change f) := by
  cases x with
  | reference p => exact .reference p p
  | item a => exact .item (h a)

/-- A document can be stripped of its hidden parts. -/
theorem Document.sameOutside_without (d : Document) (h : Hidden) :
    d.SameOutside h (d.without h) where
  paths := by
    unfold without AlikeEntries
    cases table : h.table with
    | false => exact List.forall₂_same.mpr fun x _ => ⟨rfl, .refl (fun a => ⟨rfl, .inl rfl⟩) x.2⟩
    | true =>
      simp only [if_true]
      rw [List.forall₂_map_right_iff]
      refine List.forall₂_same.mpr fun x _ => ⟨rfl, .change (fun item => ⟨?_, .inr trivial⟩) x.2⟩
      simp [PathItem.bare]
  schemas := by
    change AlikeEntries _ d.schemas (d.schemas.map _)
    unfold AlikeEntries
    rw [List.forall₂_map_right_iff]
    refine List.forall₂_same.mpr ?_
    rintro ⟨name, schema⟩ -
    refine ⟨rfl, ?_⟩
    dsimp only
    by_cases hide : h.schemas name = true
    · rw [if_pos hide]
      exact .change (fun _ => .inr hide) schema
    · rw [if_neg hide]
      exact .refl (fun _ => .inl rfl) schema
  parameters := by
    change d.parameters = (if h.table then [] else d.parameters) ∨ h.table = true
    cases h.table with
    | true => exact .inr rfl
    | false => exact .inl rfl

namespace Codegen

/-- **The routes do not depend on the schemas**: documents with the same paths and the same shared
parameters have them found by the same step. -/
theorem routes_congr (g : Codegen σ) {d d' : Document} (paths : d.paths = d'.paths)
    (parameters : d.parameters = d'.parameters) (base : String) :
    g.routes d base = g.routes d' base := by
  have route : ∀ path item m o, g.route d base path item m o = g.route d' base path item m o := by
    intro path item m o
    unfold Codegen.route
    rw [pathParameters_congr parameters]
  have all : ∀ path item operations,
      g.routesOf d base path item operations = g.routesOf d' base path item operations := by
    intro path item operations
    induction operations with
    | nil => rfl
    | cons operation rest ih => rw [routesOf, routesOf, route, ih]
  unfold routes pathRoutes
  simp only [all, paths]

/-- **What is left alone neither influences nor breaks a run.** Let a run leave alone the hydrators
of some schemas, and perhaps the route table, whatever else it does. Then a document that differs
from the first in the contents of these schemas only, and if the route table is left alone in the
identifiers, the parameters and the bodies of operations and in the shared parameters, has the same
run: it makes the same calls, with the same things given to the templates, ends in the same report
or failure and leaves the same world. In particular so has the document without these parts, so no
pointer in them makes a run fail. The routes are found alike for any two documents with the same
paths and shared parameters. -/
theorem hidden_parts_do_not_matter (g : Codegen σ) (h : Hidden) (d : Document) (base : String)
    (output config : Path) (s : RunState σ) (hides : g.Hides h d base output config s.world) :
    (∀ d' : Document, d.SameOutside h d' →
      ((g.run d' base output config).start s).1 = ((g.run d base output config).start s).1 ∧
      ((g.run d' base output config).start s).2.calls = ((g.run d base output config).start s).2.calls ∧
      ((g.run d' base output config).start s).2.world = ((g.run d base output config).start s).2.world) ∧
    ((g.run (d.without h) base output config).start s).1 = ((g.run d base output config).start s).1 ∧
    ((g.run (d.without h) base output config).start s).2.calls
      = ((g.run d base output config).start s).2.calls ∧
    ∀ d₁ d₂ : Document, d₁.paths = d₂.paths → d₁.parameters = d₂.parameters →
      g.routes d₁ base = g.routes d₂ base := by
  have stripped := run_of_sameOutside (d.sameOutside_without h) s hides
  refine ⟨fun d' same => run_of_sameOutside same s hides, stripped.1, stripped.2.1, ?_⟩
  intro d₁ d₂ paths parameters
  exact g.routes_congr paths parameters base

end Codegen

/-! ### Pointers that lead nowhere -/

/-- A document whose pointers lead nowhere. -/
def tangled : Document where
  openapi := "3.0.3"
  title := "Tangled"
  version := "1"
  paths := [("/x", .item { operations := [(.post, { parameters := [.reference "nowhere"] })] })]
  components := some {
    schemas := [("odd", .item (.mk false (.object [("p", .reference "nowhere")] [])))] }

/-- The parts that hold the pointers. -/
def tangle : Hidden where
  schemas := fun name => name == "odd"
  table := true

/-- Generators that leave alone what these parts are for. -/
def careful : Codegen (List (Path × String)) where
  collaborators := { shelving.collaborators with
    policy := fun _ p => p == ⟨"out/Hydrator/OddHydrator.php"⟩ || p == ⟨"out/config/swagger.routes.php"⟩ }
  namespacing := ⟨"\\"⟩
  properties := modelProperties .php

/-- The pointers do not make the run fail: it ends as if they were not there. -/
theorem tangle_does_not_matter :
    careful.Hides tangle tangled "App" ⟨"out"⟩ ⟨"out/config"⟩ [] ∧
    ((careful.run (tangled.without tangle) "App" ⟨"out"⟩ ⟨"out/config"⟩).start { world := [] }).1
      = ((careful.run tangled "App" ⟨"out"⟩ ⟨"out/config"⟩).start { world := [] }).1 ∧
    ((careful.run tangled "App" ⟨"out"⟩ ⟨"out/config"⟩).start { world := [] }).1
      = .ok ⟨["XHandler"], [], false⟩ := by
  have hydrator : careful.collaborators.policy [] (careful.hydratorTarget ⟨"out"⟩ "odd") = true := by
    decide +kernel
  have table : careful.collaborators.policy [] (careful.routesTarget ⟨"out/config"⟩) = true := by
    decide +kernel
  have hides : careful.Hides tangle tangled "App" ⟨"out"⟩ ⟨"out/config"⟩ [] := by
    constructor
    · intro name odd
      obtain rfl : name = "odd" := by simpa [tangle] using odd
      exact careful.passesOver_of_policy _ _ _ _ _ fun _ => hydrator
    · intro _
      exact careful.passesOver_of_policy _ _ _ _ _ fun _ => table
  obtain ⟨-, stripped, -⟩ :=
    careful.hidden_parts_do_not_matter tangle tangled "App" ⟨"out"⟩ ⟨"out/config"⟩
      { world := [] } hides
  exact ⟨hides, stripped, eq_ok_of_toOption (by decide +kernel)⟩

end ApiStubs
