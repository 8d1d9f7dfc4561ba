import ApiStubs.Proofs.RouteList
import ApiStubs.Stub.All

/-!
# The calls of a run, artifact by artifact

A run makes one artifact after the other: the handlers, the hydrators and the route table. Three
generators do so in three ways; here an artifact is data, and `Block` says in one way for all what
calls the making of one artifact consists of: the policy is asked first, what it leaves alone is
done with, and anything else is rendered once, written once where the policy was asked about, with
exactly the text that was rendered, and announced when that is due. A block ends early only in a
failure, and `Blocks` puts blocks one after the other up to the first failure.

The artifacts of a run are those of the document, in order, and its report can be read off the
outcomes of their blocks.
-/

namespace ApiStubs

variable {σ : Type}

/-! ### Artifacts -/

/-- An artifact that a run is to make. -/
structure Artifact where
  /-- The name that is reported. -/
  name : String
  /-- The path of the file. -/
  target : Path
  /-- The template. -/
  key : String
  /-- What the template is given, unless it cannot be found. -/
  payload : Except Error Json
  /-- What is announced when the file has been written. -/
  news : List Call := []

/-- The news are announcements. -/
def Artifact.HasNews (a : Artifact) : Prop := ∀ call ∈ a.news, ∃ name event, call = .announced name event

/-- How the making of an artifact ended. -/
inductive Outcome where
  /-- The policy leaves the artifact alone. -/
  | leftAlone
  /-- The file has been written. -/
  | made
  /-- Something failed. -/
  | failed (e : Error)
  deriving Repr, DecidableEq

/-- The making of the artifact came to its end. -/
def Outcome.IsComplete (o : Outcome) : Prop := ∀ e, o ≠ .failed e

@[simp] theorem Outcome.isComplete_leftAlone : Outcome.leftAlone.IsComplete := fun _ h => nomatch h

@[simp] theorem Outcome.isComplete_made : Outcome.made.IsComplete := fun _ h => nomatch h

@[simp] theorem Outcome.not_isComplete_failed (e : Error) : ¬ (Outcome.failed e).IsComplete :=
  fun h => h e rfl

/-- The value a run of these outcomes ends in, given what it ends in without a failure. -/
def outcomesResult (outcomes : List Outcome) (a : α) : Except Error α :=
  match outcomes with
  | [] => .ok a
  | .failed e :: _ => .error e
  | _ :: rest => outcomesResult rest a

theorem outcomesResult_cons {o : Outcome} (h : o.IsComplete) (rest : List Outcome) (a : α) :
    outcomesResult (o :: rest) a = outcomesResult rest a := by
  cases o with
  | failed e => exact absurd rfl (h e)
  | leftAlone => rfl
  | made => rfl

theorem outcomesResult_map (f : α → β) (outcomes : List Outcome) (a : α) :
    outcomesResult outcomes (f a) = (outcomesResult outcomes a).map f := by
  induction outcomes with
  | nil => rfl
  | cons o rest ih =>
    cases o with
    | leftAlone => exact ih
    | made => exact ih
    | failed e => rfl

/-- Whether there is a failure does not depend on the value. -/
theorem outcomesResult_eq_map (outcomes : List Outcome) (a : α) :
    outcomesResult outcomes a = (outcomesResult outcomes ()).map fun _ => a :=
  outcomesResult_map (fun _ => a) outcomes ()

theorem of_outcomesResult_ok {outcomes : List Outcome} {a b : α}
    (h : outcomesResult outcomes a = .ok b) :
    outcomesResult outcomes () = .ok () ∧ b = a := by
  rw [outcomesResult_eq_map] at h
  cases done : outcomesResult outcomes () with
  | error e => simp [done, Except.map] at h
  | ok _ =>
    rw [done] at h
    exact ⟨rfl, (Except.ok.inj h).symm⟩

theorem outcomesResult_append_of_ok {first : List Outcome} (h : outcomesResult first () = .ok ())
    (second : List Outcome) (b : β) :
    outcomesResult (first ++ second) b = outcomesResult second b := by
  induction first with
  | nil => rfl
  | cons o rest ih =>
    cases o with
    | failed e => simp [outcomesResult] at h
    | leftAlone => exact ih h
    | made => exact ih h

/-- The names of the artifacts that were made. -/
def madeNames : List Artifact → List Outcome → List String
  | a :: rest, .made :: outcomes => a.name :: madeNames rest outcomes
  | _ :: rest, _ :: outcomes => madeNames rest outcomes
  | _, _ => []

@[simp] theorem madeNames_nil (artifacts : List Artifact) : madeNames artifacts [] = [] := by
  cases artifacts <;> rfl

theorem madeNames_append {artifacts : List Artifact} {first : List Outcome}
    (h : first.length = artifacts.length) (second : List Outcome) :
    madeNames artifacts (first ++ second) = madeNames artifacts first := by
  induction artifacts generalizing first with
  | nil =>
    obtain rfl := List.eq_nil_of_length_eq_zero h
    cases second <;> rfl
  | cons a rest ih =>
    cases first with
    | nil => simp at h
    | cons o outcomes =>
      have ih := ih (by simpa using h)
      cases o with
      | leftAlone => exact ih
      | made => exact congrArg (a.name :: ·) ih
      | failed e => exact ih

theorem outcomesResult_leftAlone (artifacts : List Artifact) (a : α) :
    outcomesResult (artifacts.map fun _ => .leftAlone) a = .ok a := by
  induction artifacts with
  | nil => rfl
  | cons _ rest ih => exact ih

theorem madeNames_leftAlone (artifacts : List Artifact) :
    madeNames artifacts (artifacts.map fun _ => .leftAlone) = [] := by
  induction artifacts with
  | nil => rfl
  | cons _ rest ih => exact ih

theorem madeNames_made (artifacts : List Artifact) :
    madeNames artifacts (artifacts.map fun _ => Outcome.made) = artifacts.map Artifact.name := by
  induction artifacts with
  | nil => rfl
  | cons a rest ih => exact congrArg (a.name :: ·) ih

/-! ### Blocks -/

/-- The calls that the making of one artifact consists of, from the world it starts in to the one
it leaves. -/
inductive Block (c : Collaborators σ) (a : Artifact) : σ → List Call → Outcome → σ → Prop where
  /-- What the policy leaves alone is neither rendered nor written. -/
  | leftAlone {w : σ} (asked : c.policy w a.target = true) :
      Block c a w [.asked a.target true] .leftAlone w
  /-- There is nothing to give to the template. -/
  | unprepared {w : σ} {e : Error} (asked : c.policy w a.target = false)
      (payload : a.payload = .error e) :
      Block c a w [.asked a.target false] (.failed e) w
  /-- The template fails. -/
  | unrendered {w : σ} {json : Json} {e : Error} (asked : c.policy w a.target = false)
      (payload : a.payload = .ok json) (rendered : (c.renderer w a.key json).1 = .error e) :
      Block c a w [.asked a.target false, .rendered a.key json] (.failed e) w
  /-- The writer fails with the rendered text; only what has been written is on the list of calls. -/
  | unwritten {w w' : σ} {json : Json} {text : String} {e : Error} {lines : List LogLine}
      (asked : c.policy w a.target = false) (payload : a.payload = .ok json)
      (rendered : (c.renderer w a.key json).1 = .ok text)
      (written : c.writer w a.target text = (.error e, w', lines)) :
      Block c a w [.asked a.target false, .rendered a.key json] (.failed e) w'
  /-- The rendered text is written, and then announced. -/
  | made {w w' : σ} {json : Json} {text : String} {lines : List LogLine}
      (asked : c.policy w a.target = false) (payload : a.payload = .ok json)
      (rendered : (c.renderer w a.key json).1 = .ok text)
      (written : c.writer w a.target text = (.ok (), w', lines)) :
      Block c a w ([.asked a.target false, .rendered a.key json, .wrote a.target text] ++ a.news)
        .made w'

/-- What follows when the policy does not leave the artifact alone: a `write` that ends well or not
completes the block. -/
theorem Collaborators.write_makes (c : Collaborators σ) (a : Artifact) {w : σ} {json : Json}
    (asked : c.policy w a.target = false) (payload : a.payload = .ok json) :
    (∃ calls w', (c.write a.key json a.target).Does w (.ok ()) calls w' ∧
      Block c a w ([Call.asked a.target false] ++ calls ++ a.news) .made w') ∨
    (∃ e calls w', (c.write a.key json a.target).Does w (.error e) calls w' ∧
      Block c a w ([Call.asked a.target false] ++ calls) (.failed e) w') := by
  rcases rendered : c.renderer w a.key json with ⟨e | text, _⟩
  · have hr := congrArg Prod.fst rendered
    exact .inr ⟨e, _, _, c.write_does_unrendered _ _ _ hr, .unrendered asked payload hr⟩
  · have hr := congrArg Prod.fst rendered
    rcases written : c.writer w a.target text with ⟨e | _, w', _⟩
    · exact .inr ⟨e, _, _, c.write_does_unwritten _ _ _ _ hr written,
        .unwritten asked payload hr written⟩
    · exact .inl ⟨_, _, c.write_does _ _ _ _ hr written, .made asked payload hr written⟩

namespace Block

variable {c : Collaborators σ} {a : Artifact} {w w₁ w₂ : σ} {calls₁ calls₂ : List Call}
  {o₁ o₂ : Outcome}

/-- A target that the policy leaves alone is left alone. -/
theorem leftAlone_of_policy (block : Block c a w calls₁ o₁ w₁) (h : c.policy w a.target = true) :
    o₁ = .leftAlone ∧ w₁ = w ∧ calls₁ = [.asked a.target true] := by
  cases block with
  | leftAlone => exact ⟨rfl, rfl, rfl⟩
  | unprepared asked => rw [h] at asked; cases asked
  | unrendered asked => rw [h] at asked; cases asked
  | unwritten asked => rw [h] at asked; cases asked
  | made asked => rw [h] at asked; cases asked

/-- What a block consists of is determined. -/
theorem det (h₁ : Block c a w calls₁ o₁ w₁) (h₂ : Block c a w calls₂ o₂ w₂) :
    calls₁ = calls₂ ∧ o₁ = o₂ ∧ w₁ = w₂ := by
  cases h₁ with
  | leftAlone asked =>
    obtain ⟨rfl, rfl, rfl⟩ := h₂.leftAlone_of_policy asked
    exact ⟨rfl, rfl, rfl⟩
  | unprepared asked payload => cases h₂ <;> simp_all
  | unrendered asked payload rendered => cases h₂ <;> simp_all
  | unwritten asked payload rendered written => cases h₂ <;> simp_all
  | made asked payload rendered written => cases h₂ <;> simp_all

/-- A block asks about its target first. -/
theorem exists_asked (block : Block c a w calls₁ o₁ w₁) :
    ∃ rest, calls₁ = .asked a.target (c.policy w a.target) :: rest := by
  cases block with
  | leftAlone asked => exact ⟨_, by rw [asked]⟩
  | unprepared asked => exact ⟨_, by rw [asked]⟩
  | unrendered asked => exact ⟨_, by rw [asked]⟩
  | unwritten asked => exact ⟨_, by rw [asked]⟩
  | made asked => exact ⟨_, by rw [asked, List.cons_append]⟩

/-- Without a failure, the policy decides: what it leaves alone is left alone, and everything else
is made. -/
theorem leftAlone_or_made (block : Block c a w calls₁ o₁ w₁) (complete : o₁.IsComplete) :
    (c.policy w a.target = true ∧ o₁ = .leftAlone ∧ w₁ = w ∧ calls₁ = [.asked a.target true]) ∨
      (c.policy w a.target = false ∧ o₁ = .made) := by
  cases block with
  | leftAlone asked => exact .inl ⟨asked, rfl, rfl, rfl⟩
  | made asked => exact .inr ⟨asked, rfl⟩
  | unprepared => exact absurd complete (by simp)
  | unrendered => exact absurd complete (by simp)
  | unwritten => exact absurd complete (by simp)

/-- What the policy does not leave alone is made, unless there is a failure. -/
theorem made_iff (block : Block c a w calls₁ o₁ w₁) (complete : o₁.IsComplete) :
    o₁ = .made ↔ c.policy w a.target = false := by
  obtain ⟨asked, rfl, -⟩ | ⟨asked, rfl⟩ := block.leftAlone_or_made complete
  · simp [asked]
  · simp [asked]

end Block

/-- The blocks of artifacts, one after the other; a failure is the end. -/
inductive Blocks (c : Collaborators σ) :
    List Artifact → σ → List Call → List Outcome → σ → Prop where
  /-- Nothing is left to make. -/
  | nil {w : σ} : Blocks c [] w [] [] w
  /-- The first artifact fails. -/
  | fail {a : Artifact} {rest : List Artifact} {w w' : σ} {calls : List Call} {e : Error} :
      Block c a w calls (.failed e) w' → Blocks c (a :: rest) w calls [.failed e] w'
  /-- The first artifact is done with. -/
  | cons {a : Artifact} {rest : List Artifact} {w w₁ w₂ : σ} {calls₁ calls₂ : List Call} {o : Outcome}
      {outcomes : List Outcome} : Block c a w calls₁ o w₁ → o.IsComplete →
      Blocks c rest w₁ calls₂ outcomes w₂ → Blocks c (a :: rest) w (calls₁ ++ calls₂) (o :: outcomes) w₂

namespace Blocks

variable {c : Collaborators σ} {first second : List Artifact} {w w₁ w₂ : σ}
  {calls₁ calls₂ : List Call} {outcomes₁ outcomes₂ : List Outcome}

/-- What the blocks of artifacts consist of is determined. -/
theorem det (h₁ : Blocks c first w calls₁ outcomes₁ w₁)
    (h₂ : Blocks c first w calls₂ outcomes₂ w₂) :
    calls₁ = calls₂ ∧ outcomes₁ = outcomes₂ ∧ w₁ = w₂ := by
  induction h₁ generalizing calls₂ outcomes₂ w₂ with
  | nil =>
    cases h₂
    exact ⟨rfl, rfl, rfl⟩
  | fail block =>
    cases h₂ with
    | fail block' =>
      obtain ⟨rfl, ho, rfl⟩ := block.det block'
      exact ⟨rfl, by rw [ho], rfl⟩
    | cons block' complete _ =>
      obtain ⟨-, rfl, -⟩ := block.det block'
      exact absurd complete (by simp)
  | cons block complete rest ih =>
    cases h₂ with
    | fail block' =>
      obtain ⟨-, rfl, -⟩ := block.det block'
      exact absurd complete (by simp)
    | cons block' _ rest' =>
      obtain ⟨rfl, rfl, rfl⟩ := block.det block'
      obtain ⟨rfl, rfl, rfl⟩ := ih rest'
      exact ⟨rfl, rfl, rfl⟩

theorem single {a : Artifact} {o : Outcome} (block : Block c a w calls₁ o w₁) :
    Blocks c [a] w calls₁ [o] w₁ := by
  cases o with
  | failed e => exact .fail block
  | leftAlone =>
    have h := Blocks.cons block (by simp) .nil
    rwa [List.append_nil] at h
  | made =>
    have h := Blocks.cons block (by simp) .nil
    rwa [List.append_nil] at h

/-- More artifacts after those that are done with. -/
theorem append (h₁ : Blocks c first w calls₁ outcomes₁ w₁)
    (done : outcomesResult outcomes₁ () = .ok ()) (h₂ : Blocks c second w₁ calls₂ outcomes₂ w₂) :
    Blocks c (first ++ second) w (calls₁ ++ calls₂) (outcomes₁ ++ outcomes₂) w₂ := by
  induction h₁ with
  | nil => exact h₂
  | fail block => simp [outcomesResult] at done
  | @cons a rest _ _ _ _ _ o outcomes block complete tail ih =>
    rw [outcomesResult_cons complete] at done
    rw [List.append_assoc]
    exact .cons block complete (ih done h₂)

/-- Blocks without a failure, cut between two artifacts. -/
theorem cut (h : Blocks c (first ++ second) w calls₁ outcomes₁ w₁)
    (done : outcomesResult outcomes₁ () = .ok ()) :
    ∃ calls calls' outcomes outcomes' w', calls₁ = calls ++ calls' ∧
      outcomes₁ = outcomes ++ outcomes' ∧
      Blocks c first w calls outcomes w' ∧ outcomesResult outcomes () = .ok () ∧
      Blocks c second w' calls' outcomes' w₁ ∧ outcomesResult outcomes' () = .ok () := by
  induction first generalizing w calls₁ outcomes₁ with
  | nil => exact ⟨[], _, [], _, w, rfl, rfl, .nil, rfl, h, done⟩
  | cons a first ih =>
    cases h with
    | fail block => simp [outcomesResult] at done
    | cons block complete rest =>
      rw [outcomesResult_cons complete] at done
      obtain ⟨calls, calls', outcomes, outcomes', w', rfl, rfl, front, ok, back, ok'⟩ :=
        ih rest done
      refine ⟨_, _, _, _, _, (List.append_assoc _ _ _).symm, rfl, .cons block complete front, ?_,
        back, ok'⟩
      rw [outcomesResult_cons complete, ok]

/-- Without a failure, every artifact has its block. -/
theorem length_outcomes (h : Blocks c first w calls₁ outcomes₁ w₁)
    (done : outcomesResult outcomes₁ () = .ok ()) : outcomes₁.length = first.length := by
  induction h with
  | nil => rfl
  | fail block => simp [outcomesResult] at done
  | @cons a rest _ _ _ _ _ o outcomes block complete tail ih =>
    rw [outcomesResult_cons complete] at done
    exact congrArg (· + 1) (ih done)

/-- With nothing left alone, a run without a failure makes every artifact. -/
theorem outcomes_of_free (free : ∀ a ∈ first, ∀ w, c.policy w a.target = false)
    (h : Blocks c first w calls₁ outcomes₁ w₁) (done : outcomesResult outcomes₁ () = .ok ()) :
    outcomes₁ = first.map fun _ => .made := by
  induction h with
  | nil => rfl
  | fail => simp [outcomesResult] at done
  | @cons a rest w _ _ _ _ o outcomes block complete tail ih =>
    rw [outcomesResult_cons complete] at done
    obtain rfl := (block.made_iff complete).mpr (free a List.mem_cons_self w)
    rw [List.map_cons, ih (fun a ha => free a (List.mem_cons_of_mem _ ha)) done]

/-- After a failure, more artifacts make no difference. -/
theorem append_failed {e : Error} (h : Blocks c first w calls₁ outcomes₁ w₁)
    (failed : outcomesResult outcomes₁ () = .error e) (second : List Artifact) :
    Blocks c (first ++ second) w calls₁ outcomes₁ w₁ := by
  induction h with
  | nil => simp [outcomesResult] at failed
  | fail block => exact .fail block
  | @cons a rest _ _ _ _ _ o outcomes block complete tail ih =>
    rw [outcomesResult_cons complete] at failed
    exact .cons block complete (ih failed)

end Blocks

/-! ### The artifacts of a run -/

/-- The shared schemas that are written out, in the order of the document. -/
def Document.inlineSchemas (d : Document) : List (String × Schema) := inlineEntries d.schemas

namespace Codegen

variable (g : Codegen σ) (d : Document) (base : String) (output config : Path)

/-- The handler of a path. -/
def handlerArtifact (entry : String × PathItem) : Artifact where
  name := handlerName entry.1
  target := g.handlerTarget output entry.1
  key := handlerTemplate
  payload := .ok (g.handlerPayload base entry.1 entry.2).toJson

section

variable (entry : String × PathItem)

@[simp] theorem handlerArtifact_name : (g.handlerArtifact base output entry).name = handlerName entry.1 := by
  simp only [handlerArtifact]

@[simp] theorem handlerArtifact_target :
    (g.handlerArtifact base output entry).target = g.handlerTarget output entry.1 := by
  simp only [handlerArtifact]

@[simp] theorem handlerArtifact_key : (g.handlerArtifact base output entry).key = handlerTemplate := by
  simp only [handlerArtifact]

@[simp] theorem handlerArtifact_payload : (g.handlerArtifact base output entry).payload
    = .ok (g.handlerPayload base entry.1 entry.2).toJson := by
  simp only [handlerArtifact]

@[simp] theorem handlerArtifact_news : (g.handlerArtifact base output entry).news = [] := by
  simp only [handlerArtifact]

end

/-- The properties of the model of a schema. -/
def propertiesOf (entry : String × Schema) : Except Error (List ModelProperty) :=
  ((ExceptT.run (g.properties entry.2 entry.1)).run []).1

/-- The hydrator of a schema. -/
def hydratorArtifact (entry : String × Schema) : Artifact where
  name := hydratorName entry.1
  target := g.hydratorTarget output entry.1
  key := hydratorTemplate
  payload := do return (g.hydratorPayload base entry.1 (← g.propertiesOf entry)).toJson
  news := [.announced generatedEventName
    { generator := hydratorGenerator, name := hydratorName entry.1 }]

section

variable (entry : String × Schema)

@[simp] theorem hydratorArtifact_name : (g.hydratorArtifact base output entry).name = hydratorName entry.1 := by
  simp only [hydratorArtifact]

@[simp] theorem hydratorArtifact_target :
    (g.hydratorArtifact base output entry).target = g.hydratorTarget output entry.1 := by
  simp only [hydratorArtifact]

@[simp] theorem hydratorArtifact_key : (g.hydratorArtifact base output entry).key = hydratorTemplate := by
  simp only [hydratorArtifact]

@[simp] theorem hydratorArtifact_payload : (g.hydratorArtifact base output entry).payload
    = (do return (g.hydratorPayload base entry.1 (← g.propertiesOf entry)).toJson) := by
  simp only [hydratorArtifact]

@[simp] theorem hydratorArtifact_news : (g.hydratorArtifact base output entry).news
    = [.announced generatedEventName { generator := hydratorGenerator, name := hydratorName entry.1 }] := by
  simp only [hydratorArtifact]

end

/-- The route table. -/
def tableArtifact : Artifact where
  name := routesStem
  target := g.routesTarget config
  key := routesTemplate
  payload := do return routesPayload (← d.routeList g.namespacing base)

@[simp] theorem tableArtifact_name : (g.tableArtifact d base config).name = routesStem := by
  simp only [tableArtifact]

@[simp] theorem tableArtifact_target : (g.tableArtifact d base config).target = g.routesTarget config := by
  simp only [tableArtifact]

@[simp] theorem tableArtifact_key : (g.tableArtifact d base config).key = routesTemplate := by
  simp only [tableArtifact]

@[simp] theorem tableArtifact_payload : (g.tableArtifact d base config).payload
    = (do return routesPayload (← d.routeList g.namespacing base)) := by
  simp only [tableArtifact]

/-- The payload of the route table has the routes of the document. -/
theorem tableArtifact_payload_eq_ok_iff {json : Json} :
    (g.tableArtifact d base config).payload = .ok json ↔
    ∃ routes, d.routeList g.namespacing base = .ok routes ∧ routesPayload routes = json := by
  rw [tableArtifact_payload]
  cases d.routeList g.namespacing base with
  | error e =>
    constructor
    · intro h
      cases h
    · rintro ⟨routes, h, -⟩
      cases h
  | ok routes =>
    constructor
    · intro h
      exact ⟨routes, rfl, Except.ok.inj h⟩
    · rintro ⟨_, h, rfl⟩
      rw [← Except.ok.inj h]
      rfl

@[simp] theorem tableArtifact_news : (g.tableArtifact d base config).news = [] := by
  simp only [tableArtifact]

/-- The handlers of a document. -/
def handlerArtifacts : List Artifact := d.inlinePaths.map (g.handlerArtifact base output)

/-- The hydrators of a document. -/
def hydratorArtifacts : List Artifact := d.inlineSchemas.map (g.hydratorArtifact base output)

/-- The artifacts of a run, in the order in which they are made. -/
def artifacts : List Artifact :=
  g.handlerArtifacts d base output ++ g.hydratorArtifacts d base output ++ [g.tableArtifact d base config]

/-- The report of a run whose blocks all come to their end. -/
def reportOf (outcomes : List Outcome) : Report where
  handlers := madeNames (g.handlerArtifacts d base output) outcomes
  hydrators := madeNames (g.hydratorArtifacts d base output) (outcomes.drop d.inlinePaths.length)
  routesWritten := outcomes.getLast? = some .made

theorem reportOf_append {outcomes₁ outcomes₂ : List Outcome} (o : Outcome)
    (h₁ : outcomes₁.length = (g.handlerArtifacts d base output).length)
    (h₂ : outcomes₂.length = (g.hydratorArtifacts d base output).length) :
    g.reportOf d base output (outcomes₁ ++ outcomes₂ ++ [o]) =
      { handlers := madeNames (g.handlerArtifacts d base output) outcomes₁
        hydrators := madeNames (g.hydratorArtifacts d base output) outcomes₂
        routesWritten := o = .made } := by
  have drop : (outcomes₁ ++ outcomes₂ ++ [o]).drop d.inlinePaths.length = outcomes₂ ++ [o] := by
    rw [handlerArtifacts, List.length_map] at h₁
    rw [List.append_assoc, ← h₁, List.drop_left]
  rw [reportOf, drop, madeNames_append h₂, List.append_assoc, madeNames_append h₁,
    ← List.append_assoc, List.getLast?_concat]
  simp

end Codegen

end ApiStubs
