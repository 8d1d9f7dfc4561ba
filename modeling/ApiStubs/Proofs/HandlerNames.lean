import ApiStubs.Proofs.NameSegments
import ApiStubs.Proofs.Overwriting
import Mathlib.Data.List.Chain

/-!
# The handler behind a route

The name of a handler is made from the segments of its path, and a route keeps the path with its
parameters marked. Marking one placeholder puts a colon for the opening brace, which separates
segments as well, and takes the closing brace away. So no segment is changed as long as a closing
brace is never needed to separate what stands around it (`BracesClose`), and then it is not needed
in the marked path either, whatever the names hold.

## What is proved

* `markParameters_marks`: marking names is marking one placeholder after the other.
* `Marks.segments_eq`, `Marks.bracesClose`: what marking one placeholder keeps.
* `handlerName_markParameters`: the handlers of a path and of its route have one name.
* `handlers_are_recovered`: so the handler of a route is found from the route.
-/

namespace ApiStubs

/-! ### One placeholder -/

/-- One placeholder of the first path is marked in the second one. -/
inductive Marks : List Char → List Char → Prop where
  /-- A text in braces, with a colon in front instead. -/
  | mark (before name after : List Char) :
    Marks (before ++ '\x7b' :: (name ++ '\x7d' :: after)) (before ++ ':' :: (name ++ after))

/-- One placeholder after the other is marked. -/
abbrev MarksSome : List Char → List Char → Prop := Relation.ReflTransGen Marks

/-- Marking a name is marking its placeholders one after the other, whatever stands in front. -/
theorem replacePlaceholder_marks (name before cs : List Char) :
    MarksSome (before ++ cs) (before ++ replacePlaceholder name cs) := by
  fun_induction replacePlaceholder name cs generalizing before with
  | case1 => exact .refl
  | case2 cs rest h ih =>
    rw [Text.eq_append_of_dropStart? h, List.append_assoc, List.singleton_append]
    have others := ih (before ++ ':' :: name)
    simp only [List.append_assoc, List.cons_append] at others ⊢
    exact .head (.mark before name rest) others
  | case3 cs h ih => simpa using ih (before ++ ['\x7b'])
  | case4 c cs hc ih => simpa using ih (before ++ [c])

/-- **Marking parameters** is marking placeholders one after the other. -/
theorem markParameters_marks (path : String) (names : List String) :
    MarksSome path.toList (markParameters path names).toList := by
  rw [markParameters, String.toList_ofList]
  generalize path.toList = cs
  induction names generalizing cs with
  | nil => exact .refl
  | cons name names ih => exact (replacePlaceholder_marks name.toList [] cs).trans (ih _)

/-! ### What is kept -/

/-- Behind a closing brace stands nothing, or a character that separates segments. -/
def BracesClose (cs : List Char) : Prop :=
  cs.IsChain fun a b => a = '\x7d' → Text.isAlphanumeric b = false

section

variable {cs ds before behind : List Char}

/-- What stands behind the closing brace of a placeholder separates segments. -/
theorem BracesClose.separates {name after : List Char}
    (h : BracesClose (before ++ '\x7b' :: (name ++ '\x7d' :: after))) :
    ∀ c ∈ after.head?, Text.isAlphanumeric c = false := by
  have group := (List.isChain_split.mp h).2
  have rest := (List.isChain_split.mp (List.isChain_cons.mp group).2).2
  exact fun c hc => (List.isChain_cons.mp rest).1 c hc rfl

/-- Marking a placeholder changes no segment. -/
theorem Marks.segments_eq (h : Marks cs ds) (closes : BracesClose cs) :
    segments ds = segments cs := by
  cases h with
  | mark before name after =>
    rw [segments_append_separator (by decide +kernel),
      segments_append_separator (by decide +kernel), segments_append_separator (by decide +kernel),
      segments_append closes.separates]

/-- Marking a placeholder leaves no closing brace that is needed. -/
theorem Marks.bracesClose (h : Marks cs ds) (closes : BracesClose cs) : BracesClose ds := by
  cases h with
  | mark before name after =>
    have behind := closes.separates
    obtain ⟨front, group⟩ := List.isChain_split.mp closes
    have inside := (List.isChain_cons.mp group).2
    obtain ⟨inside, rest⟩ := List.isChain_split.mp inside
    have nameChain := (List.isChain_append.mp inside).1
    have afterChain := (List.isChain_cons.mp rest).2
    have beforeChain := (List.isChain_append.mp front).1
    refine List.isChain_append.mpr ⟨beforeChain, List.isChain_cons.mpr ⟨?_, ?_⟩, ?_⟩
    · intro c _ colon
      cases colon
    · -- the last character of the name now stands in front of what stood behind the brace
      exact List.isChain_append.mpr ⟨nameChain, afterChain, fun _ _ c hc _ => behind c hc⟩
    · intro b _ c hc _
      obtain rfl : ':' = c := Option.some.inj hc
      decide +kernel

theorem MarksSome.segments_eq (h : MarksSome cs ds) (closes : BracesClose cs) :
    segments ds = segments cs := by
  have both : BracesClose ds ∧ segments ds = segments cs := by
    induction h with
    | refl => exact ⟨closes, rfl⟩
    | tail _ last ih =>
      obtain ⟨closes, same⟩ := ih
      exact ⟨last.bracesClose closes, (last.segments_eq closes).trans same⟩
  exact both.2

end

/-! ### The names of handlers -/

/-- The handlers of a path and of the path with names marked have one name. -/
theorem handlerName_markParameters {path : String} (closes : BracesClose path.toList)
    (names : List String) :
    handlerName (markParameters path names) = handlerName path := by
  rw [handlerName, handlerName, modelName, modelName,
    (markParameters_marks path names).segments_eq closes]

/-- **The handler of a route is found from the route.** For every path in which a closing brace ends
the path or stands in front of a character that separates segments: marking any names leaves the
name of the handler as it is, and in the route table of any document the handler of a route of that
path is the one that the path of the route has. -/
theorem handlers_are_recovered (path : String) (closes : BracesClose path.toList) :
    (∀ names, handlerName (markParameters path names) = handlerName path) ∧
    ∀ (σ : Type) (g : Codegen σ) (d : Document) (base : String) (s : RunState σ) (routes : List Route),
      ((g.routes d base).start s).1 = .ok routes →
      List.Forall₂ (fun x r => x.path = path →
        r.middleware = g.namespacing.qualify (g.handlerSpace base) (handlerName r.path)) d.endpoints routes := by
  refine ⟨handlerName_markParameters closes, fun σ g d base s routes found => ?_⟩
  rw [(g.routes_computes d base s.world).result s rfl] at found
  refine (Document.forall₂_routeList found).imp ?_
  rintro x r made rfl
  obtain ⟨names, model, -, -, rfl⟩ := Endpoint.exists_of_route made
  dsimp only
  rw [handlerName_markParameters closes names]
  rfl

/-- A path with two parameters. -/
def pairPath : String := "/\x7bx\x7d/\x7by\x7d"

/-- A document that has one parameter for both, with braces in its name. -/
def pairs : Document where
  openapi := "3.0.3"
  title := "Pairs"
  version := "1"
  paths := [(pairPath, .item { operations := [(.get, {})], parameters := [.item ⟨.path, "x\x7d/\x7by"⟩] })]

/-- The braces that are left in the route do not matter. -/
theorem pairs_are_recovered :
    BracesClose pairPath.toList ∧
    handlerName (markParameters pairPath ["x\x7d/\x7by"]) = handlerName pairPath ∧
    ((plainly.routes pairs "App").start { world := emptyTree }).1
      = .ok [⟨"App\\Handler\\XYHandler", none, "/:x\x7d/\x7by", "GET", none⟩] ∧
    "App\\Handler\\XYHandler"
      = plainly.namespacing.qualify (plainly.handlerSpace "App") (handlerName "/:x\x7d/\x7by") := by
  have closes : BracesClose pairPath.toList := by
    unfold BracesClose
    decide +kernel
  have found : ((plainly.routes pairs "App").start { world := emptyTree }).1
      = .ok [⟨"App\\Handler\\XYHandler", none, "/:x\x7d/\x7by", "GET", none⟩] :=
    eq_ok_of_toOption (by decide +kernel)
  obtain ⟨names, table⟩ := handlers_are_recovered pairPath closes
  cases table _ plainly pairs "App" _ _ found with
  | cons first _ => exact ⟨closes, names _, found, first rfl⟩

end ApiStubs
