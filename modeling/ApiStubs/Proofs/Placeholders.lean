import ApiStubs.Proofs.Overwriting
import Mathlib.Data.List.Infix

/-!
# Marking all parameters at once

The parameters of a path are marked name by name, each in what the names before it have left. Here
the path is read once, from left to right, into groups in braces and single characters (`pieces`),
and all groups whose names are listed are marked in place (`markAll`).

A name holds no brace and no colon. So marking one name leaves every other group as it is, and it
makes no new group for another name, since that would have to hold the colon.

## What is proved

* `flatMap_text_pieces`, `group_mem_pieces_iff`: reading loses nothing, and the groups are all
  places where a text without braces stands in braces.
* `replacePlaceholder_markAll`: marking one more name.
* `markParameters_eq`: marking names one by one is marking them at once.
* `Endpoint.route_of_same_parameters`: the order of parameters and where they are declared make no
  difference.
* `marked_at_once`: all of that for a path and its names.
-/

namespace ApiStubs

/-! ### Reading a path -/

/-- Neither an opening nor a closing brace. -/
def IsNoBrace (c : Char) : Prop := c ≠ '\x7b' ∧ c ≠ '\x7d'

/-- The text in front of the first brace and what stands behind it, if that brace is a closing
one. -/
def closing? : List Char → Option (List Char × List Char)
  | [] => none
  | c :: cs =>
    if c = '\x7d' then some ([], cs)
    else if c = '\x7b' then none
    else (closing? cs).map fun (name, rest) => (c :: name, rest)

/-- A part of a path. -/
inductive Piece where
  /-- A text without braces, in braces. -/
  | group (name : List Char)
  /-- Any other character. -/
  | char (c : Char)
  deriving Repr, DecidableEq

section

variable {name rest cs : List Char}

theorem closing?_append (plain : ∀ c ∈ name, IsNoBrace c) (rest : List Char) :
    closing? (name ++ '\x7d' :: rest) = some (name, rest) := by
  induction name with
  | nil => rfl
  | cons c name ih =>
    obtain ⟨opening, closes⟩ := plain c List.mem_cons_self
    rw [List.cons_append, closing?, if_neg closes, if_neg opening,
      ih fun x hx => plain x (List.mem_cons_of_mem c hx)]
    rfl

theorem of_closing? (h : closing? cs = some (name, rest)) :
    cs = name ++ '\x7d' :: rest ∧ ∀ c ∈ name, IsNoBrace c := by
  induction cs generalizing name with
  | nil => cases h
  | cons c cs ih =>
    rw [closing?] at h
    split at h
    · next closes =>
      obtain ⟨rfl, rfl⟩ := Prod.mk.inj (Option.some.inj h)
      exact ⟨congrArg (· :: cs) closes, by simp⟩
    · split at h
      · cases h
      · next closes opening =>
        obtain ⟨⟨name', rest'⟩, found, same⟩ := Option.map_eq_some_iff.mp h
        obtain ⟨rfl, rfl⟩ := Prod.mk.inj same
        obtain ⟨rfl, plain⟩ := ih found
        exact ⟨rfl, List.forall_mem_cons.mpr ⟨⟨opening, closes⟩, plain⟩⟩

/-- A text without braces stands in front of a closing brace. -/
theorem exists_closing?_iff :
    (∃ rest, closing? cs = some (name, rest)) ↔
      (∀ c ∈ name, IsNoBrace c) ∧ name ++ ['\x7d'] <+: cs := by
  constructor
  · rintro ⟨rest, h⟩
    obtain ⟨rfl, plain⟩ := of_closing? h
    exact ⟨plain, rest, by simp⟩
  · rintro ⟨plain, rest, rfl⟩
    refine ⟨rest, ?_⟩
    rw [List.append_assoc]
    exact closing?_append plain rest

/-- No occurrence starts in a text without an opening brace. -/
theorem infix_append_iff {front : List Char} (plain : ∀ c ∈ front, c ≠ '\x7b') :
    ('\x7b' :: name) <:+: front ++ cs ↔ ('\x7b' :: name) <:+: cs := by
  induction front with
  | nil => rfl
  | cons c front ih =>
    have other : '\x7b' ≠ c := (plain c List.mem_cons_self).symm
    rw [List.cons_append, List.infix_cons_iff, ih fun x hx => plain x (List.mem_cons_of_mem c hx),
      List.cons_prefix_cons]
    simp [other]

end

/-- The parts of a path, from left to right. -/
def pieces : List Char → List Piece
  | [] => []
  | c :: cs =>
    if c = '\x7b' then
      match _h : closing? cs with
      | some (name, rest) => .group name :: pieces rest
      | none => .char c :: pieces cs
    else .char c :: pieces cs
termination_by cs => cs.length
decreasing_by
  · have := congrArg List.length (of_closing? _h).1
    simp at this ⊢
    omega
  · simp
  · simp

namespace Piece

/-- What is written. -/
def text : Piece → List Char
  | .group name => '\x7b' :: name ++ ['\x7d']
  | .char c => [c]

/-- What is written instead, when these names are to be marked. -/
def marked (names : List (List Char)) : Piece → List Char
  | .group name => if name ∈ names then ':' :: name else '\x7b' :: name ++ ['\x7d']
  | .char c => [c]

theorem marked_nil : marked [] = text := by
  funext piece
  cases piece with
  | group name => rw [marked, if_neg List.not_mem_nil, text]
  | char c => rfl

/-- It matters which names are listed, and neither in which order nor how often. -/
theorem marked_congr {names names' : List (List Char)}
    (same : ∀ name, name ∈ names ↔ name ∈ names') :
    marked names = marked names' := by
  funext piece
  cases piece with
  | group name => simp only [marked, same]
  | char c => rfl

end Piece

/-- The path with all groups marked whose names are listed, and the rest of it as it is. -/
def markAll (names : List (List Char)) (path : List Char) : List Char :=
  (pieces path).flatMap (Piece.marked names)

section

variable {c : Char} {name rest cs : List Char} {names : List (List Char)}

theorem pieces_nil : pieces [] = [] := by rw [pieces]

theorem pieces_other (hc : c ≠ '\x7b') (cs : List Char) :
    pieces (c :: cs) = .char c :: pieces cs := by
  rw [pieces, if_neg hc]

theorem pieces_of_closing? (h : closing? cs = some (name, rest)) :
    pieces ('\x7b' :: cs) = .group name :: pieces rest := by
  rw [pieces, if_pos rfl]
  split
  · next h' =>
    rw [h] at h'
    cases h'
    rfl
  · next h' =>
    rw [h] at h'
    cases h'

theorem pieces_open (h : closing? cs = none) :
    pieces ('\x7b' :: cs) = .char '\x7b' :: pieces cs := by
  rw [pieces, if_pos rfl]
  split
  · next h' =>
    rw [h] at h'
    cases h'
  · rfl

/-- Reading a path loses nothing. -/
theorem flatMap_text_pieces (cs : List Char) : (pieces cs).flatMap Piece.text = cs := by
  fun_induction pieces cs with
  | case1 => rfl
  | case2 cs name rest h ih =>
    rw [List.flatMap_cons, ih, (of_closing? h).1, Piece.text, List.append_assoc]
    rfl
  | case3 cs h ih => rw [List.flatMap_cons, ih]; rfl
  | case4 c cs hc ih => rw [List.flatMap_cons, ih]; rfl

/-- **The groups of a path** are all places where a text without braces stands in braces. -/
theorem group_mem_pieces_iff :
    .group name ∈ pieces cs ↔ (∀ c ∈ name, IsNoBrace c) ∧ ('\x7b' :: name ++ ['\x7d']) <:+: cs := by
  fun_induction pieces cs with
  | case1 => simp
  | case2 cs other rest h ih =>
    obtain ⟨rfl, plain⟩ := of_closing? h
    have front : ∀ c ∈ other ++ ['\x7d'], c ≠ '\x7b' := by
      intro c hc
      rcases List.mem_append.mp hc with hc | hc
      · exact (plain c hc).1
      · rw [List.mem_singleton.mp hc]
        decide
    have first : (∀ c ∈ name, IsNoBrace c) ∧ name ++ ['\x7d'] <+: other ++ '\x7d' :: rest ↔
        name = other := by
      rw [← exists_closing?_iff, h]
      simp [eq_comm]
    rw [List.mem_cons, ih, List.cons_append, List.infix_cons_iff, List.cons_prefix_cons,
      Piece.group.injEq, List.append_cons other, infix_append_iff front, ← List.append_cons,
      ← first]
    tauto
  | case3 cs h ih =>
    have first : ¬ ((∀ c ∈ name, IsNoBrace c) ∧ name ++ ['\x7d'] <+: cs) := by
      rw [← exists_closing?_iff, h]
      simp
    rw [List.mem_cons, ih, List.cons_append, List.infix_cons_iff, List.cons_prefix_cons]
    simp only [reduceCtorEq, false_or, true_and]
    tauto
  | case4 c cs hc ih =>
    have other : '\x7b' ≠ c := fun h => hc h.symm
    rw [List.mem_cons, ih, List.cons_append, List.infix_cons_iff, List.cons_prefix_cons]
    simp [other]

end

/-! ### Marking one more name -/

/-- A character of a name: no brace and no colon. -/
def IsNameCharacter (c : Char) : Prop := IsNoBrace c ∧ c ≠ ':'

instance : DecidablePred IsNoBrace := fun _ => inferInstanceAs (Decidable (_ ∧ _))

instance : DecidablePred IsNameCharacter := fun _ => inferInstanceAs (Decidable (_ ∧ _))

section

variable {c : Char} {name other cs : List Char} {names : List (List Char)}

/-- A text without opening braces stays. -/
theorem replacePlaceholder_append {front : List Char} (plain : ∀ c ∈ front, c ≠ '\x7b')
    (name cs : List Char) :
    replacePlaceholder name (front ++ cs) = front ++ replacePlaceholder name cs := by
  induction front with
  | nil => rfl
  | cons c front ih =>
    rw [List.cons_append, replacePlaceholder_other name (plain c List.mem_cons_self),
      ih fun x hx => plain x (List.mem_cons_of_mem c hx), List.cons_append]

/-- The closing brace of a group is the first one, so another name does not fit. -/
theorem dropStart?_of_ne (hn : ∀ c ∈ name, IsNoBrace c) (ho : ∀ c ∈ other, IsNoBrace c)
    (ne : name ≠ other) (cs : List Char) : Text.dropStart? (name ++ ['\x7d'])
    (other ++ '\x7d' :: cs) = none := by
  cases h : Text.dropStart? (name ++ ['\x7d']) (other ++ '\x7d' :: cs) with
  | none => rfl
  | some rest =>
    have same := Text.eq_append_of_dropStart? h
    have first := closing?_append ho cs
    rw [same, List.append_assoc, List.singleton_append, closing?_append hn] at first
    exact absurd (Prod.mk.inj (Option.some.inj first)).1 ne

theorem markAll_nil (names : List (List Char)) : markAll names [] = [] := by
  rw [markAll, pieces_nil, List.flatMap_nil]

theorem markAll_other (hc : c ≠ '\x7b') (cs : List Char) :
    markAll names (c :: cs) = c :: markAll names cs := by
  rw [markAll, pieces_other hc, List.flatMap_cons]
  rfl

/-- What is written for a group, or for an opening brace alone, starts with a brace or with a
colon. -/
theorem exists_head_markAll (names : List (List Char)) (cs : List Char) :
    ∃ head tail, markAll names ('\x7b' :: cs) = head :: tail ∧ (head = '\x7b' ∨ head = ':') := by
  rw [markAll]
  cases found : closing? cs with
  | none => exact ⟨_, _, by rw [pieces_open found]; rfl, .inl rfl⟩
  | some group =>
    rw [pieces_of_closing? found, List.flatMap_cons, Piece.marked]
    split
    · exact ⟨_, _, rfl, .inr rfl⟩
    · exact ⟨_, _, rfl, .inl rfl⟩

/-- No name and closing brace start with an opening brace or with a colon. -/
theorem dropStart?_of_head {head : Char} (plain : ∀ c ∈ name, IsNameCharacter c)
    (other : head = '\x7b' ∨ head = ':') (cs : List Char) :
    Text.dropStart? (name ++ ['\x7d']) (head :: cs) = none := by
  cases name with
  | nil =>
    rw [List.nil_append, Text.dropStart?, if_neg]
    rcases other with rfl | rfl <;> decide
  | cons x name =>
    obtain ⟨⟨noOpening, -⟩, noColon⟩ := plain x List.mem_cons_self
    rw [List.cons_append, Text.dropStart?, if_neg]
    rcases other with rfl | rfl
    · exact noOpening
    · exact noColon

/-- Behind a brace that opens no group, no name stands in front of a closing brace, whatever has
been marked. -/
theorem dropStart?_markAll (plain : ∀ c ∈ name, IsNameCharacter c) (h : closing? cs = none) :
    Text.dropStart? (name ++ ['\x7d']) (markAll names cs) = none := by
  induction cs generalizing name with
  | nil =>
    rw [markAll_nil]
    cases name <;> rfl
  | cons c cs ih =>
    rw [closing?] at h
    split at h
    · cases h
    · next closes =>
      by_cases opening : c = '\x7b'
      · subst opening
        obtain ⟨head, tail, start, other⟩ := exists_head_markAll names cs
        rw [start]
        exact dropStart?_of_head plain other tail
      · rw [if_neg opening, Option.map_eq_none_iff] at h
        rw [markAll_other opening]
        cases name with
        | nil => rw [List.nil_append, Text.dropStart?, if_neg fun same => closes same.symm]
        | cons x name =>
          rw [List.cons_append, Text.dropStart?]
          split
          · exact ih (fun y hy => plain y (List.mem_cons_of_mem x hy)) h
          · rfl

/-- **Marking one more name** in a path where some are marked. -/
theorem replacePlaceholder_markAll (plain : ∀ c ∈ name, IsNameCharacter c)
    (names : List (List Char))
    (cs : List Char) : replacePlaceholder name (markAll names cs) = markAll (name :: names) cs := by
  have noBrace : ∀ c ∈ name, IsNoBrace c := fun c hc => (plain c hc).1
  unfold markAll
  fun_induction pieces cs with
  | case1 => exact replacePlaceholder_nil name
  | case2 cs group rest h ih =>
    obtain ⟨rfl, groupPlain⟩ := of_closing? h
    have noOpening : ∀ c ∈ group, c ≠ '\x7b' := fun c hc => (groupPlain c hc).1
    rw [List.flatMap_cons, List.flatMap_cons, ← ih, Piece.marked, Piece.marked]
    by_cases listed : group ∈ names
    · -- marked before, and what stands there now holds no brace
      rw [if_pos listed, if_pos (List.mem_cons_of_mem name listed)]
      exact replacePlaceholder_append
        (List.forall_mem_cons.mpr ⟨by decide, noOpening⟩) name _
    · rw [if_neg listed, List.append_assoc, List.cons_append, List.singleton_append]
      by_cases same : group = name
      · subst same
        rw [if_pos List.mem_cons_self]
        refine replacePlaceholder_found ?_
        simpa using Text.dropStart?_append (group ++ ['\x7d']) _
      · rw [if_neg (by simp [same, listed]),
          replacePlaceholder_open (dropStart?_of_ne noBrace groupPlain (Ne.symm same) _),
          replacePlaceholder_append noOpening, replacePlaceholder_other name (by decide)]
        simp
  | case3 cs h ih =>
    rw [List.flatMap_cons, List.flatMap_cons, ← ih]
    exact replacePlaceholder_open (dropStart?_markAll plain h)
  | case4 c cs hc ih =>
    rw [List.flatMap_cons, List.flatMap_cons, ← ih]
    exact replacePlaceholder_other name hc _

end

/-! ### Marking the names of a list -/

/-- A name of a parameter that can be marked: it holds no brace and no colon. -/
def IsParameterName (name : String) : Prop := ∀ c ∈ name.toList, IsNameCharacter c

instance : DecidablePred IsParameterName := fun name => List.decidableBAll IsNameCharacter name.toList

/-- Marking the names of a list one by one, in a path where some are marked. -/
theorem foldl_replacePlaceholder {names : List String}
    (plain : ∀ name ∈ names, IsParameterName name) (done : List (List Char)) (cs : List Char) :
    names.foldl (fun cs name => replacePlaceholder name.toList cs) (markAll done cs)
      = markAll (names.map String.toList ++ done) cs := by
  induction names generalizing done with
  | nil => rfl
  | cons name names ih =>
    rw [List.foldl_cons, replacePlaceholder_markAll (plain name List.mem_cons_self),
      ih fun n hn => plain n (List.mem_cons_of_mem name hn), markAll, markAll]
    congr 1
    refine Piece.marked_congr fun m => ?_
    simp only [List.map_cons, List.mem_append, List.mem_cons]
    tauto

/-- **Marking names one by one is marking them at once.** -/
theorem markParameters_eq (path : String) {names : List String}
    (plain : ∀ name ∈ names, IsParameterName name) :
    (markParameters path names).toList = markAll (names.map String.toList) path.toList := by
  have start : markAll [] path.toList = path.toList := by
    rw [markAll, Piece.marked_nil, flatMap_text_pieces]
  have all := foldl_replacePlaceholder plain [] path.toList
  rw [start, List.append_nil] at all
  rw [markParameters, String.toList_ofList, all]

/-- Only the set of names counts. -/
theorem markParameters_congr (path : String) {names names' : List String}
    (plain : ∀ name ∈ names, IsParameterName name) (same : ∀ name, name ∈ names' ↔ name ∈ names) :
    markParameters path names' = markParameters path names := by
  refine String.toList_inj.mp ?_
  rw [markParameters_eq path plain, markParameters_eq path fun name hn => plain name ((same name).mp hn), markAll,
    markAll]
  congr 1
  refine Piece.marked_congr fun m => ?_
  simp only [List.mem_map, same]

theorem length_replacePlaceholder_le (name cs : List Char) :
    (replacePlaceholder name cs).length ≤ cs.length := by
  fun_induction replacePlaceholder name cs with
  | case1 => exact Nat.le_refl _
  | case2 cs rest h ih =>
    have whole := congrArg List.length (Text.eq_append_of_dropStart? h)
    simp only [List.length_append, List.length_cons, List.length_nil] at whole ⊢
    omega
  | case3 cs h ih => simpa using ih
  | case4 c cs hc ih => simpa using ih

/-- A placeholder that is there is marked, and its closing brace goes. -/
theorem length_replacePlaceholder_lt {name cs : List Char}
    (there : ('\x7b' :: name ++ ['\x7d']) <:+: cs) :
    (replacePlaceholder name cs).length < cs.length := by
  fun_induction replacePlaceholder name cs with
  | case1 => simp at there
  | case2 cs rest h ih =>
    have whole := congrArg List.length (Text.eq_append_of_dropStart? h)
    have kept := length_replacePlaceholder_le name rest
    simp only [List.length_append, List.length_cons, List.length_nil] at whole ⊢
    omega
  | case3 cs h ih =>
    rw [List.cons_append, List.infix_cons_iff, List.cons_prefix_cons] at there
    rcases there with ⟨-, rest, rfl⟩ | there
    · rw [Text.dropStart?_append] at h
      cases h
    · simpa using ih there
  | case4 c cs hc ih =>
    rw [List.cons_append, List.infix_cons_iff, List.cons_prefix_cons] at there
    rcases there with ⟨same, -⟩ | there
    · exact absurd same.symm hc
    · simpa using ih there

/-- No placeholder of a name that has been marked is left. -/
theorem not_infix_markAll {name : List Char} {names : List (List Char)}
    (plain : ∀ c ∈ name, IsNameCharacter c) (listed : name ∈ names) (cs : List Char) :
    ¬ ('\x7b' :: name ++ ['\x7d']) <:+: markAll names cs := by
  intro there
  -- marking the name again would have to change something
  have again : replacePlaceholder name (markAll names cs) = markAll names cs := by
    rw [replacePlaceholder_markAll plain, markAll, markAll]
    congr 1
    refine Piece.marked_congr fun m => ?_
    simp only [List.mem_cons, or_iff_right_iff_imp]
    rintro rfl
    exact listed
  have shorter := length_replacePlaceholder_lt there
  rw [again] at shorter
  exact absurd shorter (Nat.lt_irrefl _)

/-! ### The paths of routes -/

/-- The other endpoint has the same parameters, in another order or declared elsewhere, and is like
the first one in everything else. -/
structure Endpoint.SameParameters (x y : Endpoint) : Prop where
  /-- They have one path. -/
  path : y.path = x.path
  /-- They have one method. -/
  method : y.method = x.method
  /-- They have one identifier. -/
  operationId : y.operation.operationId = x.operation.operationId
  /-- They take one body. -/
  requestBody : y.operation.requestBody = x.operation.requestBody
  /-- They have the same parameters, taken together with those of their paths. -/
  parameters : ∀ p, p ∈ y.item.parameters ++ y.operation.parameters ↔
    p ∈ x.item.parameters ++ x.operation.parameters

/-- The order of the parameters, and whether the path or the operation declares them, make no
difference to a route. -/
theorem Endpoint.route_of_same_parameters {x y : Endpoint} {n : Namespacing} {d : Document}
    {base : String} {names : List String} {r : Route} (same : x.SameParameters y)
    (named : pathParameters d (x.item.parameters ++ x.operation.parameters) = .ok names)
    (plain : ∀ name ∈ names, IsParameterName name) (h : x.route n d base = .ok r) :
    y.route n d base = .ok r ∧ r.path = markParameters x.path names := by
  obtain ⟨names', named'⟩ :
      ∃ names', pathParameters d (y.item.parameters ++ y.operation.parameters) = .ok names' := by
    rw [exists_pathParameters_iff]
    intro p hp
    exact exists_pathParameters_iff.mp ⟨names, named⟩ p ((same.parameters p).mp hp)
  have sameNames : ∀ name, name ∈ names' ↔ name ∈ names := by
    intro name
    simp only [mem_of_pathParameters named, mem_of_pathParameters named', same.parameters]
  have sameModel : n.bodyModel base y.operation = n.bodyModel base x.operation := by
    rw [Namespacing.bodyModel, Namespacing.bodyModel, same.requestBody]
  obtain ⟨found, model, foundNames, foundModel, rfl⟩ := exists_of_route h
  obtain rfl := Except.ok.inj (named.symm.trans foundNames)
  refine ⟨?_, rfl⟩
  rw [Endpoint.route, named', sameModel, foundModel]
  change Except.ok _ = _
  rw [same.path, same.method, same.operationId, markParameters_congr x.path plain sameNames]

/-- **All parameters of a path are marked at once.** For every path and all names without braces and
colons: read from left to right, the path is made of the groups in braces and of single characters,
and the route has every group marked whose name is listed and everything else as it is. So the order
of the names and repetitions make no difference, and no placeholder of a listed name is left. The
path of a route depends neither on the order of the parameters nor on whether the path or the
operation declares them. -/
theorem marked_at_once (path : String) {names : List String}
    (plain : ∀ name ∈ names, IsParameterName name) :
    (pieces path.toList).flatMap Piece.text = path.toList ∧
    (∀ name, .group name ∈ pieces path.toList ↔
      (∀ c ∈ name, IsNoBrace c) ∧ ('\x7b' :: name ++ ['\x7d']) <:+: path.toList) ∧
    (markParameters path names).toList
      = (pieces path.toList).flatMap (Piece.marked (names.map String.toList)) ∧
    (∀ names', (∀ name, name ∈ names' ↔ name ∈ names) → markParameters path names' = markParameters path names) ∧
    (∀ name ∈ names, ¬ ('\x7b' :: name.toList ++ ['\x7d']) <:+: (markParameters path names).toList) ∧
    ∀ (σ : Type) (g : Codegen σ) (d : Document) (base : String) (x y : Endpoint) (s s' : RunState σ) (r : Route),
      x.path = path → pathParameters d (x.item.parameters ++ x.operation.parameters) = .ok names →
      x.SameParameters y → ((g.route d base x.path x.item x.method x.operation).start s).1 = .ok r →
      ((g.route d base y.path y.item y.method y.operation).start s').1 = .ok r ∧
        r.path = markParameters path names := by
  have whole := markParameters_eq path plain
  refine ⟨flatMap_text_pieces _, fun name => group_mem_pieces_iff, whole,
    fun names' same => markParameters_congr path plain same, fun name listed => ?_, ?_⟩
  · rw [whole]
    exact not_infix_markAll (plain name listed) (List.mem_map_of_mem listed) _
  · rintro σ g d base x y s s' r rfl named same found
    rw [(g.route_computes d base x s.world).result s rfl] at found
    rw [(g.route_computes d base y s'.world).result s' rfl]
    exact Endpoint.route_of_same_parameters same named plain found

/-- A path with a brace in front of a group, and with an empty group. -/
def nestedPath : String := "/\x7b\x7bpet\x7d/\x7btag\x7d/\x7b\x7d"

/-- A document with a shared parameter. -/
def sharedTag : Document where
  openapi := "3.0.3"
  title := "Tags"
  version := "1"
  components := some { parameters := [("tag", .item ⟨.path, "tag"⟩)] }

/-- The path declares one parameter and the operation the other. -/
def petFirst : Endpoint where
  path := nestedPath
  item := { parameters := [.item ⟨.path, "pet"⟩] }
  method := .get
  operation := { parameters := [.reference "#/components/parameters/tag"] }

/-- The operation declares both parameters. -/
def tagFirst : Endpoint where
  path := nestedPath
  item := {}
  method := .get
  operation := { parameters := [.reference "#/components/parameters/tag", .item ⟨.path, "pet"⟩] }

/-- The brace in front and the empty group stay. -/
theorem nestedPath_marked_at_once :
    (∀ name ∈ ["pet", "tag"], IsParameterName name) ∧
    markParameters nestedPath ["pet", "tag"] = "/\x7b:pet/:tag/\x7b\x7d" ∧
    markParameters nestedPath ["tag", "pet", "tag"] = markParameters nestedPath ["pet", "tag"] ∧
    ¬ ['\x7b', 'p', 'e', 't', '\x7d'] <:+: (markParameters nestedPath ["pet", "tag"]).toList ∧
    ∃ r : Route, ((plainly.route sharedTag "App" petFirst.path petFirst.item petFirst.method
        petFirst.operation).start { world := emptyTree }).1 = .ok r ∧
      ((plainly.route sharedTag "App" tagFirst.path tagFirst.item tagFirst.method
        tagFirst.operation).start { world := emptyTree }).1 = .ok r ∧
      r.path = markParameters nestedPath ["pet", "tag"] := by
  have plain : ∀ name ∈ ["pet", "tag"], IsParameterName name := by decide
  have found : ((plainly.route sharedTag "App" petFirst.path petFirst.item petFirst.method
      petFirst.operation).start { world := emptyTree }).1
      = .ok ⟨"App\\Handler\\PetTagHandler", none, "/\x7b:pet/:tag/\x7b\x7d", "GET", none⟩ :=
    eq_ok_of_toOption (by decide +kernel)
  have same : petFirst.SameParameters tagFirst :=
    ⟨rfl, rfl, rfl, rfl, fun p => by simp [petFirst, tagFirst, or_comm]⟩
  obtain ⟨-, -, marked, order, gone, route⟩ := marked_at_once nestedPath plain
  obtain ⟨other, path⟩ := route _ plainly sharedTag "App" petFirst tagFirst { world := emptyTree }
    { world := emptyTree } _ rfl rfl same found
  exact ⟨plain, path.symm, order _ (by simp), gone "pet" (by simp), _, found, other, path⟩

end ApiStubs
