import ApiStubs.Naming
import ApiStubs.Proofs.Split

/-!
# Names and segments

A name is made of the alphanumeric segments of a text, each with a capital in front. How the
segments are found, by cutting the text at every separator and dropping what is empty, is one way to
find them; which segments a text has can be said without it (`Segmented`): every segment is followed
by a separator or by nothing, and between segments there is nothing but separators.

Cutting at one separator puts the name together from the names of what stands before and behind it,
so nothing else of a separator is left in a name.

## What is proved

* `segments_append_separator`, `segments_append`: the segments of a text that is put together.
* `Segmented.segments_eq`, `segmented_segments`: every text has its segments, and no others.
* `names_follow_segments`: what that means for the names of models, handlers and hydrators.
-/

namespace ApiStubs

/-! ### The segments of a text that is put together -/

section

variable {cs separators segment before behind : List Char} {c : Char}

theorem segments_nil : segments [] = [] := rfl

theorem segments_append_separator (hc : Text.isAlphanumeric c = false) (before behind : List Char) :
    segments (before ++ c :: behind) = segments before ++ segments behind := by
  rw [segments, Text.splitWhere_append_separator (by simp [hc]), List.filter_append, segments,
    segments]

theorem segments_cons_separator (hc : Text.isAlphanumeric c = false) (cs : List Char) :
    segments (c :: cs) = segments cs := by
  have h := segments_append_separator hc [] cs
  rwa [List.nil_append, segments_nil, List.nil_append] at h

/-- Segments end where something begins that separates. -/
theorem segments_append (separates : ∀ c ∈ behind.head?, Text.isAlphanumeric c = false)
    (before : List Char) :
    segments (before ++ behind) = segments before ++ segments behind := by
  cases behind with
  | nil => rw [segments_nil, List.append_nil, List.append_nil]
  | cons c behind =>
    have hc := separates c rfl
    rw [segments_append_separator hc, segments_cons_separator hc]

/-- Separators in front do not count. -/
theorem segments_separators_append (h : ∀ c ∈ separators, Text.isAlphanumeric c = false)
    (cs : List Char) :
    segments (separators ++ cs) = segments cs := by
  induction separators with
  | nil => rfl
  | cons c separators ih =>
    rw [List.cons_append, segments_cons_separator (h c List.mem_cons_self)]
    exact ih fun x hx => h x (List.mem_cons_of_mem c hx)

theorem segments_of_separators (h : ∀ c ∈ separators, Text.isAlphanumeric c = false) :
    segments separators = [] := by
  have none := segments_separators_append h []
  rwa [List.append_nil, segments_nil] at none

/-- A text without separators is one segment. -/
theorem segments_of_alphanumeric (h : ∀ c ∈ segment, Text.isAlphanumeric c = true)
    (ne : segment ≠ []) :
    segments segment = [segment] := by
  rw [segments, Text.splitWhere_of_forall fun c hc => by simp [h c hc],
    List.filter_cons_of_pos (by simp [ne]), List.filter_nil]

/-- The characters of segments are alphanumeric. -/
theorem isAlphanumeric_of_mem_segment (h : segment ∈ segments cs) :
    ∀ c ∈ segment, Text.isAlphanumeric c = true := by
  intro c hc
  have inside := Text.not_separator_of_mem_splitWhere (List.mem_filter.mp h).1 c hc
  simpa using inside

theorem ne_nil_of_mem_segments (h : segment ∈ segments cs) : segment ≠ [] := by
  simpa using (List.mem_filter.mp h).2

end

/-! ### The segments that a text has -/

/-- The text has these segments: they are maximal, and nothing else in it is alphanumeric. -/
inductive Segmented : List (List Char) → List Char → Prop where
  /-- Separators alone make no segment. -/
  | none {separators : List Char} : (∀ c ∈ separators, Text.isAlphanumeric c = false) →
      Segmented [] separators
  /-- Behind a segment stands nothing, or a separator. -/
  | cons {separators segment rest : List Char} {others : List (List Char)} :
    (∀ c ∈ separators, Text.isAlphanumeric c = false) → segment ≠ [] →
    (∀ c ∈ segment, Text.isAlphanumeric c = true) →
      (∀ c ∈ rest.head?, Text.isAlphanumeric c = false) →
    Segmented others rest → Segmented (segment :: others) (separators ++ (segment ++ rest))

/-- The segments that a text has are found. -/
theorem Segmented.segments_eq {found : List (List Char)} {cs : List Char} (h : Segmented found cs) :
    segments cs = found := by
  induction h with
  | none separators => exact segments_of_separators separators
  | cons separators ne inside ends _ ih =>
    rw [segments_separators_append separators, segments_append ends,
      segments_of_alphanumeric inside ne, ih, List.singleton_append]

/-- A text that starts with an alphanumeric character starts with its first segment. -/
theorem Segmented.exists_first {found : List (List Char)} {c : Char} {cs : List Char}
    (h : Segmented found (c :: cs)) (hc : Text.isAlphanumeric c = true) :
    ∃ segment rest others, cs = segment ++ rest ∧ found = (c :: segment) :: others ∧
      (∀ x ∈ c :: segment, Text.isAlphanumeric x = true) ∧
        (∀ x ∈ rest.head?, Text.isAlphanumeric x = false) ∧
      Segmented others rest := by
  generalize text : c :: cs = text at h
  cases h with
  | none separators => exact absurd (separators c (text ▸ List.mem_cons_self)) (by simp [hc])
  | @cons separators segment rest others separating ne inside ends behind =>
    cases separators with
    | cons x _ =>
      obtain ⟨rfl, -⟩ := List.cons.inj text
      exact absurd (separating c List.mem_cons_self) (by simp [hc])
    | nil =>
      obtain ⟨x, segment, rfl⟩ := List.exists_cons_of_ne_nil ne
      obtain ⟨rfl, rfl⟩ := List.cons.inj text
      exact ⟨segment, rest, others, rfl, rfl, inside, ends, behind⟩

/-- With one more character in front, a text has segments again: a separator is put with the others
in front, any other character with the first segment if nothing stands between, and else it is a
segment of its own. -/
theorem Segmented.exists_cons {found : List (List Char)} {cs : List Char} (h : Segmented found cs)
    (c : Char) :
    ∃ found, Segmented found (c :: cs) := by
  cases hc : Text.isAlphanumeric c with
  | false =>
    cases h with
    | none separators => exact ⟨_, .none (List.forall_mem_cons.mpr ⟨hc, separators⟩)⟩
    | cons separators ne inside ends rest =>
      exact ⟨_, .cons (List.forall_mem_cons.mpr ⟨hc, separators⟩) ne inside ends rest⟩
  | true =>
    have alone : ∀ x ∈ [c], Text.isAlphanumeric x = true := by simpa using hc
    have start : ∀ x ∈ ([] : List Char), Text.isAlphanumeric x = false := by simp
    have apart : (∀ x ∈ cs.head?, Text.isAlphanumeric x = false) →
        ∃ found, Segmented found (c :: cs) :=
      fun ends => ⟨_, .cons start (List.cons_ne_nil c []) alone ends h⟩
    cases h with
    | none separators => exact apart fun x hx => separators x (List.mem_of_mem_head? hx)
    | @cons separators segment _ _ separating ne inside ends rest =>
      cases separators with
      | nil =>
        exact ⟨_, .cons start (List.cons_ne_nil c segment) (List.forall_mem_cons.mpr ⟨hc, inside⟩)
          ends rest⟩
      | cons x _ =>
        refine apart fun y hy => ?_
        obtain rfl := Option.some.inj hy
        exact separating x List.mem_cons_self

/-- Every text has segments. -/
theorem exists_segmented (cs : List Char) : ∃ found, Segmented found cs := by
  induction cs with
  | nil => exact ⟨[], .none fun c hc => nomatch hc⟩
  | cons c cs ih =>
    obtain ⟨found, h⟩ := ih
    exact h.exists_cons c

/-- **The segments that are found** are those that the text has. -/
theorem segmented_segments (cs : List Char) : Segmented (segments cs) cs := by
  obtain ⟨found, h⟩ := exists_segmented cs
  rwa [h.segments_eq]

/-! ### Names -/

theorem modelName_eq_of_segments_eq {raw raw' : String}
    (h : segments raw.toList = segments raw'.toList) :
    modelName raw = modelName raw' := by
  rw [modelName, modelName, h]

/-- The name of a text with a separator in it. -/
theorem modelName_append_separator {c : Char} (hc : Text.isAlphanumeric c = false)
    (before behind : String) :
    modelName (before ++ String.singleton c ++ behind) = modelName before ++ modelName behind := by
  have cut : (before ++ String.singleton c ++ behind).toList
      = before.toList ++ c :: behind.toList := by simp
  rw [modelName, cut, segments_append_separator hc, List.flatMap_append, String.ofList_append]
  rfl

/-- **Names follow the segments.** The name of a text with a separator in it is the name of what
stands before the separator, and then the name of what stands behind it. Every text has exactly one
list of maximal alphanumeric segments, and its name is these segments with a capital in front of
each. So texts with the same segments have one name as models, as handlers and as hydrators,
whatever stands around and between the segments. -/
theorem names_follow_segments :
    (∀ (before behind : String) (c : Char), Text.isAlphanumeric c = false →
      modelName (before ++ String.singleton c ++ behind) = modelName before ++ modelName behind) ∧
    (∀ raw : String, ∃ found, Segmented found raw.toList ∧
      (∀ others, Segmented others raw.toList → others = found) ∧
      modelName raw = String.ofList (found.flatMap Text.capitalize)) ∧
    ∀ (found : List (List Char)) (raw raw' : String), Segmented found raw.toList →
      Segmented found raw'.toList →
      modelName raw = modelName raw' ∧ handlerName raw = handlerName raw' ∧
        hydratorName raw = hydratorName raw' := by
  refine ⟨fun before behind c hc => modelName_append_separator hc before behind, fun raw => ?_,
    fun found raw raw' h h' => ?_⟩
  · exact ⟨_, segmented_segments raw.toList, fun others h => h.segments_eq.symm, rfl⟩
  · have one : modelName raw = modelName raw' :=
      modelName_eq_of_segments_eq (h.segments_eq.trans h'.segments_eq.symm)
    rw [handlerName, handlerName, hydratorName, hydratorName, one]
    exact ⟨rfl, rfl, rfl⟩

/-- Slashes and braces in one text, a hyphen in another. -/
theorem names_of_pets_id :
    Text.isAlphanumeric '-' = false ∧ modelName "pets-id" = modelName "pets" ++ modelName "id" ∧
    Segmented ["pets".toList, "id".toList] "/pets/\x7bid\x7d".toList ∧
    Segmented ["pets".toList, "id".toList] "pets-id".toList ∧
    handlerName "/pets/\x7bid\x7d" = handlerName "pets-id" := by
  obtain ⟨cutting, -, same⟩ := names_follow_segments
  have hyphen : Text.isAlphanumeric '-' = false := by decide +kernel
  have braces : segments "/pets/\x7bid\x7d".toList = ["pets".toList, "id".toList] := by
    decide +kernel
  have plain : segments "pets-id".toList = ["pets".toList, "id".toList] := by decide +kernel
  have braces := braces ▸ segmented_segments "/pets/\x7bid\x7d".toList
  have plain := plain ▸ segmented_segments "pets-id".toList
  exact ⟨hyphen, cutting "pets" "id" '-' hyphen, braces, plain, (same _ _ _ braces plain).2.1⟩

end ApiStubs
