import ApiStubs.Path
import ApiStubs.Proofs.Split

/-!
# The steps of a path

The steps of a path are the texts between its slashes that are not empty. The path of something
inside a directory has the steps of the directory and one more, and the directory that a path lies
in has the steps before the last. So what lies below a directory by its components is found by its
steps as well.
-/

namespace ApiStubs

namespace Path

/-- The texts between the slashes that are not empty. -/
def steps (p : Path) : List (List Char) := p.pieces.filter fun piece => !piece.isEmpty

/-- A name that one file in a directory can have: neither empty nor a `.` nor a `..`, and without a
slash. -/
structure IsName (name : String) : Prop where
  /-- A slash would make several names of it. -/
  no_slash : '/' ∉ name.toList
  /-- It is there. -/
  ne_nil : name.toList ≠ []
  /-- It does not mean the directory. -/
  ne_here : name.toList ≠ ['.']
  /-- It does not lead out of the directory. -/
  ne_up : name.toList ≠ ['.', '.']

theorem isStep_iff (piece : List Char) : isStep piece = true ↔ piece ≠ [] ∧ piece ≠ ['.'] := by
  simp [isStep]

theorem isAbsolute_iff (p : Path) : p.isAbsolute = true ↔ p.text.toList.head? = some '/' := by
  simp [isAbsolute]

namespace IsName

variable {name : String}

theorem isStep (h : IsName name) : Path.isStep name.toList = true :=
  (isStep_iff _).mpr ⟨h.ne_nil, h.ne_here⟩

theorem head?_ne (h : IsName name) : name.toList.head? ≠ some '/' := fun e =>
  h.no_slash (List.mem_of_head? e)

theorem not_isAbsolute (h : IsName name) : isAbsolute ⟨name⟩ = false := by
  rw [← Bool.not_eq_true, isAbsolute_iff]
  exact h.head?_ne

theorem splitWhere_eq (h : IsName name) :
    Text.splitWhere (· = '/') name.toList = [name.toList] := by
  refine Text.splitWhere_of_forall fun c hc => ?_
  have ne : c ≠ '/' := fun e => h.no_slash (e ▸ hc)
  simpa using ne

end IsName

/-! ### Something inside a directory -/

variable {name : String}

/-- How the path of something inside a directory is spelled: a slash is put between only if the
directory is not spelled with one at the end. -/
theorem child_spelling (p : Path) (h : IsName name) :
    (p.text.toList = [] ∧ (p.child name).text.toList = name.toList) ∨
    (∃ before, p.text.toList = before ++ ['/'] ∧
      (p.child name).text.toList = before ++ '/' :: name.toList) ∨
    (p.text.toList ≠ [] ∧ (p.child name).text.toList = p.text.toList ++ '/' :: name.toList) := by
  unfold child join
  rw [h.not_isAbsolute]
  cases hl : p.text.toList.getLast? with
  | none =>
    left
    rw [List.getLast?_eq_none_iff] at hl
    exact ⟨hl, by simp [hl]⟩
  | some c =>
    right
    obtain ⟨before, hb⟩ := List.getLast?_eq_some_iff.mp hl
    by_cases hc : c = '/'
    · subst hc
      exact .inl ⟨before, hb, by simp [hb]⟩
    · right
      exact ⟨by simp [hb], by simp [hc]⟩

/-- The pieces of something inside a directory: those of the directory, without the empty one that a
slash at the end leaves, and then the name. -/
theorem child_pieces (p : Path) (h : IsName name) :
    ∃ kept, (p.pieces = kept ∨ p.pieces = kept ++ [[]]) ∧
      (p.child name).pieces = kept ++ [name.toList] := by
  have slash : (decide ('/' = '/')) = true := by simp
  unfold pieces
  rcases p.child_spelling h with ⟨hp, hc⟩ | ⟨before, hp, hc⟩ | ⟨-, hc⟩
  · rw [hp, hc, h.splitWhere_eq]
    exact ⟨[], .inr rfl, rfl⟩
  · rw [hp, hc, Text.splitWhere_append_separator slash, Text.splitWhere_append_separator slash,
      h.splitWhere_eq]
    exact ⟨_, .inr rfl, rfl⟩
  · rw [hc, Text.splitWhere_append_separator slash, h.splitWhere_eq]
    exact ⟨_, .inl rfl, rfl⟩

theorem child_isAbsolute (p : Path) (h : IsName name) :
    (p.child name).isAbsolute = p.isAbsolute := by
  rw [Bool.eq_iff_iff, isAbsolute_iff, isAbsolute_iff]
  rcases p.child_spelling h with ⟨hp, hc⟩ | ⟨before, hp, hc⟩ | ⟨hp, hc⟩
  · rw [hp, hc]
    simpa using h.head?_ne
  · rw [hp, hc]
    cases before <;> simp
  · obtain ⟨c, cs, hcs⟩ := List.exists_cons_of_ne_nil hp
    rw [hc, hcs]
    simp

/-- **The steps of something inside a directory**: those of the directory, and then the name. -/
theorem child_steps (p : Path) (h : IsName name) :
    (p.child name).steps = p.steps ++ [name.toList] := by
  obtain ⟨kept, hp, hc⟩ := p.child_pieces h
  have last : ([name.toList].filter fun piece => !piece.isEmpty) = [name.toList] := by
    simp [h.ne_nil]
  unfold steps
  rw [hc, List.filter_append, last]
  rcases hp with hp | hp <;> simp [hp]

theorem child_frontComponent (p : Path) (h : IsName name) :
    (p.child name).frontComponent = p.frontComponent := by
  unfold frontComponent
  rw [p.child_isAbsolute h]
  obtain ⟨kept, hp, hc⟩ := p.child_pieces h
  have head : ((p.child name).pieces.head? = some ['.']) ↔ (p.pieces.head? = some ['.']) := by
    rw [hc]
    cases kept with
    | cons piece others => rcases hp with hp | hp <;> simp [hp]
    | nil =>
      rcases hp with hp | hp
      · exact absurd hp (Text.splitWhere_ne_nil _ _)
      · simp [hp, h.ne_here]
  simp only [head]

theorem child_components (p : Path) (h : IsName name) :
    (p.child name).components = p.components ++ [.name name] := by
  obtain ⟨kept, hp, hc⟩ := p.child_pieces h
  have step : stepComponent name.toList = .name name := by
    simp [stepComponent, h.ne_up]
  have last : [name.toList].filter isStep = [name.toList] := by
    rw [List.filter_cons, if_pos h.isStep, List.filter_nil]
  have empty : [[]].filter isStep = [] := rfl
  unfold components
  rw [p.child_frontComponent h, hc, List.filter_append, List.map_append, last, List.map_singleton, step,
    List.append_assoc]
  congr 1
  rcases hp with hp | hp
  · rw [hp]
  · rw [hp, List.filter_append, empty, List.append_nil]

/-- To lie below a directory is to start with its components. -/
theorem isBelow_iff {p base : Path} : p.isBelow base = true ↔ base.components <+: p.components := by
  unfold isBelow below?
  constructor
  · intro h
    obtain ⟨rest, dropped⟩ := Option.isSome_iff_exists.mp h
    exact ⟨rest, (Text.eq_append_of_dropStart? dropped).symm⟩
  · rintro ⟨rest, h⟩
    rw [← h, Text.dropStart?_append]
    rfl

/-- Something inside a directory lies below it, and below what the directory lies below. -/
theorem child_isBelow (p base : Path) (h : IsName name) (below : p.isBelow base = true) :
    (p.child name).isBelow base = true := by
  rw [isBelow_iff] at below ⊢
  rw [p.child_components h]
  exact below.trans (List.prefix_append _ _)

theorem isBelow_self (p : Path) : p.isBelow p = true := isBelow_iff.mpr List.prefix_rfl

theorem child_endsInSlash (p : Path) (h : IsName name) :
    (p.child name).text.toList.getLast? ≠ some '/' := by
  have last : name.toList.getLast? ≠ some '/' := fun e => h.no_slash (List.mem_of_getLast? e)
  obtain ⟨c, cs, hcs⟩ := List.exists_cons_of_ne_nil h.ne_nil
  rcases p.child_spelling h with ⟨-, hc⟩ | ⟨before, -, hc⟩ | ⟨-, hc⟩
  · rwa [hc]
  · rw [hc, List.getLast?_append, List.getLast?_cons]
    rw [hcs] at last ⊢
    simpa [List.getLast?_cons] using last
  · rw [hc, List.getLast?_append, List.getLast?_cons]
    rw [hcs] at last ⊢
    simpa [List.getLast?_cons] using last

/-! ### The directory that a path lies in -/

variable {p parent : Path} {first : List Char} {others : List (List Char)}

theorem exists_pieces (p : Path) : ∃ first others, p.pieces = first :: others :=
  List.exists_cons_of_ne_nil (Text.splitWhere_ne_nil (fun c => decide (c = '/')) p.text.toList)

/-- An absolute path is one with more than an empty piece in front. -/
theorem isAbsolute_iff_of_pieces (h : p.pieces = first :: others) :
    p.isAbsolute = true ↔ first = [] ∧ others ≠ [] := by
  rw [isAbsolute_iff]
  unfold pieces at h
  cases hp : p.text.toList with
  | nil =>
    rw [hp, Text.splitWhere] at h
    cases h
    simp
  | cons c cs =>
    rw [hp] at h
    by_cases hc : c = '/'
    · subst hc
      rw [Text.splitWhere_cons_separator (by simp)] at h
      cases h
      simp [Text.splitWhere_ne_nil]
    · obtain ⟨piece, pieces, hs⟩ := List.exists_cons_of_ne_nil (Text.splitWhere_ne_nil (· = '/') cs)
      rw [Text.splitWhere_cons_other (by simpa using hc) hs] at h
      cases h
      simpa using hc

/-- Cut off at the last step: what is kept, what says nothing, the step, and what says nothing
behind it. -/
theorem exists_cut {others before : List (List Char)} {x : List Char}
    (h : others.reverse.dropWhile (fun piece => !isStep piece) = x :: before) :
    isStep x = true ∧ ∃ between behind, (∀ piece ∈ between ++ behind, isStep piece = false) ∧
      others = (before.dropWhile fun piece => !isStep piece).reverse ++ between ++ x :: behind := by
  have whole :=
    List.takeWhile_append_dropWhile (p := fun piece => !isStep piece) (l := others.reverse)
  have rest := List.takeWhile_append_dropWhile (p := fun piece => !isStep piece) (l := before)
  have quiet := List.all_takeWhile (p := fun piece => !isStep piece) (l := others.reverse)
  have still := List.all_takeWhile (p := fun piece => !isStep piece) (l := before)
  have step := List.head?_dropWhile_not (fun piece => !isStep piece) others.reverse
  rw [h] at whole step
  generalize others.reverse.takeWhile (fun piece => !isStep piece) = behind at whole quiet
  generalize before.takeWhile (fun piece => !isStep piece) = between at rest still
  refine ⟨by simpa using step, between.reverse, behind.reverse, fun piece hp => ?_, ?_⟩
  · rw [List.mem_append, List.mem_reverse, List.mem_reverse] at hp
    rcases hp with hp | hp
    · simpa using List.all_eq_true.mp still piece hp
    · simpa using List.all_eq_true.mp quiet piece hp
  · have back := congrArg List.reverse whole
    rw [List.reverse_reverse, ← rest] at back
    rw [← back]
    simp only [List.reverse_append, List.reverse_cons, List.append_assoc, List.singleton_append]

/-- The pieces of the directory that a path lies in. -/
theorem kept_pieces (kept : List (List Char)) (hp : p.pieces = first :: others)
    (h : ∀ piece ∈ kept, piece ∈ others) :
    pieces ⟨String.ofList (['/'].intercalate (first :: kept))⟩ = first :: kept := by
  unfold pieces at *
  rw [String.toList_ofList]
  refine Text.splitWhere_intercalate (by simp) fun piece hm => ?_
  have inside : piece ∈ Text.splitWhere (fun c => decide (c = '/')) p.text.toList := by
    rw [hp]
    rcases List.mem_cons.mp hm with rfl | hm
    · exact List.mem_cons_self
    · exact List.mem_cons_of_mem _ (h piece hm)
  exact Text.not_separator_of_mem_splitWhere inside

/-- Nothing says something where nothing is left to cut off at. -/
theorem quiet_of_dropWhile (h : others.reverse.dropWhile (fun piece => !isStep piece) = []) :
    ∀ piece ∈ others, isStep piece = false := by
  have whole :=
    List.takeWhile_append_dropWhile (p := fun piece => !isStep piece) (l := others.reverse)
  have quiet := List.all_takeWhile (p := fun piece => !isStep piece) (l := others.reverse)
  rw [h, List.append_nil] at whole
  rw [whole] at quiet
  exact fun piece hm => by simpa using List.all_eq_true.mp quiet piece (List.mem_reverse.mpr hm)

theorem filter_quiet {pieces : List (List Char)} (quiet : ∀ piece ∈ pieces, isStep piece = false) :
    pieces.filter isStep = [] :=
  List.filter_eq_nil_iff.mpr fun piece hm => by simp [quiet piece hm]

/-- The directory that a path lies in is the working directory if only the first piece says
something. Otherwise it is spelled as the path up to its last step: it starts like the path, and has
the pieces in front of that step that are not empty. -/
theorem parent?_cut (hp : p.pieces = first :: others) (h : p.parent? = some parent) :
    (first ≠ [] ∧ (∀ piece ∈ others, isStep piece = false) ∧ parent = ⟨""⟩) ∨
    ∃ kept between x behind, others = kept ++ between ++ x :: behind ∧ isStep x = true ∧
      (∀ piece ∈ between ++ behind, isStep piece = false) ∧ parent.isAbsolute = p.isAbsolute ∧
      parent.pieces.head? = some first ∧
      ∀ q : List Char → Bool, q [] = false → parent.pieces.filter q = (first :: kept).filter q := by
  have absolute := isAbsolute_iff_of_pieces hp
  unfold parent? at h
  rw [hp] at h
  dsimp only at h
  cases hd : others.reverse.dropWhile (fun piece => !isStep piece) with
  | nil =>
    rw [hd] at h
    dsimp only at h
    split at h
    · cases h
    · next hf =>
      obtain rfl := Option.some.inj h
      exact .inl ⟨by simpa using hf, quiet_of_dropWhile hd, rfl⟩
  | cons x before =>
    rw [hd] at h
    dsimp only at h
    obtain ⟨step, between, behind, quiet, cut⟩ := exists_cut hd
    generalize (before.dropWhile fun piece => !isStep piece).reverse = kept at *
    have others_ne : others ≠ [] := by simp [cut]
    refine .inr ⟨kept, between, x, behind, cut, step, quiet, ?_⟩
    split at h
    · -- nothing but the slash in front is kept
      next hk =>
      obtain rfl := Option.some.inj h
      obtain ⟨ha, hk⟩ := hk
      have slash : pieces ⟨"/"⟩ = [[], []] := rfl
      rw [ha, (absolute.mp ha).1, List.isEmpty_iff.mp hk, slash]
      exact ⟨rfl, rfl, fun q hq => by simp [hq]⟩
    · next hk =>
      obtain rfl := Option.some.inj h
      have pieces := kept_pieces kept hp fun piece hm => by simp [cut, hm]
      rw [pieces]
      refine ⟨?_, rfl, fun q _ => rfl⟩
      rw [Bool.eq_iff_iff, isAbsolute_iff_of_pieces pieces, absolute]
      constructor
      · rintro ⟨hf, -⟩
        exact ⟨hf, others_ne⟩
      · rintro ⟨hf, hne⟩
        refine ⟨hf, fun hn => hk ⟨absolute.mpr ⟨hf, hne⟩, ?_⟩⟩
        simp [hn]

/-- What stands before the last step when what stands behind it says nothing. -/
theorem eq_nil_of_quiet {behind front : List (List Char)} {name : List Char}
    (quiet : ∀ piece ∈ behind, isStep piece = false) (hn : isStep name = true) {before : List (List Char)}
    (h : before ++ behind = front ++ [name]) : behind = [] := by
  rcases List.eq_nil_or_concat behind with rfl | ⟨some, last, rfl⟩
  · rfl
  · rw [List.concat_eq_append, ← List.append_assoc] at h
    obtain ⟨-, hl⟩ := List.append_inj' h rfl
    have no := quiet last (by simp)
    rw [List.singleton_inj.mp hl, hn] at no
    exact absurd no (by simp)

/-- Where only the first piece says something, the path is relative. -/
theorem isAbsolute_of_first (hp : p.pieces = first :: others) (hf : first ≠ []) :
    p.isAbsolute = false := by
  rw [← Bool.not_eq_true]
  exact fun absolute => hf ((isAbsolute_iff_of_pieces hp).mp absolute).1

/-- **The directory that a path lies in** starts where the path starts, and its steps are the first
of those of the path; it lacks the last one when that is a step that says something. -/
theorem parent?_steps (h : p.parent? = some parent) :
    parent.isAbsolute = p.isAbsolute ∧ parent.steps <+: p.steps ∧
    ∀ front name, p.steps = front ++ [name] → isStep name = true → parent.steps <+: front := by
  obtain ⟨first, others, hp⟩ := p.exists_pieces
  rcases parent?_cut hp h with ⟨hf, -, rfl⟩ | ⟨kept, between, x, behind, cut, step, quiet, absolute, -, same⟩
  · have none : steps ⟨""⟩ = [] := rfl
    rw [none, isAbsolute_of_first hp hf]
    exact ⟨rfl, List.nil_prefix, fun _ _ _ _ => List.nil_prefix⟩
  · have last : [x].filter (fun piece => !piece.isEmpty) = [x] := by
      simp [((isStep_iff x).mp step).1]
    have whole : p.steps = parent.steps
        ++ between.filter (fun piece => !piece.isEmpty) ++ [x]
        ++ behind.filter (fun piece => !piece.isEmpty) := by
      unfold steps
      rw [hp, same _ rfl, cut, ← last, ← List.filter_append, ← List.filter_append,
        ← List.filter_append]
      simp
    refine ⟨absolute, ?_, fun front name hf hn => ?_⟩
    · rw [whole, List.append_assoc, List.append_assoc]
      exact List.prefix_append _ _
    · rw [whole] at hf
      have nothing := eq_nil_of_quiet
        (fun piece hm => quiet piece (List.mem_append_right _ (List.mem_filter.mp hm).1)) hn hf
      rw [nothing, List.append_nil] at hf
      rw [← (List.append_inj' hf rfl).1]
      exact List.prefix_append _ _

/-- **The components of the directory that a path lies in** are those of the path without the
last. -/
theorem parent?_components (h : p.parent? = some parent) :
    ∃ c, p.components = parent.components ++ [c] := by
  obtain ⟨first, others, hp⟩ := p.exists_pieces
  unfold components frontComponent
  rcases parent?_cut hp h with ⟨hf, quiet, rfl⟩ |
    ⟨kept, between, x, behind, cut, step, quiet, absolute, head, same⟩
  · have none : pieces ⟨""⟩ = [[]] := rfl
    have relative : isAbsolute ⟨""⟩ = false := rfl
    rw [isAbsolute_of_first hp hf, relative, hp, none]
    by_cases here : first = ['.']
    · rw [here, List.filter_cons_of_neg (by decide), filter_quiet quiet]
      exact ⟨.here, rfl⟩
    · have step : isStep first = true := (isStep_iff first).mpr ⟨hf, here⟩
      rw [List.filter_cons_of_pos step, filter_quiet quiet]
      exact ⟨stepComponent first, by simp [here, isStep]⟩
  · refine ⟨stepComponent x, ?_⟩
    rw [absolute, head, same isStep rfl, hp, cut, ← List.cons_append, ← List.cons_append,
      List.filter_append, List.filter_append, List.filter_cons_of_pos step,
      filter_quiet fun piece hm => quiet piece (List.mem_append_left _ hm),
      filter_quiet fun piece hm => quiet piece (List.mem_append_right _ hm)]
    simp

/-- Only a path that says nothing, or nothing but the root, lies in no directory. -/
theorem components_of_parent?_none (h : p.parent? = none) :
    p.components = [] ∨ p.components = [.root] := by
  obtain ⟨first, others, hp⟩ := p.exists_pieces
  unfold parent? at h
  rw [hp] at h
  dsimp only at h
  split at h
  · split at h <;> cases h
  · next hd =>
    split at h
    · next hf =>
      rw [List.isEmpty_iff.mp hf] at hp
      unfold components frontComponent
      rw [hp, List.filter_cons_of_neg (by decide), filter_quiet (quiet_of_dropWhile hd)]
      cases p.isAbsolute
      · exact .inl rfl
      · exact .inr rfl
    · cases h

/-- A path that ends in a name says the same as the directory it lies in, and then the name. -/
theorem components_of_fileName? (h : p.fileName? = some name) :
    p.components = p.parentD.components ++ [.name name] := by
  have last : p.components.getLast? = some (.name name) := by
    unfold fileName? at h
    split at h
    · next found => rw [found, Option.some.inj h]
    · cases h
  cases hd : p.parent? with
  | none =>
    rcases components_of_parent?_none hd with none | root
    · rw [none] at last
      cases last
    · rw [root] at last
      cases last
  | some parent =>
    obtain ⟨c, whole⟩ := parent?_components hd
    rw [whole, List.getLast?_concat] at last
    rw [parentD, hd, whole, Option.some.inj last]
    rfl

end Path

end ApiStubs
