import ApiStubs.Proofs.KeptFiles
import ApiStubs.Proofs.PatternExpressions

/-!
# Patterns that count slashes

Stars between slashes match the texts that have as many slashes. So there is an ignore file that
tells a path from every other one that is seen with another number of components, whatever the
components are.

## What is proved

* `coversBody_stars_iff`: what stars between slashes stand for.
* `patternLines_stars`: they are a pattern of an ignore file.
* `matchesPattern_stars_iff`: which paths the pattern matches.
-/

namespace ApiStubs

/-! ### The pattern -/

/-- Stars with `n` slashes between them. -/
def stars : Nat → List Char
  | 0 => ['*']
  | n + 1 => '*' :: '/' :: stars n

theorem mem_stars {c : Char} {n : Nat} (h : c ∈ stars n) : c = '*' ∨ c = '/' := by
  induction n with
  | zero => exact .inl (List.mem_singleton.mp h)
  | succ n ih =>
    rcases List.mem_cons.mp h with rfl | h
    · exact .inl rfl
    · rcases List.mem_cons.mp h with rfl | h
      · exact .inr rfl
      · exact ih h

theorem getLast?_stars (n : Nat) : (stars n).getLast? = some '*' := by
  induction n with
  | zero => rfl
  | succ n ih => rw [stars, List.getLast?_cons, List.getLast?_cons, ih]; rfl

theorem isBlank_of_mem_stars {n : Nat} : ∀ c ∈ stars n, Text.isBlank c = false := by
  intro c hc
  rcases mem_stars hc with rfl | rfl <;> decide

/-- The first slash of a text. -/
theorem count_slash_eq_succ_iff {text : List Char} {n : Nat} : text.count '/' = n + 1 ↔
    ∃ front rest, text = front ++ '/' :: rest ∧ '/' ∉ front ∧ rest.count '/' = n := by
  constructor
  · intro h
    have inside : '/' ∈ text := List.count_pos_iff.mp (by omega)
    obtain ⟨front, rest, rfl, free⟩ := List.eq_append_cons_of_mem inside
    refine ⟨front, rest, rfl, free, ?_⟩
    rw [List.count_append, List.count_eq_zero_of_not_mem free, List.count_cons_self] at h
    omega
  · rintro ⟨front, rest, rfl, free, h⟩
    rw [List.count_append, List.count_eq_zero_of_not_mem free, List.count_cons_self, h]
    omega

/-- **Stars between slashes** stand for the texts with as many slashes. -/
theorem coversBody_stars_iff {n : Nat} {text : List Char} :
    CoversBody (stars n) text ↔ text.count '/' = n := by
  induction n generalizing text with
  | zero =>
    rw [stars, coversBody_namePart_iff (by simp), GlobToken.Then, manyThen_ne_iff,
      List.count_eq_zero]
    simp only [coversBody_nil_iff]
    constructor
    · rintro ⟨front, _, rfl, free, rfl⟩
      rwa [List.append_nil]
    · exact fun free => ⟨text, [], (List.append_nil text).symm, free, rfl⟩
  | succ n ih =>
    rw [stars, coversBody_namePart_iff (by simp), GlobToken.Then, manyThen_ne_iff,
      count_slash_eq_succ_iff]
    simp only [coversBody_char_iff (c := '/') (by decide) (by decide), GlobToken.Then, OneThen, ih]
    constructor
    · rintro ⟨front, _, rfl, free, _, rest, rfl, rfl, h⟩
      exact ⟨front, rest, rfl, free, h⟩
    · rintro ⟨front, rest, rfl, free, h⟩
      exact ⟨front, _, rfl, free, _, rest, rfl, rfl, h⟩

/-! ### Ignore files of one line -/

namespace Text

variable {cs : List Char}

/-- Nothing is trimmed where no blanks are. -/
theorem trim_of_solid (h : ∀ c ∈ cs, isBlank c = false) : trim cs = cs := by
  have left : trimLeft cs = cs := by
    cases cs with
    | nil => rfl
    | cons c cs => exact List.dropWhile_cons_of_neg (by simp [h c List.mem_cons_self])
  rw [trim, left]
  clear left
  induction cs with
  | nil => rfl
  | cons c cs ih =>
    have rest := ih fun x hx => h x (List.mem_cons_of_mem c hx)
    rw [trimRight, rest]
    cases cs with
    | nil => simp [h c List.mem_cons_self]
    | cons d ds => rfl

/-- A text without a line feed is one line, unless it is empty. -/
theorem lines_of_single (h : ∀ c ∈ cs, c ≠ '\n') (ne : cs ≠ []) : lines cs = [cs] := by
  have one : splitWhere (· = '\n') cs = [cs] := splitWhere_of_forall (by simpa using h)
  obtain ⟨c, cs, rfl⟩ := List.exists_cons_of_ne_nil ne
  rw [lines, one]
  rfl

end Text

namespace IgnoreRules

variable {n : Nat}

theorem patternLines_stars (n : Nat) : patternLines (String.ofList (stars n)) = [stars n] := by
  have full : stars n ≠ [] := by cases n <;> simp [stars]
  have first : (stars n).head? ≠ some '#' := by cases n <;> simp [stars]
  have line : ∀ c ∈ stars n, c ≠ '\n' := by
    intro c hc
    rcases mem_stars hc with rfl | rfl <;> decide
  have pattern : isPatternLine (stars n) = true := by simp [isPatternLine, full, first]
  rw [patternLines, String.toList_ofList, Text.lines_of_single line full, List.map_singleton,
    Text.trim_of_solid isBlank_of_mem_stars, List.filter_cons_of_pos pattern, List.filter_nil]

/-- The rules of an ignore file of stars leave alone what is seen with as many slashes. -/
theorem matchesPattern_stars_iff (root p : Path) :
    (ofContent root (String.ofList (stars (n + 1)))).matchesPattern p = true ↔
      ((ofContent root (String.ofList (stars (n + 1)))).relative p).toList.count '/' = n + 1 := by
  have last : (stars (n + 1)).getLast? ≠ some '/' := by
    rw [getLast?_stars]
    decide
  have covered : ∀ text, Covers (stars (n + 1)) text ↔ text.count '/' = n + 1 := by
    intro text
    rw [covers_iff_of_file last, coversRest_iff_of_anchored (by simp [stars]) (by simp [stars]),
      coversBody_stars_iff]
  have solid : Text.trim (stars (n + 1)) = stars (n + 1) := Text.trim_of_solid isBlank_of_mem_stars
  rw [ofContent_eq, patternLines_stars, List.map_singleton, matchesPattern, List.any_cons,
    List.any_nil, Bool.or_false, Glob.accepts_ofText_iff, String.toList_ofList, solid, covered]

end IgnoreRules

/-! ### Slashes between components -/

/-- Between names without slashes there is one slash less than there are names. -/
theorem count_slash_intercalate {names : List String} (h : ∀ name ∈ names, '/' ∉ name.toList) :
    ("/".intercalate names).toList.count '/' = names.length - 1 := by
  induction names with
  | nil => rfl
  | cons name names ih =>
    obtain ⟨free, others⟩ := List.forall_mem_cons.mp h
    have none : name.toList.count '/' = 0 := List.count_eq_zero_of_not_mem free
    rcases eq_or_ne names [] with rfl | more
    · rw [String.intercalate_singleton, none, List.length_singleton]
    · have slash : "/".toList.count '/' = 1 := by decide
      have some : 0 < names.length := List.length_pos_of_ne_nil more
      rw [String.intercalate_cons_of_ne_nil more, String.toList_append, String.toList_append,
        List.count_append, List.count_append, none, slash, ih others, List.length_cons]
      omega

end ApiStubs
