import ApiStubs.Proofs.GlobTables

/-!
# What a pattern means

The texts that a pattern of an ignore file stands for are described on the pattern itself, as it is
read from left to right (`CoversBody`), with the places where a text may start (`CoversRest`) and
the directory that a slash at the end stands for (`Covers`). The tokens of a pattern match these
texts.

## What is proved

* `fits_globTokens_iff`: the tokens of a body match what the body stands for.
* `fits_restTokens_iff`: the same with the places where a text may start.
* `Glob.fits_tokens_iff`: the same for a whole pattern.
-/

namespace ApiStubs

/-! ### The language of a pattern -/

/-- The text is one that the body of a pattern stands for. -/
inductive CoversBody : List Char → List Char → Prop where
  /-- Nothing stands for nothing. -/
  | nil : CoversBody [] []
  /-- Two stars and a slash stand for nothing. -/
  | noDirectory {body text : List Char} : CoversBody body text →
      CoversBody ('*' :: '*' :: '/' :: body) text
  /-- Or they stand for any text on one line that ends in a slash. -/
  | directories {body front text : List Char} : '\n' ∉ front → CoversBody body text →
    CoversBody ('*' :: '*' :: '/' :: body) (front ++ '/' :: text)
  /-- Any other two stars stand for any text on one line. -/
  | anyText {body front text : List Char} : body.head? ≠ some '/' → '\n' ∉ front →
      CoversBody body text →
    CoversBody ('*' :: '*' :: body) (front ++ text)
  /-- A single star stands for any text without a slash. -/
  | namePart {body front text : List Char} : body.head? ≠ some '*' → '/' ∉ front →
      CoversBody body text →
    CoversBody ('*' :: body) (front ++ text)
  /-- A question mark stands for any character but a slash. -/
  | nameChar {body text : List Char} {c : Char} : c ≠ '/' → CoversBody body text →
    CoversBody ('?' :: body) (c :: text)
  /-- Every other character stands for itself. -/
  | char {body text : List Char} {c : Char} : c ≠ '*' → c ≠ '?' → CoversBody body text →
    CoversBody (c :: body) (c :: text)

/-- The text is one that a pattern without a slash at the end stands for. -/
inductive CoversRest : List Char → List Char → Prop where
  /-- A slash in front anchors the pattern, and stands for nothing. -/
  | rooted {body text : List Char} : CoversBody body text → CoversRest ('/' :: body) text
  /-- So does a slash elsewhere. -/
  | anchored {rest text : List Char} : rest.head? ≠ some '/' → '/' ∈ rest → CoversBody rest text →
    CoversRest rest text
  /-- Without a slash, the pattern may stand at the root. -/
  | atRoot {rest text : List Char} : '/' ∉ rest → CoversBody rest text → CoversRest rest text
  /-- And it may stand behind any text on one line that ends in a slash. -/
  | inDirectory {rest front text : List Char} : '/' ∉ rest → '\n' ∉ front → CoversBody rest text →
    CoversRest rest (front ++ '/' :: text)

/-- The text is one that a pattern without blanks around it stands for. -/
inductive Covers : List Char → List Char → Prop where
  /-- A slash at the end stands for what is below a directory. -/
  | directory {rest text behind : List Char} : CoversRest rest text → '\n' ∉ behind →
    Covers (rest ++ ['/']) (text ++ '/' :: behind)
  /-- Any other pattern stands for what the rest of it does. -/
  | file {rest text : List Char} : rest.getLast? ≠ some '/' → CoversRest rest text →
      Covers rest text

/-! ### The tokens of a pattern -/

section

variable {body rest text : List Char} {P : List Char → Prop}

/-- A text on one line, and then another one. -/
theorem manyThen_ne_iff {c : Char} :
    ManyThen (· ≠ c) P text ↔ ∃ front rest, text = front ++ rest ∧ c ∉ front ∧ P rest := by
  simp only [ManyThen, ne_eq, List.forall_mem_ne']

theorem coversBody_nil_iff : CoversBody [] text ↔ text = [] := by
  constructor
  · intro h
    cases h
    rfl
  · rintro rfl
    exact .nil

theorem coversBody_directories_iff :
    CoversBody ('*' :: '*' :: '/' :: body) text ↔
      GlobToken.directories.Then (CoversBody body) text := by
  rw [GlobToken.Then, manyThen_ne_iff]
  constructor
  · intro h
    cases h with
    | noDirectory h => exact .inl h
    | directories line h => exact .inr ⟨_, _, rfl, line, _, _, rfl, rfl, h⟩
    | anyText other => exact absurd rfl other
    | namePart single => exact absurd rfl single
    | char star => exact absurd rfl star
  · rintro (h | ⟨front, _, rfl, line, _, _, rfl, rfl, h⟩)
    · exact .noDirectory h
    · exact .directories line h

theorem coversBody_anyText_iff (other : body.head? ≠ some '/') :
    CoversBody ('*' :: '*' :: body) text ↔ GlobToken.anyText.Then (CoversBody body) text := by
  rw [GlobToken.Then, manyThen_ne_iff]
  constructor
  · intro h
    cases h with
    | noDirectory => exact absurd rfl other
    | directories => exact absurd rfl other
    | anyText _ line h => exact ⟨_, _, rfl, line, h⟩
    | namePart single => exact absurd rfl single
    | char star => exact absurd rfl star
  · rintro ⟨front, rest, rfl, line, h⟩
    exact .anyText other line h

theorem coversBody_namePart_iff (single : body.head? ≠ some '*') :
    CoversBody ('*' :: body) text ↔ GlobToken.namePart.Then (CoversBody body) text := by
  rw [GlobToken.Then, manyThen_ne_iff]
  constructor
  · intro h
    cases h with
    | noDirectory => exact absurd rfl single
    | directories => exact absurd rfl single
    | anyText => exact absurd rfl single
    | namePart _ name h => exact ⟨_, _, rfl, name, h⟩
    | char star => exact absurd rfl star
  · rintro ⟨front, rest, rfl, name, h⟩
    exact .namePart single name h

theorem coversBody_nameChar_iff :
    CoversBody ('?' :: body) text ↔ GlobToken.nameChar.Then (CoversBody body) text := by
  rw [GlobToken.Then]
  constructor
  · intro h
    cases h with
    | nameChar name h => exact ⟨_, _, rfl, name, h⟩
    | char _ mark => exact absurd rfl mark
  · rintro ⟨c, rest, rfl, name, h⟩
    exact .nameChar name h

theorem coversBody_char_iff {c : Char} (star : c ≠ '*') (mark : c ≠ '?') :
    CoversBody (c :: body) text ↔ (GlobToken.char c).Then (CoversBody body) text := by
  rw [GlobToken.Then]
  constructor
  · intro h
    cases h with
    | noDirectory => exact absurd rfl star
    | directories => exact absurd rfl star
    | anyText => exact absurd rfl star
    | namePart => exact absurd rfl star
    | nameChar => exact absurd rfl mark
    | char _ _ h => exact ⟨_, _, rfl, rfl, h⟩
  · rintro ⟨c', rest, rfl, rfl, h⟩
    exact .char star mark h

theorem head?_ne_of_forall {c : Char} (other : ∀ cs, body = c :: cs → False) :
    body.head? ≠ some c := by
  intro h
  obtain ⟨cs, rfl⟩ := List.head?_eq_some_iff.mp h
  exact other cs rfl

/-- **The tokens of a body** match what the body stands for. -/
theorem fits_globTokens_iff : GlobToken.Fits (globTokens body) text ↔ CoversBody body text := by
  fun_induction globTokens body generalizing text with
  | case1 => rw [coversBody_nil_iff, GlobToken.Fits]
  | case2 body ih => rw [GlobToken.Fits, GlobToken.then_congr fun t => ih, coversBody_directories_iff]
  | case3 body other ih =>
    rw [GlobToken.Fits, GlobToken.then_congr fun t => ih,
      coversBody_anyText_iff (head?_ne_of_forall other)]
  | case4 body _ single ih =>
    rw [GlobToken.Fits, GlobToken.then_congr fun t => ih,
      coversBody_namePart_iff (head?_ne_of_forall single)]
  | case5 body ih => rw [GlobToken.Fits, GlobToken.then_congr fun t => ih, coversBody_nameChar_iff]
  | case6 c body _ _ star mark ih =>
    rw [GlobToken.Fits, GlobToken.then_congr fun t => ih, coversBody_char_iff star mark]

/-- A pattern without a slash at the end stands for what the rest of it does. -/
theorem covers_iff_of_file (last : rest.getLast? ≠ some '/') :
    Covers rest text ↔ CoversRest rest text := by
  constructor
  · intro h
    cases h with
    | directory => exact absurd List.getLast?_concat last
    | file _ covered => exact covered
  · exact .file last

/-- A pattern with a slash inside stands for what its body does. -/
theorem coversRest_iff_of_anchored (front : rest.head? ≠ some '/') (inside : '/' ∈ rest) :
    CoversRest rest text ↔ CoversBody rest text := by
  constructor
  · intro h
    cases h with
    | rooted => exact absurd rfl front
    | anchored _ _ covered => exact covered
    | atRoot free => exact absurd inside free
    | inDirectory free => exact absurd inside free
  · exact .anchored front inside

/-- The tokens of a pattern without a slash at the end. -/
def restTokens (rest : List Char) : List GlobToken :=
  (if rest.contains '/' then [] else [.directories])
    ++ globTokens (if rest.head? = some '/' then rest.tail else rest)

/-- The tokens of a pattern without a slash at the end match what it stands for. -/
theorem fits_restTokens_iff : GlobToken.Fits (restTokens rest) text ↔ CoversRest rest text := by
  rw [restTokens]
  by_cases slash : '/' ∈ rest
  · rw [if_pos (List.contains_iff_mem.mpr slash), List.nil_append, fits_globTokens_iff]
    by_cases front : rest.head? = some '/'
    · obtain ⟨body, rfl⟩ := List.head?_eq_some_iff.mp front
      rw [if_pos front, List.tail_cons]
      constructor
      · exact .rooted
      · intro h
        cases h with
        | rooted h => exact h
        | anchored other => exact absurd rfl other
        | atRoot free => exact absurd slash free
        | inDirectory free => exact absurd slash free
    · rw [if_neg front, coversRest_iff_of_anchored front slash]
  · have front : rest.head? ≠ some '/' := fun h => slash (List.mem_of_mem_head? h)
    rw [if_neg fun h => slash (List.contains_iff_mem.mp h), if_neg front, List.singleton_append,
      GlobToken.Fits, GlobToken.then_congr fun t => fits_globTokens_iff, GlobToken.Then, manyThen_ne_iff]
    constructor
    · rintro (h | ⟨front, _, rfl, line, _, _, rfl, rfl, h⟩)
      · exact .atRoot slash h
      · exact .inDirectory slash line h
    · intro h
      cases h with
      | rooted => exact absurd List.mem_cons_self slash
      | anchored _ inside => exact absurd inside slash
      | atRoot _ h => exact .inl h
      | inDirectory _ line h => exact .inr ⟨_, _, rfl, line, _, _, rfl, rfl, h⟩

/-- What a slash at the end stands for. -/
def belowTokens : List GlobToken := [.char '/', .anyText]

theorem fits_belowTokens_iff :
    GlobToken.Fits belowTokens text ↔ ∃ behind, text = '/' :: behind ∧ '\n' ∉ behind := by
  simp only [belowTokens, GlobToken.Fits, GlobToken.Then, manyThen_ne_iff]
  constructor
  · rintro ⟨_, _, rfl, rfl, behind, _, rfl, line, rfl⟩
    exact ⟨behind, by rw [List.append_nil], line⟩
  · rintro ⟨behind, rfl, line⟩
    exact ⟨'/', behind, rfl, rfl, behind, [], (List.append_nil behind).symm, line, rfl⟩

end

namespace Glob

variable {pattern : String} {rest text : List Char}

theorem tokens_ofText_directory (h : Text.trim pattern.toList = rest ++ ['/']) :
    (ofText pattern).tokens = restTokens rest ++ belowTokens := by
  simp only [ofText, tokens, h, List.getLast?_concat, List.dropLast_concat, decide_true, if_true,
    restTokens, belowTokens]

theorem tokens_ofText_file (h : (Text.trim pattern.toList).getLast? ≠ some '/') :
    (ofText pattern).tokens = restTokens (Text.trim pattern.toList) := by
  simp only [ofText, tokens, h, decide_false, if_false, restTokens, Bool.false_eq_true,
    List.append_nil]

/-- **The tokens of a pattern** match what the pattern stands for. -/
theorem fits_tokens_iff :
    GlobToken.Fits (ofText pattern).tokens text ↔ Covers (Text.trim pattern.toList) text := by
  by_cases slash : (Text.trim pattern.toList).getLast? = some '/'
  · obtain ⟨rest, split⟩ := List.getLast?_eq_some_iff.mp slash
    rw [tokens_ofText_directory split, GlobToken.fits_append, split]
    constructor
    · rintro ⟨front, _, rfl, covered, below⟩
      obtain ⟨behind, rfl, line⟩ := fits_belowTokens_iff.mp below
      exact .directory (fits_restTokens_iff.mp covered) line
    · intro h
      generalize whole : rest ++ ['/'] = trimmed at h
      cases h with
      | directory covered line =>
        obtain rfl := List.append_cancel_right whole
        exact ⟨_, _, rfl, fits_restTokens_iff.mpr covered, fits_belowTokens_iff.mpr ⟨_, rfl, line⟩⟩
      | file other =>
        rw [← whole, List.getLast?_concat] at other
        exact absurd rfl other
  · rw [tokens_ofText_file slash, fits_restTokens_iff, covers_iff_of_file slash]

end Glob

end ApiStubs
