import ApiStubs.Ignore.Regex
import ApiStubs.Ignore.Rules
import ApiStubs.Proofs.PatternLanguage

/-!
# Patterns and their regular expressions

The regular expression of a pattern is written while the pattern is read. It can be read again,
whatever the pattern, and what it matches are the texts that the pattern stands for.

Every token of a pattern is written as one part of an expression, and reading takes the parts one
after the other. A token that stands for a character is written so that the character means nothing
else, and the only group is closed before the next part begins; so a part is read in the same way
whatever stands around it.

## What is proved

* `matches_regexPart_iff`: the part of a token matches what the token does.
* `readParts?_regexText`: what is written for a token is read as its part.
* `Regex.read?_ofPattern`: the expression of a pattern is read as the parts of its tokens.
* `patterns_mean`: what this says of the rules with one more pattern.
-/

namespace ApiStubs

namespace Regex

/-! ### What parts match -/

variable {part : Part} {parts group : List Part} {text : List Char}

theorem matches_nil_iff : Matches [] text ↔ text = [] := by
  constructor
  · intro h
    cases h
    rfl
  · rintro rfl
    exact .nil

theorem matches_char_iff {c : Char} : Matches (.char c :: parts) text ↔ OneThen (· = c) (Matches parts) text := by
  constructor
  · intro h
    cases h with
    | char h => exact ⟨_, _, rfl, rfl, h⟩
  · rintro ⟨_, rest, rfl, rfl, h⟩
    exact .char h

theorem matches_lineChar_iff : Matches (.lineChar :: parts) text ↔ OneThen (· ≠ '\n') (Matches parts) text := by
  constructor
  · intro h
    cases h with
    | lineChar line h => exact ⟨_, _, rfl, line, h⟩
  · rintro ⟨c, rest, rfl, line, h⟩
    exact .lineChar line h

theorem matches_nameChar_iff : Matches (.nameChar :: parts) text ↔ OneThen (· ≠ '/') (Matches parts) text := by
  constructor
  · intro h
    cases h with
    | nameChar name h => exact ⟨_, _, rfl, name, h⟩
  · rintro ⟨c, rest, rfl, name, h⟩
    exact .nameChar name h

/-- Repeating a part that matches single characters matches any number of them. -/
theorem matches_star_iff {p : Char → Prop} (one : ∀ t, Matches [part] t ↔ ∃ c, p c ∧ t = [c]) :
    Matches (.star part :: parts) text ↔ ManyThen p (Matches parts) text := by
  constructor
  · -- By induction on the match, as the part that is repeated stays in front.
    intro h
    generalize whole : Part.star part :: parts = all at h
    induction h with
    | stop rest =>
      obtain ⟨-, rfl⟩ := List.cons.inj whole
      exact ⟨[], _, rfl, by simp, rest⟩
    | more first _ _ ih =>
      obtain ⟨same, rfl⟩ := List.cons.inj whole
      obtain rfl := Part.star.inj same
      obtain ⟨c, hc, rfl⟩ := (one _).mp first
      obtain ⟨front, rest, rfl, many, h⟩ := ih rfl
      exact ⟨c :: front, rest, rfl, List.forall_mem_cons.mpr ⟨hc, many⟩, h⟩
    | nil => cases whole
    | char => cases whole
    | lineChar => cases whole
    | nameChar => cases whole
    | without => cases whole
    | within => cases whole
  · -- By induction on the characters that are taken.
    rintro ⟨front, rest, rfl, many, h⟩
    induction front with
    | nil => exact .stop h
    | cons c front ih =>
      obtain ⟨hc, many⟩ := List.forall_mem_cons.mp many
      have first : Matches [part] [c] := (one [c]).mpr ⟨c, hc, rfl⟩
      have all : Matches (.star part :: parts) ([c] ++ (front ++ rest)) := first.more (ih many)
      exact all

theorem matches_optional_iff :
    Matches (.optional group :: parts) text ↔
      Matches parts text ∨ Joined (Matches group) (Matches parts) text := by
  constructor
  · intro h
    cases h with
    | without h => exact .inl h
    | within inside h => exact .inr ⟨_, _, rfl, inside, h⟩
  · rintro (h | ⟨front, rest, rfl, inside, h⟩)
    · exact .without h
    · exact .within inside h

theorem joined_matches_nil {P : List Char → Prop} : Joined (Matches []) P = P := by
  funext text
  refine propext ⟨?_, ?_⟩
  · rintro ⟨_, rest, rfl, h, hr⟩
    obtain rfl := matches_nil_iff.mp h
    exact hr
  · intro h
    exact ⟨[], text, rfl, .nil, h⟩

/-- A character, and nothing behind it. -/
theorem oneThen_nil_iff {p : Char → Prop} :
    OneThen p (Matches []) text ↔ ∃ c, p c ∧ text = [c] := by
  constructor
  · rintro ⟨c, rest, rfl, hc, h⟩
    obtain rfl := matches_nil_iff.mp h
    exact ⟨c, hc, rfl⟩
  · rintro ⟨c, hc, rfl⟩
    exact ⟨c, [], rfl, hc, .nil⟩

theorem matches_lineText_iff :
    Matches (.star .lineChar :: parts) text ↔ ManyThen (· ≠ '\n') (Matches parts) text :=
  matches_star_iff fun _ => matches_lineChar_iff.trans oneThen_nil_iff

theorem matches_nameText_iff :
    Matches (.star .nameChar :: parts) text ↔ ManyThen (· ≠ '/') (Matches parts) text :=
  matches_star_iff fun _ => matches_nameChar_iff.trans oneThen_nil_iff

end Regex

/-! ### Tokens as parts -/

namespace GlobToken

open Regex

/-- The token as a part of an expression. -/
def regexPart : GlobToken → Part
  | .char c => .char c
  | .nameChar => .nameChar
  | .namePart => .star .nameChar
  | .anyText => .star .lineChar
  | .directories => .optional [.star .lineChar, .char '/']

/-- The token as it is written in an expression. -/
def regexText : GlobToken → List Char
  | .char c => escaped c
  | .nameChar => ['[', '^', '/', ']']
  | .namePart => ['[', '^', '/', ']', '*']
  | .anyText => ['.', '*']
  | .directories => directoriesText

variable {token : GlobToken} {parts : List Part} {opened : List (List Part)} {text cs : List Char}

/-- The part of a token matches what the token does. -/
theorem matches_regexPart_iff : Matches (token.regexPart :: parts) text ↔ token.Then (Matches parts) text := by
  cases token with
  | char c => exact matches_char_iff
  | nameChar => exact matches_nameChar_iff
  | namePart => exact matches_nameText_iff
  | anyText => exact matches_lineText_iff
  | directories =>
    have slash (rest : List Part) : Matches (.char '/' :: rest)
        = OneThen (· = '/') (Matches rest) :=
      funext fun t => propext matches_char_iff
    -- What the group holds and what follows it are taken together.
    have group (rest : List Part) :
        Matches (.star .lineChar :: .char '/' :: rest)
          = ManyThen (· ≠ '\n') (OneThen (· = '/') (Matches rest)) :=
      funext fun t => propext (slash rest ▸ matches_lineText_iff)
    rw [regexPart, matches_optional_iff, group [], ← ManyThen.joined_eq, ← OneThen.joined_eq,
      joined_matches_nil]
    rfl

/-- The parts of tokens match what the tokens do. -/
theorem matches_regexParts_iff {tokens : List GlobToken} :
    Matches (tokens.map regexPart) text ↔ Fits tokens text := by
  induction tokens generalizing text with
  | nil => exact matches_nil_iff
  | cons token tokens ih => rw [List.map_cons, matches_regexPart_iff, then_congr fun t => ih, Fits]

/-- A character without a meaning of its own is read as itself. -/
theorem readParts?_char {c : Char} (plain : c ∉ signs) :
    readParts? (c :: cs) parts opened = readParts? cs (.char c :: parts) opened := by
  have other := plain
  simp only [signs, List.mem_cons, List.not_mem_nil, or_false, not_or] at other
  rw [readParts?, if_neg plain]
  -- No other line of the definition is about the character.
  all_goals simp [other]

/-- **What is written for a token is read as its part.** -/
theorem readParts?_regexText (token : GlobToken) :
    readParts? (token.regexText ++ cs) parts opened
      = readParts? cs (token.regexPart :: parts) opened := by
  cases token with
  | char c =>
    rw [regexText, escaped, regexPart]
    by_cases sign : c ∈ signs
    · rw [if_pos sign, List.cons_append, List.singleton_append, readParts?, if_pos sign]
    · rw [if_neg sign, List.singleton_append, readParts?_char sign]
  | nameChar => rfl
  | namePart => rfl
  | anyText => rfl
  | directories => simp [regexText, directoriesText, readParts?_char, readParts?, regexPart, signs]

/-- What is written for tokens is read as their parts. -/
theorem readParts?_regexTexts (tokens : List GlobToken) (parts : List Part) :
    readParts? (tokens.flatMap regexText ++ ['$']) parts []
      = some (parts.reverse ++ tokens.map regexPart) := by
  induction tokens generalizing parts with
  | nil => rw [List.flatMap_nil, List.nil_append, readParts?, List.map_nil, List.append_nil]
  | cons token tokens ih =>
    rw [List.flatMap_cons, List.append_assoc, readParts?_regexText, ih, List.reverse_cons,
      List.append_assoc, List.singleton_append, List.map_cons]

end GlobToken

namespace Regex

/-! ### The expression of a pattern -/

/-- The body of a pattern is written token by token. -/
theorem bodyText_eq (body : List Char) :
    bodyText body = (globTokens body).flatMap GlobToken.regexText := by
  fun_induction globTokens body with
  | case1 => rfl
  | case2 body ih => rw [bodyText, ih, List.flatMap_cons, GlobToken.regexText]
  | case3 body other ih =>
    rw [bodyText, ih, List.flatMap_cons, GlobToken.regexText]
    exact other
  | case4 body deep single ih => rw [bodyText, ih, List.flatMap_cons, GlobToken.regexText] <;> assumption
  | case5 body ih => rw [bodyText, ih, List.flatMap_cons, GlobToken.regexText]
  | case6 c body deep deeper star mark ih =>
    rw [bodyText, ih, List.flatMap_cons, GlobToken.regexText] <;> assumption

/-- The parts of a pattern, as they are written. -/
theorem flatMap_tokens (g : Glob) :
    g.tokens.flatMap GlobToken.regexText
      = (if g.anchored then [] else directoriesText) ++ g.body.flatMap GlobToken.regexText
          ++ (if g.directory then ['/', '.', '*'] else []) := by
  rw [Glob.tokens, List.flatMap_append, List.flatMap_append, apply_ite (List.flatMap _),
    apply_ite (List.flatMap _)]
  rfl

/-- A pattern is written token by token, between the signs for the ends of a text. -/
theorem ofPattern_eq (pattern : String) :
    ofPattern pattern
      = String.ofList ('^' :: ((Glob.ofText pattern).tokens.flatMap GlobToken.regexText ++ ['$'])) := by
  rw [flatMap_tokens]
  simp only [ofPattern, Glob.ofText, bodyText_eq, decide_eq_true_eq]
  rfl

/-- **The expression of a pattern can be read**, and it has one part for each token. -/
theorem read?_ofPattern (pattern : String) :
    read? (ofPattern pattern) = some ((Glob.ofText pattern).tokens.map GlobToken.regexPart) := by
  rw [ofPattern_eq, read?, String.toList_ofList]
  exact GlobToken.readParts?_regexTexts _ []

example : ofPattern "/gen/**/*.t?t" = "^gen/(?:.*/)?[^/]*\\.t[^/]t$" := by decide +kernel

end Regex

/-! ### What rules with a pattern match -/

/-- Whether a pattern matches is decided by what it stands for. -/
theorem Glob.accepts_ofText_iff (pattern s : String) :
    (Glob.ofText pattern).accepts s = true ↔ Covers (Text.trim pattern.toList) s.toList := by
  rw [Glob.accepts, globMatches_iff, Glob.fits_tokens_iff]

/-- With one more pattern, what it stands for is matched as well. -/
theorem IgnoreRules.matchesPattern_withPattern_iff (r : IgnoreRules) (pattern : String) (p : Path) :
    (r.withPattern pattern).matchesPattern p = true
      ↔ r.matchesPattern p = true ∨ Covers (Text.trim pattern.toList) (r.relative p).toList := by
  rw [← Glob.accepts_ofText_iff, ← Bool.or_eq_true, matchesPattern, matchesPattern, withPattern,
    List.any_append, List.any_cons, List.any_nil, Bool.or_false]
  rfl

/-- **A pattern means what it is documented to mean.** Rules take every pattern, and its expression
can be read. The pattern and its expression both match the texts that the pattern stands for and no
others, and a path is matched by the rules with the pattern if it was matched without it or if the
pattern stands for what the path is below the root. -/
theorem patterns_mean (r : IgnoreRules) (pattern : String) :
    ∃ g parts,
      (r.withPattern pattern).patterns = r.patterns ++ [g]
        ∧ Regex.read? (Regex.ofPattern pattern) = some parts
        ∧ (∀ s : String, g.accepts s = true ↔ Covers (Text.trim pattern.toList) s.toList)
        ∧ (∀ s : String, Regex.Matches parts s.toList ↔ Covers (Text.trim pattern.toList) s.toList)
        ∧ ∀ p : Path, (r.withPattern pattern).matchesPattern p = true
            ↔ r.matchesPattern p = true ∨ Covers (Text.trim pattern.toList) (r.relative p).toList := by
  refine ⟨Glob.ofText pattern, _, rfl, Regex.read?_ofPattern pattern,
    Glob.accepts_ofText_iff pattern, ?_,
    r.matchesPattern_withPattern_iff pattern⟩
  intro s
  rw [GlobToken.matches_regexParts_iff, Glob.fits_tokens_iff]

end ApiStubs
