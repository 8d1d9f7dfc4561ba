import ApiStubs.Proofs.KeptFiles
import ApiStubs.Proofs.Split

/-!
# Putting ignore files together

An ignore file is cut into lines, every line is trimmed, and what is left is a pattern unless it is
empty or a comment. The carriage return of a line end is a blank at the end of its line, and behind
the last line feed there is an empty line or one that is not ended, so the patterns are found
between the line feeds alone (`patternLines_eq`). Hence the patterns of two files, one behind the
other, are those of the first and those of the second, wherever the border is; and a path is left
alone as soon as one pattern matches it.

## What is proved

* `patternLines_append`, `patternLines_intercalate`: the patterns of files and lines that are put
  together.
* `ignore_files_compose`: what is left alone by both is what is left alone by one of them. So the
  order of lines does not matter, nor do repeated, empty and comment lines, carriage returns and
  blanks around a line; and no further line makes a path lose its protection.
-/

namespace ApiStubs

namespace Text

variable {cs blanks : List Char}

/-! ### Trimming -/

theorem trimRight_of_blank (h : ∀ c ∈ blanks, isBlank c = true) : trimRight blanks = [] := by
  induction blanks with
  | nil => rfl
  | cons c blanks ih =>
    rw [trimRight, ih fun x hx => h x (List.mem_cons_of_mem c hx)]
    exact if_pos (h c List.mem_cons_self)

theorem trimRight_append_blank (h : ∀ c ∈ blanks, isBlank c = true) (cs : List Char) :
    trimRight (cs ++ blanks) = trimRight cs := by
  induction cs with
  | nil => exact trimRight_of_blank h
  | cons c cs ih => rw [List.cons_append, trimRight, trimRight, ih]

theorem trimLeft_of_blank (h : ∀ c ∈ blanks, isBlank c = true) : trimLeft blanks = [] := by
  rw [trimLeft, ← blanks.append_nil, List.dropWhile_append_of_pos h, List.dropWhile_nil]

/-- Blanks in front of a text are trimmed. -/
theorem trim_blank_append (h : ∀ c ∈ blanks, isBlank c = true) (cs : List Char) :
    trim (blanks ++ cs) = trim cs := by
  rw [trim, trim, trimLeft, List.dropWhile_append_of_pos h, trimLeft]

/-- Blanks behind a text are trimmed. -/
theorem trim_append_blank (h : ∀ c ∈ blanks, isBlank c = true) (cs : List Char) :
    trim (cs ++ blanks) = trim cs := by
  rw [trim, trim, trimLeft, List.dropWhile_append]
  split
  · next none =>
    rw [trimLeft, List.isEmpty_iff.mp none]
    exact congrArg trimRight (trimLeft_of_blank h)
  · exact trimRight_append_blank h _

/-- A carriage return at the end of a line is trimmed in any case. -/
theorem trim_dropReturn (line : List Char) : trim (dropReturn line) = trim line := by
  have cut : dropReturn line = line ∨ line = dropReturn line ++ ['\r'] := by
    induction line with
    | nil => exact .inl rfl
    | cons c line ih =>
      cases line with
      | nil =>
        by_cases hc : c = '\r'
        · exact .inr (by simp [dropReturn, hc])
        · exact .inl (if_neg hc)
      | cons d line =>
        refine ih.imp (fun same => ?_) fun same => ?_
        · rw [dropReturn, same]
          simp
        · rw [dropReturn, List.cons_append, ← same]
          simp
  rcases cut with same | same
  · rw [same]
  · exact (trim_append_blank (List.all_eq_true.mp rfl) _).symm.trans (congrArg trim same.symm)

end Text

namespace IgnoreRules

open Text

variable {root p : Path} {t : FileTree} {before after ls ms : List String}

/-! ### The patterns of a text -/

/-- The patterns of a text are found between its line feeds. -/
theorem patternLines_eq (content : String) : patternLines content =
    ((splitWhere (· = '\n') content.toList).map trim).filter isPatternLine := by
  have ended : ∀ pieces : List (List Char), (pieces.map dropReturn).map trim = pieces.map trim :=
    fun pieces => by
      rw [List.map_map]
      exact List.map_congr_left fun line _ => trim_dropReturn line
  obtain ⟨pieces, last, cut⟩ :=
    (List.eq_nil_or_concat _).resolve_left (splitWhere_ne_nil (· = '\n') content.toList)
  rw [patternLines, lines, cut, List.concat_eq_append, List.dropLast_concat, List.getLast?_concat]
  cases last with
  | nil =>
    have quiet : isPatternLine (trim []) = false := rfl
    rw [ended, List.map_append, List.filter_append, List.map_singleton, List.filter_singleton,
      quiet]
    simp
  | cons c cs => rw [List.map_append, ended, List.map_append]

/-- **Two files, one behind the other**, have the patterns of both. -/
theorem patternLines_append (a b : String) :
    patternLines (a ++ "\n" ++ b) = patternLines a ++ patternLines b := by
  have text : (a ++ "\n" ++ b).toList = a.toList ++ '\n' :: b.toList := by simp
  rw [patternLines_eq, patternLines_eq, patternLines_eq, text,
    splitWhere_append_separator (by simp), List.map_append, List.filter_append]

/-- The patterns of lines are those of each line. -/
theorem patternLines_intercalate (ls : List String) :
    patternLines ("\n".intercalate ls) = ls.flatMap patternLines := by
  induction ls with
  | nil => rfl
  | cons line ls ih =>
    cases ls with
    | nil => rw [String.intercalate_singleton, List.flatMap_singleton]
    | cons next ls =>
      rw [String.intercalate_cons_of_ne_nil (List.cons_ne_nil next ls), patternLines_append, ih]
      exact List.flatMap_cons.symm

/-- A line is one pattern or none. -/
theorem patternLines_line {line : String} (h : '\n' ∉ line.toList) :
    patternLines line = [trim line.toList].filter isPatternLine := by
  have one : splitWhere (· = '\n') line.toList = [line.toList] :=
    splitWhere_of_forall fun c hc => by
      have ne : c ≠ '\n' := fun same => h (same ▸ hc)
      simpa using ne
  rw [patternLines_eq, one, List.map_singleton]

/-! ### Lines that say the same -/

/-- A line that is no pattern: nothing but blanks, or a comment behind blanks. -/
def IsQuiet (line : String) : Prop :=
  '\n' ∉ line.toList ∧ ∃ blanks rest, line.toList = blanks ++ rest ∧
    (∀ c ∈ blanks, isBlank c = true) ∧
    (rest = [] ∨ rest.head? = some '#')

/-- A line and the same line with blanks around it. -/
def Padded (line padded : String) : Prop :=
  '\n' ∉ padded.toList ∧ ∃ blanks blanks', padded.toList = blanks ++ line.toList ++ blanks' ∧
    (∀ c ∈ blanks, isBlank c = true) ∧ ∀ c ∈ blanks', isBlank c = true

theorem trim_comment (cs : List Char) : (trim ('#' :: cs)).head? = some '#' := by
  have kept : trimLeft ('#' :: cs) = '#' :: cs := List.dropWhile_cons_of_neg (by decide)
  rw [trim, kept, trimRight]
  split
  · rfl
  · rfl

theorem patternLines_of_quiet {line : String} (h : IsQuiet line) : patternLines line = [] := by
  obtain ⟨single, blanks, rest, text, hb, none | comment⟩ := h
  · rw [patternLines_line single, text, none, trim_append_blank (by simp), trim,
      trimLeft_of_blank hb]
    rfl
  · obtain ⟨cs, rfl⟩ := List.head?_eq_some_iff.mp comment
    have quiet : isPatternLine (trim ('#' :: cs)) = false := by
      rw [isPatternLine, trim_comment]
      simp
    rw [patternLines_line single, text, trim_blank_append hb, List.filter_singleton, quiet]
    rfl

theorem patternLines_of_padded {line padded : String} (h : Padded line padded) :
    patternLines padded = patternLines line := by
  obtain ⟨single, blanks, blanks', text, hb, hb'⟩ := h
  have free : '\n' ∉ line.toList := fun inside => single (by simp [text, inside])
  rw [patternLines_line single, patternLines_line free, text, trim_append_blank hb',
    trim_blank_append hb]

/-- With a carriage return in front of every line feed, the patterns are the same. -/
theorem patternLines_returns (h : ∀ line ∈ ls, '\n' ∉ line.toList) :
    patternLines ("\r\n".intercalate ls) = ls.flatMap patternLines := by
  induction ls with
  | nil => rfl
  | cons line ls ih =>
    have rest := ih fun line hl => h line (List.mem_cons_of_mem _ hl)
    cases ls with
    | nil => rw [String.intercalate_singleton, List.flatMap_singleton]
    | cons next ls =>
      have ended : Padded line (line ++ "\r") :=
        ⟨by simpa using h line List.mem_cons_self, [], ['\r'], by simp, nofun, List.all_eq_true.mp rfl⟩
      have split : line ++ "\r\n" = line ++ "\r" ++ "\n" := by rw [String.append_assoc]; rfl
      rw [String.intercalate_cons_of_ne_nil (List.cons_ne_nil next ls), split, patternLines_append,
        patternLines_of_padded ended, rest]
      exact List.flatMap_cons.symm

/-! ### What is left alone -/

/-- Rules of a text alone protect nothing: a path is left alone when one of the patterns matches
it. -/
theorem ignores_ofContent_iff {content : String} : (ofContent root content).ignores t p = true ↔
    ∃ line ∈ patternLines content, (Glob.ofText (String.ofList line)).accepts (relative { root } p) = true := by
  rw [ofContent_eq, ignores, isProtected, List.any_nil, Bool.and_false, Bool.false_or,
    matchesPattern, List.any_map, List.any_eq_true]
  -- What patterns see depends on the root of the rules only.
  have seen : ∀ patterns, relative { root, patterns } p = relative { root } p := fun _ => rfl
  simp only [seen, Function.comp_apply]

/-- Two ignore files leave the same paths alone. -/
def Agree (root : Path) (a b : String) : Prop :=
  ∀ t p, (ofContent root a).ignores t p = (ofContent root b).ignores t p

theorem agree_of_mem_iff {a b : String} (h : ∀ line, line ∈ patternLines a ↔ line ∈ patternLines b) :
    Agree root a b := by
  intro t p
  rw [Bool.eq_iff_iff, ignores_ofContent_iff, ignores_ofContent_iff]
  simp only [h]

theorem agree_of_eq {a b : String} (h : patternLines a = patternLines b) : Agree root a b :=
  agree_of_mem_iff fun line => by rw [h]

/-- **Ignore files compose.** A text of two leaves a path alone exactly if one of the two does. So
files with the same lines, in whatever order and however often, leave the same paths alone; and so
do a file and the same file with a line more that is empty or a comment, with carriage returns at
the line ends, or with blanks around its lines. Whatever line is added, what was left alone still
is. -/
theorem ignore_files_compose (root : Path) :
    (∀ a b t p, (ofContent root (a ++ "\n" ++ b)).ignores t p = true ↔
      (ofContent root a).ignores t p = true ∨ (ofContent root b).ignores t p = true) ∧
    (∀ ls ms : List String, (∀ line, line ∈ ls ↔ line ∈ ms) →
      Agree root ("\n".intercalate ls) ("\n".intercalate ms)) ∧
    (∀ before after line, IsQuiet line →
      Agree root ("\n".intercalate (before ++ line :: after)) ("\n".intercalate (before ++ after))) ∧
    (∀ ls : List String, (∀ line ∈ ls, '\n' ∉ line.toList) →
      Agree root ("\r\n".intercalate ls) ("\n".intercalate ls)) ∧
    (∀ ls ms : List String, List.Forall₂ Padded ls ms →
      Agree root ("\n".intercalate ms) ("\n".intercalate ls)) ∧
    ∀ before after line t p, (ofContent root ("\n".intercalate (before ++ after))).ignores t p = true →
      (ofContent root ("\n".intercalate (before ++ line :: after))).ignores t p = true := by
  refine ⟨fun a b t p => ?_, fun ls ms same => ?_, fun before after line quiet => ?_,
    fun ls single => ?_,
    fun ls ms padded => ?_, fun before after line t p h => ?_⟩
  · rw [ignores_ofContent_iff, ignores_ofContent_iff, ignores_ofContent_iff, patternLines_append]
    simp only [List.mem_append, or_and_right, exists_or]
  · refine agree_of_mem_iff fun line => ?_
    rw [patternLines_intercalate, patternLines_intercalate, List.mem_flatMap, List.mem_flatMap]
    simp only [same]
  · refine agree_of_eq ?_
    rw [patternLines_intercalate, patternLines_intercalate, List.flatMap_append, List.flatMap_cons,
      patternLines_of_quiet quiet, List.nil_append, List.flatMap_append]
  · exact agree_of_eq (by rw [patternLines_returns single, patternLines_intercalate])
  · refine agree_of_eq ?_
    rw [patternLines_intercalate, patternLines_intercalate]
    induction padded with
    | nil => rfl
    | cons first _ ih => rw [List.flatMap_cons, List.flatMap_cons, patternLines_of_padded first, ih]
  · rw [ignores_ofContent_iff] at h ⊢
    obtain ⟨pattern, hp, accepted⟩ := h
    refine ⟨pattern, ?_, accepted⟩
    rw [patternLines_intercalate, List.flatMap_append, List.mem_append] at hp ⊢
    exact hp.imp_right fun later => by
      rw [List.flatMap_cons]
      exact List.mem_append_right _ later

/-- A file with a carriage return, a comment and a line twice leaves alone what its two patterns
leave alone. -/
theorem note_of_stubs_agrees :
    List.Forall₂ Padded ["Hydrator/", "*.php"] [" Hydrator/\r", "*.php\t"] ∧
      IsQuiet "\u3000# kept" ∧
    (∀ line, line ∈ ["*.php", "Hydrator/", "*.php"] ↔ line ∈ ["Hydrator/", "*.php"]) ∧
    Agree ⟨"out"⟩ " Hydrator/\r\n*.php\t" "Hydrator/\n*.php" ∧
    Agree ⟨"out"⟩ "Hydrator/\n\u3000# kept\n*.php" "Hydrator/\n*.php" ∧
    Agree ⟨"out"⟩ "*.php\nHydrator/\n*.php" "Hydrator/\n*.php" ∧
    (∀ t, (ofContent ⟨"out"⟩ "Hydrator/\n*.php").ignores t ⟨"out/Hydrator/PetHydrator.rs"⟩ = true) := by
  obtain ⟨-, same, quiet, -, padded, -⟩ := ignore_files_compose ⟨"out"⟩
  have pads : List.Forall₂ Padded ["Hydrator/", "*.php"] [" Hydrator/\r", "*.php\t"] :=
    .cons ⟨by decide, [' '], ['\r'], by decide, List.all_eq_true.mp rfl, List.all_eq_true.mp rfl⟩
      (.cons ⟨by decide, [], ['\t'], by decide, nofun, List.all_eq_true.mp rfl⟩ .nil)
  have comment : IsQuiet "\u3000# kept" :=
    ⟨by decide, ['\u3000'], "# kept".toList, by decide, List.all_eq_true.mp rfl, .inr rfl⟩
  have mem : ∀ line, line ∈ ["*.php", "Hydrator/", "*.php"] ↔ line ∈ ["Hydrator/", "*.php"] := by
    simp only [List.mem_cons, List.not_mem_nil, or_false]
    tauto
  have plain : "\n".intercalate ["Hydrator/", "*.php"] = "Hydrator/\n*.php" := by decide +kernel
  have first := padded _ _ pads
  have second : Agree _ _ ("\n".intercalate ["Hydrator/", "*.php"]) :=
    quiet ["Hydrator/"] ["*.php"] _ comment
  have third := same _ _ mem
  rw [plain] at first second third
  have returns : "\n".intercalate [" Hydrator/\r", "*.php\t"] = " Hydrator/\r\n*.php\t" := by
    decide +kernel
  have noted : "\n".intercalate ["Hydrator/", "\u3000# kept", "*.php"]
      = "Hydrator/\n\u3000# kept\n*.php" := by
    decide +kernel
  have twice : "\n".intercalate ["*.php", "Hydrator/", "*.php"] = "*.php\nHydrator/\n*.php" := by
    decide +kernel
  refine ⟨pads, comment, mem, returns ▸ first, noted ▸ second, twice ▸ third, fun t => ?_⟩
  exact ignores_ofContent_iff.mpr ⟨"Hydrator/".toList, by decide +kernel, by decide +kernel⟩

end IgnoreRules

end ApiStubs
