import ApiStubs.Yaml.Writer

/-!
# Texts of scalars

A text is read back from the scalar that is written for it: plain, in single quotes or in double
quotes. The readers put blanks and line ends off until they know what follows (`Reading`), so each
lemma follows a reader from a reading that holds the text so far.

## What is proved

* `plain?_of_allowsPlain`, `plain?_letters`: a text that a plain scalar allows is read back from one
  up to the end of its line, and a key up to its colon.
* `singleQuoted?_singleQuoted`: a text that single quotes allow is read back from them, though
  its lines are indented and its quotes are doubled. Every character is one step of the reader
  (`ReadsRest`).
* `doubleQuoted?_doubleQuoted`: every text is read back from double quotes: what is escaped is
  named by its escape (`doubleQuotedChar_cases`).
-/

namespace ApiStubs.Yaml

/-! ### Characters -/

variable {c : Char} {cs more : List Char}

theorem isBreak_of_isAnyBreak (h : isAnyBreak c = false) : isBreak c = false := by
  simp only [isAnyBreak, Bool.or_eq_false_iff] at h
  exact h.1.1

/-- A blank that is written as it is is no tab. -/
theorem eq_space_of_isBlank (printable : isPrintable c = true) (h : isBlank c = true) :
    c = ' ' := by
  simp only [isBlank, Bool.or_eq_true, decide_eq_true_eq] at h
  refine h.resolve_right ?_
  rintro rfl
  exact absurd printable (by decide)

/-- What is written behind a colon is read behind it. -/
theorem blankNext_append_of_spaceNext (h : spaceNext cs = false) (more : List Char) :
    blankNext (cs ++ more) = false := by
  cases cs with
  | nil => cases h
  | cons c cs =>
    simp only [spaceNext, Bool.or_eq_false_iff] at h
    simp [blankNext, h.1, isBreak_of_isAnyBreak h.2]

theorem borderNext_of_ne (dash : c ≠ '-') (dot : c ≠ '.') (cs : List Char) :
    borderNext (c :: cs) = false := by
  unfold borderNext
  split
  · next same =>
    cases same
    exact absurd rfl dash
  · next same =>
    cases same
    exact absurd rfl dot
  · rfl

/-- What follows an entry: nothing, or the next line, which is neither empty nor indented. -/
def StartsLine (more : List Char) : Prop :=
  ∀ c ∈ more.head?, isBlank c = false ∧ isBreak c = false

/-! ### Plain scalars -/

/-- A line end behind a plain scalar ends it, when the next line is not indented. -/
theorem plain?_lineEnd {indent : Int} {r : Reading} {i l k fuel : Nat} (positive : 0 < indent)
    (open_ : r.gap.folded = false) (follows : StartsLine more) :
    plain? false indent r ⟨'\n' :: more, i, l, k⟩ (fuel + 2) =
      some (String.ofList r.text.reverse, ⟨more, i + 1, l + 1, 0⟩, true) := by
  have space : (r.space '\n').gap.folded = true := by simp [Reading.space, Gap.add, open_, isBreak]
  have text : (r.space '\n').text = r.text := rfl
  have next : Cursor.next ⟨'\n' :: more, i, l, k⟩ = ⟨more, i + 1, l + 1, 0⟩ := rfl
  rw [plain?]
  simp only [open_, Bool.false_and, if_false, Bool.false_eq_true]
  rw [if_pos (by decide), next, plain?]
  cases more with
  | nil => simp [plainEnd, space, text]
  | cons x more =>
    obtain ⟨blank, line⟩ := follows x rfl
    simp [plainEnd, space, text, blank, line, positive]

/-- A word of a plain scalar goes on with a character that neither ends it nor clashes. -/
theorem plain?_push {indent : Int} {r : Reading} {i l k fuel : Nat} (solid : isBlank c = false)
    (unbroken : isBreak c = false) (open_ : r.gap.folded = false) (inside : k = 0 → borderNext (c :: cs) = false)
    (number : c = '#' → r.gap.blanks = [] ∧ r.text ≠ []) (colon : c = ':' → blankNext cs = false) :
    plain? false indent r ⟨c :: cs, i, l, k⟩ (fuel + 1) =
      plain? false indent (r.push c) ⟨cs, i + 1, l, k + 1⟩ fuel := by
  have next : Cursor.next ⟨c :: cs, i, l, k⟩ = ⟨cs, i + 1, l, k + 1⟩ := by
    simp [Cursor.next, unbroken]
  have clash : clashesPlain false (c :: cs) = false := by
    unfold clashesPlain
    split <;> rfl
  have stop : stopsPlain false (c :: cs) = false := by
    unfold stopsPlain
    split
    · next same =>
      cases same
      exact colon rfl
    · rfl
    · next same => cases same
  have start : (((r.gap.folded || !r.gap.blanks.isEmpty) || r.text.isEmpty)
      && ((decide (k = 0) && borderNext (c :: cs)) || decide (c = '#'))) = false := by
    by_cases hc : c = '#'
    · obtain ⟨closed, full⟩ := number hc
      simp [open_, closed, full]
    · simpa [hc] using fun _ => inside
  rw [plain?]
  dsimp only
  rw [if_neg (by simp [solid, unbroken]), open_]
  rw [open_] at start
  simp only [start, clash, stop, next, Bool.false_and, Bool.false_eq_true, if_false]

/-- A blank in a plain scalar is put off. -/
theorem plain?_space {indent : Int} {r : Reading} {i l k fuel : Nat}
    (open_ : r.gap.folded = false) :
    plain? false indent r ⟨' ' :: cs, i, l, k⟩ (fuel + 1) =
      plain? false indent (r.space ' ') ⟨cs, i + 1, l, k + 1⟩ fuel := by
  rw [plain?]
  dsimp only
  rw [if_pos (by decide), if_neg (by simp [open_])]
  rfl

/-- In a text without indicators no blank follows a colon, and no number sign follows a blank. -/
theorem hasIndicator_cons_iff {before : Char} : hasIndicator before (c :: cs) = false ↔
    (c = ':' → spaceNext cs = false) ∧ (c = '#' → spaceNext [before] = false) ∧
      hasIndicator c cs = false := by
  simp only [hasIndicator, Bool.or_eq_false_iff, Bool.and_eq_false_iff, decide_eq_false_iff_not,
    and_assoc, Decidable.imp_iff_not_or]

/-- **A plain scalar** is read up to the end of its line. The last character before the text
decides whether a number sign may follow. -/
theorem plain?_value {indent : Int} (positive : 0 < indent) (follows : StartsLine more)
    (cs : List Char) :
    ∀ (r : Reading) (before : Char) (i l k fuel : Nat), r.gap.folded = false →
      (∀ c ∈ cs, isPrintable c = true ∧ isAnyBreak c = false) → cs.getLast? ≠ some ' ' →
      (cs = [] → r.gap.blanks = []) → hasIndicator before cs = false →
      (r.gap.blanks ≠ [] ∨ r.text = [] → before = ' ') → 0 < k → cs.length + 2 ≤ fuel →
      ∃ i' l', plain? false indent r ⟨cs ++ '\n' :: more, i, l, k⟩ fuel =
        some (String.ofList (r.text.reverse ++ r.gap.blanks ++ cs), ⟨more, i', l', 0⟩, true) := by
  -- on what is left of the text; what has been read is in the reading, with the last blanks put off
  induction cs with
  | nil =>
    intro r before i l k fuel open_ _ _ closed _ _ _ enough
    obtain ⟨fuel, rfl⟩ := Nat.exists_eq_add_of_le' (show 2 ≤ fuel by simpa using enough)
    refine ⟨i + 1, l + 1, ?_⟩
    rw [List.nil_append, plain?_lineEnd positive open_ follows, closed rfl, List.append_nil,
      List.append_nil]
  | cons c cs ih =>
    intro r before i l k fuel open_ line ends _ flows first inside enough
    rw [List.length_cons] at enough
    obtain ⟨fuel, rfl⟩ := Nat.exists_eq_add_of_le' (show 1 ≤ fuel by omega)
    have enough : cs.length + 2 ≤ fuel := by omega
    obtain ⟨printable, single⟩ := line c List.mem_cons_self
    have line' : ∀ c ∈ cs, isPrintable c = true ∧ isAnyBreak c = false :=
      fun x hx => line x (List.mem_cons_of_mem c hx)
    have unbroken := isBreak_of_isAnyBreak single
    obtain ⟨colon, number, flows⟩ := hasIndicator_cons_iff.mp flows
    have ends' : cs.getLast? ≠ some ' ' := by
      cases cs with
      | nil => simp
      | cons d cs => rwa [List.getLast?_cons_cons] at ends
    rw [List.cons_append]
    by_cases hc : c = ' '
    · subst hc
      have full : cs ≠ [] := by
        rintro rfl
        exact ends rfl
      have gap : (r.space ' ').gap = { r.gap with blanks := r.gap.blanks ++ [' '] } := by
        simp [Reading.space, Gap.add, open_, unbroken]
      obtain ⟨i', l', h⟩ :=
        ih (r.space ' ') ' ' (i + 1) l (k + 1) fuel (by rw [gap]; exact open_) line' ends'
          (fun none => absurd none full) flows (fun _ => rfl) (Nat.succ_pos k) enough
      refine ⟨i', l', (plain?_space open_).trans (h.trans ?_)⟩
      rw [gap]
      simp [Reading.space]
    · have solid : isBlank c = false := by
        rw [← Bool.not_eq_true]
        exact fun blank => hc (eq_space_of_isBlank printable blank)
      have text : (r.push c).text.reverse = r.text.reverse ++ r.gap.blanks ++ [c] := by
        simp [Reading.push, Reading.close, Gap.text, open_]
      have word : c = '#' → r.gap.blanks = [] ∧ r.text ≠ [] := by
        intro sign
        have apart : before ≠ ' ' := by
          rintro rfl
          exact absurd (number sign) (by decide)
        exact ⟨Decidable.byContradiction fun gap => apart (first (.inl gap)),
          fun none => apart (first (.inr none))⟩
      have value : c = ':' → blankNext (cs ++ '\n' :: more) = false := fun sign =>
        blankNext_append_of_spaceNext (colon sign) _
      have step := @plain?_push _ _ indent r i l k fuel solid unbroken open_
        (fun none => absurd none (Nat.ne_of_gt inside)) word value
      obtain ⟨i', l', h⟩ :=
        ih (r.push c) c (i + 1) l (k + 1) fuel rfl line' ends' (fun _ => rfl) flows
          (fun h => by simp [Reading.push] at h) (Nat.succ_pos k) enough
      refine ⟨i', l', step.trans (h.trans ?_)⟩
      rw [text]
      simp [Reading.push]

/-- What a text that needs no quotes begins with. -/
structure PlainHead (c : Char) (cs : List Char) : Prop where
  printable : isPrintable c = true
  solid : isBlank c = false ∧ isBreak c = false
  indicator : startIndicators.contains c = false
  sign : c = '?' ∨ c = ':' ∨ c = '-' → spaceNext cs = false

theorem PlainHead.of_allowsPlain (allowed : allowsPlain (c :: cs) = true) : PlainHead c cs := by
  simp only [allowsPlain, Bool.and_eq_true, Bool.not_eq_true', Bool.or_eq_false_iff,
    List.all_eq_true] at allowed
  obtain ⟨⟨⟨⟨start, _⟩, line⟩, first⟩, _⟩ := allowed
  obtain ⟨printable, single⟩ := line c List.mem_cons_self
  simp only [startsWithIndicator, Bool.or_eq_false_iff, Bool.and_eq_false_iff,
    decide_eq_false_iff_not] at start
  have blank : isBlank c = false := by
    rw [← Bool.not_eq_true]
    intro blank
    simp [eq_space_of_isBlank printable blank, isSpace] at first
  have sign (same : c = '?' ∨ c = ':' ∨ c = '-') : spaceNext cs = false :=
    start.2.resolve_left fun none => same.elim none.1.1 fun same => same.elim none.1.2 none.2
  exact ⟨printable, ⟨blank, isBreak_of_isAnyBreak single⟩, start.1.2, sign⟩

/-- A text that a plain scalar allows is read back from one, in the middle of a line. -/
theorem plain?_of_allowsPlain {indent : Int} (positive : 0 < indent) (follows : StartsLine more)
    (allowed : allowsPlain cs = true) {i l k fuel : Nat} (inside : 0 < k)
    (enough : (cs ++ '\n' :: more).length < fuel) :
    ∃ i' l', plain? false indent {} ⟨cs ++ '\n' :: more, i, l, k⟩ fuel =
      some (String.ofList cs, ⟨more, i', l', 0⟩, true) := by
  have free : hasIndicator ' ' cs = false := by
    cases cs with
    | nil => rfl
    | cons c cs =>
      have head := PlainHead.of_allowsPlain allowed
      have number : c ≠ '#' := by
        rintro rfl
        exact absurd head.indicator (by decide)
      have colon : c = ':' → spaceNext cs = false := fun same => head.sign (.inr (.inl same))
      simp only [allowsPlain, Bool.and_eq_true, Bool.not_eq_true', Bool.or_eq_false_iff] at allowed
      have flows := allowed.1.1.1.2
      simp only [List.headD_cons, List.tail_cons] at flows
      exact hasIndicator_cons_iff.mpr ⟨colon, fun same => absurd same number, flows⟩
  simp only [allowsPlain, Bool.and_eq_true, Bool.not_eq_true', List.all_eq_true] at allowed
  have ends : cs.getLast? ≠ some ' ' := by
    intro same
    rw [same] at allowed
    exact absurd allowed.2 (by decide)
  have enough : cs.length + 2 ≤ fuel := by
    rw [List.length_append, List.length_cons] at enough
    omega
  exact plain?_value positive follows cs {} ' ' i l k fuel rfl allowed.1.1.2 ends (fun _ => rfl) free (fun _ => rfl)
    inside enough

/-- A key needs no quotes: it is made of letters and underscores, and not longer than a key may
be. -/
structure IsBare (key : String) : Prop where
  nonempty : key.toList ≠ []
  short : key.toList.length ≤ 1024
  letters : ∀ c ∈ key.toList, (c.isAlpha || c = '_') = true

/-- What a character of a bare key is not. -/
theorem ne_of_isLetter {d : Char} (h : (c.isAlpha || c = '_') = true)
    (other : (d.isAlpha || d = '_') = false) :
    c ≠ d := by
  rintro rfl
  rw [h] at other
  cases other

theorem solid_of_isLetter (h : (c.isAlpha || c = '_') = true) :
    isBlank c = false ∧ isBreak c = false := by
  have number (n : Nat) (other : ((Char.ofNat n).isAlpha || Char.ofNat n = '_') = false) : c.toNat ≠ n := by
    rintro rfl
    rw [Char.ofNat_toNat, h] at other
    cases other
  have space : c ≠ ' ' := ne_of_isLetter h rfl
  have tab : c ≠ '\t' := ne_of_isLetter h rfl
  have line : c ≠ '\n' := ne_of_isLetter h rfl
  exact ⟨by simp [isBlank, space, tab], by simp [isBreak, line, number 0x2028 rfl, number 0x2029 rfl]⟩

/-- A bare key ends in front of its colon. -/
theorem plain?_letters (indent : Int) (cs : List Char)
    (letters : ∀ c ∈ cs, (c.isAlpha || c = '_') = true) (more : List Char) (r : Reading)
    (i l k fuel : Nat) (gap : r.gap = {}) (some_ : r.text = [] → cs ≠ [])
    (enough : cs.length < fuel) :
    plain? false indent r ⟨cs ++ ':' :: ' ' :: more, i, l, k⟩ fuel =
      some (String.ofList (r.text.reverse ++ cs),
        ⟨':' :: ' ' :: more, i + cs.length, l, k + cs.length⟩, false) := by
  induction cs generalizing r i k fuel with
  | nil =>
    obtain ⟨fuel, rfl⟩ := Nat.exists_eq_add_of_le' (show 1 ≤ fuel from enough)
    have full : r.text ≠ [] := fun none => absurd rfl (some_ none)
    rw [plain?]
    simp [gap, full, isBlank, isBreak, clashesPlain, stopsPlain, blankNext, plainEnd]
  | cons c cs ih =>
    rw [List.length_cons] at enough
    obtain ⟨fuel, rfl⟩ := Nat.exists_eq_add_of_le' (show 1 ≤ fuel by omega)
    have letter := letters c List.mem_cons_self
    have solid := solid_of_isLetter letter
    have step :=
      @plain?_push c (cs ++ ':' :: ' ' :: more) indent r i l k fuel solid.1 solid.2 (by rw [gap])
        (fun _ => borderNext_of_ne (ne_of_isLetter letter rfl) (ne_of_isLetter letter rfl) _)
        (fun same => absurd same (ne_of_isLetter letter rfl)) (fun same => absurd same (ne_of_isLetter letter rfl))
    have read :=
      ih (fun x hx => letters x (List.mem_cons_of_mem c hx)) (r.push c) (i + 1) (k + 1) fuel rfl
        (fun none => by simp [Reading.push] at none) (by omega)
    rw [List.cons_append, step, read]
    simp [Reading.push, Reading.close, Gap.text, gap, Nat.add_assoc, Nat.add_comm 1]

/-! ### Single quotes -/

@[simp] theorem hasPair_cons (p q : Char → Bool) (a : Char) (cs : List Char) :
    hasPair p q (a :: cs) = ((p a && cs.head?.any q) || hasPair p q cs) := by
  cases cs with
  | nil => simp [hasPair]
  | cons b cs => rfl

theorem Gap.text_add_of_open {g : Gap} (open_ : g.folded = false) (unbroken : isBreak c = false) :
    (g.add c).text = g.text ++ [c] := by
  simp [Gap.add, Gap.text, open_, unbroken]

/-- A separator is kept, where a line feed would be folded. -/
theorem Gap.text_add_of_break {g : Gap} (break_ : isBreak c = true) (separator : c ≠ '\n')
    (closed : g.folded = false → g.blanks = []) (first : g.folded = true → ∃ b, g.first = some b ∧ b ≠ '\n') :
    (g.add c).text = g.text ++ [c] := by
  cases folded : g.folded with
  | false => simp [Gap.add, Gap.text, folded, break_, closed folded]
  | true =>
    obtain ⟨b, start, other⟩ := first folded
    simp [Gap.add, Gap.text, folded, break_, start]

theorem Reading.space_of_folded {r : Reading} (folded : r.gap.folded = true)
    (unbroken : isBreak c = false) :
    r.space c = r := by
  simp [Reading.space, Gap.add, folded, unbroken]

theorem Reading.text_push (r : Reading) (c : Char) :
    (r.push c).text.reverse ++ (r.push c).gap.text = r.text.reverse ++ r.gap.text ++ [c] := by
  simp [Reading.push, Reading.close, Gap.text]

/-- A character in single quotes. -/
def singleQuotedChar (c : Char) : List Char :=
  if c = '\'' then ['\'', '\''] else [c]

/-- The blanks in front of the closing quote, where it stands on a line of its own. -/
def closing (atStart : Bool) (cs : List Char) : List Char :=
  if cs.getLast?.elim atStart isBreak then valueIndent else []

theorem closing_cons (atStart : Bool) (c : Char) (cs : List Char) :
    closing atStart (c :: cs) = closing (isBreak c) cs := by
  cases last : cs.getLast? <;> simp [closing, List.getLast?_cons, last]

theorem singleQuoted_eq (cs : List Char) :
    singleQuoted cs = '\'' :: (indentLines singleQuotedChar false cs ++ closing false cs ++ ['\'']) := by
  cases last : cs.getLast? <;> simp [singleQuoted, closing, last] <;> rfl

/-- A character that is no quote is put off or read, unless the line is a border. -/
theorem singleQuoted?_other {r : Reading} {i l k fuel : Nat} (quote : c ≠ '\'')
    (inside : (decide (k = 0) && borderNext (c :: cs)) = false) :
    singleQuoted? r ⟨c :: cs, i, l, k⟩ (fuel + 1) =
      if isBlank c || isBreak c then singleQuoted? (r.space c) (Cursor.next ⟨c :: cs, i, l, k⟩) fuel
      else singleQuoted? (r.push c) (Cursor.next ⟨c :: cs, i, l, k⟩) fuel := by
  rw [singleQuoted?]
  simp only [inside, Bool.false_eq_true, if_false]
  split
  · next same => cases same
  · next same =>
    cases same
    exact absurd rfl quote
  · next same =>
    cases same
    exact absurd rfl quote
  · next same =>
    cases same
    rfl

theorem singleQuoted?_space {r : Reading} {i l k fuel : Nat}
    (space : (isBlank c || isBreak c) = true) :
    singleQuoted? r ⟨c :: cs, i, l, k⟩ (fuel + 1) =
      singleQuoted? (r.space c) (Cursor.next ⟨c :: cs, i, l, k⟩) fuel := by
  have other (d : Char) (h : (isBlank d || isBreak d) = false) : c ≠ d := by
    rintro rfl
    rw [space] at h
    cases h
  have border := borderNext_of_ne (other '-' rfl) (other '.' rfl) cs
  rw [singleQuoted?_other (other '\'' rfl) (by rw [border, Bool.and_false]), if_pos space]

theorem singleQuoted?_push {r : Reading} {i l k fuel : Nat}
    (solid : (isBlank c || isBreak c) = false) (inside : k ≠ 0) :
    ∃ i' k', k' ≠ 0 ∧ singleQuoted? r ⟨singleQuotedChar c ++ cs, i, l, k⟩ (fuel + 1) =
      singleQuoted? (r.push c) ⟨cs, i', l, k'⟩ fuel := by
  by_cases quote : c = '\''
  · subst quote
    refine ⟨i + 1 + 1, k + 1 + 1, Nat.succ_ne_zero _, ?_⟩
    rw [singleQuoted?, show singleQuotedChar '\'' = ['\'', '\''] from rfl]
    simp only [inside, decide_false, Bool.false_and, Bool.false_eq_true, if_false, List.cons_append,
      List.nil_append]
    rfl
  · refine ⟨i + 1, k + 1, Nat.succ_ne_zero _, ?_⟩
    have next : Cursor.next ⟨c :: cs, i, l, k⟩ = ⟨cs, i + 1, l, k + 1⟩ := by
      simp [Cursor.next, (Bool.or_eq_false_iff.mp solid).2]
    rw [singleQuotedChar, if_neg quote, List.singleton_append,
      singleQuoted?_other quote (by simp [inside]), if_neg (by simp [solid]), next]

/-- Where a quoted scalar stands behind a character: a line has ended exactly behind a separator,
and blanks have been put off only behind a blank. -/
structure Behind (before : Char) (r : Reading) : Prop where
  folded : r.gap.folded = isBreak before
  blanks : r.gap.blanks ≠ [] → before = ' '
  first : isBreak before = true → ∃ b, r.gap.first = some b ∧ b ≠ '\n'

theorem Behind.push (r : Reading) (unbroken : isBreak c = false) : Behind c (r.push c) :=
  ⟨by simp [Reading.push, unbroken], fun h => absurd rfl h, by simp [unbroken]⟩

theorem Behind.separator {before : Char} {r : Reading} (h : Behind before r)
    (break_ : isBreak c = true) (separator : c ≠ '\n') : Behind c (r.space c) := by
  cases folded : r.gap.folded with
  | false =>
    exact ⟨by simp [Reading.space, Gap.add, folded, break_], by simp [Reading.space, Gap.add, folded, break_],
      fun _ => ⟨c, by simp [Reading.space, Gap.add, folded, break_], separator⟩⟩
  | true =>
    have broken := h.folded ▸ folded
    have none : r.gap.blanks = [] := by
      apply Decidable.byContradiction
      intro full
      rw [h.blanks full] at broken
      exact absurd broken (by decide)
    exact ⟨by simp [Reading.space, Gap.add, folded, break_],
      by simp [Reading.space, Gap.add, folded, break_, none],
      fun _ => by simpa [Reading.space, Gap.add, folded, break_] using h.first broken⟩

theorem Behind.blank {before : Char} {r : Reading} (h : Behind before r)
    (unbroken : isBreak before = false) :
    Behind ' ' (r.space ' ') :=
  have open_ := h.folded.trans unbroken
  ⟨by simp [Reading.space, Gap.add, open_, isBreak], fun _ => rfl, fun h => absurd h (by decide)⟩

/-- The blanks that a line begins with, or none in the middle of a line. -/
def margin (atStart : Bool) : List Char :=
  if atStart then valueIndent else []

/-- The blanks at the start of a line change nothing. -/
theorem singleQuoted?_margin {before : Char} {r : Reading} (h : Behind before r) (cs : List Char)
    {i l k fuel : Nat} (inside : isBreak before = false → k ≠ 0)
    (enough : (margin (isBreak before) ++ cs).length < fuel) :
    ∃ i' k' fuel', k' ≠ 0 ∧ cs.length < fuel' ∧
      singleQuoted? r ⟨margin (isBreak before) ++ cs, i, l, k⟩ fuel
        = singleQuoted? r ⟨cs, i', l, k'⟩ fuel' := by
  cases atStart : isBreak before with
  | false =>
    rw [atStart] at enough
    exact ⟨i, k, fuel, inside atStart, enough, rfl⟩
  | true =>
    rw [atStart] at enough
    obtain ⟨fuel, rfl⟩ :=
      Nat.exists_eq_add_of_le' (show 2 ≤ fuel by simp [margin, valueIndent] at enough; omega)
    refine ⟨i + 1 + 1, k + 1 + 1, fuel, Nat.succ_ne_zero _, by simp [margin, valueIndent] at enough; omega, ?_⟩
    have same := Reading.space_of_folded (c := ' ') (h.folded.trans atStart) rfl
    rw [margin, if_pos rfl, valueIndent, List.cons_append, List.cons_append, List.nil_append,
      singleQuoted?_space rfl, same]
    exact (singleQuoted?_space rfl).trans (by rw [same]; rfl)

/-- What is left of a text in single quotes and what follows it. -/
def quoteRest (atStart : Bool) (cs more : List Char) : List Char :=
  indentLines singleQuotedChar atStart cs ++ closing atStart cs ++ '\'' :: more

theorem quoteRest_nil (atStart : Bool) (more : List Char) :
    quoteRest atStart [] more = margin atStart ++ '\'' :: more := by
  cases atStart <;> rfl

theorem quoteRest_break (break_ : isBreak c = true) (atStart : Bool) (cs more : List Char) :
    quoteRest atStart (c :: cs) more = c :: quoteRest true cs more := by
  simp [quoteRest, indentLines, closing_cons, break_]

theorem quoteRest_char (unbroken : isBreak c = false) (atStart : Bool) (cs more : List Char) :
    quoteRest atStart (c :: cs) more = margin atStart ++ (singleQuotedChar c ++ quoteRest false cs more) := by
  simp [quoteRest, indentLines, closing_cons, unbroken, margin]

/-- What is left of a text in single quotes, behind the character `before`, is read as the text that
it is written for, wherever it stands. -/
def ReadsRest (more : List Char) (before : Char) (r : Reading) (cs : List Char) : Prop :=
  ∀ i l k fuel : Nat, (isBreak before = false → k ≠ 0) →
    (quoteRest (isBreak before) cs ('\n' :: more)).length < fuel →
    ∃ c, c.rest = '\n' :: more ∧ c.column ≠ 0 ∧
      singleQuoted? r ⟨quoteRest (isBreak before) cs ('\n' :: more), i, l, k⟩ fuel =
        some (String.ofList (r.text.reverse ++ r.gap.text ++ cs), c)

section ReadsRest

variable {before : Char} {r : Reading}

theorem ReadsRest.nil (h : Behind before r) : ReadsRest more before r [] := by
  intro i l k fuel inside enough
  rw [quoteRest_nil] at enough ⊢
  obtain ⟨i', k', fuel', apart, left, step⟩ := singleQuoted?_margin h _ inside enough
  obtain ⟨fuel', rfl⟩ := Nat.exists_eq_add_of_le' (show 1 ≤ fuel' by omega)
  refine ⟨⟨'\n' :: more, i' + 1, l, k' + 1⟩, rfl, Nat.succ_ne_zero k', step.trans ?_⟩
  rw [singleQuoted?]
  simp [apart, Reading.close, Cursor.next, isBreak]

/-- A separator ends a line, unless blanks have been put off in front of it. -/
theorem ReadsRest.separator (h : Behind before r) (break_ : isBreak c = true) (separator : c ≠ '\n')
    (apart : isSpace before = false) (rest : ReadsRest more c (r.space c) cs) :
    ReadsRest more before r (c :: cs) := by
  intro i l k fuel _ enough
  rw [quoteRest_break break_] at enough ⊢
  rw [List.length_cons] at enough
  obtain ⟨fuel, rfl⟩ := Nat.exists_eq_add_of_le' (show 1 ≤ fuel by omega)
  have closed : r.gap.folded = false → r.gap.blanks = [] := by
    intro _
    apply Decidable.byContradiction
    intro full
    rw [h.blanks full] at apart
    exact absurd apart (by decide)
  have text :=
    Gap.text_add_of_break break_ separator closed fun folded => h.first (h.folded ▸ folded)
  have next : Cursor.next ⟨c :: quoteRest true cs ('\n' :: more), i, l, k⟩ =
      ⟨quoteRest true cs ('\n' :: more), i + 1, l + 1, 0⟩ := by simp [Cursor.next, break_]
  obtain ⟨c', left, column, read⟩ :=
    rest (i + 1) (l + 1) 0 fuel (by simp [break_]) (by rw [break_]; omega)
  refine ⟨c', left, column, ?_⟩
  rw [break_] at read
  rw [singleQuoted?_space (by simp [break_]), next, read,
    show (r.space c).gap = r.gap.add c from rfl, text]
  simp [Reading.space]

/-- A blank is put off, unless a line begins with it. -/
theorem ReadsRest.blank (h : Behind before r) (unbroken : isBreak before = false)
    (rest : ReadsRest more ' ' (r.space ' ') cs) : ReadsRest more before r (' ' :: cs) := by
  intro i l k fuel inside enough
  rw [quoteRest_char rfl] at enough ⊢
  obtain ⟨i', k', fuel', apart, left, step⟩ := singleQuoted?_margin h _ inside enough
  obtain ⟨fuel', rfl⟩ := Nat.exists_eq_add_of_le' (show 1 ≤ fuel' by omega)
  have text := Gap.text_add_of_open (c := ' ') (h.folded.trans unbroken) rfl
  obtain ⟨c', left, column, read⟩ := rest (i' + 1) l (k' + 1) fuel' (fun _ => Nat.succ_ne_zero k')
    (by simpa [singleQuotedChar, isBreak] using left)
  refine ⟨c', left, column, step.trans ?_⟩
  have read : singleQuoted? r ⟨' ' :: quoteRest false cs ('\n' :: more), i', l, k'⟩ (fuel' + 1) = _ :=
    (singleQuoted?_space rfl).trans read
  rw [show (r.space ' ').gap = r.gap.add ' ' from rfl, text] at read
  simpa [Reading.space, singleQuotedChar] using read

/-- Any other character goes on with the text, and a quote does so as two of them. -/
theorem ReadsRest.char (h : Behind before r) (solid : (isBlank c || isBreak c) = false)
    (rest : ReadsRest more c (r.push c) cs) : ReadsRest more before r (c :: cs) := by
  intro i l k fuel inside enough
  have unbroken : isBreak c = false := (Bool.or_eq_false_iff.mp solid).2
  rw [quoteRest_char unbroken] at enough ⊢
  obtain ⟨i', k', fuel', apart, left, step⟩ := singleQuoted?_margin h _ inside enough
  have wide : 1 ≤ (singleQuotedChar c).length := by
    unfold singleQuotedChar
    split <;> simp
  rw [List.length_append] at left
  obtain ⟨fuel', rfl⟩ := Nat.exists_eq_add_of_le' (show 1 ≤ fuel' by omega)
  obtain ⟨i'', k'', apart', push⟩ := singleQuoted?_push (r := r) (l := l) solid apart
  obtain ⟨c', left, column, read⟩ :=
    rest i'' l k'' fuel' (fun _ => apart') (by rw [unbroken]; omega)
  rw [unbroken, Reading.text_push] at read
  refine ⟨c', left, column, step.trans (push.trans (read.trans ?_))⟩
  rw [List.append_assoc, List.singleton_append]

end ReadsRest

/-- **Single quotes** give back the text between them, if its lines are ended by separators and no
blank stands next to one. -/
theorem readsRest (more : List Char) (cs : List Char) :
    ∀ (before : Char) (r : Reading), Behind before r → (∀ c ∈ cs, isPrintable c = true ∧ c ≠ '\n') →
      hasPair isSpace isAnyBreak (before :: cs) = false →
        hasPair isAnyBreak isSpace (before :: cs) = false →
      ReadsRest more before r cs := by
  induction cs with
  | nil => exact fun _ _ h _ _ _ => .nil h
  | cons c cs ih =>
    intro before r h line gaps starts
    obtain ⟨printable, separator⟩ := line c List.mem_cons_self
    have line' : ∀ c ∈ cs, isPrintable c = true ∧ c ≠ '\n' :=
      fun x hx => line x (List.mem_cons_of_mem c hx)
    rw [hasPair_cons, Bool.or_eq_false_iff] at gaps starts
    have gap := gaps.1
    have start := starts.1
    simp only [List.head?_cons, Option.any_some, Bool.and_eq_false_iff] at gap start
    -- the pairs that do not occur are what the steps ask for: no blank stands next to a separator
    cases break_ : isBreak c with
    | true =>
      have apart := gap.resolve_right (by simp [isAnyBreak, break_])
      exact .separator h break_ separator apart (ih c _ (h.separator break_ separator) line' gaps.2 starts.2)
    | false =>
      by_cases blank : c = ' '
      · subst blank
        have unbroken := isBreak_of_isAnyBreak (start.resolve_right (by decide))
        exact .blank h unbroken (ih ' ' _ (h.blank unbroken) line' gaps.2 starts.2)
      · have solid : (isBlank c || isBreak c) = false := by
          rw [break_, Bool.or_false, ← Bool.not_eq_true]
          exact fun h => blank (eq_space_of_isBlank printable h)
        exact .char h solid (ih c _ (Behind.push r break_) line' gaps.2 starts.2)

/-- A text that single quotes allow is read back from them. -/
theorem singleQuoted?_singleQuoted (allowed : allowsSingle cs = true) (single : '\n' ∉ cs)
    {i l k fuel : Nat} (enough : (singleQuoted cs ++ '\n' :: more).length ≤ fuel) :
    ∃ c, c.rest = '\n' :: more ∧ c.column ≠ 0 ∧
      singleQuoted? {} (Cursor.next ⟨singleQuoted cs ++ '\n' :: more, i, l, k⟩) fuel
        = some (String.ofList cs, c) := by
  simp only [allowsSingle, Bool.and_eq_true, Bool.not_eq_true', List.all_eq_true] at allowed
  obtain ⟨⟨printable, gaps⟩, starts⟩ := allowed
  have text : singleQuoted cs ++ '\n' :: more = '\'' :: quoteRest false cs ('\n' :: more) := by
    simp [singleQuoted_eq, quoteRest]
  rw [text, List.length_cons] at enough
  rw [text]
  have behind : Behind '\'' {} := ⟨rfl, fun h => absurd rfl h, fun h => absurd h (by decide)⟩
  have reads :=
    readsRest more cs '\'' {} behind (fun c hc => ⟨printable c hc, fun same => single (same ▸ hc)⟩)
      (by rw [hasPair_cons, gaps]; rfl) (by rw [hasPair_cons, starts]; rfl)
  exact reads (i + 1) l (k + 1) fuel (fun _ => Nat.succ_ne_zero k) enough

/-! ### Double quotes -/

theorem hexDigit?_upper : ∀ d, d < 16 → Json.Raw.hexDigit? (Json.hexDigit d).toUpper = some d := by decide

theorem length_hexDigits (n count : Nat) : (hexDigits n count).length = count := by
  induction count generalizing n with
  | zero => rfl
  | succ count ih => simp [hexDigits, ih]

/-- The digits of a number give its value back, as far as there are any. -/
theorem foldlM_hexDigits (n count : Nat) :
    (hexDigits n count).foldlM (fun acc d => (Json.Raw.hexDigit? d).map (acc * 16 + ·)) 0 =
      some (n % Nat.pow 16 count) := by
  induction count generalizing n with
  | zero =>
    have one : n % Nat.pow 16 0 = 0 := Nat.mod_one n
    rw [one]
    rfl
  | succ count ih =>
    have power : Nat.pow 16 (count + 1) = 16 * Nat.pow 16 count := Nat.mul_comm _ 16
    have step : n / 16 % Nat.pow 16 count * 16 + n % 16 = n % Nat.pow 16 (count + 1) := by
      rw [power, Nat.mod_mul]
      omega
    rw [hexDigits, List.foldlM_append, ih, ← step]
    simp [hexDigit?_upper _ (Nat.mod_lt n (by decide))]

theorem isPrintable_of_mem_hexDigits {n count : Nat} (h : c ∈ hexDigits n count) :
    isPrintable c = true ∧ isBreak c = false := by
  have digits : ∀ d, d < 16 →
      isPrintable (Json.hexDigit d).toUpper = true ∧
        isBreak (Json.hexDigit d).toUpper = false := by decide
  induction count generalizing n with
  | zero => cases h
  | succ count ih =>
    simp only [hexDigits, List.mem_append, List.mem_singleton] at h
    rcases h with h | rfl
    · exact ih h
    · exact digits _ (Nat.mod_lt n (by decide))

theorem charOfHex?_hexDigits {count : Nat} (fits : c.toNat < Nat.pow 16 count) :
    charOfHex? (hexDigits c.toNat count) = some c := by
  have valid : ¬((0xD800 ≤ c.toNat ∧ c.toNat ≤ 0xDFFF) ∨ c.toNat > 0x10FFFF) := by
    have := c.valid
    simp only [UInt32.isValidChar, Nat.isValidChar] at this
    simp only [Char.toNat]
    omega
  rw [charOfHex?, foldlM_hexDigits, Nat.mod_eq_of_lt fits]
  simp [valid]

/-- What names a character behind a backslash: characters that are written as they are, and that an
escape is read from. -/
structure Names (e : List Char) (c : Char) : Prop where
  nonempty : e ≠ []
  plain : ∀ x ∈ e, isPrintable x = true ∧ isBreak x = false
  read : ∀ more, escape? (e ++ more) = some (c, e.length)

theorem Names.of_letter {letter : Char} (h : escapeLetter? c = some letter) : Names [letter] c := by
  have named : isPrintable letter = true ∧ isBreak letter = false ∧
      ∀ more, escape? (letter :: more) = some (c, 1) := by
    rw [← Char.ofNat_toNat c]
    unfold escapeLetter? at h
    split at h <;> cases h <;> next code => rw [code]; exact ⟨by decide, by decide, fun _ => rfl⟩
  obtain ⟨printable, unbroken, read⟩ := named
  exact ⟨List.cons_ne_nil _ _, by simp [printable, unbroken], read⟩

theorem Names.of_code {sign : Char} {count : Nat}
    (plain : isPrintable sign = true ∧ isBreak sign = false) (width : codeLength? sign = some count)
    (fits : c.toNat < Nat.pow 16 count) :
    Names (sign :: hexDigits c.toNat count) c := by
  refine ⟨List.cons_ne_nil _ _, fun x hx => ?_, fun more => ?_⟩
  · rcases List.mem_cons.mp hx with rfl | hx
    · exact plain
    · exact isPrintable_of_mem_hexDigits hx
  · have digits : (hexDigits c.toNat count ++ more).take count = hexDigits c.toNat count :=
      List.take_left' (length_hexDigits c.toNat count)
    simp [escape?, width, digits, length_hexDigits, charOfHex?_hexDigits fits]

/-- What stands for a character in double quotes: the character itself, or an escape that names
it. -/
theorem doubleQuotedChar_cases (c : Char) :
    (doubleQuotedChar c = [c] ∧ isPrintable c = true ∧ isBreak c = false ∧ c ≠ '"' ∧ c ≠ '\\') ∨
      ∃ e, doubleQuotedChar c = '\\' :: e ∧ Names e c := by
  unfold doubleQuotedChar
  split
  · next kept =>
    simp only [Bool.and_eq_true, Bool.not_eq_true', decide_eq_true_eq] at kept
    exact .inl ⟨rfl, kept.1.1.1, kept.1.1.2, kept.1.2, kept.2⟩
  · refine .inr ?_
    cases letter : escapeLetter? c with
    | some x => exact ⟨[x], rfl, .of_letter letter⟩
    | none =>
      dsimp only
      split
      · next small => exact ⟨_, rfl, .of_code (by decide) rfl (Nat.lt_of_le_of_lt small (by decide))⟩
      · split
        · next small => exact ⟨_, rfl, .of_code (by decide) rfl (Nat.lt_of_le_of_lt small (by decide))⟩
        · have small : c.toNat < Nat.pow 16 8 := Nat.lt_of_lt_of_le c.val.toNat_lt (by decide)
          exact ⟨_, rfl, .of_code (by decide) rfl small⟩

theorem Cursor.skip_of_unbroken (cs : List Char) (h : ∀ c ∈ cs, isBreak c = false)
    (more : List Char) (i l k : Nat) :
    Cursor.skip ⟨cs ++ more, i, l, k⟩ cs.length = ⟨more, i + cs.length, l, k + cs.length⟩ := by
  induction cs generalizing i k with
  | nil => rfl
  | cons c cs ih =>
    have next : Cursor.next ⟨c :: cs ++ more, i, l, k⟩ = ⟨cs ++ more, i + 1, l, k + 1⟩ := by
      simp [Cursor.next, h c List.mem_cons_self]
    rw [List.length_cons, Cursor.skip, next, ih (fun x hx => h x (List.mem_cons_of_mem c hx))]
    simp only [Nat.add_assoc, Nat.add_comm 1]

/-- A character that stands for itself in double quotes is put off if it is a blank. -/
theorem doubleQuoted?_kept {r : Reading} {i l k fuel : Nat} (inside : k ≠ 0)
    (unbroken : isBreak c = false) (quote : c ≠ '"') (backslash : c ≠ '\\') :
    doubleQuoted? r ⟨c :: cs, i, l, k⟩ (fuel + 1) =
      doubleQuoted? (if isBlank c then r.space c else r.push c) ⟨cs, i + 1, l, k + 1⟩ fuel := by
  have next : Cursor.next ⟨c :: cs, i, l, k⟩ = ⟨cs, i + 1, l, k + 1⟩ := by
    simp [Cursor.next, unbroken]
  rw [doubleQuoted?]
  cases blank : isBlank c <;> simp [inside, next, unbroken, blank]

/-- An escape stands for the character that it names. -/
theorem doubleQuoted?_named {e : List Char} {r : Reading} {i l k fuel : Nat} (inside : k ≠ 0)
    (h : Names e c) :
    doubleQuoted? r ⟨'\\' :: (e ++ cs), i, l, k⟩ (fuel + 1) =
      doubleQuoted? (r.push c) ⟨cs, i + 1 + e.length, l, k + 1 + e.length⟩ fuel := by
  have joined : charNext ['\n', Char.ofNat 0x2028, Char.ofNat 0x2029] (e ++ cs) = false := by
    obtain ⟨x, e, rfl⟩ := List.exists_cons_of_ne_nil h.nonempty
    have breaks : ∀ y ∈ ['\n', Char.ofNat 0x2028, Char.ofNat 0x2029], isBreak y = true :=
      List.all_eq_true.mp rfl
    rw [← Bool.not_eq_true]
    intro next
    exact absurd (breaks x (List.contains_iff_mem.mp next)) (by simp [h.plain x List.mem_cons_self])
  rw [doubleQuoted?]
  simp only [inside, decide_false, Bool.false_and, Bool.false_eq_true, if_false, joined, h.read]
  rw [← Cursor.skip_of_unbroken e (fun x hx => (h.plain x hx).2)]
  rfl

/-- **Double quotes** give back the text between them. -/
theorem doubleQuoted?_flatMap (more : List Char) (cs : List Char) :
    ∀ (r : Reading) (i l k fuel : Nat), r.gap.folded = false → k ≠ 0 → cs.length < fuel →
      ∃ c, c.rest = more ∧ c.column ≠ 0 ∧
        doubleQuoted? r ⟨cs.flatMap doubleQuotedChar ++ '"' :: more, i, l, k⟩ fuel =
          some (String.ofList (r.text.reverse ++ r.gap.text ++ cs), c) := by
  induction cs with
  | nil =>
    intro r i l k fuel _ inside enough
    obtain ⟨fuel, rfl⟩ := Nat.exists_eq_add_of_le' (show 1 ≤ fuel from enough)
    refine ⟨⟨more, i + 1, l, k + 1⟩, rfl, Nat.succ_ne_zero k, ?_⟩
    rw [doubleQuoted?]
    simp [inside, Reading.close, Cursor.next, isBreak]
  | cons c cs ih =>
    intro r i l k fuel open_ inside enough
    rw [List.length_cons] at enough
    obtain ⟨fuel, rfl⟩ := Nat.exists_eq_add_of_le' (show 1 ≤ fuel by omega)
    -- whatever stands for the character, the reading holds it afterwards
    have goes_on (r' : Reading) (open_ : r'.gap.folded = false) (i k : Nat) (inside : k ≠ 0)
        (text : r'.text.reverse ++ r'.gap.text = r.text.reverse ++ r.gap.text ++ [c]) :
        ∃ c', Cursor.rest c' = more ∧ c'.column ≠ 0 ∧
          doubleQuoted? r' ⟨cs.flatMap doubleQuotedChar ++ '"' :: more, i, l, k⟩ fuel =
            some (String.ofList (r.text.reverse ++ r.gap.text ++ c :: cs), c') := by
      obtain ⟨c', left, column, read⟩ := ih r' i l k fuel open_ inside (by omega)
      exact ⟨c', left, column, by rw [read, text, List.append_assoc _ [c], List.singleton_append]⟩
    rw [List.flatMap_cons, List.append_assoc]
    rcases doubleQuotedChar_cases c with ⟨written, _, unbroken, quote, backslash⟩ | ⟨e, written, named⟩
    · rw [written, List.singleton_append, doubleQuoted?_kept inside unbroken quote backslash]
      split
      · have text : (r.space c).gap.text = r.gap.text ++ [c] := Gap.text_add_of_open open_ unbroken
        have still : (r.space c).gap.folded = false := by
          simp [Reading.space, Gap.add, open_, unbroken]
        exact goes_on _ still _ _ (Nat.succ_ne_zero k) (by rw [text, List.append_assoc]; rfl)
      · exact goes_on _ rfl _ _ (Nat.succ_ne_zero k) (r.text_push c)
    · rw [written, List.cons_append, doubleQuoted?_named inside named]
      exact goes_on _ rfl _ _ (by omega) (r.text_push c)

theorem length_le_flatMap (cs : List Char) : cs.length ≤ (cs.flatMap doubleQuotedChar).length := by
  induction cs with
  | nil => exact Nat.le_refl 0
  | cons c cs ih =>
    have : 1 ≤ (doubleQuotedChar c).length := by
      rcases doubleQuotedChar_cases c with ⟨written, _⟩ | ⟨e, written, _⟩ <;> simp [written]
    rw [List.flatMap_cons, List.length_append, List.length_cons]
    omega

/-- Every text is read back from double quotes. -/
theorem doubleQuoted?_doubleQuoted (cs more : List Char) {i l k fuel : Nat}
    (enough : (doubleQuoted cs ++ '\n' :: more).length ≤ fuel) :
    ∃ c, c.rest = '\n' :: more ∧ c.column ≠ 0 ∧
      doubleQuoted? {} (Cursor.next ⟨doubleQuoted cs ++ '\n' :: more, i, l, k⟩) fuel
        = some (String.ofList cs, c) := by
  have text : doubleQuoted cs ++ '\n' :: more
      = '"' :: (cs.flatMap doubleQuotedChar ++ '"' :: '\n' :: more) := by
    simp [doubleQuoted]
  have shorter := length_le_flatMap cs
  rw [text] at enough ⊢
  simp only [List.length_cons, List.length_append] at enough
  exact doubleQuoted?_flatMap ('\n' :: more) cs {} (i + 1) l (k + 1) fuel rfl (Nat.succ_ne_zero k) (by omega)

end ApiStubs.Yaml
