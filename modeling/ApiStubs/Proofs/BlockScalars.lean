import ApiStubs.Proofs.ScalarTexts

/-!
# Texts of blocks

A text with several lines is written as a literal block: every line that is not empty stands behind
two blanks, and the sign in front of the block says what becomes of the line ends behind it.

## What is proved

* `blockLines?_indented`: reading goes line by line. What has been read and what is left make up
  the same text before and behind every line (`blockLines?_line`), and at the end of the block what
  has been read ends with line ends (`BlockReading.Ended`).
* `exists_chomping`: the sign that the writer chooses gives back exactly the line ends of the text.
* `block?_blockText`: so a text that a block allows is read back from one.
-/

namespace ApiStubs.Yaml

variable {c : Char} {cs more : List Char}

/-! ### Indented lines -/

/-- The lines of a text behind the blanks of a block. -/
def indented (atStart : Bool) (cs : List Char) : List Char :=
  indentLines (fun c => [c]) atStart cs

theorem indented_break (break_ : isBreak c = true) (atStart : Bool) (cs : List Char) :
    indented atStart (c :: cs) = c :: indented true cs := by
  simp [indented, indentLines, break_]

theorem indented_char (unbroken : isBreak c = false) (atStart : Bool) (cs : List Char) :
    indented atStart (c :: cs) = margin atStart ++ c :: indented false cs := by
  simp [indented, indentLines, unbroken, margin]

theorem indented_append (line : List Char) (unbroken : ∀ c ∈ line, isBreak c = false)
    (cs : List Char) :
    indented false (line ++ cs) = line ++ indented false cs := by
  induction line with
  | nil => rfl
  | cons c line ih =>
    rw [List.cons_append, indented_char (unbroken c List.mem_cons_self),
      ih fun x hx => unbroken x (List.mem_cons_of_mem c hx)]
    rfl

/-! ### Empty lines -/

/-- The column in front of what is left of a block: that of the text, or the first where the block
has ended. -/
def blockColumn (cs : List Char) : Nat :=
  if cs.isEmpty then 0 else 2

/-- A blank of the indentation is skipped. -/
theorem blockBreaks?_space {indent widest i l k fuel : Nat} {breaks : List Char}
    (inside : indent = 0 ∨ k < indent) :
    blockBreaks? indent widest breaks ⟨' ' :: more, i, l, k⟩ (fuel + 1) =
      blockBreaks? indent widest breaks ⟨more, i + 1, l, k + 1⟩ fuel := by
  rw [blockBreaks?]
  simp [inside, Cursor.next, isBreak]

/-- A line end is collected. -/
theorem blockBreaks?_break {indent widest i l fuel : Nat} {breaks : List Char}
    (break_ : isBreak c = true) :
    blockBreaks? indent widest breaks ⟨c :: more, i, l, 0⟩ (fuel + 1) =
      blockBreaks? indent (max widest 0) (breaks ++ [c]) ⟨more, i + 1, l + 1, 0⟩ fuel := by
  have solid : c ≠ ' ' ∧ c ≠ '\t' := by
    constructor <;> rintro rfl <;> exact absurd break_ (by decide)
  have next : Cursor.next ⟨c :: more, i, l, 0⟩ = ⟨more, i + 1, l + 1, 0⟩ := by
    simp [Cursor.next, break_]
  rw [blockBreaks?]
  simp [solid.1, solid.2, break_, next]

/-- Empty lines are collected up to a line that holds something. -/
theorem blockBreaks?_indented (follows : StartsLine more) (cs : List Char) :
    ∀ (widest : Nat) (breaks : List Char) (i l fuel : Nat), (indented true cs ++ more).length < fuel →
      ∃ widest' c, c.rest = indented false (cs.dropWhile isBreak) ++ more ∧
        c.column = blockColumn (cs.dropWhile isBreak) ∧
        blockBreaks? 2 widest breaks ⟨indented true cs ++ more, i, l, 0⟩ fuel =
          some (widest', breaks ++ cs.takeWhile isBreak, c) := by
  induction cs with
  | nil =>
    intro widest breaks i l fuel enough
    obtain ⟨fuel, rfl⟩ := Nat.exists_eq_add_of_le' (show 1 ≤ fuel by omega)
    refine ⟨max widest 0, ⟨more, i, l, 0⟩, rfl, rfl, ?_⟩
    rw [show indented true [] ++ more = more from rfl, blockBreaks?]
    cases more with
    | nil => simp
    | cons x more =>
      obtain ⟨blank, unbroken⟩ := follows x rfl
      simp only [isBlank, Bool.or_eq_false_iff, decide_eq_false_iff_not] at blank
      simp [blank, unbroken]
  | cons c cs ih =>
    intro widest breaks i l fuel enough
    cases break_ : isBreak c with
    | true =>
      rw [indented_break break_, List.cons_append, List.length_cons] at enough
      obtain ⟨fuel, rfl⟩ := Nat.exists_eq_add_of_le' (show 1 ≤ fuel by omega)
      obtain ⟨widest', c', rest, column, read⟩ :=
        ih (max widest 0) (breaks ++ [c]) (i + 1) (l + 1) fuel (by omega)
      rw [List.dropWhile_cons_of_pos break_, List.takeWhile_cons_of_pos break_]
      refine ⟨widest', c', rest, column, ?_⟩
      rw [indented_break break_, List.cons_append, blockBreaks?_break break_, read,
        List.append_assoc, List.singleton_append]
    | false =>
      rw [indented_char break_] at enough ⊢
      simp only [margin, if_true, valueIndent, List.cons_append, List.nil_append,
        List.length_cons] at enough ⊢
      obtain ⟨fuel, rfl⟩ := Nat.exists_eq_add_of_le' (show 3 ≤ fuel by omega)
      rw [List.dropWhile_cons_of_neg (by simp [break_]),
        List.takeWhile_cons_of_neg (by simp [break_])]
      refine ⟨max widest 2, ⟨c :: (indented false cs ++ more), i + 2, l, 2⟩, ?_, rfl, ?_⟩
      · rw [indented_char break_]
        rfl
      · rw [blockBreaks?_space (.inr (by decide)), blockBreaks?_space (.inr (by decide)),
          blockBreaks?]
        simp [break_]

/-! ### Lines -/

/-- All that has been read of a block. -/
def BlockReading.all (r : BlockReading) : List Char :=
  r.text.reverse ++ r.lineEnd ++ r.emptyLines

/-- Behind the text of a block there are only line ends, the first of which ends its last line. -/
structure BlockReading.Ended (r : BlockReading) : Prop where
  lineEnd : (r.lineEnd = [] ∧ r.text = []) ∨ ∃ b, r.lineEnd = [b] ∧ isBreak b = true
  emptyLines : ∀ b ∈ r.emptyLines, isBreak b = true

theorem Cursor.span_line {line : List Char} (unbroken : ∀ c ∈ line, isBreak c = false) {b : Char}
    (break_ : isBreak b = true) (more : List Char) (i l k : Nat) :
    Cursor.span (fun x => !isBreak x) ⟨line ++ b :: more, i, l, k⟩ =
      (line, ⟨b :: more, i + line.length, l, k + line.length⟩) := by
  have taken : (line ++ b :: more).takeWhile (fun x => !isBreak x) = line := by
    rw [List.takeWhile_append_of_pos (fun c hc => by simp [unbroken c hc]),
      List.takeWhile_cons_of_neg (by simp [break_]), List.append_nil]
  simp only [Cursor.span, taken, Cursor.skip_of_unbroken line unbroken]

/-- A block without indentation has ended. -/
theorem blockLines?_end (r : BlockReading) (i l fuel : Nat) :
    blockLines? true 2 r ⟨more, i, l, 0⟩ (fuel + 1) = some (r, ⟨more, i, l, 0⟩) := by
  rw [blockLines?]
  cases more <;> simp

/-- One line of a block, with its end and the empty lines behind it. -/
theorem blockLines?_line (follows : StartsLine more) {line : List Char} (full : line ≠ [])
    (unbroken : ∀ c ∈ line, isBreak c = false) {b : Char} (break_ : isBreak b = true) (cs : List Char)
    (r : BlockReading) (i l fuel : Nat) :
    ∃ r' c, r'.all = r.all ++ line ++ [b] ++ cs.takeWhile isBreak ∧ r'.Ended ∧
      c.rest = indented false (cs.dropWhile isBreak) ++ more ∧
        c.column = blockColumn (cs.dropWhile isBreak) ∧
      blockLines? true 2 r ⟨line ++ b :: (indented true cs ++ more), i, l, 2⟩ (fuel + 1) =
        blockLines? true 2 r' c fuel := by
  obtain ⟨widest, c, rest, column, read⟩ :=
    blockBreaks?_indented follows cs 0 [] (i + line.length + 1) (l + 1)
      ((indented true cs ++ more).length + 1) (Nat.lt_succ_self _)
  refine ⟨{ text := line.reverse ++ ((r.lineEnd ++ r.emptyLines).reverse ++ r.text), lineEnd := [b],
            emptyLines := cs.takeWhile isBreak, blankStart := isBlank (line.headD ' ') },
    c, ?_, ?_, rest, column, ?_⟩
  · simp [BlockReading.all]
  · exact ⟨.inr ⟨b, rfl, break_⟩, fun b hb => List.all_eq_true.mp List.all_takeWhile b hb⟩
  · have line_ := Cursor.span_line unbroken break_ (indented true cs ++ more) i l 2
    obtain ⟨x, line, rfl⟩ := List.exists_cons_of_ne_nil full
    have next : Cursor.next ⟨b :: (indented true cs ++ more), i + (x :: line).length, l, 2 + (x :: line).length⟩ =
        ⟨indented true cs ++ more, i + (x :: line).length + 1, l + 1, 0⟩ := by simp [Cursor.next, break_]
    rw [List.nil_append] at read
    rw [blockLines?]
    simp only [List.cons_append, ne_eq, not_true_eq_false, if_false] at line_ ⊢
    simp only [line_, Cursor.peek?, List.head?_cons, next, read, Bool.not_true, Bool.false_and,
      Bool.false_eq_true, if_false]
    rfl

theorem length_indented_dropWhile (cs : List Char) :
    (indented false (cs.dropWhile isBreak)).length ≤ (indented true cs).length := by
  induction cs with
  | nil => exact Nat.le_refl 0
  | cons c cs ih =>
    cases break_ : isBreak c with
    | true =>
      rw [List.dropWhile_cons_of_pos break_, indented_break break_, List.length_cons]
      omega
    | false =>
      rw [List.dropWhile_cons_of_neg (by simp [break_]), indented_char break_, indented_char break_]
      simp [margin]

theorem first_dropWhile (cs : List Char) :
    ∀ x ∈ (cs.dropWhile isBreak).head?, isBreak x = false := by
  intro x hx
  have := List.head?_dropWhile_not isBreak cs
  rwa [hx] at this

theorem last_dropWhile (before : List Char)
    (last : ∀ x ∈ (before ++ cs).getLast?, isBreak x = true) :
    ∀ x ∈ (cs.dropWhile isBreak).getLast?, isBreak x = true := by
  intro x hx
  apply last
  rw [← List.takeWhile_append_dropWhile (p := isBreak) (l := cs), ← List.append_assoc,
    List.getLast?_append, Option.mem_def.mp hx]
  rfl

/-- A text that begins with a character and ends with its last line has a first line. -/
theorem exists_line (full : cs ≠ []) (first : ∀ x ∈ cs.head?, isBreak x = false)
    (last : ∀ x ∈ cs.getLast?, isBreak x = true) :
    ∃ line b tail, cs = line ++ b :: tail ∧ line ≠ [] ∧ (∀ c ∈ line, isBreak c = false) ∧
      isBreak b = true := by
  have some_ : (cs.find? isBreak).isSome = true := by
    rw [List.find?_isSome]
    exact ⟨cs.getLast full, List.getLast_mem full, last _ (List.getLast?_eq_some_getLast full)⟩
  obtain ⟨b, found⟩ := Option.isSome_iff_exists.mp some_
  obtain ⟨break_, line, tail, rfl, unbroken⟩ := List.find?_eq_some_iff_append.mp found
  refine ⟨line, b, tail, rfl, ?_, fun c hc => by simpa using unbroken c hc, break_⟩
  rintro rfl
  exact absurd break_ (by simp [first b rfl])

/-- **The lines of a block** make up its text, whatever has been read before. -/
theorem blockLines?_indented (follows : StartsLine more) (cs : List Char) :
    ∀ (r : BlockReading) (c : Cursor) (fuel : Nat), r.Ended →
      (∀ x ∈ cs.head?, isBreak x = false) → (∀ x ∈ cs.getLast?, isBreak x = true) →
      c.rest = indented false cs ++ more → c.column = blockColumn cs → c.rest.length < fuel →
      ∃ r' c', r'.all = r.all ++ cs ∧ r'.Ended ∧ c'.rest = more ∧ c'.column = 0 ∧
        blockLines? true 2 r c fuel = some (r', c') := by
  -- by induction on the number of characters, since the next line begins behind any number of empty ones
  induction size : cs.length using Nat.strongRecOn generalizing cs with
  | ind n ih =>
  rintro r ⟨rest, i, l, k⟩ fuel ended first last written column enough
  obtain ⟨fuel, rfl⟩ := Nat.exists_eq_add_of_le' (show 1 ≤ fuel by omega)
  by_cases none : cs = []
  · subst none
    obtain rfl : rest = more := written
    obtain rfl : k = 0 := column
    exact ⟨r, _, by simp, ended, rfl, rfl, blockLines?_end r i l fuel⟩
  obtain rfl : rest = indented false cs ++ more := written
  obtain rfl : k = 2 := by simpa [blockColumn, none] using column
  obtain ⟨line, b, tail, rfl, full, unbroken, break_⟩ := exists_line none first last
  rw [indented_append line unbroken, indented_break break_, List.append_assoc,
    List.cons_append] at enough ⊢
  obtain ⟨r', c, all, ended', rest, column', step⟩ :=
    blockLines?_line follows full unbroken break_ tail r i l fuel
  have shorter : (tail.dropWhile isBreak).length < n := by
    have := (List.dropWhile_sublist isBreak (l := tail)).length_le
    simp only [List.length_append, List.length_cons] at size
    omega
  have left : c.rest.length < fuel := by
    have := length_indented_dropWhile tail
    simp only [List.length_append, List.length_cons] at enough
    rw [rest, List.length_append]
    omega
  obtain ⟨r'', c', all', ended'', rest', column'', read⟩ :=
    ih _ shorter _ rfl r' c fuel ended' (first_dropWhile tail)
      (last_dropWhile (line ++ [b]) (by simpa using last)) rest column' left
  refine ⟨r'', c', ?_, ended'', rest', column'', step.trans read⟩
  rw [all', all, List.append_assoc _ _ (tail.dropWhile isBreak), List.takeWhile_append_dropWhile]
  simp

/-! ### Line ends behind a block -/

/-- The text of a block, by what becomes of the line ends behind it. -/
def BlockReading.chomped (r : BlockReading) : Chomping → List Char
  | .strip => r.text.reverse
  | .clip => r.text.reverse ++ r.lineEnd
  | .keep => r.all

/-- The sign in front of a block. -/
def Chomping.sign : Chomping → List Char
  | .strip => ['-']
  | .clip => []
  | .keep => ['+']

/-- A text with its last line ended. -/
def closedLines (cs : List Char) : List Char :=
  if cs.getLast?.any isBreak then cs else cs ++ ['\n']

theorem first_closedLines (full : cs ≠ []) : (closedLines cs).head? = cs.head? := by
  obtain ⟨c, cs, rfl⟩ := List.exists_cons_of_ne_nil full
  unfold closedLines
  split <;> rfl

theorem closedLines_ne_nil (full : cs ≠ []) : closedLines cs ≠ [] := by
  unfold closedLines
  split
  · exact full
  · simp

theorem last_closedLines (cs : List Char) : ∀ x ∈ (closedLines cs).getLast?, isBreak x = true := by
  intro x hx
  unfold closedLines at hx
  split at hx
  · next last => rwa [Option.mem_def.mp hx, Option.any_some] at last
  · obtain rfl : '\n' = x := by simpa using hx
    rfl

/-- One line end behind a character is that of the last line. -/
theorem BlockReading.Ended.single {r : BlockReading} (h : r.Ended) {init : List Char} {a : Char}
    (all : r.all = init ++ [a]) (solid : ∃ b, init.getLast? = some b ∧ isBreak b = false) :
    r.text.reverse = init ∧ r.lineEnd = [a] := by
  obtain ⟨x, last, unbroken⟩ := solid
  rcases h.lineEnd with ⟨none, empty⟩ | ⟨b, one, break_⟩
  · have all : r.emptyLines = init ++ [a] := by simpa [BlockReading.all, none, empty] using all
    have broken := h.emptyLines x (all ▸ List.mem_append_left _ (List.mem_of_getLast? last))
    exact absurd broken (by simp [unbroken])
  · -- were there empty lines as well, the last character of `init` would end a line
    rcases List.eq_nil_or_concat r.emptyLines with none | ⟨es, e, some_⟩
    · have all : r.text.reverse ++ [b] = init ++ [a] := by
        simpa [BlockReading.all, one, none] using all
      obtain ⟨text, same⟩ := List.append_inj' all rfl
      exact ⟨text, one.trans same⟩
    · have all : (r.text.reverse ++ b :: es) ++ [e] = init ++ [a] := by
        simpa [BlockReading.all, one, some_] using all
      obtain ⟨rfl, _⟩ := List.append_inj' all rfl
      have there : x ∈ b :: es := by
        rw [List.getLast?_append, List.getLast?_eq_some_getLast (List.cons_ne_nil b es),
          Option.some_or] at last
        exact List.mem_of_getLast? (List.getLast?_eq_some_getLast (List.cons_ne_nil b es) |>.trans last)
      have broken : isBreak x = true := by
        rcases List.mem_cons.mp there with rfl | there
        · exact break_
        · exact h.emptyLines x (by simp [some_, there])
      exact absurd broken (by simp [unbroken])

theorem chompSign_concat (init : List Char) (a : Char) :
    chompSign (init ++ [a]) =
      if isBreak a then (if init.getLast?.elim true isBreak then ['+'] else []) else ['-'] := by
  rcases List.eq_nil_or_concat init with rfl | ⟨init, b, rfl⟩
  · cases break_ : isBreak a <;> simp [chompSign, break_]
  · cases break_ : isBreak a <;> simp [chompSign, break_]

/-- The sign that the writer chooses gives the text back. -/
theorem exists_chomping (full : cs ≠ []) :
    ∃ ch : Chomping, chompSign cs = ch.sign ∧
      ∀ r : BlockReading, r.Ended → r.all = closedLines cs → r.chomped ch = cs := by
  obtain ⟨init, a, rfl⟩ : ∃ init a, cs = init ++ [a] :=
    ⟨_, _, (List.dropLast_concat_getLast full).symm⟩
  have last : (init ++ [a]).getLast? = some a := List.getLast?_concat
  rw [chompSign_concat, closedLines, last, Option.any_some]
  cases break_ : isBreak a with
  | false => exact ⟨.strip, rfl, fun r ended all => (ended.single all ⟨a, last, break_⟩).1⟩
  | true =>
    cases before : init.getLast?.elim true isBreak with
    | true => exact ⟨.keep, rfl, fun r _ all => all⟩
    | false =>
      have solid : ∃ b, init.getLast? = some b ∧ isBreak b = false := by
        cases other : init.getLast? with
        | none => simp [other] at before
        | some b => exact ⟨b, rfl, by simpa [other] using before⟩
      refine ⟨.clip, rfl, fun r ended all => ?_⟩
      obtain ⟨text, lineEnd⟩ := ended.single all solid
      rw [BlockReading.chomped, text, lineEnd]

/-! ### Blocks -/

/-- The width of the indentation, where it is given. -/
def hint (given : Bool) : List Char :=
  if given then ['2'] else []

theorem blockHeader?_sign (given : Bool) (ch : Chomping) (more : List Char) :
    blockHeader? (hint given ++ ch.sign ++ '\n' :: more) =
      some (ch, if given then 2 else 0, (hint given ++ ch.sign).length) := by
  cases given <;> cases ch <;> rfl

/-- The first line shows how wide the indentation is. -/
theorem blockBreaks?_first (unbroken : isBreak c = false) (solid : isBlank c = false)
    (more : List Char) (i l fuel : Nat) :
    blockBreaks? 0 0 [] ⟨margin true ++ c :: more, i, l, 0⟩ (fuel + 3) =
      some (2, [], ⟨c :: more, i + 1 + 1, l, 2⟩) := by
  simp only [isBlank, Bool.or_eq_false_iff, decide_eq_false_iff_not] at solid
  simp only [margin, if_true, valueIndent, List.cons_append, List.nil_append]
  rw [blockBreaks?_space (.inl rfl), blockBreaks?_space (.inl rfl), blockBreaks?]
  simp [unbroken, solid]

/-- The indentation of a block is found, if it is not given, and the empty lines that it begins with
are collected. -/
theorem blockBreaks?_begin (follows : StartsLine more) (given : Bool) (full : cs ≠ [])
    (first : given = false → ∀ x ∈ cs.head?, isBreak x = false ∧ isBlank x = false) (i l : Nat) :
    ∃ widest c, c.rest = indented false (cs.dropWhile isBreak) ++ more ∧
      c.column = blockColumn (cs.dropWhile isBreak) ∧ (given = false → widest = 2) ∧
      blockBreaks? (if given then 2 else 0) 0 [] ⟨indented true cs ++ more, i, l, 0⟩
        ((indented true cs ++ more).length + 1) = some (widest, cs.takeWhile isBreak, c) := by
  cases given with
  | true =>
    obtain ⟨widest, c, rest, column, read⟩ :=
      blockBreaks?_indented follows cs 0 [] i l _ (Nat.lt_succ_self _)
    exact ⟨widest, c, rest, column, nofun, read⟩
  | false =>
    obtain ⟨x, cs, rfl⟩ := List.exists_cons_of_ne_nil full
    obtain ⟨unbroken, solid⟩ := first rfl x rfl
    have enough : 3 ≤ (indented true (x :: cs) ++ more).length + 1 := by
      simp [indented_char unbroken, margin, valueIndent]
    obtain ⟨fuel, same⟩ := Nat.exists_eq_add_of_le' enough
    rw [List.dropWhile_cons_of_neg (by simp [unbroken]),
      List.takeWhile_cons_of_neg (by simp [unbroken]), same, indented_char unbroken,
      indented_char unbroken, List.append_assoc]
    exact ⟨2, _, rfl, rfl, fun _ => rfl, blockBreaks?_first unbroken solid (indented false cs ++ more) i l fuel⟩

/-- Behind the sign of a block its lines are read. -/
theorem block?_sign (follows : StartsLine more) (given : Bool) (ch : Chomping) (full : cs ≠ [])
    (first : given = false → ∀ x ∈ cs.head?, isBreak x = false ∧ isBlank x = false)
    (last : ∀ x ∈ cs.getLast?, isBreak x = true) (i l k : Nat) :
    ∃ (r : BlockReading) (c : Cursor), r.all = cs ∧ r.Ended ∧ c.rest = more ∧ c.column = 0 ∧
      block? true 0 ⟨hint given ++ ch.sign ++ '\n' :: (indented true cs ++ more), i, l, k⟩ =
        some (String.ofList (r.chomped ch), c) := by
  have plain : ∀ c ∈ hint given ++ ch.sign, isBreak c = false := by
    have all : (hint given ++ ch.sign).all (fun c => !isBreak c) = true := by
      cases given <;> cases ch <;> rfl
    exact fun c hc => by simpa using List.all_eq_true.mp all c hc
  have skipped :=
    Cursor.skip_of_unbroken (hint given ++ ch.sign) plain ('\n' :: (indented true cs ++ more)) i l k
  generalize i + (hint given ++ ch.sign).length = i at skipped
  generalize k + (hint given ++ ch.sign).length = k at skipped
  have still : Cursor.skipWhile isBlank ⟨'\n' :: (indented true cs ++ more), i, l, k⟩ =
      ⟨'\n' :: (indented true cs ++ more), i, l, k⟩ := rfl
  have next : Cursor.next ⟨'\n' :: (indented true cs ++ more), i, l, k⟩ =
      ⟨indented true cs ++ more, i + 1, l + 1, 0⟩ := rfl
  obtain ⟨widest, c, rest, column, wide, opened⟩ :=
    blockBreaks?_begin follows given full first (i + 1) (l + 1)
  have left : c.rest.length < (indented true cs ++ more).length + 1 := by
    have := length_indented_dropWhile cs
    rw [rest, List.length_append, List.length_append]
    omega
  have ended : BlockReading.Ended { emptyLines := cs.takeWhile isBreak } :=
    ⟨.inl ⟨rfl, rfl⟩, fun b hb => List.all_eq_true.mp List.all_takeWhile b hb⟩
  obtain ⟨r, c', all, ended, rest', column', read⟩ :=
    blockLines?_indented follows (cs.dropWhile isBreak) _ c _ ended
      (first_dropWhile cs) (last_dropWhile [] last) rest column left
  refine ⟨r, c', ?_, ended, rest', column', ?_⟩
  · rw [all, BlockReading.all]
    exact List.takeWhile_append_dropWhile
  have line : ¬some '\n' = some '#' := by decide
  have width : (if (if given then 2 else 0) = 0 then 0 else (max (0 : Int) 0).toNat + if given then 2 else 0) =
      if given then 2 else 0 := by
    cases given <;> rfl
  have indent : (if (if given then 2 else 0) = 0 then max (max widest (0 + 1 : Int).toNat) 1
      else if given then 2 else 0) = 2 := by
    cases given with
    | true => rfl
    | false => rw [wide rfl]; rfl
  unfold block?
  dsimp only
  rw [blockHeader?_sign]
  simp only [Option.bind_eq_bind, Option.bind_some, skipped, still, Cursor.peek?, List.head?_cons,
    if_neg line, next, width, opened, indent, read, lineEndNext]
  rw [if_neg (by decide)]
  cases ch <;> simp [BlockReading.chomped, BlockReading.all]

theorem indented_concat (atStart : Bool) (cs : List Char) :
    indented atStart (cs ++ ['\n']) = indented atStart cs ++ ['\n'] := by
  induction cs generalizing atStart with
  | nil => cases atStart <;> rfl
  | cons c cs ih =>
    cases break_ : isBreak c with
    | true => rw [List.cons_append, indented_break break_, indented_break break_, ih, List.cons_append]
    | false =>
      rw [List.cons_append, indented_char break_, indented_char break_, ih, List.append_assoc,
        List.cons_append]

theorem blockText_eq (cs more : List Char) :
    blockText cs ++ (if cs.getLast?.any isBreak then [] else ['\n']) ++ more =
      '|' :: (hint (cs.head?.any fun c => isSpace c || isBreak c) ++ chompSign cs ++ '\n' ::
        (indented true (closedLines cs) ++ more)) := by
  have lines : indented true (closedLines cs)
      = indented true cs ++ if cs.getLast?.any isBreak then [] else ['\n'] := by
    unfold closedLines
    split
    · rw [List.append_nil]
    · exact indented_concat true cs
  rw [lines]
  simp [blockText, hint, indented]

/-- **A block** gives back the text that it was written for. -/
theorem block?_blockText (follows : StartsLine more) (allowed : allowsBlock cs = true)
    (full : cs ≠ []) (i l k : Nat) :
    ∃ c, c.rest = more ∧ c.column = 0 ∧
      block? true 0 (Cursor.next ⟨blockText cs ++ (if cs.getLast?.any isBreak then [] else ['\n']) ++ more, i, l, k⟩) =
        some (String.ofList cs, c) := by
  simp only [allowsBlock, Bool.and_eq_true, List.all_eq_true] at allowed
  obtain ⟨⟨printable, _⟩, _⟩ := allowed
  obtain ⟨ch, sign, chomp⟩ := exists_chomping full
  have first : (cs.head?.any fun c => isSpace c || isBreak c) = false →
      ∀ x ∈ (closedLines cs).head?, isBreak x = false ∧ isBlank x = false := by
    intro open_ x hx
    rw [first_closedLines full] at hx
    rw [Option.mem_def.mp hx, Option.any_some, Bool.or_eq_false_iff] at open_
    have solid : x ≠ ' ' := of_decide_eq_false open_.1
    refine ⟨open_.2, ?_⟩
    rw [← Bool.not_eq_true]
    exact fun blank => solid (eq_space_of_isBlank (printable x (List.mem_of_mem_head? hx)) blank)
  have begin_ : Cursor.next ⟨blockText cs ++ (if cs.getLast?.any isBreak then [] else ['\n']) ++ more, i, l, k⟩ =
      ⟨hint (cs.head?.any fun c => isSpace c || isBreak c) ++ ch.sign ++ '\n' ::
        (indented true (closedLines cs) ++ more), i + 1, l, k + 1⟩ := by
    rw [blockText_eq, sign]
    rfl
  obtain ⟨r, c, all, ended, rest, column, read⟩ :=
    block?_sign follows _ ch (closedLines_ne_nil full) first
      (last_closedLines cs) (i + 1) l (k + 1)
  refine ⟨c, rest, column, ?_⟩
  rw [begin_, read, chomp r ended all]

end ApiStubs.Yaml
