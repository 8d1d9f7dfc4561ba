import ApiStubs.Proofs.BlockScalars

/-!
# Forms of written values

A text stands behind its key without quotes, in single or double quotes, or as a block. An entry is
a key, a colon and a value, up to the next line.

## What is proved

* `entryText_written`: the writer leaves every text in one of these forms, and only a text that
  means itself without quotes (`scalarMeaning_textStyle`).
* `all_mappingText`: all characters of written entries are ones that are written as they are, so
  the text may be read, and its line ends are equal (`isReadable_of_isPrintable`,
  `equalBreaks_of_printable`).
-/

namespace ApiStubs.Yaml

variable {c : Char} {cs more : List Char}

/-! ### Forms of a value -/

/-- How a text is written behind its key: the style in which it is read, and the text up to the next
line. -/
inductive Written (s : String) : ScalarStyle → List Char → Prop where
  /-- Without quotes. -/
  | plain : allowsPlain s.toList = true → s.toList ≠ [] → Written s .plain (s.toList ++ ['\n'])
  /-- In single quotes. -/
  | single : allowsSingle s.toList = true → '\n' ∉ s.toList →
      Written s .quoted (singleQuoted s.toList ++ ['\n'])
  /-- In double quotes. -/
  | double : Written s .quoted (doubleQuoted s.toList ++ ['\n'])
  /-- As a block. -/
  | block : allowsBlock s.toList = true → s.toList ≠ [] →
      Written s .quoted (blockText s.toList ++ if s.toList.getLast?.any isBreak then [] else ['\n'])

/-- A text that is written without quotes: it is read back as a text. -/
def isWrittenPlain (s : String) : Bool :=
  !s.toList.contains '\n' && plainMeaning s
    = .text s && !isPaddedDigits s.toList && allowsPlain s.toList

/-- The style in which a text is written. -/
def textStyle (s : String) : ScalarStyle :=
  if isWrittenPlain s then .plain else .quoted

/-- Whatever form is chosen for a text, it means the text. -/
theorem scalarMeaning_textStyle (s : String) : scalarMeaning none s (textStyle s) = .text s := by
  cases h : isWrittenPlain s with
  | false => simp [scalarMeaning, textStyle, h]
  | true =>
    have meaning : plainMeaning s = .text s := by
      simp only [isWrittenPlain, Bool.and_eq_true, decide_eq_true_eq] at h
      exact h.1.1.2
    simp [scalarMeaning, textStyle, h, meaning]

theorem quoted_written {s : String} (single : '\n' ∉ s.toList) :
    Written s .quoted
      ((if allowsSingle s.toList then singleQuoted s.toList else doubleQuoted s.toList)
        ++ ['\n']) := by
  split
  · next allowed => exact .single allowed single
  · exact .double

theorem entryText_written (s : String) : Written s (textStyle s) (entryText s).toList := by
  unfold entryText
  dsimp only
  by_cases lines : s.toList.contains '\n' = true
  · have style : textStyle s = .quoted := by
      simp [textStyle, isWrittenPlain, List.contains_iff_mem.mp lines]
    have full : s.toList ≠ [] := List.ne_nil_of_mem (List.contains_iff_mem.mp lines)
    rw [style, if_pos lines]
    split
    · next allowed =>
      have block := Written.block allowed full
      cases last : s.toList.getLast?.any isBreak <;> simpa [last] using block
    · rw [String.toList_ofList]
      exact .double
  · have single : '\n' ∉ s.toList := fun h => lines (List.contains_iff_mem.mpr h)
    rw [if_neg lines]
    split
    · next other =>
      have style : textStyle s = .quoted := by
        rcases (by simpa using other : plainMeaning s ≠ .text s ∨ isPaddedDigits s.toList = true) with h | h <;>
          simp [textStyle, isWrittenPlain, h]
      rw [style, String.toList_ofList]
      exact quoted_written single
    · next same =>
      obtain ⟨meaning, unpadded⟩ : plainMeaning s = .text s ∧ isPaddedDigits s.toList = false := by
        simpa using same
      split
      · next allowed =>
        have style : textStyle s = .plain := by
          simp [textStyle, isWrittenPlain, single, meaning, unpadded, allowed]
        have full : s.toList ≠ [] := by
          intro none
          rw [String.toList_eq_nil_iff.mp none] at meaning
          exact absurd meaning (by decide)
        rw [style, String.toList_ofList]
        exact .plain allowed full
      · next refused =>
        have style : textStyle s = .quoted := by simp [textStyle, isWrittenPlain, refused]
        rw [style, String.toList_ofList]
        exact quoted_written single

theorem all_indentLines {double : Char → List Char}
    (written : ∀ c ∈ cs, (double c).all isPrintable = true) (printable : cs.all isPrintable = true)
    (atStart : Bool) :
    (indentLines double atStart cs).all isPrintable = true := by
  induction cs generalizing atStart with
  | nil => rfl
  | cons c cs ih =>
    rw [List.all_cons, Bool.and_eq_true] at printable
    have ih := ih (fun x hx => written x (List.mem_cons_of_mem c hx)) printable.2
    have margin : (if atStart then valueIndent else []).all isPrintable = true := by
      cases atStart <;> rfl
    rw [indentLines]
    split
    · rw [List.all_cons, printable.1, ih, Bool.true_and]
    · rw [List.all_append, List.all_append, margin, written c List.mem_cons_self, ih]
      rfl

theorem all_singleQuoted (printable : cs.all isPrintable = true) :
    (singleQuoted cs).all isPrintable = true := by
  have twice : ∀ c ∈ cs, (singleQuotedChar c).all isPrintable = true := by
    intro c hc
    unfold singleQuotedChar
    split
    · rfl
    · simp [List.all_eq_true.mp printable c hc]
  have close : (closing false cs ++ ['\'']).all isPrintable = true := by
    unfold closing
    split <;> rfl
  rw [singleQuoted_eq, List.append_assoc, List.all_cons, List.all_append,
    all_indentLines twice printable, close]
  rfl

theorem all_doubleQuoted (cs : List Char) : (doubleQuoted cs).all isPrintable = true := by
  have escaped (c : Char) : (doubleQuotedChar c).all isPrintable = true := by
    rcases doubleQuotedChar_cases c with ⟨written, printable, _⟩ | ⟨e, written, named⟩
    · simp [written, printable]
    · rw [written, List.all_cons, List.all_eq_true.mpr fun x hx => (named.plain x hx).1]
      rfl
  have quote : isPrintable '"' = true := rfl
  simp [doubleQuoted, List.all_flatMap, escaped, quote]

theorem all_blockText (full : cs ≠ []) (printable : cs.all isPrintable = true) :
    (blockText cs).all isPrintable = true := by
  obtain ⟨ch, sign, _⟩ := exists_chomping full
  have alone : ∀ c ∈ cs, [c].all isPrintable = true :=
    fun c hc => by simp [List.all_eq_true.mp printable c hc]
  have lines := all_indentLines alone printable true
  have signs : (ch.sign).all isPrintable = true := by cases ch <;> rfl
  have bar : isPrintable '|' = true := rfl
  have line : isPrintable '\n' = true := rfl
  have two : isPrintable '2' = true := rfl
  simp only [blockText, sign, List.cons_append, List.all_cons, List.all_append, lines, signs, bar, line,
    Bool.and_true, Bool.true_and]
  split <;> simp [two]

/-- A written value consists of characters that are written as they are. -/
theorem Written.printable {s : String} {style : ScalarStyle} (h : Written s style cs) :
    cs.all isPrintable = true := by
  have line : ['\n'].all isPrintable = true := rfl
  cases h with
  | plain allowed _ =>
    simp only [allowsPlain, Bool.and_eq_true, List.all_eq_true] at allowed
    rw [List.all_append, line, List.all_eq_true.mpr fun c hc => (allowed.1.1.2 c hc).1]
    rfl
  | single allowed _ =>
    simp only [allowsSingle, Bool.and_eq_true] at allowed
    rw [List.all_append, line, all_singleQuoted allowed.1.1]
    rfl
  | double =>
    rw [List.all_append, line, all_doubleQuoted]
    rfl
  | block allowed full =>
    simp only [allowsBlock, Bool.and_eq_true] at allowed
    rw [List.all_append, all_blockText full allowed.1.1, Bool.true_and]
    split
    · rfl
    · exact line

/-! ### Entries -/

/-- The text that stands for a value, and the style in which it is read. -/
def valueText : String ⊕ Bool → String × ScalarStyle
  | .inl s => (s, textStyle s)
  | .inr b => (if b then "true" else "false", .plain)

/-- The text of the value of an entry, up to the next line. -/
def valueLine : String ⊕ Bool → List Char
  | .inl s => (entryText s).toList
  | .inr b => (if b then "true" else "false").toList ++ ['\n']

theorem valueLine_written (value : String ⊕ Bool) :
    Written (valueText value).1 (valueText value).2 (valueLine value) := by
  cases value with
  | inl s => exact entryText_written s
  | inr b => cases b <;> exact .plain (by decide) (by decide)

theorem mappingText_cons (name : String) (value : String ⊕ Bool)
    (entries : List (String × (String ⊕ Bool))) :
    (mappingText ((name, value) :: entries)).toList =
      name.toList ++ ':' :: ' ' :: (valueLine value ++ (mappingText entries).toList) := by
  cases value with
  | inl s => simp [mappingText, valueLine]
  | inr b => cases b <;> simp [mappingText, valueLine]

theorem isPrintable_of_isLetter (h : (c.isAlpha || c = '_') = true) : isPrintable c = true := by
  simp only [Bool.or_eq_true, decide_eq_true_eq] at h
  rcases h with h | rfl
  · have letter : c.isAlpha =
        (decide (65 ≤ c.val ∧ c.val ≤ 90) || (decide (97 ≤ c.val) && decide (c.val ≤ 122))) := rfl
    have low : UInt32.toNat 65 = 65 ∧ UInt32.toNat 97 = 97 := by decide
    have high : UInt32.toNat 90 = 90 ∧ UInt32.toNat 122 = 122 := by decide
    rw [letter] at h
    simp only [Bool.or_eq_true, Bool.and_eq_true, decide_eq_true_eq, UInt32.le_iff_toNat_le, low,
      high] at h
    simp only [isPrintable, Char.toNat, Bool.or_eq_true, Bool.and_eq_true, beq_iff_eq, bne_iff_ne,
      decide_eq_true_eq]
    omega
  · rfl

/-- A character that is written as it is may be read, and is no line end but the one that all others
become. -/
theorem isReadable_of_isPrintable (h : isPrintable c = true) :
    isReadable c = true ∧ c ≠ '\r' ∧ c.toNat ≠ 0x85 := by
  refine ⟨?_, ?_, ?_⟩
  · have valid := c.valid
    simp only [UInt32.isValidChar, Nat.isValidChar] at valid
    simp only [isPrintable, isReadable, Char.toNat, Bool.or_eq_true, Bool.and_eq_true, beq_iff_eq,
      bne_iff_ne, decide_eq_true_eq] at h ⊢
    omega
  · rintro rfl
    exact absurd h (by decide)
  · intro same
    rw [← Char.ofNat_toNat c, same] at h
    exact absurd h (by decide)

theorem equalBreaks_of_printable (printable : cs.all isPrintable = true) : equalBreaks cs = cs := by
  induction cs with
  | nil => rfl
  | cons c cs ih =>
    rw [List.all_cons, Bool.and_eq_true] at printable
    obtain ⟨_, ret, other⟩ := isReadable_of_isPrintable printable.1
    rw [equalBreaks, if_neg (by simp [ret, other]), ih printable.2]
    rintro rest rfl
    exact absurd rfl ret

theorem all_mappingText (entries : List (String × (String ⊕ Bool)))
    (bare : ∀ e ∈ entries, IsBare e.1) :
    (mappingText entries).toList.all isPrintable = true := by
  induction entries with
  | nil => rfl
  | cons entry entries ih =>
    obtain ⟨name, value⟩ := entry
    have letters : name.toList.all isPrintable = true := by
      rw [List.all_eq_true]
      intro c hc
      exact isPrintable_of_isLetter ((bare _ List.mem_cons_self).letters c hc)
    have colon : isPrintable ':' = true := rfl
    have space : isPrintable ' ' = true := rfl
    rw [mappingText_cons, List.all_append, List.all_cons, List.all_cons, List.all_append, letters,
      colon, space, (valueLine_written value).printable,
      ih fun e he => bare e (List.mem_cons_of_mem _ he)]
    rfl

end ApiStubs.Yaml
