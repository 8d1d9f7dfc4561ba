import ApiStubs.Ignore.Glob

/-!
# What the tokens of a pattern match

Whether a pattern matches a text is read off a table that is filled from the last token to the first
one and, for each token, from the end of the text to its front. Here a token says what it matches in
front of something that is left (`GlobToken.Then`), and tokens one after the other say so of a whole
text (`GlobToken.Fits`). A table that belongs to a property of texts tells of every end of the text
whether it has the property (`IsTable`), and `extend` makes the table of a token and what follows it
from the table of what follows.

## What is proved

* `ManyThen.cons_iff`: any number of characters, from left to right.
* `GlobToken.extend_isTable`: one token.
* `globMatches_iff`: all tokens, by induction on them.
* `GlobToken.fits_append`: tokens after tokens match a text after a text.
-/

namespace ApiStubs

variable {p : Char → Prop} {P Q : List Char → Prop} {text : List Char}

/-! ### Characters in front of a text -/

/-- A character with the first property, then a text with the second one. -/
def OneThen (p : Char → Prop) (P : List Char → Prop) (text : List Char) : Prop :=
  ∃ c rest, text = c :: rest ∧ p c ∧ P rest

/-- Any number of characters with the first property, then a text with the second one. -/
def ManyThen (p : Char → Prop) (P : List Char → Prop) (text : List Char) : Prop :=
  ∃ front rest, text = front ++ rest ∧ (∀ c ∈ front, p c) ∧ P rest

theorem OneThen.nil : ¬ OneThen p P [] := by
  rintro ⟨c, rest, h, -⟩
  cases h

theorem OneThen.cons_iff {c : Char} : OneThen p P (c :: text) ↔ p c ∧ P text := by
  constructor
  · rintro ⟨c', rest, h, hc, hr⟩
    obtain ⟨rfl, rfl⟩ := List.cons.inj h
    exact ⟨hc, hr⟩
  · rintro ⟨hc, hr⟩
    exact ⟨c, text, rfl, hc, hr⟩

theorem ManyThen.nil_iff : ManyThen p P [] ↔ P [] := by
  constructor
  · rintro ⟨front, rest, h, -, hr⟩
    obtain ⟨-, rfl⟩ := List.append_eq_nil_iff.mp h.symm
    exact hr
  · intro h
    exact ⟨[], [], rfl, by simp, h⟩

/-- Either no character more is taken, or the first one is. -/
theorem ManyThen.cons_iff {c : Char} : ManyThen p P (c :: text) ↔ P (c :: text) ∨ p c ∧ ManyThen p P text := by
  constructor
  · rintro ⟨front, rest, h, hf, hr⟩
    cases front with
    | nil =>
      rw [List.nil_append] at h
      exact .inl (h ▸ hr)
    | cons c' front =>
      obtain ⟨rfl, rfl⟩ := List.cons.inj h
      obtain ⟨hc, hf⟩ := List.forall_mem_cons.mp hf
      exact .inr ⟨hc, front, rest, rfl, hf, hr⟩
  · rintro (h | ⟨hc, front, rest, rfl, hf, hr⟩)
    · exact ⟨[], c :: text, rfl, by simp, h⟩
    · exact ⟨c :: front, rest, rfl, List.forall_mem_cons.mpr ⟨hc, hf⟩, hr⟩

/-- A text with the first property, then one with the second. -/
def Joined (P Q : List Char → Prop) (text : List Char) : Prop :=
  ∃ front rest, text = front ++ rest ∧ P front ∧ Q rest

theorem OneThen.joined_eq : OneThen p (Joined P Q) = Joined (OneThen p P) Q := by
  funext text
  refine propext ⟨?_, ?_⟩
  · rintro ⟨c, _, rfl, hc, front, rest, rfl, hf, hr⟩
    exact ⟨c :: front, rest, rfl, ⟨c, front, rfl, hc, hf⟩, hr⟩
  · rintro ⟨_, rest, rfl, ⟨c, front, rfl, hc, hf⟩, hr⟩
    exact ⟨c, front ++ rest, rfl, hc, front, rest, rfl, hf, hr⟩

theorem ManyThen.joined_eq : ManyThen p (Joined P Q) = Joined (ManyThen p P) Q := by
  funext text
  refine propext ⟨?_, ?_⟩
  · rintro ⟨many, _, rfl, hm, front, rest, rfl, hf, hr⟩
    exact ⟨many ++ front, rest, (List.append_assoc _ _ _).symm, ⟨many, front, rfl, hm, hf⟩, hr⟩
  · rintro ⟨_, rest, rfl, ⟨many, front, rfl, hm, hf⟩, hr⟩
    exact ⟨many, front ++ rest, List.append_assoc _ _ _, hm, front, rest, rfl, hf, hr⟩

namespace GlobToken

/-! ### Tokens -/

/-- The token matches the front of the text, and the rest has the property. -/
def Then (token : GlobToken) (P : List Char → Prop) (text : List Char) : Prop :=
  match token with
  | .char c => OneThen (· = c) P text
  | .nameChar => OneThen (· ≠ '/') P text
  | .namePart => ManyThen (· ≠ '/') P text
  | .anyText => ManyThen (· ≠ '\n') P text
  | .directories => P text ∨ ManyThen (· ≠ '\n') (OneThen (· = '/') P) text

/-- The tokens match the whole text, one after the other. -/
def Fits : List GlobToken → List Char → Prop
  | [], text => text = []
  | token :: rest, text => token.Then (Fits rest) text

theorem then_congr {token : GlobToken} (same : ∀ t, P t ↔ Q t) :
    token.Then P text ↔ token.Then Q text := by
  rw [funext fun t => propext (same t)]

theorem then_joined {token : GlobToken} :
    token.Then (Joined P Q) text ↔ Joined (token.Then P) Q text := by
  cases token with
  | char c => exact iff_of_eq (congrFun OneThen.joined_eq text)
  | nameChar => exact iff_of_eq (congrFun OneThen.joined_eq text)
  | namePart => exact iff_of_eq (congrFun ManyThen.joined_eq text)
  | anyText => exact iff_of_eq (congrFun ManyThen.joined_eq text)
  | directories =>
    rw [Then, OneThen.joined_eq, ManyThen.joined_eq]
    constructor
    · rintro (⟨front, rest, rfl, hf, hr⟩ | ⟨front, rest, rfl, hf, hr⟩)
      · exact ⟨front, rest, rfl, .inl hf, hr⟩
      · exact ⟨front, rest, rfl, .inr hf, hr⟩
    · rintro ⟨front, rest, rfl, hf | hf, hr⟩
      · exact .inl ⟨front, rest, rfl, hf, hr⟩
      · exact .inr ⟨front, rest, rfl, hf, hr⟩

/-- Tokens after tokens match a text after a text. -/
theorem fits_append (first second : List GlobToken) :
    Fits (first ++ second) text ↔ Joined (Fits first) (Fits second) text := by
  induction first generalizing text with
  | nil =>
    constructor
    · intro h
      exact ⟨[], text, rfl, rfl, h⟩
    · rintro ⟨_, rest, rfl, rfl, h⟩
      exact h
  | cons token first ih =>
    rw [List.cons_append, Fits, then_congr fun t => ih, then_joined]
    exact Iff.rfl

/-! ### Tables -/

/-- The table tells of the text, and of what is left of it when characters are taken from its front,
whether it has the property. -/
inductive IsTable (P : List Char → Prop) : List Char → List Bool → Prop where
  /-- Only the empty text is left. -/
  | nil {b : Bool} : (b = true ↔ P []) → IsTable P [] [b]
  /-- A text with a first character. -/
  | cons {c : Char} {text : List Char} {b : Bool} {table : List Bool} : (b = true ↔ P (c :: text)) →
    IsTable P text table → IsTable P (c :: text) (b :: table)

variable {table other : List Bool}

/-- The table of a text begins with what it tells of the whole text. -/
theorem IsTable.headD (h : IsTable P text table) : table.headD false = true ↔ P text := by
  cases h with
  | nil head => exact head
  | cons head => exact head

theorem endTable_isTable (text : List Char) : IsTable (· = []) text (endTable text) := by
  induction text with
  | nil => exact .nil (by simp)
  | cons c text ih => exact .cons (by simp) ih

theorem one_isTable {p' : Char → Bool} (decides : ∀ c, p' c = true ↔ p c)
    (h : IsTable P text table) :
    IsTable (OneThen p P) text (one p' text table) := by
  induction h with
  | nil head => exact .nil (by simp [OneThen.nil])
  | cons head tail ih =>
    refine .cons ?_ ih
    rw [Bool.and_eq_true, decides, tail.headD, OneThen.cons_iff]

theorem many_isTable {p' : Char → Bool} (decides : ∀ c, p' c = true ↔ p c)
    (h : IsTable P text table) :
    IsTable (ManyThen p P) text (many p' text table) := by
  induction h with
  | nil head => exact .nil (head.trans ManyThen.nil_iff.symm)
  | cons head tail ih =>
    refine .cons ?_ ih
    rw [Bool.or_eq_true, Bool.and_eq_true, head, decides, ih.headD, ManyThen.cons_iff]

theorem or_isTable (h : IsTable P text table) (h' : IsTable Q text other) :
    IsTable (fun t => P t ∨ Q t) text (table.zipWith (· || ·) other) := by
  induction h generalizing other with
  | nil head =>
    cases h' with
    | nil head' => exact .nil (by rw [Bool.or_eq_true, head, head'])
  | cons head _ ih =>
    cases h' with
    | cons head' tail' => exact .cons (by rw [Bool.or_eq_true, head, head']) (ih tail')

/-- **One token**: its table is made from that of what follows. -/
theorem extend_isTable (token : GlobToken) (h : IsTable P text table) :
    IsTable (token.Then P) text (extend text token table) := by
  have name : ∀ c, isNameChar c = true ↔ c ≠ '/' := fun c => by simp [isNameChar]
  have line : ∀ c, isLineChar c = true ↔ c ≠ '\n' := fun c => by simp [isLineChar]
  cases token with
  | char c => exact one_isTable (fun c' => by simp) h
  | nameChar => exact one_isTable name h
  | namePart => exact many_isTable name h
  | anyText => exact many_isTable line h
  | directories => exact or_isTable h (many_isTable line (one_isTable (fun c => by simp) h))

/-- The table that is filled token by token is that of all tokens. -/
theorem foldr_isTable (tokens : List GlobToken) (text : List Char) :
    IsTable (Fits tokens) text (tokens.foldr (extend text) (endTable text)) := by
  induction tokens with
  | nil => exact endTable_isTable text
  | cons token tokens ih => exact extend_isTable token ih

end GlobToken

/-- **The table decides** whether the tokens match the whole text. -/
theorem globMatches_iff (tokens : List GlobToken) (text : List Char) :
    globMatches tokens text = true ↔ GlobToken.Fits tokens text :=
  (GlobToken.foldr_isTable tokens text).headD

end ApiStubs
