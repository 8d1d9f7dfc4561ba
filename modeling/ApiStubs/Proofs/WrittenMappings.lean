import ApiStubs.Proofs.WrittenValues

/-!
# Texts of mappings

A mapping is written one entry behind the other, each with its key at the start of a line. The
scanner learns that a key is one at its colon, and puts the tokens for the key and its mapping in
front of it then.

## What is proved

* `At.key`, `AtColon.value` and `At.written`: the scanner is followed from one place of an entry to
  the next (`Scanner.Leads`): from the start of its line to its colon, over the colon, and over the
  value, in whatever form that is written, to the start of the next line.
* `tokens?_mappingText`: so all entries together leave the tokens of one mapping.
* `treeOfText?_mappingText`: and its tree has a scalar for every key and every value.
-/

namespace ApiStubs.Yaml

variable {c : Char} {cs more : List Char}

/-- The tokens of an entry. -/
def entryTokens (entry : String × (String ⊕ Bool)) : List Token :=
  [.key, .scalar entry.1 .plain, .value, .scalar (valueText entry.2).1 (valueText entry.2).2]

namespace Scanner

variable {s s' : Scanner}

/-! ### Between tokens -/

/-- Text that the scanner does not skip in front of a token. -/
def IsSolid (cs : List Char) : Prop :=
  ∀ c ∈ cs.head?, isBlank c = false ∧ isBreak c = false ∧ c ≠ '#' ∧ isMark c = false

/-- Blanks in front of a token are skipped. -/
theorem skipBlanks_of_solid (solid : IsSolid cs) (count : Nat) {i l k : Nat}
    (cursor : s.cursor = ⟨List.replicate count ' ' ++ cs, i, l, k⟩) (fuel : Nat) :
    s.skipBlanks (fuel + 1) = { s with cursor := ⟨cs, i + count, l, k + count⟩ } := by
  have mark : (decide (s.cursor.index = 0) && s.cursor.peek?.any isMark) = false := by
    rw [cursor, Cursor.peek?]
    cases count with
    | zero =>
      cases cs with
      | nil => simp
      | cons c cs => simp [(solid c rfl).2.2.2]
    | succ count => simp [List.replicate_succ, isMark]
  have first (tabs : Bool) : cs.takeWhile (fun x => x = ' ' || (tabs && x = '\t')) = [] := by
    cases cs with
    | nil => rfl
    | cons c cs =>
      have blank := (solid c rfl).1
      simp only [isBlank, Bool.or_eq_false_iff] at blank
      rw [List.takeWhile_cons_of_neg (by simp [blank])]
  have skipped (tabs : Bool) : Cursor.skipWhile (fun x => x = ' ' || (tabs && x = '\t'))
      ⟨List.replicate count ' ' ++ cs, i, l, k⟩ = ⟨cs, i + count, l, k + count⟩ := by
    have taken : (List.replicate count ' ' ++ cs).takeWhile (fun x => x = ' ' || (tabs && x = '\t')) =
        List.replicate count ' ' := by
      rw [List.takeWhile_append_of_pos (by simp), first, List.append_nil]
    rw [Cursor.skipWhile, Cursor.span, taken, Cursor.skip_of_unbroken _ (by simp [isBreak]),
      List.length_replicate]
  rw [skipBlanks, mark, if_neg Bool.false_ne_true, cursor, skipped]
  cases cs with
  | nil => rfl
  | cons c cs =>
    obtain ⟨_, unbroken, number, _⟩ := solid c rfl
    simp [Cursor.peek?, number, unbroken]

theorem skipBlanks_eq_self (solid : IsSolid s.cursor.rest) (fuel : Nat) :
    s.skipBlanks (fuel + 1) = s := by
  have := skipBlanks_of_solid solid 0 (s := s) rfl fuel
  exact this

/-- The line end behind a quoted value is skipped, and the next line may begin with a key. -/
theorem skipBlanks_lineEnd (solid : IsSolid cs) {i l k : Nat}
    (cursor : s.cursor = ⟨'\n' :: cs, i, l, k⟩) (outside : s.inFlow = false) (fuel : Nat) :
    s.skipBlanks (fuel + 2) = { s with cursor := ⟨cs, i + 1, l + 1, 0⟩, keyAllowed := true } := by
  have mark : (decide (s.cursor.index = 0) && s.cursor.peek?.any isMark) = false := by
    simp [cursor, Cursor.peek?, isMark]
  have still (tabs : Bool) : Cursor.skipWhile (fun x => x = ' ' || (tabs && x = '\t')) ⟨'\n' :: cs, i, l, k⟩ =
      ⟨'\n' :: cs, i, l, k⟩ := by
    cases tabs <;> rfl
  have next : Cursor.next ⟨'\n' :: cs, i, l, k⟩ = ⟨cs, i + 1, l + 1, 0⟩ := rfl
  rw [skipBlanks, mark, if_neg Bool.false_ne_true, cursor, still]
  simp only [Cursor.peek?, List.head?_cons, outside, Bool.not_false, Bool.or_true]
  exact skipBlanks_of_solid solid 0 rfl fuel

/-- The scanner stands in front of a token: outside of brackets, not indented less than its block,
and not too far behind the place of a key. -/
structure Ready (s : Scanner) : Prop where
  place : ∃ p, s.places = [p] ∧ (p.possible = true → p.line = s.cursor.line ∧ s.cursor.index ≤ p.index + 1024)
  indent : s.indent ≤ s.cursor.column

theorem Ready.outside (h : Ready s) : s.inFlow = false := by
  obtain ⟨p, places, _⟩ := h.place
  simp [inFlow, places]

theorem Ready.dropStale? (h : Ready s) : s.dropStale? = some s := by
  obtain ⟨p, places, near⟩ := h.place
  have kept :
      (p.possible && (decide (p.line < s.cursor.line) || decide (p.index + 1024 < s.cursor.index))) = false := by
    cases possible : p.possible with
    | false => rfl
    | true =>
      obtain ⟨line, index⟩ := near possible
      simp [line, index]
  unfold Scanner.dropStale?
  simp only [places, List.mapM_cons, List.mapM_nil, kept, Bool.false_eq_true, if_false]
  simp [← places]

theorem Ready.unroll (h : Ready s) : s.unroll s.cursor.column = s := by
  have inside : decide (s.indent > s.cursor.column) = false := by
    have := h.indent
    simp only [decide_eq_false_iff_not, gt_iff_lt]
    omega
  rw [Scanner.unroll, h.outside, if_neg Bool.false_ne_true]
  simp [inside]

/-- In front of a token the token is read. -/
theorem finish?_of_ready {fuel : Nat} (skip : s.skipBlanks (fuel + 1) = s') (ready : Ready s')
    (full : s'.cursor.rest ≠ []) :
    s.finish? (fuel + 1) = (s'.token? (fuel + 1)).bind fun t => t.finish? fuel := by
  rw [finish?, skip]
  dsimp only
  rw [ready.dropStale?]
  simp [ready.unroll, full]

/-! ### Tokens -/

/-- A plain scalar begins here: with no indicator, and with no sign in front of a blank. -/
structure PlainStart (cs : List Char) : Prop where
  first : ∀ c ∈ cs.head?, startIndicators.contains c = false ∧ isBlank c = false ∧ isBreak c = false
  sign : ∀ c ∈ cs.head?, c = '?' ∨ c = ':' ∨ c = '-' → blankNext cs.tail = false

theorem PlainStart.ne (h : PlainStart (c :: cs)) {d : Char}
    (indicator : startIndicators.contains d = true) :
    c ≠ d := by
  rintro rfl
  rw [(h.first c rfl).1] at indicator
  cases indicator

theorem PlainStart.startsPlain (h : PlainStart (c :: cs)) {i l k : Nat}
    (cursor : s.cursor = ⟨c :: cs, i, l, k⟩)
    (outside : s.inFlow = false) : s.startsPlain = true := by
  obtain ⟨_, blank, unbroken⟩ := h.first c rfl
  rw [Scanner.startsPlain, cursor]
  dsimp only
  by_cases sign : c = '?' ∨ c = ':' ∨ c = '-'
  · have solid : blankNext cs = false := h.sign c rfl sign
    rcases sign with rfl | rfl | rfl
    · simp [outside, solid]
    · simp [outside, solid]
    · cases cs with
      | nil => cases solid
      | cons d cs =>
        simp only [blankNext, Bool.or_eq_false_iff] at solid
        simp [solid.1]
  · have known : ∀ d ∈ ['-', '?', ':', ',', '[', ']', '\x7b', '\x7d', '#', '&', '*', '!', '|', '>', '\'', '"', '%',
        '@', '\x60'], decide ((d = '?' ∨ d = ':' ∨ d = '-') ∨
          startIndicators.contains d = true) = true :=
      List.all_eq_true.mp rfl
    rw [blank, unbroken]
    cases indicator : List.contains _ c with
    | true =>
      rcases of_decide_eq_true (known c (List.contains_iff_mem.mp indicator)) with other | other
      · exact absurd other sign
      · exact absurd rfl (h.ne other)
    | false => rfl

theorem token?_plain {i l k : Nat} (cursor : s.cursor = ⟨c :: cs, i, l, k⟩)
    (outside : s.inFlow = false) (start : PlainStart (c :: cs))
    (border : k = 0 → borderNext (c :: cs) = false) (fuel : Nat) :
    s.token? fuel = s.savePlace?.bind fun s =>
      (plain? s.inFlow (s.indent + 1) {} ⟨c :: cs, i, l, k⟩ fuel).bind fun (text, cursor, folded) =>
        some (({ s with cursor }.allow folded).emit (.scalar text .plain)) := by
  have percent : (decide (k = 0) && decide (some c = some '%')) = false := by
    simp [start.ne (d := '%') rfl]
  have top : (decide (k = 0) && borderNext (c :: cs)) = false := by simpa using border
  have sign (d : Char) (h : d = '?' ∨ d = ':' ∨ d = '-') : (decide (c = d) && blankNext cs) = false := by
    by_cases same : c = d
    · have := start.sign c rfl (same ▸ h)
      simp_all
    · simp [same]
  rw [token?]
  simp only [cursor, Cursor.peek?, List.head?_cons, List.tail_cons, outside,
    start.startsPlain cursor outside, percent, top, sign '-' (by decide), sign '?' (by decide),
    sign ':' (by decide), start.ne (d := '[') rfl, start.ne (d := '\x7b') rfl,
    start.ne (d := ']') rfl, start.ne (d := '\x7d') rfl, start.ne (d := ',') rfl,
    start.ne (d := '*') rfl, start.ne (d := '&') rfl, start.ne (d := '!') rfl,
    start.ne (d := '|') rfl, start.ne (d := '>') rfl, start.ne (d := '\'') rfl,
    start.ne (d := '"') rfl, Bool.false_or, Bool.false_eq_true, if_false, if_true]
  rfl

/-- Where a key may begin, its place is kept. -/
theorem savePlace?_of_allowed {p : KeyPlace} (places : s.places = [p]) (free : p.possible = false)
    (allowed : s.keyAllowed = true) :
    s.savePlace? = some { s with
      places := [{
        possible := true, required := !s.inFlow && s.indent == s.cursor.column, token := s.tokens.size
        index := s.cursor.index, line := s.cursor.line, column := s.cursor.column }] } := by
  simp [savePlace?, dropPlace?, place, setPlace, places, free, allowed]

/-! ### Places of an entry -/

/-- The scanner comes from `s` to a state in which `P` holds, and goes on from there. -/
def Leads (s : Scanner) (P : Scanner → Prop) : Prop :=
  ∀ fuel, s.cursor.rest.length < fuel →
    ∃ s' fuel', P s' ∧ s'.cursor.rest.length < fuel' ∧ s.finish? fuel = s'.finish? fuel'

variable {P Q : Scanner → Prop} {ts : List Token} {name : String}

theorem Leads.trans (h : s.Leads P) (next : ∀ s', P s' → s'.Leads Q) : s.Leads Q := by
  intro fuel enough
  obtain ⟨s₁, fuel₁, h₁, enough₁, same₁⟩ := h fuel enough
  obtain ⟨s₂, fuel₂, h₂, enough₂, same₂⟩ := next s₁ h₁ fuel₁ enough₁
  exact ⟨s₂, fuel₂, h₂, enough₂, same₁.trans same₂⟩

/-- A token leads on, if it takes a part of the text. -/
theorem Leads.of_token (skip : ∀ fuel, s.skipBlanks (fuel + 1) = s') (ready : Ready s')
    (full : s'.cursor.rest ≠ []) (token : ∀ fuel, s.cursor.rest.length < fuel →
      ∃ t, s'.token? fuel = some t ∧ t.cursor.rest.length < s.cursor.rest.length ∧
        P t) : s.Leads P := by
  intro fuel enough
  obtain ⟨fuel, rfl⟩ := Nat.exists_eq_add_of_le' (show 1 ≤ fuel by omega)
  obtain ⟨t, read, shorter, holds⟩ := token (fuel + 1) enough
  refine ⟨t, fuel, holds, by omega, ?_⟩
  rw [finish?_of_ready (skip fuel) ready full, read]
  rfl

/-- What is put around the entries of a mapping when its first key is found. -/
def opening (ts : List Token) : List Token :=
  if ts.isEmpty then [.blockMapping] else []

/-- The mapping is open as soon as there is a token. -/
def IsOpen (ts : List Token) (s : Scanner) : Prop :=
  if ts.isEmpty then s.indent = -1 ∧ s.outer = [] else s.indent = 0 ∧ s.outer = [-1]

/-- The scanner has read the tokens `ts` and is at the start of a line or, if not, in front of a
value. -/
structure At (ts : List Token) (rest : List Char) (start : Bool) (s : Scanner) : Prop where
  rest : s.cursor.rest = rest
  column : s.cursor.column = 0 ↔ start = true
  tokens : s.tokens = ts.toArray
  mapping : IsOpen ts s
  allowed : s.keyAllowed = start
  place : ∃ p, s.places = [p] ∧ p.possible = false

/-- The scanner is at the colon behind a key. -/
structure AtColon (ts : List Token) (name : String) (rest : List Char) (s : Scanner) : Prop where
  rest : s.cursor.rest = ':' :: rest
  column : s.cursor.column ≠ 0
  tokens : s.tokens = (ts ++ [Token.scalar name .plain]).toArray
  mapping : IsOpen ts s
  place : ∃ p, s.places = [p] ∧ p.possible = true ∧ p.token = ts.length ∧ p.column = 0 ∧
    p.line = s.cursor.line ∧
    s.cursor.index ≤ p.index + 1024

theorem IsOpen.indent_le (h : IsOpen ts s) (column : Nat) : s.indent ≤ column := by
  unfold IsOpen at h
  split at h <;> omega

theorem At.ready {start : Bool} {rest : List Char} (h : At ts rest start s) : Ready s := by
  obtain ⟨p, places, possible⟩ := h.place
  exact ⟨⟨p, places, by simp [possible]⟩, h.mapping.indent_le _⟩

theorem AtColon.ready {rest : List Char} (h : AtColon ts name rest s) : Ready s := by
  obtain ⟨p, places, _, _, _, line, index⟩ := h.place
  exact ⟨⟨p, places, fun _ => ⟨line, index⟩⟩, h.mapping.indent_le _⟩

/-- A letter begins a plain scalar. -/
theorem start_of_isLetter (letter : (c.isAlpha || c = '_') = true) (cs : List Char) :
    IsSolid (c :: cs) ∧ PlainStart (c :: cs) ∧ borderNext (c :: cs) = false := by
  obtain ⟨blank, unbroken⟩ := solid_of_isLetter letter
  have mark : isMark c = false := by
    rw [← Bool.not_eq_true]
    intro mark
    rw [← Char.ofNat_toNat c, of_decide_eq_true mark] at letter
    exact absurd letter (by decide)
  have indicator : startIndicators.contains c = false := by
    have signs : ∀ d ∈ startIndicators, (!(d.isAlpha || d = '_')) = true := List.all_eq_true.mp rfl
    rw [← Bool.not_eq_true]
    intro there
    have other := signs c (List.contains_iff_mem.mp there)
    rw [letter] at other
    cases other
  refine ⟨?_, ⟨?_, ?_⟩, borderNext_of_ne (ne_of_isLetter letter rfl) (ne_of_isLetter letter rfl) cs⟩
  · rintro x ⟨⟩
    exact ⟨blank, unbroken, ne_of_isLetter letter rfl, mark⟩
  · rintro x ⟨⟩
    exact ⟨indicator, blank, unbroken⟩
  · rintro x ⟨⟩ (same | same | same) <;> exact absurd same (ne_of_isLetter letter rfl)

/-- A key is read up to its colon. -/
theorem At.key {rest : List Char} (h : At ts (name.toList ++ ':' :: ' ' :: rest) true s)
    (bare : IsBare name) :
    s.Leads (AtColon ts name (' ' :: rest)) := by
  have ready := h.ready
  obtain ⟨⟨text, i, l, k⟩, tokens, indent, outer, allowed, places⟩ := s
  obtain ⟨rfl, column, rfl, mapping, rfl, p, rfl, possible⟩ := h
  obtain rfl : k = 0 := column.mpr rfl
  obtain ⟨c, cs, same⟩ := List.exists_cons_of_ne_nil bare.nonempty
  obtain ⟨solid, start, border⟩ := start_of_isLetter (bare.letters c (same ▸ List.mem_cons_self))
    (cs ++ ':' :: ' ' :: rest)
  have text : name.toList ++ ':' :: ' ' :: rest = c :: (cs ++ ':' :: ' ' :: rest) := by
    rw [same, List.cons_append]
  refine Leads.of_token (skipBlanks_eq_self (text ▸ solid)) ready (by simp) fun fuel enough => ?_
  have short : name.toList.length < fuel := by
    simp only [List.length_append] at enough
    omega
  have read := plain?_letters (indent + 1) name.toList bare.letters rest {} i l 0 fuel rfl
    (fun _ => bare.nonempty) short
  rw [token?_plain (by rw [text]) ready.outside start (fun _ => border),
    savePlace?_of_allowed rfl possible rfl, ← text]
  have long : 0 < name.toList.length := List.length_pos_iff.mpr bare.nonempty
  have shorter : (':' :: ' ' :: rest).length < (name.toList ++ ':' :: ' ' :: rest).length := by
    rw [List.length_append]
    omega
  exact ⟨_, (congrArg (Option.bind · _) read).trans rfl, shorter, rfl,
    Nat.ne_of_gt (Nat.add_pos_right 0 long),
    by simp [allow, emit], mapping, _, rfl, rfl, by simp, rfl, rfl, Nat.add_le_add_left bare.short i⟩

theorem insertIdx_append (ts us : List Token) (t : Token) :
    (ts ++ us).insertIdx ts.length t = ts ++ t :: us := by
  induction ts with
  | nil => rfl
  | cons a ts ih => rw [List.cons_append, List.length_cons, List.insertIdx_succ_cons, ih, List.cons_append]

/-- The first key opens the mapping. -/
theorem roll_of_isOpen {us : List Token} (tokens : s.tokens = (ts ++ us).toArray)
    (mapping : IsOpen ts s) (outside : s.inFlow = false) :
    s.roll 0 ts.length .blockMapping =
      { s with tokens := (ts ++ opening ts ++ us).toArray, indent := 0, outer := [-1] } := by
  unfold IsOpen at mapping
  unfold roll opening
  rw [outside, Bool.false_or]
  cases none : ts.isEmpty with
  | true =>
    rw [none, if_pos rfl] at mapping
    simp [mapping, tokens, insertIdx_append]
  | false =>
    rw [none, if_neg Bool.false_ne_true] at mapping
    obtain ⟨indent, outer⟩ := mapping
    rw [if_pos (by simp [indent]), if_neg Bool.false_ne_true, List.append_nil, ← tokens, ← indent,
      ← outer]

/-- At its colon a scalar becomes a key. -/
theorem value?_of_possible {p : KeyPlace} {us : List Token} (tokens : s.tokens = (ts ++ us).toArray)
    (mapping : IsOpen ts s) (places : s.places = [p]) (possible : p.possible = true) (token : p.token = ts.length)
    (column : p.column = 0) :
    s.value? = some { s with
      cursor := s.cursor.skip 1
      tokens := (ts ++ opening ts ++ Token.key :: us ++ [Token.value]).toArray, indent := 0
      outer := [-1], keyAllowed := false, places := [{ p with possible := false }] } := by
  have rolled :=
    roll_of_isOpen (s := { s with tokens := (ts ++ Token.key :: us).toArray }) rfl mapping
      (by simp [inFlow, places])
  rw [value?]
  simp only [place, places, List.headD_cons, possible, if_true, tokens, token, column,
    List.insertIdxIfInBounds_toArray, insertIdx_append] at rolled ⊢
  rw [rolled]
  simp [setPlace, allow, take]

/-- At the colon the tokens of the key are put in front of it. -/
theorem AtColon.value {rest : List Char} (h : AtColon ts name (' ' :: rest) s) :
    s.Leads (At (ts ++ opening ts ++ [.key, .scalar name .plain, .value]) (' ' :: rest) false) := by
  obtain ⟨p, places, possible, token, first, _, _⟩ := h.place
  have solid : IsSolid (':' :: ' ' :: rest) := by
    rintro _ ⟨⟩
    decide
  have colon (fuel : Nat) : s.token? fuel = s.value? := by
    rw [token?]
    simp [h.rest, h.column, Cursor.peek?, blankNext, isBlank]
  have value := value?_of_possible h.tokens h.mapping places possible token first
  have next : s.cursor.skip 1 = ⟨' ' :: rest, s.cursor.index + 1, s.cursor.line, s.cursor.column + 1⟩ := by
    simp [Cursor.skip, Cursor.next, h.rest, isBreak]
  refine Leads.of_token (skipBlanks_eq_self (h.rest ▸ solid)) h.ready (by simp [h.rest]) fun fuel _ =>
    ⟨_, (colon fuel).trans value, by simp [next, h.rest], ?_⟩
  exact ⟨by simp [next], by simp [next], by simp, by simp [IsOpen], rfl, _, rfl, rfl⟩

/-- Where the entries go on: with a letter, if there is one more. -/
def StartsEntry (more : List Char) : Prop :=
  ∀ c ∈ more.head?, (c.isAlpha || c = '_') = true

theorem StartsEntry.startsLine (h : StartsEntry more) : StartsLine more :=
  fun c hc => solid_of_isLetter (h c hc)

theorem StartsEntry.solid (h : StartsEntry more) : IsSolid more := by
  cases more with
  | nil => nofun
  | cons c more => exact (start_of_isLetter (h c rfl) more).1

/-- The blank behind a colon is skipped. -/
theorem At.skip {rest : List Char} (h : At ts (' ' :: rest) false s) (solid : IsSolid rest) :
    ∃ s', (∀ fuel, s.skipBlanks (fuel + 1) = s') ∧ At ts rest false s' := by
  refine ⟨_, fun fuel => skipBlanks_of_solid solid 1
    (i := s.cursor.index) (l := s.cursor.line) (k := s.cursor.column)
    (by rw [List.replicate_one, List.singleton_append, ← h.rest]) fuel, ?_⟩
  exact ⟨rfl, by simp, h.tokens, h.mapping, h.allowed, h.place⟩

/-- A value is read from behind the blank. -/
theorem At.leads {rest : List Char} (h : At ts (' ' :: rest) false s) (full : rest ≠ [])
    (solid : IsSolid rest) (token : ∀ s' fuel, At ts rest false s' → rest.length < fuel →
      ∃ t, s'.token? fuel = some t ∧ t.cursor.rest.length ≤ rest.length ∧ P t) : s.Leads P := by
  obtain ⟨s', skip, at_⟩ := h.skip solid
  refine Leads.of_token skip at_.ready (by rwa [at_.rest]) fun fuel enough => ?_
  rw [h.rest, List.length_cons] at enough ⊢
  obtain ⟨t, read, shorter, holds⟩ := token s' fuel at_ (by omega)
  exact ⟨t, read, by omega, holds⟩

/-- A line that has been read to its end leads to the next. -/
theorem At.lineEnd (h : At ts ('\n' :: more) false s) (follows : StartsEntry more) :
    s.Leads (At ts more true) := by
  obtain ⟨p, places, free⟩ := h.place
  have next : At ts more true { s with
      cursor := ⟨more, s.cursor.index + 1, s.cursor.line + 1, 0⟩, keyAllowed := true } :=
    ⟨rfl, by simp, h.tokens, h.mapping, rfl, p, places, free⟩
  intro fuel enough
  rw [h.rest, List.length_cons] at enough
  obtain ⟨fuel, rfl⟩ := Nat.exists_eq_add_of_le' (show 2 ≤ fuel by omega)
  refine ⟨_, fuel + 2, next, by simp only; omega, ?_⟩
  rw [finish?, finish?, skipBlanks_lineEnd follows.solid (by rw [← h.rest]) h.ready.outside,
    skipBlanks_eq_self (by exact follows.solid)]

/-- The scanner with one more scalar, behind which a line begins or not. -/
theorem At.scalar {rest : List Char} (h : At ts rest false s) (opened : ts ≠ []) (t : Token)
    (cursor : Cursor) (start : Bool) (column : cursor.column = 0 ↔ start = true) :
    At (ts ++ [t]) cursor.rest start (({ s with cursor }.allow start).emit t) := by
  have mapping : s.indent = 0 ∧ s.outer = [-1] := by simpa [IsOpen, opened] using h.mapping
  exact ⟨rfl, column, by simp [allow, emit, h.tokens], by simpa [IsOpen, opened, allow, emit] using mapping, rfl,
    h.place⟩

/-- A text that needs no quotes begins a plain scalar. -/
theorem start_of_allowsPlain (allowed : allowsPlain cs = true) (full : cs ≠ []) (more : List Char) :
    IsSolid (cs ++ more) ∧ PlainStart (cs ++ more) := by
  obtain ⟨c, cs, rfl⟩ := List.exists_cons_of_ne_nil full
  have head := PlainHead.of_allowsPlain allowed
  have mark : isMark c = false := by
    rw [← Bool.not_eq_true]
    intro mark
    have printable := head.printable
    rw [← Char.ofNat_toNat c, of_decide_eq_true mark] at printable
    exact absurd printable (by decide)
  have number : c ≠ '#' := by
    rintro rfl
    exact absurd head.indicator (by decide)
  refine ⟨?_, ?_, ?_⟩
  · rintro x ⟨⟩
    exact ⟨head.solid.1, head.solid.2, number, mark⟩
  · rintro x ⟨⟩
    exact ⟨head.indicator, head.solid⟩
  · rintro x ⟨⟩ same
    exact blankNext_append_of_spaceNext (head.sign same) more

/-- A value without quotes is read up to the end of its line. -/
theorem At.plain {text : String} (h : At ts (' ' :: (text.toList ++ '\n' :: more)) false s)
    (opened : ts ≠ []) (allowed : allowsPlain text.toList = true) (full : text.toList ≠ [])
    (follows : StartsEntry more) :
    s.Leads (At (ts ++ [.scalar text .plain]) more true) := by
  obtain ⟨solid, start⟩ := start_of_allowsPlain allowed full ('\n' :: more)
  refine h.leads (by simp) solid fun s' fuel at_ enough => ?_
  have ready := at_.ready
  have emitted := at_
  obtain ⟨⟨rest, i, l, k⟩, tokens, indent, outer, keyAllowed, places⟩ := s'
  obtain ⟨rfl, column, rfl, mapping, rfl, p, rfl, possible⟩ := at_
  have indented : indent = 0 :=
    (by simpa [IsOpen, opened] using mapping : indent = 0 ∧ outer = [-1]).1
  have inside : k ≠ 0 := fun none => Bool.false_ne_true (column.mp none)
  have positive : 0 < indent + 1 := by omega
  obtain ⟨i', l', read⟩ :=
    plain?_of_allowsPlain positive follows.startsLine allowed (i := i) (l := l)
      (Nat.pos_of_ne_zero inside) enough
  rw [String.ofList_toList] at read
  obtain ⟨c, cs, same⟩ := List.exists_cons_of_ne_nil full
  have front : text.toList ++ '\n' :: more = c :: (cs ++ '\n' :: more) := by
    rw [same, List.cons_append]
  rw [token?_plain (by rw [front]) ready.outside (front ▸ start) (fun none => absurd none inside),
    ← front]
  exact ⟨_, (congrArg (Option.bind · _) read).trans rfl, by simp [allow, emit]; omega,
    emitted.scalar opened _ ⟨more, i', l', 0⟩ true ⟨fun _ => rfl, fun _ => rfl⟩⟩

/-- The reader of what stands behind a quote. -/
def readQuoted? (quote : Char) : Cursor → Nat → Option (String × Cursor) :=
  if quote = '"' then doubleQuoted? {} else singleQuoted? {}

theorem At.token?_quoted {quote : Char} {rest : List Char} (known : quote = '\'' ∨ quote = '"')
    (h : At ts (quote :: rest) false s) (fuel : Nat) :
    s.token? fuel =
      s.keyed? ((readQuoted? quote s.cursor.next fuel).map fun (text, c) => (.scalar text .quoted, c)) := by
  have inside : s.cursor.column ≠ 0 := fun none => Bool.false_ne_true (h.column.mp none)
  rw [token?]
  rcases known with rfl | rfl <;> simp [h.rest, inside, Cursor.peek?, readQuoted?]

/-- A value in quotes is read up to its closing quote, and then its line to the end. -/
theorem At.quoted {text : String} {quote : Char} {rest : List Char}
    (h : At ts (' ' :: quote :: rest) false s) (opened : ts ≠ [])
    (known : quote = '\'' ∨ quote = '"') (longer : more.length < rest.length)
    (follows : StartsEntry more)
    (read : ∀ (c : Cursor) (fuel : Nat), c.rest = quote :: rest → (quote :: rest).length ≤ fuel →
      ∃ c' : Cursor, c'.rest = '\n' :: more ∧ c'.column ≠ 0 ∧
        readQuoted? quote c.next fuel = some (text, c')) :
    s.Leads (At (ts ++ [.scalar text .quoted]) more true) := by
  have solid : IsSolid (quote :: rest) := by
    rintro _ ⟨⟩
    rcases known with rfl | rfl <;> decide
  refine Leads.trans (P := At (ts ++ [.scalar text .quoted]) ('\n' :: more) false) ?_ fun s' h => h.lineEnd follows
  refine h.leads (List.cons_ne_nil _ _) solid fun s' fuel at_ enough => ?_
  obtain ⟨c, left, column, read⟩ := read s'.cursor fuel at_.rest (Nat.le_of_lt enough)
  refine ⟨({ s' with cursor := c }.allow false).emit (.scalar text .quoted), ?_, ?_, ?_⟩
  · rw [at_.token?_quoted known, read]
    simp [keyed?, savePlace?, at_.allowed]
  · simpa [allow, emit, left] using Nat.le_of_lt longer
  · exact left ▸ at_.scalar opened _ c false (by simpa using column)

theorem dropPlace?_of_free {p : KeyPlace} (places : s.places = [p]) (free : p.possible = false) :
    s.dropPlace? = some s := by
  obtain ⟨cursor, tokens, indent, outer, allowed, _⟩ := s
  obtain ⟨possible, required, token, index, line, column⟩ := p
  obtain rfl := places
  obtain rfl := free
  rfl

/-- A block is read up to its last line. -/
theorem At.block {text : String} {rest : List Char} (h : At ts (' ' :: '|' :: rest) false s)
    (opened : ts ≠ []) (read : ∀ c : Cursor, c.rest = '|' :: rest →
      ∃ c' : Cursor, c'.rest = more ∧ c'.column = 0 ∧ block? true 0 c.next = some (text, c'))
    (longer : more.length ≤ rest.length) :
    s.Leads (At (ts ++ [.scalar text .quoted]) more true) := by
  have solid : IsSolid ('|' :: rest) := by
    rintro _ ⟨⟩
    decide
  refine h.leads (by simp) solid fun s' fuel at_ enough => ?_
  obtain ⟨p, places, free⟩ := at_.place
  obtain ⟨c, left, column, block⟩ := read s'.cursor at_.rest
  have indent : s'.indent = 0 :=
    (by simpa [IsOpen, opened] using at_.mapping : s'.indent = 0 ∧ s'.outer = [-1]).1
  have inside : s'.cursor.column ≠ 0 := fun none => Bool.false_ne_true (at_.column.mp none)
  refine ⟨({ s' with cursor := c }.allow true).emit (.scalar text .quoted), ?_, ?_, ?_⟩
  · rw [token?]
    simp [at_.rest, inside, Cursor.peek?, dropPlace?_of_free places free, at_.ready.outside, indent,
      block]
  · simpa [allow, emit, left] using Nat.le_succ_of_le longer
  · exact left ▸ at_.scalar opened _ c true (by simpa using column)

/-- A value is read in the form in which it is written. -/
theorem At.written {text : String} {style : ScalarStyle} {line : List Char}
    (h : At ts (' ' :: (line ++ more)) false s) (opened : ts ≠ []) (written : Written text style line)
    (follows : StartsEntry more) : s.Leads (At (ts ++ [.scalar text style]) more true) := by
  cases written with
  | plain allowed full =>
    rw [List.append_assoc, List.singleton_append] at h
    exact h.plain opened allowed full follows
  | single allowed single =>
    rw [List.append_assoc, List.singleton_append] at h
    refine At.quoted h opened (.inl rfl) (by simp; omega) follows ?_
    rintro ⟨_, i, l, k⟩ fuel rfl enough
    obtain ⟨c, left, column, read⟩ := singleQuoted?_singleQuoted allowed single enough
    rw [String.ofList_toList] at read
    exact ⟨c, left, column, read⟩
  | double =>
    rw [List.append_assoc, List.singleton_append] at h
    refine At.quoted h opened (.inr rfl) (by simp; omega) follows ?_
    rintro ⟨_, i, l, k⟩ fuel rfl enough
    obtain ⟨c, left, column, read⟩ := doubleQuoted?_doubleQuoted text.toList more enough
    rw [String.ofList_toList] at read
    exact ⟨c, left, column, read⟩
  | block allowed full =>
    refine At.block h opened ?_ (by simp; omega)
    rintro ⟨_, i, l, k⟩ rfl
    obtain ⟨c, left, column, read⟩ := block?_blockText follows.startsLine allowed full i l k
    rw [String.ofList_toList] at read
    exact ⟨c, left, column, read⟩

/-! ### All entries -/

/-- An entry leads to the next. -/
theorem At.entry {value : String ⊕ Bool}
    (h : At ts (name.toList ++ ':' :: ' ' :: (valueLine value ++ more)) true s) (bare : IsBare name)
    (follows : StartsEntry more) :
    s.Leads (At (ts ++ opening ts ++ entryTokens (name, value)) more true) := by
  refine (h.key bare).trans fun s₁ h₁ => h₁.value.trans fun s₂ h₂ => ?_
  have read := h₂.written (by simp) (valueLine_written value) follows
  simpa [entryTokens] using read

theorem startsEntry_mappingText (entries : List (String × (String ⊕ Bool)))
    (bare : ∀ e ∈ entries, IsBare e.1) :
    StartsEntry (mappingText entries).toList := by
  cases entries with
  | nil => nofun
  | cons entry entries =>
    obtain ⟨name, value⟩ := entry
    have bare := bare _ List.mem_cons_self
    obtain ⟨c, cs, same⟩ := List.exists_cons_of_ne_nil bare.nonempty
    rw [mappingText_cons, same]
    rintro _ ⟨⟩
    exact bare.letters c (same ▸ List.mem_cons_self)

/-- From the second entry on every entry adds its tokens. -/
theorem At.entries (entries : List (String × (String ⊕ Bool))) (bare : ∀ e ∈ entries, IsBare e.1)
    {ts : List Token} {s : Scanner} (opened : ts ≠ [])
    (h : At ts (mappingText entries).toList true s) :
    s.Leads (At (ts ++ entries.flatMap entryTokens) [] true) := by
  induction entries generalizing ts s with
  | nil =>
    rw [List.flatMap_nil, List.append_nil]
    exact fun fuel enough => ⟨s, fuel, h, enough, rfl⟩
  | cons entry entries ih =>
    obtain ⟨name, value⟩ := entry
    have bare' : ∀ e ∈ entries, IsBare e.1 := fun e he => bare e (List.mem_cons_of_mem _ he)
    rw [mappingText_cons] at h
    refine (h.entry (bare _ List.mem_cons_self) (startsEntry_mappingText entries bare')).trans fun s' h' => ?_
    -- the mapping is open, so this entry does not open it
    have same : ts ++ opening ts = ts := by simp [opening, opened]
    rw [same] at h'
    have rest := ih bare' (by simp [opened]) h'
    rwa [List.append_assoc] at rest

/-- The first entry opens the mapping. -/
theorem At.allEntries (entry : String × (String ⊕ Bool)) (entries : List (String × (String ⊕ Bool)))
    (bare : ∀ e ∈ entry :: entries, IsBare e.1) (h : At [] (mappingText (entry :: entries)).toList true s) :
    s.Leads (At (.blockMapping :: (entry :: entries).flatMap entryTokens) [] true) := by
  obtain ⟨name, value⟩ := entry
  have bare' : ∀ e ∈ entries, IsBare e.1 := fun e he => bare e (List.mem_cons_of_mem _ he)
  rw [mappingText_cons] at h
  refine (h.entry (bare _ List.mem_cons_self) (startsEntry_mappingText entries bare')).trans fun s h => ?_
  exact h.entries entries bare' (by simp [entryTokens])

/-- At the end of the text the mapping is closed. -/
theorem At.finish? (h : At ts [] true s) (opened : ts ≠ []) (fuel : Nat) :
    s.finish? (fuel + 1) = some (ts ++ [Token.blockEnd]).toArray := by
  obtain ⟨p, places, free⟩ := h.place
  obtain ⟨indent, outer⟩ : s.indent = 0 ∧ s.outer = [-1] := by
    simpa [IsOpen, opened] using h.mapping
  have closed : s.unroll (-1)
      = { s with tokens := (ts ++ [Token.blockEnd]).toArray, indent := -1, outer := [] } := by
    simp [Scanner.unroll, h.ready.outside, indent, outer, h.tokens]
  have solid : IsSolid s.cursor.rest := by
    rw [h.rest]
    nofun
  have dropped := dropPlace?_of_free (s := { s with
    tokens := (ts ++ [Token.blockEnd]).toArray, indent := -1, outer := [] }) places free
  rw [Scanner.finish?, skipBlanks_eq_self solid]
  dsimp only
  rw [h.ready.dropStale?]
  simp [h.ready.unroll, h.rest, closed, dropped]

end Scanner

/-! ### Tokens of a mapping -/

/-- **The tokens of a written mapping** are those of its entries, in order. -/
theorem tokens?_mappingText (entry : String × (String ⊕ Bool))
    (entries : List (String × (String ⊕ Bool))) (bare : ∀ e ∈ entry :: entries, IsBare e.1) :
    tokens? (mappingText (entry :: entries)) =
      some (.blockMapping :: (entry :: entries).flatMap entryTokens ++ [.blockEnd]) := by
  have printable := all_mappingText _ bare
  have readable : (mappingText (entry :: entries)).toList.all isReadable = true :=
    List.all_eq_true.mpr fun c hc => (isReadable_of_isPrintable (List.all_eq_true.mp printable c hc)).1
  have start : Scanner.At [] (mappingText (entry :: entries)).toList true
      { cursor := { rest := (mappingText (entry :: entries)).toList } } :=
    ⟨rfl, by simp, rfl, by simp [Scanner.IsOpen], rfl, {}, rfl, rfl⟩
  obtain ⟨s, fuel, h, enough, same⟩ := start.allEntries entry entries bare _ (Nat.lt_succ_self _)
  obtain ⟨fuel, rfl⟩ := Nat.exists_eq_add_of_le' (show 1 ≤ fuel by omega)
  unfold tokens?
  dsimp only
  rw [readable, Bool.not_true, if_neg Bool.false_ne_true, equalBreaks_of_printable printable]
  rw [same, h.finish? (List.cons_ne_nil _ _)]
  rfl

/-! ### The tree of a mapping -/

/-- The scalars of an entry. -/
def entryTree (entry : String × (String ⊕ Bool)) : Tree × Tree :=
  (.scalar none entry.1 .plain, .scalar none (valueText entry.2).1 (valueText entry.2).2)

theorem node?_scalar (indentless : Bool) (s : Scope) (text : String) (style : ScalarStyle)
    (ts : List Token) (fuel : Nat) :
    node? true indentless s (.scalar text style :: ts) (fuel + 1)
      = some (.scalar none text style, s, ts) := by
  rw [node?]
  · rfl
  · nofun

theorem node?_mapping (indentless : Bool) (s : Scope) (ts : List Token) (fuel : Nat) :
    node? true indentless s (.blockMapping :: ts) (fuel + 1) =
      (pairs? s ts fuel).map fun (entries, s, ts) => (.mapping none entries, s, ts) := by
  rw [node?]
  · simp only [marks?, Option.bind_eq_bind, Option.bind_some]
    cases pairs? s ts fuel <;> rfl
  · nofun

theorem length_le_entries (entries : List (String × (String ⊕ Bool))) :
    entries.length ≤ (entries.flatMap entryTokens).length := by
  induction entries with
  | nil => exact Nat.le_refl 0
  | cons entry entries ih =>
    rw [List.flatMap_cons, List.length_append, List.length_cons, entryTokens]
    simp only [List.length_cons, List.length_nil]
    omega

theorem pairs?_entries (s : Scope) (entries : List (String × (String ⊕ Bool))) (fuel : Nat)
    (enough : entries.length < fuel) :
    pairs? s (entries.flatMap entryTokens ++ [.blockEnd]) fuel
      = some (entries.map entryTree, s, []) := by
  induction entries generalizing fuel with
  | nil =>
    obtain ⟨fuel, rfl⟩ := Nat.exists_eq_add_of_le' enough
    simp [pairs?]
  | cons entry entries ih =>
    rw [List.length_cons] at enough
    obtain ⟨fuel, rfl⟩ := Nat.exists_eq_add_of_le' (show 2 ≤ fuel by omega)
    have rest := ih (fuel + 1) (by omega)
    rw [List.flatMap_cons, List.append_assoc, entryTokens, List.cons_append, List.cons_append,
      List.cons_append, List.cons_append, List.nil_append, pairs?]
    simp only [endsBlockPart, node?_scalar, Bool.false_eq_true, if_false, Option.bind_eq_bind,
      Option.bind_some, rest]
    rfl

theorem document?_mapping {t : Tree} {s : Scope} {ts : List Token}
    (read : node? true false {} (.blockMapping :: ts) (2 * (ts.length + 1) + 2) = some (t, s, [])) :
    document? (.blockMapping :: ts) = some (some t, s) := by
  unfold document?
  dsimp only [List.length_cons]
  rw [read]
  rfl

/-- **The tree of a written mapping** holds a scalar for every key and every value. -/
theorem treeOfText?_mappingText (entry : String × (String ⊕ Bool))
    (entries : List (String × (String ⊕ Bool))) (bare : ∀ e ∈ entry :: entries, IsBare e.1) :
    treeOfText? (mappingText (entry :: entries)) =
      some (some (.mapping none ((entry :: entries).map entryTree)), {}) := by
  have enough : (entry :: entries).length <
      2 * (((entry :: entries).flatMap entryTokens ++ [Token.blockEnd]).length + 1) + 1 := by
    have := length_le_entries (entry :: entries)
    rw [List.length_append]
    omega
  have read := node?_mapping false {} ((entry :: entries).flatMap entryTokens ++ [Token.blockEnd])
    (2 * (((entry :: entries).flatMap entryTokens ++ [Token.blockEnd]).length + 1) + 1)
  rw [pairs?_entries {} _ _ enough] at read
  rw [treeOfText?, tokens?_mappingText entry entries bare, Option.bind_some, List.cons_append]
  exact document?_mapping read

end ApiStubs.Yaml
