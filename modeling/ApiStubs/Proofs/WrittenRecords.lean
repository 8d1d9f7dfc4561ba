import ApiStubs.Json.Printer
import ApiStubs.Json.Record

/-!
# Texts of records

An object of texts and truth values, written on many lines, is read back as it was. A text stands in
quotes, where every character that could end it or that a quoted text may not hold is escaped. So
reading it takes each character for itself (`units?_escapeChar`), and ends at the closing quote.

## What is proved

* `string?_quote`: a quoted text is read back, whatever follows it.
* `fields?_lines`: so are the fields of an object, one behind the other.
* `ofText?_pretty`: so is the object.
-/

namespace ApiStubs.Json

open Raw

variable {c : Char} {cs rest : List Char}

/-! ### Quoted texts -/

theorem hexDigit?_hexDigit {n : Nat} (h : n < 16) : hexDigit? (hexDigit n) = some n := by
  have all : ∀ m : Fin 16, hexDigit? (hexDigit m) = some m.val := by decide
  exact all ⟨n, h⟩

/-- What a character in quotes is read as: control characters without a short escape are read as
numbers. -/
def unitOf (c : Char) : Unit16 :=
  if c.toNat < 0x20 ∧ c ≠ '\n' ∧ c ≠ '\r' ∧ c ≠ '\t' ∧ c.toNat ≠ 8 ∧ c.toNat ≠ 12 then
    .escaped c.toNat
  else .char c

theorem units?_other (quote : c ≠ '"') (backslash : c ≠ '\\') (printed : ¬ c.toNat < 0x20) :
    units? (c :: cs) = (units? cs).map fun (us, rest) => (.char c :: us, rest) := by
  rw [units?, if_neg printed]
  · cases units? cs <;> rfl
  · exact quote
  · exact fun _ _ _ _ _ same => absurd same backslash
  · exact fun _ _ same => absurd same backslash

theorem units?_short {e : Char} (h : shortEscape? e = some c) :
    units? ('\\' :: e :: cs) = (units? cs).map fun (us, rest) => (.char c :: us, rest) := by
  rw [units?, h]
  · cases units? cs <;> rfl
  · rintro _ _ _ _ _ rfl
    cases h

theorem units?_hex {a b : Nat} (ha : a < 16) (hb : b < 16) :
    units? ('\\' :: 'u' :: '0' :: '0' :: hexDigit a :: hexDigit b :: cs) =
      (units? cs).map fun (us, rest) => (.escaped (16 * a + b) :: us, rest) := by
  have zero : hexDigit? '0' = some 0 := by decide
  have value : hex4? '0' '0' (hexDigit a) (hexDigit b) = some (16 * a + b) := by
    rw [hex4?, zero, hexDigit?_hexDigit ha, hexDigit?_hexDigit hb]
    simp [Nat.mul_comm]
  rw [units?, value]
  cases units? cs <;> rfl

/-- **A character in quotes** is read for itself. -/
theorem units?_escapeChar (c : Char) (cs : List Char) :
    units? (escapeChar c ++ cs) = (units? cs).map fun (us, rest) => (unitOf c :: us, rest) := by
  have short : ∀ e : Char, escapeChar c = ['\\', e] → shortEscape? e = some c → unitOf c = .char c →
      units? (escapeChar c ++ cs) = (units? cs).map fun (us, rest) => (unitOf c :: us, rest) := by
    intro e text named unit
    rw [text, unit]
    exact units?_short named
  have ofNat : ∀ n, c.toNat = n → Char.ofNat n = c := fun n same => same ▸ Char.ofNat_toNat c
  by_cases quote : c = '"'
  · subst quote
    exact short '"' rfl rfl rfl
  by_cases backslash : c = '\\'
  · subst backslash
    exact short '\\' rfl rfl rfl
  by_cases feed : c = '\n'
  · subst feed
    exact short 'n' rfl rfl rfl
  by_cases ret : c = '\r'
  · subst ret
    exact short 'r' rfl rfl rfl
  by_cases tab : c = '\t'
  · subst tab
    exact short 't' rfl rfl rfl
  by_cases back : c.toNat = 8
  · obtain rfl := ofNat _ back
    exact short 'b' rfl rfl rfl
  by_cases form : c.toNat = 12
  · obtain rfl := ofNat _ form
    exact short 'f' rfl rfl rfl
  by_cases low : c.toNat < 0x20
  · have text : escapeChar c = ['\\', 'u', '0', '0', hexDigit (c.toNat / 16), hexDigit (c.toNat % 16)] := by
      simp [escapeChar, quote, backslash, feed, ret, tab, back, form, low]
    have unit : unitOf c = .escaped c.toNat := if_pos ⟨low, feed, ret, tab, back, form⟩
    rw [text, unit]
    simp only [List.cons_append, List.nil_append]
    rw [units?_hex (by omega) (by omega), Nat.div_add_mod]
  · have text : escapeChar c = [c] := by
      simp [escapeChar, quote, backslash, feed, ret, tab, back, form, low]
    have unit : unitOf c = .char c := if_neg fun h => low h.1
    rw [text, unit]
    exact units?_other quote backslash low

/-- The characters of a text in quotes, up to the closing quote. -/
theorem units?_flatMap (cs rest : List Char) :
    units? (cs.flatMap escapeChar ++ '"' :: rest) = some (cs.map unitOf, rest) := by
  induction cs with
  | nil => rfl
  | cons c cs ih =>
    rw [List.flatMap_cons, List.append_assoc, units?_escapeChar, ih, Option.map_some, List.map_cons]

/-- No character is read as half of a surrogate pair. -/
theorem joinUnits?_map (cs : List Char) : joinUnits? (cs.map unitOf) = some cs := by
  induction cs with
  | nil => rfl
  | cons c cs ih =>
    rw [List.map_cons]
    -- a number that is written is below the surrogates, so it does not begin a pair
    by_cases low : c.toNat < 0x20 ∧ c ≠ '\n' ∧ c ≠ '\r' ∧ c ≠ '\t' ∧ c.toNat ≠ 8 ∧ c.toNat ≠ 12
    · have unit : unitOf c = .escaped c.toNat := if_pos low
      rw [unit]
      cases hcs : cs.map unitOf with
      | nil =>
        rw [hcs] at ih
        rw [joinUnits?, if_neg (by omega), ih, Option.map_some, Char.ofNat_toNat]
        exact fun _ _ same => nomatch same
      | cons u us =>
        rw [hcs] at ih
        cases u with
        | char d =>
          rw [joinUnits?, if_neg (by omega), ih, Option.map_some, Char.ofNat_toNat]
          exact fun _ _ same => nomatch same
        | escaped n =>
          rw [joinUnits?, if_neg (by omega), if_neg (by omega), ih, Option.map_some,
            Char.ofNat_toNat]
    · have unit : unitOf c = .char c := if_neg low
      rw [unit, joinUnits?, ih, Option.map_some]

/-- **A quoted text** is read back, whatever follows it. -/
theorem string?_quote (s : String) (rest : List Char) :
    string? (s.toList.flatMap escapeChar ++ '"' :: rest) = some (some s, rest) := by
  rw [string?, units?_flatMap, Option.bind_eq_bind, Option.bind_some]
  dsimp only
  rw [joinUnits?_map, Option.map_some, String.ofList_toList]
  rfl

/-! ### Flat objects -/

/-- A text or a truth value as data. -/
def ofFlat : String ⊕ Bool → Json
  | .inl s => .str s
  | .inr b => .bool b

/-- The shape of a text or a truth value. -/
def Raw.ofFlat : String ⊕ Bool → Raw
  | .inl s => .str (some s)
  | .inr b => .bool b

theorem skip_append {gap : List Char} (h : ∀ c ∈ gap, isSpace c = true) (cs : List Char) :
    skip (gap ++ cs) = skip cs :=
  List.dropWhile_append_of_pos h

theorem skip_solid (h : isSpace c = false) (cs : List Char) : skip (c :: cs) = c :: cs :=
  List.dropWhile_cons_of_neg (by simp [h])

theorem toList_quote (s : String) : (quote s).toList = '"' :: (s.toList.flatMap escapeChar ++ ['"']) := by
  simp [quote]

/-- A text or a truth value behind a blank is read back, whatever follows it. -/
theorem value?_ofFlat (value : String ⊕ Bool) (level : Nat) (rest : List Char) (fuel : Nat) :
    value? (' ' :: ((prettyAt level (Json.ofFlat value)).toList ++ rest)) (fuel + 1) =
      some (Raw.ofFlat value, rest) := by
  have blank : ∀ cs, skip (' ' :: cs) = skip cs := fun cs => List.dropWhile_cons_of_pos (by decide)
  cases value with
  | inl s =>
    have text : (prettyAt level (Json.ofFlat (.inl s))).toList = (quote s).toList := rfl
    rw [text, toList_quote, value?, blank, List.cons_append, skip_solid (by decide),
      List.append_assoc, List.singleton_append]
    change (string? _).map _ = _
    rw [string?_quote]
    rfl
  | inr b =>
    rw [value?, blank]
    cases b with
    | true =>
      have text : (prettyAt level (Json.ofFlat (.inr true))).toList = ['t', 'r', 'u', 'e'] := by
        simp [Json.ofFlat, prettyAt]
      rw [text]
      rfl
    | false =>
      have text : (prettyAt level (Json.ofFlat (.inr false))).toList
          = ['f', 'a', 'l', 's', 'e'] := by
        simp [Json.ofFlat, prettyAt]
      rw [text]
      rfl

/-- The fields of an object. -/
def flatFields (fields : List (String × (String ⊕ Bool))) : List (String × Json) :=
  fields.map fun (key, value) => (key, Json.ofFlat value)

/-- A field of an object, behind its indentation. -/
def fieldLine (level : Nat) (field : String × (String ⊕ Bool)) : List Char :=
  (quote field.1 ++ ": " ++ prettyAt level (Json.ofFlat field.2)).toList

/-- The fields of an object, one on each line. -/
def fieldLines (level : Nat) (fields : List (String × (String ⊕ Bool))) : List Char :=
  (",\n".intercalate (prettyFields level (flatFields fields))).toList

section Lines

variable (field next : String × (String ⊕ Bool)) (fields : List (String × (String ⊕ Bool)))
  (level : Nat)

theorem fieldLine_eq (rest : List Char) :
    fieldLine level field ++ rest = '"' :: (field.1.toList.flatMap escapeChar ++ '"' :: ':' :: ' ' ::
      ((prettyAt level (Json.ofFlat field.2)).toList ++ rest)) := by
  simp [fieldLine, toList_quote]

theorem fieldLines_singleton :
    fieldLines level [field] = (indentation level).toList ++ fieldLine level field := by
  simp [fieldLines, fieldLine, flatFields, prettyFields]

theorem fieldLines_cons :
    fieldLines level (field :: next :: fields) =
      (indentation level).toList
        ++ (fieldLine level field ++ ',' :: '\n' :: fieldLines level (next :: fields)) := by
  simp [fieldLines, fieldLine, flatFields, prettyFields]

/-- How an object goes on behind a field: with one more, or not. -/
def behindField? (rest : List Char) (fuel : Nat) :
    Option (List (Option String × Raw) × List Char) :=
  match skip rest with
  | ',' :: rest => (fields? rest fuel).map fun (xs, rest) => ((some field.1, Raw.ofFlat field.2) :: xs, rest)
  | '\x7d' :: rest => some ([(some field.1, Raw.ofFlat field.2)], rest)
  | _ => none

/-- A field of an object is read up to the sign behind it. -/
theorem fields?_step {gap : List Char} (h : ∀ c ∈ gap, isSpace c = true) (rest : List Char)
    (fuel : Nat) :
    fields? (gap ++ (fieldLine level field ++ rest)) (fuel + 2)
      = behindField? field rest (fuel + 1) := by
  have colon : ∀ cs, skip (':' :: cs) = ':' :: cs := skip_solid (by decide)
  rw [fieldLine_eq, fields?, skip_append h, skip_solid (by decide)]
  simp only [string?_quote, colon, value?_ofFlat, Option.bind_eq_bind, Option.bind_some]
  rfl

theorem isSpace_of_mem_indentation {level : Nat} :
    ∀ c ∈ (indentation level).toList, isSpace c = true := by
  intro c hc
  rw [indentation, String.toList_ofList] at hc
  rw [List.eq_of_mem_replicate hc]
  rfl

/-- **The fields of an object**, one on each line, are read back up to the brace behind them. -/
theorem fields?_lines (rest : List Char) {fuel : Nat} (enough : fields.length < fuel) :
    fields? ('\n' :: (fieldLines level (field :: fields) ++ '\n' :: '\x7d' :: rest)) (fuel + 1) =
      some ((field :: fields).map fun (key, value) => (some key, Raw.ofFlat value), rest) := by
  obtain ⟨fuel, rfl⟩ := Nat.exists_eq_add_of_le' (Nat.one_le_of_lt enough)
  have gap : ∀ c ∈ '\n' :: (indentation level).toList, isSpace c = true :=
    List.forall_mem_cons.mpr ⟨rfl, isSpace_of_mem_indentation⟩
  induction fields generalizing field fuel with
  | nil =>
    rw [fieldLines_singleton, List.append_assoc, ← List.cons_append]
    refine (fields?_step field level gap _ fuel).trans ?_
    have ends : skip ('\n' :: '\x7d' :: rest) = '\x7d' :: rest := rfl
    rw [behindField?, ends]
    rfl
  | cons next fields ih =>
    obtain ⟨fuel, rfl⟩ := Nat.exists_eq_add_of_le' (show 1 ≤ fuel by simp at enough; omega)
    have more : fields.length < fuel + 1 := by simpa using enough
    rw [fieldLines_cons, List.append_assoc, List.append_assoc, ← List.cons_append]
    refine (fields?_step field level gap _ (fuel + 1)).trans ?_
    rw [behindField?, List.cons_append, skip_solid (by decide), List.cons_append]
    exact congrArg (Option.map _) (ih next fuel more)

/-- Every line takes a character at least. -/
theorem length_le_fieldLines : fields.length ≤ (fieldLines level (field :: fields)).length := by
  induction fields generalizing field with
  | nil => exact Nat.zero_le _
  | cons next fields ih =>
    have shorter := ih next
    rw [fieldLines_cons, List.length_append, List.length_append, List.length_cons, List.length_cons,
      List.length_cons]
    omega

/-- The first line begins with a quote. -/
theorem skip_fieldLines (rest : List Char) :
    ∃ more, skip (fieldLines level (field :: fields) ++ rest) = '"' :: more := by
  have text : ∃ behind, fieldLines level (field :: fields) ++ rest =
      (indentation level).toList ++ (fieldLine level field ++ behind) := by
    cases fields with
    | nil => exact ⟨rest, by rw [fieldLines_singleton, List.append_assoc]⟩
    | cons next fields => exact ⟨_, by rw [fieldLines_cons, List.append_assoc, List.append_assoc]⟩
  obtain ⟨behind, text⟩ := text
  rw [text, skip_append isSpace_of_mem_indentation, fieldLine_eq]
  exact ⟨_, skip_solid (by decide) _⟩

end Lines

theorem fields?_skip (cs : List Char) (fuel : Nat) : fields? (skip cs) fuel = fields? cs fuel := by
  have again : skip (skip cs) = skip cs := by
    induction cs with
    | nil => rfl
    | cons c cs ih =>
      by_cases h : isSpace c = true
      · have drop : skip (c :: cs) = skip cs := List.dropWhile_cons_of_pos h
        rw [drop, ih]
      · have keep : skip (c :: cs) = c :: cs := List.dropWhile_cons_of_neg h
        rw [keep, keep]
  cases fuel with
  | zero => rfl
  | succ fuel => rw [fields?, fields?, again]

/-- **An object of texts and truth values**, written on many lines, is read back. -/
theorem ofText?_pretty (field : String × (String ⊕ Bool))
    (fields : List (String × (String ⊕ Bool))) :
    Raw.ofText? (Json.obj (flatFields (field :: fields))).pretty =
      some (.obj ((field :: fields).map fun (key, value) => (some key, Raw.ofFlat value))) := by
  have text : (Json.obj (flatFields (field :: fields))).pretty.toList =
      '\x7b' :: '\n' :: (fieldLines 1 (field :: fields) ++ '\n' :: '\x7d' :: []) := by
    simp [pretty, fieldLines, flatFields, prettyAt, indentation]
  have shorter := length_le_fieldLines field fields 1
  rw [Raw.ofText?, text]
  dsimp only
  generalize hn : List.length _ = n
  have enough : fields.length < 2 * n := by
    rw [List.length_cons, List.length_cons, List.length_append] at hn
    omega
  have lines := fields?_lines field fields 1 [] enough
  obtain ⟨more, first⟩ := skip_fieldLines field fields 1 ['\n', '\x7d']
  have feed : ∀ cs, skip ('\n' :: cs) = skip cs := fun cs => List.dropWhile_cons_of_pos (by decide)
  rw [← fields?_skip, feed, first] at lines
  have whole : value? ('\x7b' :: '\n' :: (fieldLines 1 (field :: fields) ++ ['\n', '\x7d'])) (2 * n + 2) =
      some (.obj ((field :: fields).map fun (key, value) => (some key, Raw.ofFlat value)), []) := by
    rw [value?, skip_solid (by decide)]
    simp only [feed, first]
    exact congrArg (Option.map _) lines
  rw [whole]
  rfl

end ApiStubs.Json
