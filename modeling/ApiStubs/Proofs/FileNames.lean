import ApiStubs.Proofs.NameSegments
import ApiStubs.Proofs.PathSteps

/-!
# The names of files

A name made from a path or a schema holds no character before the digits, so none that a path
gives a meaning to: with an ending and an extension it is the name of one file. The ending tells
the files of handlers, of hydrators and of the route table apart.
-/

namespace ApiStubs

/-! ### The characters of a name -/

namespace Text

/-- A character from the digits on: none of those that a path gives a meaning to. -/
def IsPlain (c : Char) : Prop := '0'.toNat ≤ c.toNat

theorem IsPlain.ne {c x : Char} (h : IsPlain c) (hx : x.toNat < '0'.toNat) : c ≠ x := by
  rintro rfl
  exact absurd hx (Nat.not_lt.mpr h)

theorem isPlain_of_isAlphanumeric {c : Char} (h : isAlphanumeric c = true) : IsPlain c := by
  have table : ∀ r ∈ alphanumericRanges, '0'.toNat ≤ r.1 := by decide +kernel
  obtain ⟨r, hr, hc⟩ := List.any_eq_true.mp h
  simp only [Bool.and_eq_true, decide_eq_true_eq] at hc
  exact Nat.le_trans (table r hr) hc.1

/-- The number of the character that a number stands for. -/
theorem toNat_ofNat {n : Nat} (valid : n.isValidChar) : (Char.ofNat n).toNat = n := by
  rw [Char.ofNat, dif_pos valid]
  rfl

theorem isPlain_ofNat {n : Nat} (valid : n.isValidChar) (h : '0'.toNat ≤ n) :
    IsPlain (Char.ofNat n) := by
  rwa [IsPlain, toNat_ofNat valid]

/-- The counterparts of a run are characters, and plain ones. -/
def CaseRun.LeadsToPlain (r : CaseRun) : Prop :=
  '0'.toNat ≤ r.target ∧ (r.target + (r.last - r.first) < 0xD800 ∨
    0xDFFF < r.target ∧ r.target + (r.last - r.first) < 0x110000)

instance (r : CaseRun) : Decidable r.LeadsToPlain := inferInstanceAs (Decidable (_ ∧ _))

theorem leadsToPlain_of_mem_upperRuns : ∀ r ∈ upperRuns, r.LeadsToPlain := by decide +kernel

/-- The upper-case forms that are listed are texts of plain characters. -/
theorem plain_of_mem_upperExpansions :
    ∀ e ∈ upperExpansions, e.2 ≠ [] ∧ ∀ n ∈ e.2, '0'.toNat ≤ n ∧ n < 0xD800 := by decide +kernel

theorem isPlain_apply {runs : List CaseRun} (table : ∀ r ∈ runs, r.LeadsToPlain) {c : Char}
    (h : IsPlain c) : IsPlain (CaseRun.apply runs c) := by
  unfold CaseRun.apply
  split
  · next r hr =>
    obtain ⟨low, valid⟩ := table r (List.mem_of_find?_eq_some hr)
    have covers := List.find?_some hr
    simp only [CaseRun.covers, Bool.and_eq_true, decide_eq_true_eq] at covers
    refine isPlain_ofNat ?_ (by omega)
    unfold Nat.isValidChar
    omega
  · exact h

theorem isPlain_of_mem_upperChar {c x : Char} (h : IsPlain c) (hx : x ∈ upperChar c) :
    IsPlain x := by
  unfold upperChar at hx
  split at hx
  · next e he =>
    obtain ⟨n, hn, rfl⟩ := List.mem_map.mp hx
    obtain ⟨low, valid⟩ := (plain_of_mem_upperExpansions e (List.mem_of_find?_eq_some he)).2 n hn
    exact isPlain_ofNat (.inl valid) low
  · rw [List.mem_singleton.mp hx]
    exact isPlain_apply leadsToPlain_of_mem_upperRuns h

theorem isPlain_of_mem_capitalize {cs : List Char} (h : ∀ c ∈ cs, IsPlain c) :
    ∀ x ∈ capitalize cs, IsPlain x := by
  cases cs with
  | nil => exact fun x hx => nomatch hx
  | cons c cs =>
    intro x hx
    rcases List.mem_append.mp hx with hx | hx
    · exact isPlain_of_mem_upperChar (h c List.mem_cons_self) hx
    · exact h x (List.mem_cons_of_mem c hx)

end Text

theorem isPlain_of_mem_segment {raw segment : List Char} (h : segment ∈ segments raw) :
    ∀ c ∈ segment, Text.IsPlain c :=
  fun c hc => Text.isPlain_of_isAlphanumeric (isAlphanumeric_of_mem_segment h c hc)

/-- **The characters of a name** are plain, whatever it is made from. -/
theorem isPlain_of_mem_modelName {raw : String} : ∀ c ∈ (modelName raw).toList, Text.IsPlain c := by
  intro c hc
  rw [modelName, String.toList_ofList] at hc
  obtain ⟨segment, hs, hc⟩ := List.mem_flatMap.mp hc
  exact Text.isPlain_of_mem_capitalize (isPlain_of_mem_segment hs) c hc

/-! ### The names of files -/

variable {extension : String}

/-- A text without slashes, with an extension without slashes behind a dot. -/
theorem isName_of_stem {stem : String} (hs : '/' ∉ stem.toList) (two : 2 ≤ stem.toList.length)
    (he : '/' ∉ extension.toList) : Path.IsName (stem ++ "." ++ extension) := by
  have text : (stem ++ "." ++ extension).toList = stem.toList ++ '.' :: extension.toList := by simp
  refine ⟨?_, ?_, ?_, ?_⟩
  · rw [text]
    simp [hs, he]
  · rw [text]
    simp
  · intro h
    have length := congrArg List.length (text.symm.trans h)
    simp only [List.length_append, List.length_cons, List.length_nil] at length
    omega
  · intro h
    have length := congrArg List.length (text.symm.trans h)
    simp only [List.length_append, List.length_cons, List.length_nil] at length
    omega

theorem not_mem_modelName {x : Char} (hx : x.toNat < '0'.toNat) (raw : String) :
    x ∉ (modelName raw).toList :=
  fun h => (isPlain_of_mem_modelName x h).ne hx rfl

/-- The file of a name with an ending. -/
theorem isName_of_modelName (raw : String) {ending : String} (hs : '/' ∉ ending.toList)
    (two : 2 ≤ ending.toList.length) (he : '/' ∉ extension.toList) :
    Path.IsName (modelName raw ++ ending ++ "." ++ extension) := by
  refine isName_of_stem ?_ ?_ he
  · rw [String.toList_append, List.mem_append, not_or]
    exact ⟨not_mem_modelName (by decide) raw, hs⟩
  · rw [String.toList_append, List.length_append]
    omega

theorem stem_inj {first second : String}
    (h : first ++ "." ++ extension = second ++ "." ++ extension) :
    first = second := by
  rw [String.append_assoc, String.append_assoc] at h
  have h := congrArg String.toList h
  simp only [String.toList_append] at h
  exact String.toList_inj.mp (List.append_cancel_right h)

/-- Texts that end differently are different. -/
theorem ne_of_getLast? {first second : String} {n : Nat}
    (h : first.toList.reverse[n]? ≠ second.toList.reverse[n]?) : first ≠ second := by
  rintro rfl
  exact h rfl

theorem handlerName_ne_hydratorName (path schema : String) :
    handlerName path ≠ hydratorName schema :=
  ne_of_getLast? (n := 1) (by simp [handlerName, hydratorName, handlerSuffix, hydratorSuffix])

end ApiStubs
