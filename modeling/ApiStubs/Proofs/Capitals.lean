import ApiStubs.Proofs.FileNames

/-!
# Capitals

The upper-case form of a character comes from two tables, one of runs of case pairs and one of
expansions. Here it is looked up in them what holds for all characters: the first character of an
upper-case form is its own upper-case form, and for an alphanumeric character it is alphanumeric.
What stands behind it need not be: for 26 letters, of which Unicode has no capitals, the form has
combining marks behind another capital.

A table has more than a thousand entries, and comparing each with each takes too long. So sets of
code points are numbers, and their bits are compared at once.

## What is proved

* `CaseRun.apply_cases`: what a character is replaced by.
* `exists_upperChar`: the first character of an upper-case form.
* `mem_markedLetters_iff`: the letters whose upper-case form has a separator in it.
-/

namespace ApiStubs

namespace Text

/-! ### Sets of code points as numbers -/

/-- Sets of code points are numbers here, which have the bits of their members; so sets can be
compared at once. The union of sets. -/
def union (sets : List Nat) : Nat := sets.foldr (fun k m => m ||| k) 0

/-- The set of the code points of a list. -/
def pointSet (ns : List Nat) : Nat := union (ns.map (1 <<< ·))

/-- The set of the code points in closed ranges. -/
def rangeSet (ranges : List (Nat × Nat)) : Nat :=
  union (ranges.map fun r => (1 <<< (r.2 + 1 - r.1) - 1) <<< r.1)

section

variable {sets ns : List Nat} {ranges : List (Nat × Nat)} {n k : Nat}

theorem testBit_union : (union sets).testBit n = true ↔ ∃ k ∈ sets, k.testBit n = true := by
  unfold union
  induction sets with
  | nil => simp
  | cons k sets ih =>
    simp only [List.foldr_cons, Nat.testBit_or, Bool.or_eq_true, ih, List.mem_cons,
      exists_eq_or_imp]
    exact or_comm

theorem testBit_pointSet : (pointSet ns).testBit n = true ↔ n ∈ ns := by
  rw [pointSet, testBit_union]
  constructor
  · rintro ⟨k, hk, bit⟩
    obtain ⟨x, hx, rfl⟩ := List.mem_map.mp hk
    rw [Nat.one_shiftLeft, Nat.testBit_two_pow, decide_eq_true_eq] at bit
    rwa [← bit]
  · intro h
    exact ⟨_, List.mem_map.mpr ⟨n, h, rfl⟩, by rw [Nat.one_shiftLeft, Nat.testBit_two_pow_self]⟩

/-- What is in one of two sets without common members is not in the other. -/
theorem testBit_eq_false_of_and_eq_zero {j : Nat} (apart : k &&& j = 0) (h : k.testBit n = true) :
    j.testBit n = false := by
  have both := Nat.testBit_and k j n
  rwa [apart, h, Bool.true_and, Nat.zero_testBit, eq_comm] at both

/-- What is in a set is in every larger one. -/
theorem testBit_of_and_eq_self {j : Nat} (inside : k &&& j = k) (h : k.testBit n = true) :
    j.testBit n = true := by
  have both := Nat.testBit_and k j n
  rwa [inside, h, Bool.true_and, eq_comm] at both

theorem testBit_rangeSet : (rangeSet ranges).testBit n = inRanges ranges n := by
  have one : ∀ r : Nat × Nat,
      ((1 <<< (r.2 + 1 - r.1) - 1) <<< r.1).testBit n
        = (decide (r.1 ≤ n) && decide (n ≤ r.2)) := by
    intro r
    rw [Nat.testBit_shiftLeft, Nat.one_shiftLeft, Nat.testBit_two_pow_sub_one, Bool.eq_iff_iff]
    simp only [Bool.and_eq_true, decide_eq_true_eq]
    omega
  rw [rangeSet, Bool.eq_iff_iff, testBit_union, inRanges, List.any_eq_true]
  constructor
  · rintro ⟨k, hk, bit⟩
    obtain ⟨r, hr, rfl⟩ := List.mem_map.mp hk
    exact ⟨r, hr, (one r).symm.trans bit⟩
  · rintro ⟨r, hr, inside⟩
    exact ⟨_, List.mem_map.mpr ⟨r, hr, rfl⟩, (one r).trans inside⟩

end

/-! ### Counterparts of runs -/

namespace CaseRun

variable {runs : List CaseRun} {r : CaseRun} {n : Nat}

/-- As many code points as the run has, at the same distance, from `start` on. -/
def points (r : CaseRun) (start : Nat) : List Nat :=
  (List.range ((r.last - r.first) / r.step + 1)).map fun i => start + i * r.step

/-- The set of the code points that are covered. -/
def sources (runs : List CaseRun) : Nat := union (runs.map fun r => pointSet (r.points r.first))

/-- The set of their counterparts. -/
def targets (runs : List CaseRun) : Nat := union (runs.map fun r => pointSet (r.points r.target))

theorem mem_points (h : r.covers n = true) (start : Nat) :
    start + (n - r.first) ∈ r.points start := by
  simp only [covers, Bool.and_eq_true, decide_eq_true_eq, beq_iff_eq] at h
  obtain ⟨⟨-, high⟩, turn⟩ := h
  have multiple : (n - r.first) / r.step * r.step = n - r.first := by
    rw [Nat.mul_comm]
    exact Nat.mul_div_cancel' (Nat.dvd_of_mod_eq_zero turn)
  refine List.mem_map.mpr ⟨(n - r.first) / r.step, List.mem_range.mpr ?_, by rw [multiple]⟩
  exact Nat.lt_succ_of_le (Nat.div_le_div_right (by omega))

theorem testBit_sources (hr : r ∈ runs) (h : r.covers n = true) :
    (sources runs).testBit n = true := by
  have first := mem_points h r.first
  simp only [covers, Bool.and_eq_true, decide_eq_true_eq] at h
  rw [show r.first + (n - r.first) = n by omega] at first
  exact testBit_union.mpr ⟨_, List.mem_map.mpr ⟨r, hr, rfl⟩, testBit_pointSet.mpr first⟩

theorem testBit_targets (hr : r ∈ runs) (h : r.covers n = true) :
    (targets runs).testBit (r.target + (n - r.first)) = true :=
  testBit_union.mpr ⟨_, List.mem_map.mpr ⟨r, hr, rfl⟩, testBit_pointSet.mpr (mem_points h r.target)⟩

/-- A character that no run covers stays, and any other one is replaced by its counterpart. -/
theorem apply_cases (table : ∀ r ∈ runs, r.LeadsToPlain) (c : Char) :
    apply runs c = c ∨ (targets runs).testBit (apply runs c).toNat = true := by
  unfold apply
  split
  · next r hr =>
    have mem := List.mem_of_find?_eq_some hr
    have covers := List.find?_some hr
    have counterpart := testBit_targets mem covers
    obtain ⟨-, valid⟩ := table r mem
    simp only [CaseRun.covers, Bool.and_eq_true, decide_eq_true_eq] at covers
    have char : (r.target + (c.toNat - r.first)).isValidChar := by
      unfold Nat.isValidChar
      omega
    rw [toNat_ofNat char]
    exact .inr counterpart
  · exact .inl rfl

end CaseRun

/-! ### Upper-case forms -/

variable {c : Char}

/-- The set of the characters that have another upper-case form. -/
def lowerSet : Nat := CaseRun.sources upperRuns ||| pointSet (upperExpansions.map Prod.fst)

/-- The set of the characters that begin the upper-case form of another one. -/
def capitalSet : Nat := CaseRun.targets upperRuns ||| pointSet (upperExpansions.filterMap fun e => e.2.head?)

/-- The upper-case form of a character is listed, or it is one character. -/
theorem upperChar_cases (c : Char) :
    (∃ e ∈ upperExpansions, e.1 = c.toNat ∧ upperChar c = e.2.map Char.ofNat) ∨
    (∀ e ∈ upperExpansions, e.1 ≠ c.toNat) ∧ upperChar c = [CaseRun.apply upperRuns c] := by
  unfold upperChar
  split
  · next e he => exact .inl ⟨e, List.mem_of_find?_eq_some he, by simpa using List.find?_some he, rfl⟩
  · next none => exact .inr ⟨fun e he => by simpa using List.find?_eq_none.mp none e he, rfl⟩

/-- The numbers that are listed are those of characters. -/
theorem toNat_of_mem_expansion {e : Nat × List Nat} (he : e ∈ upperExpansions) {n : Nat}
    (hn : n ∈ e.2) :
    (Char.ofNat n).toNat = n :=
  toNat_ofNat (.inl ((plain_of_mem_upperExpansions e he).2 n hn).2)

/-- A character whose upper-case form is one character keeps it, or gets a capital. -/
theorem apply_upperRuns_cases (c : Char) : CaseRun.apply upperRuns c = c ∨
    capitalSet.testBit (CaseRun.apply upperRuns c).toNat = true := by
  refine (CaseRun.apply_cases leadsToPlain_of_mem_upperRuns c).imp id fun counterpart => ?_
  rw [capitalSet, Nat.testBit_or, counterpart, Bool.true_or]

/-- What has no other upper-case form stays. -/
theorem upperChar_eq_self (h : lowerSet.testBit c.toNat = false) : upperChar c = [c] := by
  rw [lowerSet, Nat.testBit_or, Bool.or_eq_false_iff] at h
  obtain ⟨runs, expansions⟩ := h
  rcases upperChar_cases c with ⟨e, he, same, -⟩ | ⟨-, one⟩
  · rw [testBit_pointSet.mpr (List.mem_map.mpr ⟨e, he, same⟩)] at expansions
    cases expansions
  · rw [one]
    unfold CaseRun.apply
    split
    · next r hr =>
      rw [CaseRun.testBit_sources (List.mem_of_find?_eq_some hr) (List.find?_some hr :)] at runs
      cases runs
    · rfl

/-- No capital has another upper-case form, and every capital is alphanumeric. -/
theorem capitalSet_and :
    capitalSet &&& lowerSet = 0 ∧ capitalSet &&& rangeSet alphanumericRanges = capitalSet := by decide +kernel

/-- Capitals have no other upper-case form. -/
theorem upperChar_of_capital (h : capitalSet.testBit c.toNat = true) : upperChar c = [c] :=
  upperChar_eq_self (testBit_eq_false_of_and_eq_zero capitalSet_and.1 h)

/-- Capitals are alphanumeric. -/
theorem isAlphanumeric_of_capital (h : capitalSet.testBit c.toNat = true) :
    isAlphanumeric c = true := by
  have inside := testBit_of_and_eq_self capitalSet_and.2 h
  rwa [testBit_rangeSet] at inside

theorem isAlphanumeric_apply (h : isAlphanumeric c = true) :
    isAlphanumeric (CaseRun.apply upperRuns c) = true := by
  rcases apply_upperRuns_cases c with self | capital
  · rwa [self]
  · exact isAlphanumeric_of_capital capital

/-- **The first character of an upper-case form** is its own upper-case form. -/
theorem exists_upperChar (c : Char) :
    ∃ x rest, upperChar c = x :: rest ∧ upperChar x = [x] ∧
      (isAlphanumeric c = true → isAlphanumeric x = true) := by
  rcases upperChar_cases c with ⟨e, he, -, listed⟩ | ⟨-, one⟩
  · obtain ⟨n, ns, split⟩ := List.exists_cons_of_ne_nil (plain_of_mem_upperExpansions e he).1
    have head : n ∈ upperExpansions.filterMap fun e => e.2.head? :=
      List.mem_filterMap.mpr ⟨e, he, by rw [split, List.head?_cons]⟩
    have capital : capitalSet.testBit (Char.ofNat n).toNat = true := by
      rw [toNat_of_mem_expansion he (by simp [split]), capitalSet, Nat.testBit_or,
        testBit_pointSet.mpr head, Bool.or_true]
    exact ⟨_, _, by rw [listed, split, List.map_cons], upperChar_of_capital capital,
      fun _ => isAlphanumeric_of_capital capital⟩
  · refine ⟨_, [], one, ?_, isAlphanumeric_apply⟩
    rcases apply_upperRuns_cases c with self | capital
    · rwa [self] at one ⊢
    · exact upperChar_of_capital capital

/-! ### Marked letters -/

/-- The letters whose upper-case form has combining marks behind a capital. -/
def markedLetters : List Nat := [
  0x1F0, 0x390, 0x3B0, 0x1E96, 0x1E97, 0x1E98, 0x1E99, 0x1F50, 0x1F52, 0x1F54, 0x1F56, 0x1FB6, 0x1FB7, 0x1FC6,
  0x1FC7, 0x1FD2, 0x1FD3, 0x1FD6, 0x1FD7, 0x1FE2, 0x1FE3, 0x1FE4, 0x1FE6, 0x1FE7, 0x1FF6, 0x1FF7]

/-- Of the upper-case forms that are listed, those of marked letters have a separator in them. -/
theorem expansion_iff {e : Nat × List Nat} (he : e ∈ upperExpansions) :
    e.1 ∈ markedLetters ↔ ∃ n ∈ e.2, inRanges alphanumericRanges n = false := by
  have table : (upperExpansions.all fun e =>
      markedLetters.contains e.1 == e.2.any fun n => !(rangeSet alphanumericRanges).testBit n) = true := by
    decide +kernel
  have one := List.all_eq_true.mp table e he
  rw [beq_iff_eq, Bool.eq_iff_iff, List.contains_iff_mem, List.any_eq_true] at one
  simpa only [testBit_rangeSet, Bool.not_eq_true'] using one

/-- **The marked letters** are those whose upper-case form has a separator in it. -/
theorem mem_markedLetters_iff (h : isAlphanumeric c = true) :
    c.toNat ∈ markedLetters ↔ ∃ x ∈ upperChar c, isAlphanumeric x = false := by
  rcases upperChar_cases c with ⟨e, he, same, listed⟩ | ⟨other, one⟩
  · rw [← same, expansion_iff he, listed]
    constructor
    · rintro ⟨n, hn, separator⟩
      exact ⟨_, List.mem_map.mpr ⟨n, hn, rfl⟩, by rwa [isAlphanumeric, toNat_of_mem_expansion he hn]⟩
    · rintro ⟨x, hx, separator⟩
      obtain ⟨n, hn, rfl⟩ := List.mem_map.mp hx
      rw [isAlphanumeric, toNat_of_mem_expansion he hn] at separator
      exact ⟨n, hn, separator⟩
  · have table : ∀ n ∈ markedLetters, ∃ e ∈ upperExpansions, e.1 = n := by decide +kernel
    constructor
    · intro marked
      obtain ⟨e, he, same⟩ := table _ marked
      exact absurd same (other e he)
    · rintro ⟨x, hx, separator⟩
      rw [one, List.mem_singleton] at hx
      rw [hx, isAlphanumeric_apply h] at separator
      cases separator

end Text

end ApiStubs
