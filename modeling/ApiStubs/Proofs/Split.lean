import ApiStubs.Text.Lines
import ApiStubs.Text.Drop

/-!
# Cutting a text into pieces

A text that is cut at every separator has the pieces of what stands before a separator, and then
those of what stands behind it. Pieces hold no separator, so joining them and cutting again gives
the same pieces.
-/

namespace ApiStubs.Text

variable {p : Char → Bool}

theorem splitWhere_ne_nil (p : Char → Bool) (cs : List Char) : splitWhere p cs ≠ [] := by
  cases cs with
  | nil => simp [splitWhere]
  | cons c cs =>
    rw [splitWhere]
    split
    · simp
    · split <;> simp

theorem splitWhere_cons_separator {c : Char} (hc : p c = true) (cs : List Char) :
    splitWhere p (c :: cs) = [] :: splitWhere p cs := by
  obtain ⟨piece, pieces, h⟩ := List.exists_cons_of_ne_nil (splitWhere_ne_nil p cs)
  rw [splitWhere, h]
  simp [hc]

theorem splitWhere_cons_other {c : Char} (hc : p c = false) {cs piece : List Char}
    {pieces : List (List Char)} (h : splitWhere p cs = piece :: pieces) :
    splitWhere p (c :: cs) = (c :: piece) :: pieces := by
  rw [splitWhere, h]
  simp [hc]

/-- A text without a separator is one piece. -/
theorem splitWhere_of_forall {cs : List Char} (h : ∀ c ∈ cs, p c = false) :
    splitWhere p cs = [cs] := by
  induction cs with
  | nil => rfl
  | cons c cs ih =>
    exact splitWhere_cons_other (h c List.mem_cons_self) (ih fun x hx => h x (List.mem_cons_of_mem c hx))

/-- **Cutting at a separator**: the pieces before it, then those behind it. -/
theorem splitWhere_append_separator {c : Char} (hc : p c = true) (before behind : List Char) :
    splitWhere p (before ++ c :: behind) = splitWhere p before ++ splitWhere p behind := by
  induction before with
  | nil => exact splitWhere_cons_separator hc behind
  | cons b before ih =>
    cases hb : p b with
    | true => rw [List.cons_append, splitWhere_cons_separator hb, splitWhere_cons_separator hb, ih]; rfl
    | false =>
      obtain ⟨piece, pieces, h⟩ := List.exists_cons_of_ne_nil (splitWhere_ne_nil p before)
      rw [h] at ih
      rw [List.cons_append, splitWhere_cons_other hb ih, splitWhere_cons_other hb h]
      rfl

/-- **The characters of the pieces** are those of the text that separate nothing. -/
theorem exists_mem_splitWhere_iff {cs : List Char} {c : Char} :
    (∃ piece ∈ splitWhere p cs, c ∈ piece) ↔ c ∈ cs ∧ p c = false := by
  induction cs with
  | nil => simp [splitWhere]
  | cons a cs ih =>
    obtain ⟨first, others, hs⟩ := List.exists_cons_of_ne_nil (splitWhere_ne_nil p cs)
    rw [hs] at ih
    cases ha : p a with
    | true =>
      have other : p c = false → c ≠ a := by
        rintro hc rfl
        rw [hc] at ha
        cases ha
      rw [splitWhere_cons_separator ha, hs]
      simp only [List.mem_cons, exists_eq_or_imp, List.not_mem_nil, false_or] at ih ⊢
      rw [ih]
      exact and_congr_left fun hc => (or_iff_right (other hc)).symm
    | false =>
      have own : c = a → p c = false := by
        rintro rfl
        exact ha
      rw [splitWhere_cons_other ha hs]
      simp only [List.mem_cons, exists_eq_or_imp] at ih ⊢
      rw [or_assoc, ih, or_and_right, and_iff_left_of_imp own]

theorem not_separator_of_mem_splitWhere {cs piece : List Char} (h : piece ∈ splitWhere p cs) :
    ∀ c ∈ piece, p c = false :=
  fun _ hc => (exists_mem_splitWhere_iff.mp ⟨piece, h, hc⟩).2

/-- Joining pieces without separators and cutting again gives the pieces. -/
theorem splitWhere_intercalate {c : Char} (hc : p c = true) {first : List Char}
    {others : List (List Char)} (h : ∀ piece ∈ first :: others, ∀ x ∈ piece, p x = false) :
    splitWhere p ([c].intercalate (first :: others)) = first :: others := by
  induction others generalizing first with
  | nil =>
    rw [List.intercalate_singleton]
    exact splitWhere_of_forall (h first List.mem_cons_self)
  | cons second others ih =>
    rw [List.intercalate_cons_cons, List.append_assoc, List.singleton_append,
      splitWhere_append_separator hc, splitWhere_of_forall (h first List.mem_cons_self),
      ih fun piece hp => h piece (List.mem_cons_of_mem first hp)]
    rfl

theorem dropStart?_append [DecidableEq α] (start rest : List α) :
    dropStart? start (start ++ rest) = some rest := by
  induction start with
  | nil => rfl
  | cons a start ih => rw [List.cons_append, dropStart?, if_pos rfl, ih]

end ApiStubs.Text
