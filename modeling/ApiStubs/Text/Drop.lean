/-!
# Known beginnings

Taking a given beginning off a list.
-/

namespace ApiStubs.Text

/-- The rest of a list after the items it has to start with. -/
def dropStart? [DecidableEq α] : List α → List α → Option (List α)
  | [], cs => some cs
  | _ :: _, [] => none
  | p :: ps, c :: cs => if p = c then dropStart? ps cs else none

/-- A list is the beginning that was taken off, and the rest. -/
theorem eq_append_of_dropStart? [DecidableEq α] {start cs rest : List α}
    (h : dropStart? start cs = some rest) : cs = start ++ rest := by
  induction start generalizing cs with
  | nil => simpa [dropStart?] using h
  | cons p ps ih =>
    cases cs with
    | nil => simp [dropStart?] at h
    | cons c cs =>
      by_cases hpc : p = c
      · simp only [dropStart?, hpc, if_true] at h
        rw [ih h, hpc, List.cons_append]
      · simp [dropStart?, hpc] at h

end ApiStubs.Text
