import ApiStubs.Proofs.Capitals
import ApiStubs.Proofs.NameSegments

/-!
# Names that are their own names

A name is canonical when it is made of alphanumeric characters and when the name that is made from
it is the name itself. Both can fail for one reason: a segment starts with a letter whose upper-case
form has a combining mark in it, and the mark separates segments.

A name starts with a character that is its own upper-case form. So a name that is one segment is its
own name. A name with a separator in it is not: the text in front of the separator stays, and then
something follows that can start with no separator.

## What is proved

* `forall_isAlphanumeric_modelName_iff`: which texts have names without separators.
* `modelName_modelName_iff`: these are the names that are their own names.
* `canonical_iff`: both together.
* `caron_is_not_canonical`: a name that is not canonical.
-/

namespace ApiStubs

/-- No segment of the text starts with a marked letter. -/
def StartsPlainly (raw : String) : Prop :=
  ∀ segment ∈ segments raw.toList, ∀ c ∈ segment.head?, c.toNat ∉ Text.markedLetters

variable {raw : String} {segment : List Char}

/-! ### The characters of a name -/

/-- The capital in front of a segment brings no separator unless the segment starts with a marked
letter. -/
theorem forall_isAlphanumeric_capitalize_iff
    (inside : ∀ c ∈ segment, Text.isAlphanumeric c = true) :
    (∀ x ∈ Text.capitalize segment, Text.isAlphanumeric x = true) ↔
      ∀ c ∈ segment.head?, c.toNat ∉ Text.markedLetters := by
  cases segment with
  | nil => simp [Text.capitalize]
  | cons c cs =>
    rw [List.forall_mem_cons] at inside
    have first := Text.mem_markedLetters_iff inside.1
    rw [Text.capitalize, List.forall_mem_append, and_iff_left inside.2]
    simp [first]

/-- **The characters of a name** are alphanumeric if no segment starts with a marked letter. -/
theorem forall_isAlphanumeric_modelName_iff :
    (∀ c ∈ (modelName raw).toList, Text.isAlphanumeric c = true) ↔ StartsPlainly raw := by
  have each : (∀ c ∈ (modelName raw).toList, Text.isAlphanumeric c = true) ↔
      ∀ segment ∈ segments raw.toList, ∀ x ∈ Text.capitalize segment, Text.isAlphanumeric x = true := by
    rw [modelName, String.toList_ofList, List.forall_mem_flatMap]
  rw [each]
  exact forall₂_congr fun segment h => forall_isAlphanumeric_capitalize_iff (isAlphanumeric_of_mem_segment h)

theorem toList_modelName (raw : String) :
    (modelName raw).toList = (segments raw.toList).flatMap Text.capitalize := by
  rw [modelName, String.toList_ofList]

/-- A name starts with an alphanumeric character that is its own upper-case form. -/
theorem head_modelName {x : Char} {rest : List Char} (h : (modelName raw).toList = x :: rest) :
    Text.upperChar x = [x] ∧ Text.isAlphanumeric x = true := by
  rw [toList_modelName] at h
  cases found : segments raw.toList with
  | nil =>
    rw [found] at h
    cases h
  | cons segment others =>
    have first : segment ∈ segments raw.toList := found ▸ List.mem_cons_self
    obtain ⟨c, cs, rfl⟩ := List.exists_cons_of_ne_nil (ne_nil_of_mem_segments first)
    obtain ⟨y, marks, upper, self, inside⟩ := Text.exists_upperChar c
    rw [found, List.flatMap_cons, Text.capitalize, upper, List.cons_append, List.cons_append] at h
    obtain ⟨rfl, -⟩ := List.cons.inj h
    exact ⟨self, inside (isAlphanumeric_of_mem_segment first c List.mem_cons_self)⟩

/-! ### Names of names -/

/-- A text that starts with its own upper-case form and has no separator is its own name. -/
theorem modelName_of_alphanumeric {x : Char} {rest : List Char} (self : Text.upperChar x = [x])
    (inside : ∀ c ∈ x :: rest, Text.isAlphanumeric c = true) (h : raw.toList = x :: rest) :
    modelName raw = raw := by
  rw [← String.toList_inj, toList_modelName, h, segments_of_alphanumeric inside (List.cons_ne_nil x rest)]
  simp [Text.capitalize, self]

/-- A text that is its own name and starts with an alphanumeric character has no separator: what
stands behind the first segment would be a name, and start with one. -/
theorem forall_isAlphanumeric_of_modelName_eq {x : Char} {rest : List Char}
    (self : Text.upperChar x = [x]) (hx : Text.isAlphanumeric x = true) (h : raw.toList = x :: rest)
    (same : modelName raw = raw) :
    ∀ c ∈ raw.toList, Text.isAlphanumeric c = true := by
  have has := segmented_segments raw.toList
  rw [h] at has ⊢
  obtain ⟨segment, behind, others, rfl, found, inside, ends, hasOthers⟩ := has.exists_first hx
  have name : behind = (modelName (String.ofList behind)).toList := by
    rw [← String.toList_inj, toList_modelName, h, found, List.flatMap_cons, Text.capitalize, self,
      List.singleton_append, List.cons_append, List.cons_inj_right] at same
    rw [toList_modelName, String.toList_ofList, hasOthers.segments_eq]
    exact (List.append_cancel_left same).symm
  cases behind with
  | nil => rwa [List.append_nil]
  | cons y behind =>
    have start := (head_modelName name.symm).2
    rw [ends y rfl] at start
    cases start

/-- **A name is its own name** if there is no separator in it. -/
theorem modelName_modelName_iff :
    modelName (modelName raw) = modelName raw ↔
      ∀ c ∈ (modelName raw).toList, Text.isAlphanumeric c = true := by
  cases h : (modelName raw).toList with
  | nil =>
    have empty : modelName raw = "" := String.toList_inj.mp h
    rw [empty]
    exact ⟨fun _ c hc => (nomatch hc), fun _ => rfl⟩
  | cons x rest =>
    obtain ⟨self, hx⟩ := head_modelName h
    rw [← h]
    exact ⟨forall_isAlphanumeric_of_modelName_eq self hx h,
      fun inside => modelName_of_alphanumeric self (h ▸ inside) h⟩

/-- **Which names are canonical.** A name has alphanumeric characters only, and is its own name, if
no segment of the text that it is made from starts with a marked letter. If one does, neither
holds. -/
theorem canonical_iff (raw : String) :
    ((∀ c ∈ (modelName raw).toList, Text.isAlphanumeric c = true) ↔ StartsPlainly raw) ∧
    (modelName (modelName raw) = modelName raw ↔ StartsPlainly raw) :=
  ⟨forall_isAlphanumeric_modelName_iff, modelName_modelName_iff.trans forall_isAlphanumeric_modelName_iff⟩

/-- There is no capital j with a caron: the name is a J with a combining caron behind it, and the
name of that is a J alone. -/
theorem caron_is_not_canonical :
    modelName "\u01f0" = "J\u030c" ∧ Text.isAlphanumeric '\u030c' = false ∧
    modelName (modelName "\u01f0") = "J" ∧ modelName (modelName "\u01f0") ≠ modelName "\u01f0" := by
  decide +kernel

end ApiStubs
