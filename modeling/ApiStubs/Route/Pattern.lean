import ApiStubs.Text.Drop

/-!
# Route patterns

A path of a document marks its parameters as `{name}`; a route marks them as `:name`.
Only the names of known parameters are marked, one name after the other.
-/

namespace ApiStubs

/-- Every place where the name stands in braces, with a colon in front instead. The text after
a replaced place is looked at next, so places do not overlap. -/
def replacePlaceholder (name : List Char) : List Char → List Char
  | [] => []
  | c :: cs =>
    if c = '\x7b' then
      match _h : Text.dropStart? (name ++ ['\x7d']) cs with
      | some rest => ':' :: name ++ replacePlaceholder name rest
      | none => c :: replacePlaceholder name cs
    else c :: replacePlaceholder name cs
termination_by cs => cs.length
decreasing_by
  · have := congrArg List.length (Text.eq_append_of_dropStart? _h)
    simp at this ⊢
    omega
  · simp
  · simp

theorem replacePlaceholder_nil (name : List Char) : replacePlaceholder name [] = [] := by
  rw [replacePlaceholder]

/-- A character that opens no brace stays. -/
theorem replacePlaceholder_other (name : List Char) {c : Char} (hc : c ≠ '\x7b') (cs : List Char) :
    replacePlaceholder name (c :: cs) = c :: replacePlaceholder name cs := by
  rw [replacePlaceholder, if_neg hc]

/-- Where the name stands in braces, it is marked. -/
theorem replacePlaceholder_found {name cs rest : List Char}
    (h : Text.dropStart? (name ++ ['\x7d']) cs = some rest) :
    replacePlaceholder name ('\x7b' :: cs) = ':' :: name ++ replacePlaceholder name rest := by
  rw [replacePlaceholder, if_pos rfl]
  split
  · next rest' h' =>
    obtain rfl := Option.some.inj (h.symm.trans h')
    rfl
  · next h' =>
    rw [h] at h'
    cases h'

/-- Where something else stands behind a brace, the brace stays. -/
theorem replacePlaceholder_open {name cs : List Char}
    (h : Text.dropStart? (name ++ ['\x7d']) cs = none) :
    replacePlaceholder name ('\x7b' :: cs) = '\x7b' :: replacePlaceholder name cs := by
  rw [replacePlaceholder, if_pos rfl]
  split
  · next h' =>
    rw [h] at h'
    cases h'
  · rfl

/-- The route of a path whose parameters have these names. -/
def markParameters (path : String) (names : List String) : String :=
  String.ofList (names.foldl (fun cs name => replacePlaceholder name.toList cs) path.toList)

end ApiStubs
