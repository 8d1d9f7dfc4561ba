import ApiStubs.Proofs.DottedPaths
import ApiStubs.Proofs.SlashCounts

/-!
# An output directory with a dot in front

The same output directory may be spelled with `./` in front. The files there are the same, and so is
what is kept because it is there already (`keeps_dotted_iff`). Patterns are another matter. They see
a path from the directory of the ignore file if the path lies below it, and as a whole if not; and
whether it does is a question of components, of which the dot is one. So with a dot in front a path
is seen as a whole, dot included, or it is seen from the directory of the ignore file where it was
seen as a whole before: either way with another number of components than without the dot
(`seenFrom_lengths`), which is enough for some pattern to match one of them and not the other.

Two spellings of the directory of the ignore file, or of the output directory, are the exception. If
the ignore file lies in `.`, as `./rules` does and `rules` does not, it takes off the dot and
nothing else. And if the output directory had a dot in front before, it has no other components with
another one.

## What is proved

* `rulesWith`, `ignoreRules_of_readText`: the rules of a configuration that names an ignore file.
* `seenFrom_lengths`: from where a path is seen with a dot in front and without.
* `exists_telling_content`: an ignore file that tells the two from each other.
* `dotted_agrees_iff`: when the rules leave alone the same files with both spellings.
-/

namespace ApiStubs

/-! ### What patterns see -/

namespace Path

/-- Components seen from a root: those below it, and all of them elsewhere. -/
def seenFrom (root cs : List Component) : List Component := (Text.dropStart? root cs).getD cs

variable {p : Path} {root cs : List Component}

theorem length_seenFrom_le : (seenFrom root cs).length ≤ cs.length := by
  unfold seenFrom
  cases dropped : Text.dropStart? root cs with
  | none => exact Nat.le_refl _
  | some rest =>
    rw [Text.eq_append_of_dropStart? dropped, Option.getD_some, List.length_append]
    exact Nat.le_add_left _ _

theorem mem_of_mem_seenFrom {c : Component} (h : c ∈ seenFrom root cs) : c ∈ cs := by
  unfold seenFrom at h
  cases dropped : Text.dropStart? root cs with
  | none => rwa [dropped] at h
  | some rest =>
    rw [dropped] at h
    rw [Text.eq_append_of_dropStart? dropped]
    exact List.mem_append_right _ h

/-- From elsewhere, all components are seen. -/
theorem seenFrom_of_head_ne {c : Component} (other : cs.head? ≠ some c) :
    seenFrom (c :: root) cs = cs := by
  cases cs with
  | nil => rfl
  | cons d cs =>
    have ne : c ≠ d := fun same => other (congrArg some same.symm)
    rw [seenFrom, Text.dropStart?, if_neg ne, Option.getD_none]

/-- From the dot, a dot in front is not seen. -/
theorem seenFrom_here (plain : cs.head? ≠ some .here) :
    seenFrom [.here] (.here :: cs) = seenFrom [.here] cs := by
  rw [seenFrom_of_head_ne plain]
  rfl

/-- **A dot in front is seen**, from everywhere but the dot: either it is there with everything
behind it, or it leads below the root, and everything is there without it. -/
theorem seenFrom_lengths (plain : cs.head? ≠ some .here) (other : root ≠ [.here]) :
    (seenFrom root cs).length ≤ cs.length ∧ (seenFrom root (.here :: cs)).length = cs.length + 1 ∨
    (seenFrom root cs).length = cs.length ∧ (seenFrom root (.here :: cs)).length < cs.length := by
  cases root with
  | nil => exact .inl ⟨length_seenFrom_le, rfl⟩
  | cons first root =>
    by_cases dot : first = .here
    · subst dot
      have dropped : seenFrom (.here :: root) (.here :: cs)
          = (Text.dropStart? root cs).getD (.here :: cs) := by
        rw [seenFrom, Text.dropStart?, if_pos rfl]
      rw [dropped]
      cases h : Text.dropStart? root cs with
      | none => exact .inl ⟨length_seenFrom_le, rfl⟩
      | some rest =>
        right
        rw [seenFrom_of_head_ne plain, Text.eq_append_of_dropStart? h, Option.getD_some,
          List.length_append]
        have more : root ≠ [] := fun none => other (by rw [none])
        exact ⟨rfl, Nat.lt_add_of_pos_left (List.length_pos_of_ne_nil more)⟩
    · have ne : (Component.here :: cs).head? ≠ some first :=
        fun same => dot (Option.some.inj same).symm
      exact .inl ⟨length_seenFrom_le, by rw [seenFrom_of_head_ne ne, List.length_cons]⟩

/-! ### Components of relative paths -/

theorem here_not_mem_stepComponents : Component.here ∉ p.stepComponents := by
  intro h
  obtain ⟨piece, -, same⟩ := List.mem_map.mp h
  unfold stepComponent at same
  split at same <;> cases same

/-- In front of a relative path there is a dot or nothing. -/
theorem frontComponent_of_relative (relative : p.isAbsolute = false) :
    p.frontComponent = [.here] ∨ p.frontComponent = [] := by
  rw [frontComponent, relative, if_neg Bool.false_ne_true]
  split
  · exact .inl rfl
  · exact .inr rfl

/-- No component of a relative path has a slash. -/
theorem slash_not_mem_component (relative : p.isAbsolute = false) {c : Component}
    (h : c ∈ p.components) :
    '/' ∉ c.text.toList := by
  rw [components_eq, List.mem_append] at h
  rcases h with h | h
  · rcases frontComponent_of_relative relative with front | front
    · rw [front, List.mem_singleton] at h
      subst h
      decide
    · rw [front] at h
      cases h
  · obtain ⟨piece, hp, rfl⟩ := List.mem_map.mp h
    have free : '/' ∉ piece := fun slash => by
      have other := Text.not_separator_of_mem_splitWhere (List.mem_filter.mp hp).1 _ slash
      simp at other
    unfold stepComponent
    split
    · decide
    · rwa [Component.text, String.toList_ofList]

/-- The directories of handlers and hydrators get the dot that the output directory gets. -/
theorem isStubOf_dotted_iff {output : Path} (front : p.frontComponent = output.frontComponent) :
    output.dotted.IsStubOf p.dotted ↔ output.IsStubOf p := by
  rw [IsStubOf, IsStubOf, dotted_child _ isName_handlerDir, dotted_child _ isName_hydratorDir,
    isBelow_dotted (front.trans (child_frontComponent _ isName_handlerDir).symm),
    isBelow_dotted (front.trans (child_frontComponent _ isName_hydratorDir).symm)]

end Path

namespace IgnoreRules

open ApiStubs.Path

variable {r : IgnoreRules} {p : Path}

@[simp] theorem root_ofContent (root : Path) (content : String) :
    (ofContent root content).root = root := by
  rw [ofContent_eq]

theorem relative_eq :
    r.relative p = "/".intercalate ((seenFrom r.root.components p.components).map Component.text) :=
  rfl

/-- What patterns see has a slash between any two components. -/
theorem count_slash_relative (relative : p.isAbsolute = false) :
    (r.relative p).toList.count '/' = (seenFrom r.root.components p.components).length - 1 := by
  rw [relative_eq, count_slash_intercalate, List.length_map]
  intro name hn
  obtain ⟨c, hc, rfl⟩ := List.mem_map.mp hn
  exact slash_not_mem_component relative (mem_of_mem_seenFrom hc)

/-- Where the dot is seen, an ignore file tells a path from the same path with a dot in front. -/
theorem exists_telling_content {root : Path} (relative : p.isAbsolute = false)
    (plain : p.frontComponent = []) (long : 2 ≤ p.components.length)
    (other : root.components ≠ [.here]) :
    ∃ content, (ofContent root content).matchesPattern p ≠ (ofContent root content).matchesPattern p.dotted := by
  have dotted : p.dotted.components = .here :: p.components := by
    rw [dotted_components, components_eq, plain, List.nil_append]
  have head : p.components.head? ≠ some .here := by
    rw [components_eq, plain, List.nil_append]
    exact fun h => here_not_mem_stepComponents (List.mem_of_mem_head? h)
  -- As many stars as there are components on the side that is seen as a whole.
  have counts : ∀ n q, q.isAbsolute = false →
      ((ofContent root (String.ofList (stars (n + 1)))).matchesPattern q = true ↔
        (seenFrom root.components q.components).length = n + 2) := by
    intro n q hq
    rw [matchesPattern_stars_iff, count_slash_relative hq, root_ofContent]
    omega
  rcases seenFrom_lengths head other with ⟨less, whole⟩ | ⟨whole, less⟩
  · obtain ⟨n, hn⟩ := Nat.exists_eq_add_of_le' (show 1 ≤ p.components.length by omega)
    refine ⟨String.ofList (stars (n + 1)), fun same => ?_⟩
    have matched := (counts n p.dotted p.isAbsolute_dotted).mpr (by rw [dotted, whole, hn])
    have seen := (counts n p relative).mp (same.trans matched)
    omega
  · obtain ⟨n, hn⟩ := Nat.exists_eq_add_of_le' long
    refine ⟨String.ofList (stars (n + 1)), fun same => ?_⟩
    have matched := (counts n p relative).mpr (by rw [whole, hn])
    have seen := (counts n p.dotted p.isAbsolute_dotted).mp (same.symm.trans matched)
    rw [dotted] at seen
    omega

/-- Where the dot is not seen, patterns match both paths or none. -/
theorem matchesPattern_dotted
    (same : p.frontComponent = [.here] ∨ p.frontComponent = [] ∧ r.root.components = [.here]) :
    r.matchesPattern p.dotted = r.matchesPattern p := by
  have seen : r.relative p.dotted = r.relative p := by
    rw [relative_eq, relative_eq, dotted_components, components_eq p]
    rcases same with front | ⟨front, root⟩
    · rw [front, List.singleton_append]
    · have plain : p.stepComponents.head? ≠ some .here := fun h =>
        here_not_mem_stepComponents (List.mem_of_mem_head? h)
      rw [front, root, List.nil_append, seenFrom_here plain]
  rw [matchesPattern, matchesPattern, seen]

end IgnoreRules

/-! ### The rules of both spellings -/

namespace Config

variable {c : Config} {file content : String} {t : FileTree}

/-- The configuration whose output directory is spelled with a dot in front. -/
def dotted (c : Config) : Config := { c with outputDir := "./" ++ c.outputDir }

theorem dotted_output (c : Config) : c.dotted.output = c.output.dotted := rfl

theorem dotted_overwrite (c : Config) : c.dotted.overwrite = c.overwrite := rfl

/-- The rules when the ignore file has this content. -/
def rulesWith (c : Config) (file : Path) (content : String) : IgnoreRules :=
  c.protectStubs (IgnoreRules.ofContent file.parentD content)

theorem patternRules_named (named : c.ignoreFile = some file) :
    c.patternRules t = IgnoreRules.ofFile t ⟨file⟩ := by
  rw [patternRules, named]

/-- The rules of a configuration that names an ignore file. -/
theorem ignoreRules_of_readText (named : c.ignoreFile = some file)
    (read : t.readText ⟨file⟩ = .ok content) :
    ∃ lines, c.ignoreRules t = .ok (c.rulesWith ⟨file⟩ content, lines) := by
  rw [ignoreRules, patternRules_named named, IgnoreRules.ofFile, read, rulesWith, protectStubs]
  cases c.overwrite <;> exact ⟨_, rfl⟩

/-- The ignore file has to be there. -/
theorem ignoreRules_of_fault {fault : FileFault} (named : c.ignoreFile = some file)
    (unread : t.readText ⟨file⟩ = .error fault) : c.ignoreRules t = .error (.file fault none) := by
  rw [ignoreRules, patternRules_named named, IgnoreRules.ofFile, unread]
  rfl

/-- What is there is kept with both spellings. -/
theorem keeps_dotted_iff {p : Path} (relative : p.isAbsolute = false) (ne : p.text.toList ≠ [])
    (front : p.frontComponent = c.output.frontComponent) :
    c.dotted.Keeps t p.dotted ↔ c.Keeps t p := by
  have there : t.holds p.dotted = t.holds p := by
    rw [FileTree.holds, FileTree.holds, FileTree.find_dotted relative ne]
  rw [Keeps, Keeps, there, dotted_overwrite, dotted_output, Path.isStubOf_dotted_iff front]

/-- With one ignore file, both spellings agree on what is kept because it is there, and otherwise if
the patterns match both paths or none. -/
theorem ignores_dotted_iff {root p : Path} (relative : p.isAbsolute = false)
    (ne : p.text.toList ≠ []) (front : p.frontComponent = c.output.frontComponent) :
    (c.dotted.rulesWith root content).ignores t p.dotted = (c.rulesWith root content).ignores t p ↔
      c.Keeps t p ∨ (IgnoreRules.ofContent root.parentD content).matchesPattern p.dotted
        = (IgnoreRules.ofContent root.parentD content).matchesPattern p := by
  have none : (IgnoreRules.ofContent root.parentD content).protectedDirs = [] := by
    rw [IgnoreRules.ofContent_eq]
  rw [Bool.eq_iff_iff, rulesWith, rulesWith, ignores_protectStubs_iff none,
    ignores_protectStubs_iff none, keeps_dotted_iff relative ne front]
  by_cases kept : c.Keeps t p
  · simp only [kept, true_or]
  · simp only [kept, false_or]
    rw [← Bool.eq_iff_iff]

/-- With every ignore file there, both spellings agree on what is kept because it is there, and
otherwise if the dot is not seen. -/
theorem forall_ignores_dotted_iff {root p : Path} (relative : p.isAbsolute = false)
    (long : 2 ≤ p.components.length) (front : p.frontComponent = c.output.frontComponent) :
    (∀ content, (c.dotted.rulesWith root content).ignores t p.dotted = (c.rulesWith root content).ignores t p) ↔
      c.Keeps t p ∨ c.output.frontComponent = [.here] ∨ root.parentD.components = [.here] := by
  have ne : p.text.toList ≠ [] := by
    rintro none
    obtain rfl : p = ⟨""⟩ := congrArg Path.mk (String.toList_eq_nil_iff.mp none)
    exact absurd long (by decide)
  constructor
  · intro agree
    by_contra! none
    obtain ⟨free, undotted, elsewhere⟩ := none
    have plain : p.frontComponent = [] :=
      (Path.frontComponent_of_relative relative).resolve_left (front ▸ undotted)
    obtain ⟨content, tells⟩ := IgnoreRules.exists_telling_content relative plain long elsewhere
    exact tells (((ignores_dotted_iff relative ne front).mp (agree content)).resolve_left free).symm
  · intro h content
    rw [ignores_dotted_iff relative ne front]
    refine h.imp_right fun same => IgnoreRules.matchesPattern_dotted ?_
    rcases same with dotted | here
    · exact .inl (front.trans dotted)
    · refine (Path.frontComponent_of_relative relative).imp_right fun plain => ⟨plain, ?_⟩
      rwa [IgnoreRules.root_ofContent]

/-- **A dot in front of the output directory** changes what is left alone. The rules are those of
the same ignore file, and fail when it cannot be read. But a file in the output directory is left
alone with both spellings or with none, whatever the ignore file says, only if it is kept because it
is there, if there was a dot in front before, or if the ignore file lies in the directory that is
spelled `.`: everywhere else the patterns see the dot. -/
theorem dotted_agrees_iff {dir name : String} (named : c.ignoreFile = some file)
    (relative : c.output.isAbsolute = false) (hd : Path.IsName dir) (hn : Path.IsName name) :
    (∀ t : FileTree,
      (∀ fault, t.readText ⟨file⟩ = .error fault →
        c.ignoreRules t = .error (.file fault none) ∧
          c.dotted.ignoreRules t = .error (.file fault none)) ∧
      ∀ content, t.readText ⟨file⟩ = .ok content →
        ∃ lines lines', c.ignoreRules t = .ok (c.rulesWith ⟨file⟩ content, lines) ∧
          c.dotted.ignoreRules t = .ok (c.dotted.rulesWith ⟨file⟩ content, lines')) ∧
    ∀ t : FileTree,
      (∀ content, (c.dotted.rulesWith ⟨file⟩ content).ignores t ((c.dotted.output.child dir).child name)
        = (c.rulesWith ⟨file⟩ content).ignores t ((c.output.child dir).child name)) ↔
      c.Keeps t ((c.output.child dir).child name) ∨ c.output.frontComponent = [.here] ∨
        (Path.parentD ⟨file⟩).components = [.here] := by
  refine ⟨fun t => ⟨fun fault unread => ?_, fun content read => ?_⟩, fun t => ?_⟩
  · exact ⟨ignoreRules_of_fault named unread, ignoreRules_of_fault (c := c.dotted) named unread⟩
  · obtain ⟨lines, rules⟩ := ignoreRules_of_readText named read
    obtain ⟨lines', rules'⟩ := ignoreRules_of_readText (c := c.dotted) named read
    exact ⟨lines, lines', rules, rules'⟩
  · rw [dotted_output, Path.dotted_child _ hd, Path.dotted_child _ hn]
    refine forall_ignores_dotted_iff ?_ ?_ ?_
    · rw [Path.child_isAbsolute _ hn, Path.child_isAbsolute _ hd, relative]
    · rw [Path.child_components _ hn, Path.child_components _ hd, List.length_append,
        List.length_append]
      exact Nat.le_add_left _ _
    · rw [Path.child_frontComponent _ hn, Path.child_frontComponent _ hd]

end Config

/-! ### An ignore file beside the output directory and one inside -/

/-- A tree with two ignore files that keep one handler. -/
def ruledTree : FileTree where
  entries := [
    (["w"], .directory), (["w", "rules"], .file (.text "out/Handler/PetsHandler.rs")), (["w", "out"], .directory),
    (["w", "out", "rules"], .file (.text "Handler/PetsHandler.rs"))]
  current := ["w"]

/-- A configuration with the ignore file beside the output directory. -/
def rulesBeside : Config := { intoOut with ignoreFile := some "./rules" }

/-- A configuration with the ignore file in the output directory. -/
def rulesInside : Config := { intoOut with ignoreFile := some "out/rules" }

/-- Beside the output directory, it does not matter what the ignore file says. -/
theorem rulesBeside_agree :
    rulesBeside.ignoreFile = some "./rules" ∧ rulesBeside.output.isAbsolute = false ∧
    (∃ lines lines',
      rulesBeside.ignoreRules ruledTree
        = .ok (rulesBeside.rulesWith ⟨"./rules"⟩ "out/Handler/PetsHandler.rs", lines) ∧
      rulesBeside.dotted.ignoreRules ruledTree
        = .ok (rulesBeside.dotted.rulesWith ⟨"./rules"⟩ "out/Handler/PetsHandler.rs", lines')) ∧
    ∀ t content, (rulesBeside.dotted.rulesWith ⟨"./rules"⟩ content).ignores t
        ((rulesBeside.dotted.output.child handlerDir).child "PetsHandler.rs")
      = (rulesBeside.rulesWith ⟨"./rules"⟩ content).ignores t
        ((rulesBeside.output.child handlerDir).child "PetsHandler.rs") := by
  have relative : rulesBeside.output.isAbsolute = false := by decide
  have hn : Path.IsName "PetsHandler.rs" := by constructor <;> decide
  have dot : (Path.parentD ⟨"./rules"⟩).components = [.here] := by decide
  have read : ruledTree.readText ⟨"./rules"⟩ = .ok "out/Handler/PetsHandler.rs" :=
    eq_ok_of_toOption (by decide +kernel)
  obtain ⟨rules, agree⟩ :=
    Config.dotted_agrees_iff (c := rulesBeside) rfl relative isName_handlerDir hn
  exact ⟨rfl, relative, (rules ruledTree).2 _ read, fun t => (agree t).mpr (.inr (.inr dot))⟩

/-- Inside the output directory, it does: the handler that the ignore file names is left alone as
long as the output directory is spelled as the ignore file spells it. -/
theorem rulesInside_differ :
    rulesInside.ignoreFile = some "out/rules" ∧ rulesInside.output = ⟨"out"⟩ ∧
      rulesInside.dotted.output = ⟨"./out"⟩ ∧
    ∃ rules rules' lines lines', rulesInside.ignoreRules ruledTree = .ok (rules, lines) ∧
      rulesInside.dotted.ignoreRules ruledTree = .ok (rules', lines') ∧
      rules.ignores ruledTree ⟨"out/Handler/PetsHandler.rs"⟩ = true ∧
      rules'.ignores ruledTree ⟨"./out/Handler/PetsHandler.rs"⟩ = false := by
  have read : ruledTree.readText ⟨"out/rules"⟩ = .ok "Handler/PetsHandler.rs" :=
    eq_ok_of_toOption (by decide +kernel)
  obtain ⟨lines, rules⟩ := Config.ignoreRules_of_readText (c := rulesInside) rfl read
  obtain ⟨lines', rules'⟩ := Config.ignoreRules_of_readText (c := rulesInside.dotted) rfl read
  exact ⟨rfl, rfl, rfl, _, _, lines, lines', rules, rules', by decide +kernel, by decide +kernel⟩

end ApiStubs
