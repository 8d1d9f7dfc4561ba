import ApiStubs.Proofs.Confinement

/-!
# A writer that fails

A run ends at the first write that fails. What it has done until then is what it does with a writer
that never fails, up to that write: nothing is undone, nothing is tried again, and what could not be
written is not announced. The policy may look at the files that are there, so this is a statement
about two runs whose worlds have to be kept equal from one block to the next.

The failing writer is a writer with an allowance (`Writer.limited`): it writes like another one as
often as the allowance says, and after that it refuses every path.

## What is proved

* `Block.limited_of_le`, `Block.limited_of_lt`: one artifact with an allowance that is enough for
  it, and with one that is not.
* `Blocks.limited_of_le`, `Blocks.limited_of_lt`: the same along a run. The second one says where
  the run is cut.
* `run_limited`: the run with the failing writer is a prefix of the other one.
-/

namespace ApiStubs

variable {σ : Type}

/-! ### What is written -/

/-- The file that a call has written. -/
def Call.write? : Call → Option (Path × String)
  | .wrote p text => some (p, text)
  | _ => none

/-- The files that some calls have written, in order. -/
def writesOf (calls : List Call) : List (Path × String) := calls.filterMap Call.write?

@[simp] theorem writesOf_nil : writesOf [] = [] := rfl

@[simp] theorem writesOf_append (calls₁ calls₂ : List Call) :
    writesOf (calls₁ ++ calls₂) = writesOf calls₁ ++ writesOf calls₂ := List.filterMap_append

@[simp] theorem writesOf_asked (p : Path) (answer : Bool) (calls : List Call) :
    writesOf (.asked p answer :: calls) = writesOf calls := rfl

@[simp] theorem writesOf_rendered (key : String) (json : Json) (calls : List Call) :
    writesOf (.rendered key json :: calls) = writesOf calls := rfl

@[simp] theorem writesOf_wrote (p : Path) (text : String) (calls : List Call) :
    writesOf (.wrote p text :: calls) = (p, text) :: writesOf calls := rfl

/-- Announcements write nothing. -/
theorem Artifact.HasNews.writesOf_news {a : Artifact} (h : a.HasNews) : writesOf a.news = [] := by
  refine List.filterMap_eq_nil_iff.mpr ?_
  intro call hc
  obtain ⟨name, event, rfl⟩ := h call hc
  rfl

namespace Writer

/-- Every write ends well. -/
def NeverFails (writer : Writer σ) : Prop := ∀ w p text, (writer w p text).1 = .ok ()

theorem NeverFails.not_error {writer : Writer σ} {w w' : σ} {p : Path} {text : String} {e : Error}
    {lines : List LogLine} (never : writer.NeverFails) :
    writer w p text ≠ (.error e, w', lines) := by
  intro h
  have ok := never w p text
  rw [h] at ok
  cases ok

/-- The world after some writes. -/
def after (writer : Writer σ) (w : σ) (writes : List (Path × String)) : σ :=
  writes.foldl (fun v x => (writer v x.1 x.2).2.1) w

@[simp] theorem after_nil (writer : Writer σ) (w : σ) : writer.after w [] = w := rfl

@[simp] theorem after_cons (writer : Writer σ) (w : σ) (p : Path) (text : String)
    (writes : List (Path × String)) :
    writer.after w ((p, text) :: writes) = writer.after (writer w p text).2.1 writes := rfl

theorem after_append (writer : Writer σ) (w : σ) (writes₁ writes₂ : List (Path × String)) :
    writer.after w (writes₁ ++ writes₂) = writer.after (writer.after w writes₁) writes₂ :=
  List.foldl_append

/-- With an allowance that is left, a write goes as before and takes one off. -/
theorem limited_succ {writer : Writer σ} {w w' : σ} {p : Path} {text : String}
    {lines : List LogLine} (fault : Path → Error) (written : writer w p text = (.ok (), w', lines))
    (n : Nat) :
    writer.limited fault (w, n + 1) p text = (.ok (), (w', n), lines) := by
  simp only [limited, written]

end Writer

/-! ### Collaborators with an allowance -/

/-- The collaborators, with a writer that fails after some writes. The others do not see the
allowance. -/
def Collaborators.limited (c : Collaborators σ) (fault : Path → Error) :
    Collaborators (σ × Nat) where
  renderer := fun v => c.renderer v.1
  policy := fun v => c.policy v.1
  writer := c.writer.limited fault
  extension := c.extension

/-- The generators, with a writer that fails after some writes. -/
def Codegen.limited (g : Codegen σ) (fault : Path → Error) : Codegen (σ × Nat) where
  collaborators := g.collaborators.limited fault
  namespacing := g.namespacing
  properties := g.properties
  listener := g.listener

/-- The state with an allowance. -/
def RunState.allowing (s : RunState σ) (n : Nat) : RunState (σ × Nat) where
  world := (s.world, n)
  calls := s.calls
  log := s.log

variable {c : Collaborators σ} {a : Artifact} {artifacts : List Artifact} {w w' : σ}
  {calls : List Call} {o : Outcome} {outcomes : List Outcome} {n : Nat}

namespace Block

/-- A failure to write is the only way in which a block changes the world without saying so. -/
theorem after_writes (never : c.writer.NeverFails) (news : a.HasNews)
    (block : Block c a w calls o w') :
    w' = c.writer.after w (writesOf calls) := by
  cases block with
  | leftAlone => rfl
  | unprepared => rfl
  | unrendered => rfl
  | unwritten _ _ _ written => exact absurd written never.not_error
  | made _ _ _ written => simp [news.writesOf_news, written]

/-- A block that the allowance is enough for. -/
theorem limited_of_le (never : c.writer.NeverFails) (news : a.HasNews) (fault : Path → Error)
    (block : Block c a w calls o w') (enough : (writesOf calls).length ≤ n) :
    Block (c.limited fault) a (w, n) calls o (w', n - (writesOf calls).length) := by
  cases block with
  | leftAlone asked => exact .leftAlone asked
  | unprepared asked payload => exact .unprepared asked payload
  | unrendered asked payload rendered => exact .unrendered asked payload rendered
  | unwritten _ _ _ written => exact absurd written never.not_error
  | made asked payload rendered written =>
    have one : ∀ json text, (writesOf ([Call.asked a.target false, .rendered a.key json, .wrote a.target text]
        ++ a.news)).length = 1 := by
      intro json text
      simp [news.writesOf_news]
    rw [one] at enough ⊢
    obtain ⟨m, rfl⟩ : ∃ m, n = m + 1 := ⟨n - 1, by omega⟩
    exact .made asked payload rendered (Writer.limited_succ fault written m)

/-- A block that needs a write when nothing is left of the allowance ends after the rendering. -/
theorem limited_of_lt (news : a.HasNews) (fault : Path → Error) (block : Block c a w calls o w')
    (short : n < (writesOf calls).length) :
    n = 0 ∧ ∃ json text, calls = [Call.asked a.target false, .rendered a.key json]
        ++ Call.wrote a.target text :: a.news ∧
      Block (c.limited fault) a (w, 0) [Call.asked a.target false, .rendered a.key json]
        (.failed (fault a.target)) (w, 0) := by
  cases block with
  | leftAlone => simp at short
  | unprepared => simp at short
  | unrendered => simp at short
  | unwritten => simp at short
  | made asked payload rendered =>
    refine ⟨?_, _, _, rfl, .unwritten asked payload rendered rfl⟩
    simp [news.writesOf_news] at short
    exact short

end Block

namespace Blocks

variable (never : c.writer.NeverFails) (news : ∀ a ∈ artifacts, a.HasNews) (fault : Path → Error)
include never news

/-- The world is what the writes on the list of calls have made of it. -/
theorem after_writes (blocks : Blocks c artifacts w calls outcomes w') :
    w' = c.writer.after w (writesOf calls) := by
  induction blocks with
  | nil => rfl
  | fail block => exact block.after_writes never (news _ List.mem_cons_self)
  | cons block _ _ ih =>
    rw [writesOf_append, Writer.after_append, ← block.after_writes never (news _ List.mem_cons_self)]
    exact ih fun a ha => news a (List.mem_cons_of_mem _ ha)

/-- **A run that the allowance is enough for** is not changed by it. -/
theorem limited_of_le (blocks : Blocks c artifacts w calls outcomes w')
    (enough : (writesOf calls).length ≤ n) :
    Blocks (c.limited fault) artifacts (w, n) calls outcomes (w', n - (writesOf calls).length) := by
  induction blocks generalizing n with
  | nil => exact .nil
  | fail block => exact .fail (block.limited_of_le never (news _ List.mem_cons_self) fault enough)
  | cons block complete _ ih =>
    rw [writesOf_append, List.length_append] at enough ⊢
    have first := block.limited_of_le never (news _ List.mem_cons_self) fault (n := n) (by omega)
    have rest := ih (fun a ha => news a (List.mem_cons_of_mem _ ha)) (Nat.le_sub_of_add_le' enough)
    rw [Nat.sub_sub] at rest
    exact .cons first complete rest

/-- **A run that the allowance is not enough for** is cut just before the first write that it does
not cover: it ends in the failure of the writer, right after the rendering of that artifact. -/
theorem limited_of_lt (blocks : Blocks c artifacts w calls outcomes w')
    (short : n < (writesOf calls).length) :
    ∃ earlier p key json text later outcomes',
      calls = earlier ++ [Call.asked p false, .rendered key json] ++ Call.wrote p text :: later ∧
      (writesOf earlier).length = n ∧
      Blocks (c.limited fault) artifacts (w, n) (earlier ++ [Call.asked p false, .rendered key json]) outcomes'
        (c.writer.after w (writesOf earlier), 0) ∧
      outcomesResult outcomes' () = .error (fault p) := by
  induction blocks generalizing n with
  | nil => simp at short
  | fail block => cases block <;> simp at short
  | @cons a rest w w₁ w₂ calls₁ calls₂ o outcomes block complete tail ih =>
    have here : a.HasNews := news a List.mem_cons_self
    by_cases cut : n < (writesOf calls₁).length
    · -- the first artifact is the one that cannot be written
      obtain ⟨rfl, json, text, rfl, failed⟩ := block.limited_of_lt here fault cut
      refine ⟨[], a.target, a.key, json, text, a.news ++ calls₂, _, ?_, rfl, .fail failed, rfl⟩
      simp
    · rw [writesOf_append, List.length_append] at short
      obtain ⟨earlier, p, key, json, text, later, outcomes', rfl, count, others, failed⟩ :=
        ih (fun b hb => news b (List.mem_cons_of_mem _ hb)) (n := n - (writesOf calls₁).length) (by omega)
      have first := block.limited_of_le never here fault (n := n) (by omega)
      refine ⟨calls₁ ++ earlier, p, key, json, text, later, o :: outcomes', ?_, ?_, ?_, ?_⟩
      · simp only [List.append_assoc]
      · rw [writesOf_append, List.length_append, count]
        omega
      · rw [writesOf_append, Writer.after_append, ← block.after_writes never here,
          List.append_assoc]
        exact .cons first complete others
      · rw [outcomesResult_cons complete, failed]

end Blocks

namespace Codegen

/-- **A failing write costs no more than the end of the run.** Let a run with a writer that never
fails make some calls, and let a second one start from the same world with a writer that fails every
write after `n` of them. If the first run makes no more than `n` writes, the second one makes the
same calls, ends in the same and leaves the same world. If it makes more, the second one ends in the
failure of the write after the first `n`: its calls are those of the first run up to that write, the
last of them being the rendering of the artifact that could not be written, so that this artifact is
not announced; and the world is what the first `n` writes have made of it. -/
theorem run_limited (g : Codegen σ) (never : g.collaborators.writer.NeverFails)
    (fault : Path → Error) (d : Document) (base : String) (output config : Path) (s : RunState σ)
    (n : Nat) :
    ∃ calls, ((g.run d base output config).start s).2.calls = s.calls ++ calls ∧
      ((g.run d base output config).start s).2.world = g.collaborators.writer.after s.world (writesOf calls) ∧
      ((writesOf calls).length ≤ n →
        (((g.limited fault).run d base output config).start (s.allowing n)).1
          = ((g.run d base output config).start s).1 ∧
        (((g.limited fault).run d base output config).start (s.allowing n)).2.calls = s.calls ++ calls ∧
        (((g.limited fault).run d base output config).start (s.allowing n)).2.world
          = (((g.run d base output config).start s).2.world, n - (writesOf calls).length)) ∧
      (n < (writesOf calls).length → ∃ earlier p key json text later,
        calls = earlier ++ [Call.asked p false, .rendered key json] ++ Call.wrote p text :: later ∧
        (writesOf earlier).length = n ∧
        (((g.limited fault).run d base output config).start (s.allowing n)).1 = .error (fault p) ∧
        (((g.limited fault).run d base output config).start (s.allowing n)).2.calls
          = s.calls ++ (earlier ++ [Call.asked p false, .rendered key json]) ∧
        (((g.limited fault).run d base output config).start (s.allowing n)).2.world
          = (g.collaborators.writer.after s.world ((writesOf calls).take n), 0)) := by
  have news : ∀ a ∈ g.artifacts d base output config, a.HasNews := fun a ha => hasNews_of_mem ha
  obtain ⟨calls, outcomes, ends, hc, blocks⟩ := g.run_ends d base output config s
  obtain ⟨calls', outcomes', ends', hc', blocks'⟩ :=
    (g.limited fault).run_ends d base output config (s.allowing n)
  refine ⟨calls, hc, blocks.after_writes never news, ?_, ?_⟩
  · intro enough
    obtain ⟨rfl, rfl, world⟩ := (blocks.limited_of_le never news fault enough).det blocks'
    exact ⟨ends'.trans ends.symm, hc', world.symm⟩
  · intro short
    obtain ⟨earlier, p, key, json, text, later, outcomes'', rfl, count, cut, failed⟩ :=
      blocks.limited_of_lt never news fault short
    obtain ⟨rfl, rfl, world⟩ := cut.det blocks'
    refine ⟨earlier, p, key, json, text, later, rfl, count, ?_, hc', ?_⟩
    · rw [ends', outcomesResult_eq_map, failed]
      rfl
    · have first : (writesOf (earlier ++ [Call.asked p false, .rendered key json]
          ++ Call.wrote p text :: later)).take n
          = writesOf earlier := by
        simp [← count]
      rw [first]
      exact world.symm

end Codegen

/-! ### A shelf with room for one file -/

/-- Puts every file on a shelf. -/
def Writer.shelf : Writer (List (Path × String)) := fun w p text => (.ok (), w ++ [(p, text)], [])

/-- Generators that put their files on a shelf. -/
def shelving : Codegen (List (Path × String)) where
  collaborators := {
    renderer := fun _ key _ => (.ok key, [])
    policy := fun _ _ => false
    writer := Writer.shelf
    extension := "php" }
  namespacing := ⟨"\\"⟩
  properties := fun _ _ => pure []

/-- The shelf is full. -/
def shelfIsFull (p : Path) : Error := .file .permissionDenied (some ("cannot write " ++ p.text))

/-- The document of an outsider needs room for three files. With room for one, the hydrator is
rendered but neither written nor announced, and the handler is on the shelf. -/
theorem outsiders_limited :
    Writer.shelf.NeverFails ∧
    ∃ calls, ((shelving.run outsiders "App" ⟨"out"⟩ ⟨"out/config"⟩).start { world := [] }).2.calls = [] ++ calls ∧
      1 < (writesOf calls).length ∧
      (((shelving.limited shelfIsFull).run outsiders "App" ⟨"out"⟩ ⟨"out/config"⟩).start
        (RunState.allowing { world := [] } 1)).2.world = (Writer.shelf.after [] ((writesOf calls).take 1), 0) ∧
      (((shelving.limited shelfIsFull).run outsiders "App" ⟨"out"⟩ ⟨"out/config"⟩).start
        (RunState.allowing { world := [] } 1)).2.world = ([(⟨"out/Handler/XHandler.php"⟩, "handler")], 0) := by
  have never : Writer.shelf.NeverFails := fun _ _ _ => rfl
  obtain ⟨calls, hc, -, -, short⟩ := shelving.run_limited never shelfIsFull outsiders "App" ⟨"out"⟩
    ⟨"out/config"⟩ { world := [] } 1
  have more : 1 < (writesOf calls).length := by
    rw [List.nil_append] at hc
    rw [← hc]
    decide +kernel
  obtain ⟨earlier, p, key, json, text, later, -, -, -, -, left⟩ := short more
  exact ⟨never, calls, hc, more, left, by decide +kernel⟩

end ApiStubs
