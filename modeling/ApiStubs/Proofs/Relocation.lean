import ApiStubs.Proofs.HiddenParts
import ApiStubs.Proofs.MovedPaths

/-!
# Runs into another directory

A run into one directory and a run into another, with the same document and the same rules seen from
either, do the same, but for the directory. They make the same artifacts, each at a moved target
(`Artifact.Moves`), and block by block they get the same answers, render the same texts and end
alike.

What may keep them apart is a file that is there in one directory and not in the other, where the
rules keep what is there. In step with each other they are as long as this is the same for what is
still to be made (`Artifact.InStep`): nothing is there before it has been made, and when it has been
made it is there, in both directories. For that the places of the artifacts that are kept have to be
free, and making one must not put a directory where another is to be, which only the way to the
output directory can do (`Artifact.HasRoom`). An artifact that is not kept may be there before in
one directory and not in the other.

A write that fails may fail in one directory alone, so both runs are supposed to have written every
text that they rendered (`WritesAll`).

## What is proved

* `Block.moves`, `Blocks.moves`: one artifact, and all of them.
* `Codegen.run_moves`: a run in two directories.
* `Codegen.hasRoom_of_isNewIn`: a new directory has room.
* `TemplateLibrary.rendersBy`: what is assumed of a renderer holds of a library of templates.
* `Config.ignoreRules_eq_within`: the rules of a configuration without a file of patterns are meant.
-/

namespace ApiStubs

/-! ### Calls -/

/-- The second call is the first one in another directory. -/
inductive Call.Moves (output other : Path) : Call → Call → Prop where
  /-- The policy gives the same answer. -/
  | asked {p q : Path} (moves : Path.Moves output other p q) (answer : Bool) :
      Moves output other (.asked p answer) (.asked q answer)
  /-- The template is given the same. -/
  | rendered (key : String) (payload : Json) :
      Moves output other (.rendered key payload) (.rendered key payload)
  /-- The same text is written. -/
  | wrote {p q : Path} (moves : Path.Moves output other p q) (text : String) :
      Moves output other (.wrote p text) (.wrote q text)
  /-- The same is announced. -/
  | announced (name : String) (event : GeneratedEvent) :
      Moves output other (.announced name event) (.announced name event)

/-- No text that was rendered is left unwritten: the calls do not end when one has been rendered. -/
def WritesAll (render : String → Json → Except Error String) (calls : List Call) : Prop :=
  ∀ key payload text, render key payload = .ok text → calls.getLast? ≠ some (.rendered key payload)

variable {render : String → Json → Except Error String} {output other : Path}

theorem WritesAll.of_append {calls₁ calls₂ : List Call} (h : WritesAll render (calls₁ ++ calls₂)) :
    WritesAll render calls₂ := by
  intro key payload text rendered last
  refine h key payload text rendered ?_
  rw [List.getLast?_append, last]
  rfl

/-! ### Collaborators -/

/-- Writes put the file into the tree, or none changes the tree. -/
def Writer.IsPlain (writer : Writer FileTree) : Prop :=
  writer = Writer.files ∨ ∀ t p text, (writer t p text).2.1 = t

/-- Whatever is added to the tree, and whatever files are at loose places, texts are rendered by
`render`. -/
def Renderer.RendersBy (renderer : Renderer FileTree) (loose : Place → Prop) (t : FileTree)
    (render : String → Json → Except Error String) : Prop :=
  ∀ w, t.StaysBut loose w → ∀ key payload, (renderer w key payload).1 = render key payload

/-- A library looks at files only for the message of a failure, and there at its own templates. -/
theorem TemplateLibrary.rendersBy (l : TemplateLibrary) {loose : Place → Prop} {t : FileTree}
    (there : ∀ location, l.location = some location → ∀ name, (l.find? name).isSome →
      ¬ loose ((location.path.child name).place t.current) ∧
        ∃ s, t.readText (location.path.child name) = .ok s) :
    Renderer.RendersBy (l.renderer id) loose t fun key payload => (l.renderWith t key payload).1 := by
  intro w stays key payload
  change (l.renderWith w key payload).1 = (l.renderWith t key payload).1
  cases found : l.find? (fileName key) with
  | none =>
    unfold renderWith
    simp only [found]
  | some parts =>
    have source : l.sourceText w (fileName key) = l.sourceText t (fileName key) := by
      cases place : l.location with
      | none => simp only [sourceText, place, Option.bind_eq_bind, Option.bind_none]
      | some location =>
        obtain ⟨other, s, read⟩ := there location place _ (by rw [found, Option.isSome_some])
        simp only [sourceText, place, Option.bind_eq_bind, Option.bind_some, read,
          stays.readText other read]
    unfold renderWith
    simp only [source]

/-! ### One artifact -/

/-- The second artifact is the first one in another directory. -/
structure Artifact.Moves (output other : Path) (a b : Artifact) : Prop where
  /-- They have one name. -/
  name : b.name = a.name
  /-- They have one template. -/
  key : b.key = a.key
  /-- What the template is given is the same. -/
  payload : b.payload = a.payload
  /-- They are announced alike. -/
  news : b.news = a.news
  /-- News are announcements. -/
  hasNews : a.HasNews
  /-- Each is a file two directories down, by the same names. -/
  target : ∃ dir name, Path.IsName dir ∧ Path.IsName name ∧
    a.target = (output.child dir).child name ∧
    b.target = (other.child dir).child name

/-- In the tree there is room for the artifact: if the rules keep what is there, nothing is at its
place, and the way to the output directory does not lead through it. -/
structure Artifact.HasRoom (rules : IgnoreRules) (output : Path) (t : FileTree) (a : Artifact) :
    Prop where
  /-- Nothing is there. -/
  free : rules.isProtected a.target = true → t.entry? (a.target.place t.current) = none
  /-- The way leads elsewhere. -/
  aside : rules.isProtected a.target = true → ¬ output.Passes t.current (a.target.place t.current)

namespace Artifact.Moves

variable {a b x y : Artifact}

theorem path (moves : a.Moves output other b) : Path.Moves output other a.target b.target := by
  obtain ⟨dir, name, hd, hn, ha, hb⟩ := moves.target
  rw [ha, hb]
  exact ((Path.Moves.self output other).child hd).child hn

theorem hasNews₂ (moves : a.Moves output other b) : b.HasNews := by
  unfold Artifact.HasNews
  rw [moves.news]
  exact moves.hasNews

theorem isFile (moves : a.Moves output other b) : a.target.IsFile ∧ b.target.IsFile := by
  obtain ⟨dir, name, hd, hn, ha, hb⟩ := moves.target
  exact ⟨⟨_, _, hn, ha⟩, ⟨_, _, hn, hb⟩⟩

/-- Artifacts have one target in one directory if they have one in the other. -/
theorem target_eq_iff (moves : a.Moves output other b) (moves' : x.Moves output other y) :
    a.target = x.target ↔ b.target = y.target := by
  obtain ⟨dir, name, hd, hn, ha, hb⟩ := moves.target
  obtain ⟨dir', name', hd', hn', hx, hy⟩ := moves'.target
  rw [ha, hb, hx, hy]
  constructor
  · intro same
    obtain ⟨rfl, rfl⟩ := Path.names_eq_of_place hd hn hd' hn' (congrArg (Path.place · []) same)
    rfl
  · intro same
    obtain ⟨rfl, rfl⟩ := Path.names_eq_of_place hd hn hd' hn' (congrArg (Path.place · []) same)
    rfl

/-- Making one artifact avoids those with other targets, if the way to the directory does not lead
through them. -/
theorem avoids {current : Place} (moves : a.Moves output other b) (moves' : x.Moves output other y)
    (ne : a.target ≠ x.target) :
    (¬ output.Passes current (x.target.place current) → a.target.Avoids x.target current) ∧
      (¬ other.Passes current (y.target.place current) → b.target.Avoids y.target current) := by
  have ne' : b.target ≠ y.target := fun same => ne ((moves.target_eq_iff moves').mpr same)
  obtain ⟨dir, name, hd, hn, ha, hb⟩ := moves.target
  obtain ⟨dir', name', hd', hn', hx, hy⟩ := moves'.target
  rw [ha, hx] at ne ⊢
  rw [hb, hy] at ne' ⊢
  exact ⟨Path.avoids_of_aside hd hn hd' hn' ne, Path.avoids_of_aside hd hn hd' hn' ne'⟩

end Artifact.Moves

section

variable {σ : Type} {c₁ c₂ : Collaborators σ} {a b : Artifact} {w₁ w₁' w₂ w₂' : σ}
  {calls₁ calls₂ : List Call} {o₁ o₂ : Outcome}

/-- A block that came to its end has written what it rendered. -/
theorem Block.writesAll (news : a.HasNews) (block : Block c₁ a w₁ calls₁ o₁ w₁')
    (complete : o₁.IsComplete) :
    WritesAll render calls₁ := by
  intro key payload text _ last
  cases block with
  | leftAlone => simp at last
  | unprepared => exact absurd complete (by simp)
  | unrendered => exact absurd complete (by simp)
  | unwritten => exact absurd complete (by simp)
  | made =>
    -- the last call is the write or an announcement
    have mem : Call.rendered key payload ∈ a.news := by
      rw [List.getLast?_append] at last
      cases announced : a.news.getLast? with
      | none => simp [announced] at last
      | some call =>
        rw [announced] at last
        obtain rfl := Option.some.inj last
        exact List.mem_of_getLast? announced
    obtain ⟨name, event, same⟩ := news _ mem
    cases same

theorem Call.moves_news (news : a.HasNews) :
    List.Forall₂ (Call.Moves output other) a.news a.news := by
  refine List.forall₂_same.mpr fun call hc => ?_
  obtain ⟨name, event, rfl⟩ := news call hc
  exact .announced name event

/-- **One artifact in two directories**: if the policies agree and texts are rendered alike and
written, its blocks end alike, with the same calls but for the directory, and leave the worlds as
they were or write the same text in both. -/
theorem Block.moves (moves : a.Moves output other b)
    (asked : c₁.policy w₁ a.target = c₂.policy w₂ b.target)
    (rendered₁ : ∀ payload, (c₁.renderer w₁ a.key payload).1 = render a.key payload)
    (rendered₂ : ∀ payload, (c₂.renderer w₂ b.key payload).1 = render b.key payload)
    (block₁ : Block c₁ a w₁ calls₁ o₁ w₁') (block₂ : Block c₂ b w₂ calls₂ o₂ w₂')
    (writes₁ : WritesAll render calls₁) (writes₂ : WritesAll render calls₂) :
    o₁ = o₂ ∧ List.Forall₂ (Call.Moves output other) calls₁ calls₂ ∧
      (w₁' = w₁ ∧ w₂' = w₂ ∨ ∃ text lines₁ lines₂,
        c₁.writer w₁ a.target text = (.ok (), w₁', lines₁) ∧
        c₂.writer w₂ b.target text = (.ok (), w₂', lines₂)) := by
  have ask : ∀ answer, Call.Moves output other (.asked a.target answer) (.asked b.target answer) :=
    fun answer => .asked moves.path answer
  rw [moves.key] at rendered₂
  cases block₁ with
  | leftAlone left =>
    have block : Block c₂ b w₂ _ _ _ := .leftAlone (asked.symm.trans left)
    obtain ⟨rfl, rfl, rfl⟩ := block.det block₂
    exact ⟨rfl, .cons (ask _) .nil, .inl ⟨rfl, rfl⟩⟩
  | unprepared leave given =>
    have block : Block c₂ b w₂ _ _ _ :=
      .unprepared (asked.symm.trans leave) (moves.payload.trans given)
    obtain ⟨rfl, rfl, rfl⟩ := block.det block₂
    exact ⟨rfl, .cons (ask _) .nil, .inl ⟨rfl, rfl⟩⟩
  | @unrendered json e leave given failed =>
    have failed₂ : (c₂.renderer w₂ b.key json).1 = .error e := by
      rw [moves.key, rendered₂, ← rendered₁, failed]
    have block : Block c₂ b w₂ _ _ _ :=
      .unrendered (asked.symm.trans leave) (moves.payload.trans given) failed₂
    obtain ⟨rfl, rfl, rfl⟩ := block.det block₂
    rw [moves.key]
    exact ⟨rfl, .cons (ask _) (.cons (.rendered _ _) .nil), .inl ⟨rfl, rfl⟩⟩
  | @unwritten _ json text e lines leave given made failed =>
    exact absurd rfl (writes₁ a.key json text ((rendered₁ json).symm.trans made))
  | @made _ json text lines leave given made written =>
    have made₂ : (c₂.renderer w₂ b.key json).1 = .ok text := by
      rw [moves.key, rendered₂, ← rendered₁, made]
    rcases written₂ : c₂.writer w₂ b.target text with ⟨e | _, w₂'', lines₂⟩
    · have block : Block c₂ b w₂ _ _ _ :=
        .unwritten (asked.symm.trans leave) (moves.payload.trans given) made₂ written₂
      obtain ⟨rfl, rfl, rfl⟩ := block.det block₂
      rw [moves.key] at writes₂
      exact absurd rfl (writes₂ a.key json text ((rendered₁ json).symm.trans made))
    · have block : Block c₂ b w₂ _ _ _ :=
        .made (asked.symm.trans leave) (moves.payload.trans given) made₂ written₂
      obtain ⟨rfl, rfl, rfl⟩ := block.det block₂
      rw [moves.key, moves.news]
      refine ⟨rfl, ?_, .inr ⟨text, lines, lines₂, written, written₂⟩⟩
      exact .cons (ask _) (.cons (.rendered _ _)
        (.cons (.wrote moves.path text) (Call.moves_news moves.hasNews)))

end

/-! ### All artifacts -/

/-- A plain writer leaves everything as it was but at loose places, if the path leads to one. -/
theorem Writer.IsPlain.stays {writer : Writer FileTree} {loose : Place → Prop} {t w w' : FileTree}
    {p : Path} {text : String} {r : Except Error Unit} {lines : List LogLine}
    (plain : writer.IsPlain) (stays : t.StaysBut loose w) (h : p.IsFile)
    (own : loose (p.place t.current))
    (written : writer w p text = (r, w', lines)) : t.StaysBut loose w' := by
  have world : (writer w p text).2.1 = w' := by rw [written]
  rcases plain with rfl | idle
  · rw [Writer.files_world] at world
    rw [← world]
    exact stays.writeFile h own text
  · rw [idle] at world
    rwa [← world]

/-- The collaborators, with these rules for a policy. -/
def Collaborators.obeying (c : Collaborators FileTree) (rules : IgnoreRules) :
    Collaborators FileTree :=
  { c with policy := rules.ignores }

open IgnoreRules

/-- Two runs that started in `t₁` and `t₂` have come to `w₁` and `w₂`, and what is told of an
artifact that is still to be made is the same in both: if the rules keep what is there, it is there
in one directory if it is in the other. -/
structure Artifact.InStep (patterns : List Glob) (kept : List String) (output other : Path)
    (loose₁ loose₂ : Place → Prop) (t₁ t₂ w₁ w₂ : FileTree) (a b : Artifact) : Prop where
  /-- The artifact is one in the other directory. -/
  moves : a.Moves output other b
  /-- Its place is loose. -/
  own₁ : loose₁ (a.target.place t₁.current)
  /-- The place of the other one is loose. -/
  own₂ : loose₂ (b.target.place t₂.current)
  /-- There was room for it. -/
  room₁ : a.HasRoom (within output patterns kept) output t₁
  /-- There was room for the other one. -/
  room₂ : b.HasRoom (within other patterns kept) other t₂
  /-- Both are there, or neither. -/
  told : (within output patterns kept).isProtected a.target = true →
    ∃ there, w₁.Tells a.target there ∧ w₂.Tells b.target there

section

variable {c : Collaborators FileTree} {patterns : List Glob} {kept : List String}
  {loose₁ loose₂ : Place → Prop} {t₁ t₂ w₁ w₁' w₂ w₂' : FileTree} {a b x y : Artifact}
  {text : String} {lines₁ lines₂ : List LogLine} {artifacts others : List Artifact}
  {calls₁ calls₂ : List Call} {outcomes₁ outcomes₂ : List Outcome}

namespace Artifact.InStep

/-- The rules answer alike. -/
theorem ignores_eq (step : InStep patterns kept output other loose₁ loose₂ t₁ t₂ w₁ w₂ a b)
    (hk : ∀ dir ∈ kept, Path.IsName dir) :
    (within output patterns kept).ignores w₁ a.target
      = (within other patterns kept).ignores w₂ b.target := by
  refine step.moves.path.ignores_eq hk fun keeps => ?_
  obtain ⟨there, told₁, told₂⟩ := step.told keeps
  rw [FileTree.holds_of_tells told₁, FileTree.holds_of_tells told₂]

/-- What is told of an artifact is still told alike after another one has been written in both
directories. -/
theorem written (step : InStep patterns kept output other loose₁ loose₂ t₁ t₂ w₁ w₂ x y)
    (hk : ∀ dir ∈ kept, Path.IsName dir) (plain : c.writer.IsPlain) (stays₁ : t₁.StaysBut loose₁ w₁)
    (stays₂ : t₂.StaysBut loose₂ w₂) (moves : a.Moves output other b)
    (written₁ : c.writer w₁ a.target text = (.ok (), w₁', lines₁))
    (written₂ : c.writer w₂ b.target text = (.ok (), w₂', lines₂)) :
    InStep patterns kept output other loose₁ loose₂ t₁ t₂ w₁' w₂' x y := by
  refine ⟨step.moves, step.own₁, step.own₂, step.room₁, step.room₂, fun keeps => ?_⟩
  obtain ⟨there, told₁, told₂⟩ := step.told keeps
  rcases plain with files | idle
  · rw [files] at written₁ written₂
    have written₁ := Writer.files_ok written₁
    have written₂ := Writer.files_ok written₂
    by_cases same : a.target = x.target
    · -- now it is there in both directories
      have same' := (moves.target_eq_iff step.moves).mp same
      rw [same] at written₁
      rw [same'] at written₂
      exact ⟨true, FileTree.tells_written step.moves.isFile.1 written₁,
        FileTree.tells_written step.moves.isFile.2 written₂⟩
    · have aside₁ := step.room₁.aside keeps
      have aside₂ := step.room₂.aside (step.moves.path.isProtected_eq hk ▸ keeps)
      rw [← stays₁.current] at aside₁
      rw [← stays₂.current] at aside₂
      have avoids₁ := (moves.avoids step.moves same).1 aside₁
      have avoids₂ := (moves.avoids step.moves same).2 aside₂
      exact ⟨there, told₁.writeFile moves.isFile.1 avoids₁ written₁,
        told₂.writeFile moves.isFile.2 avoids₂ written₂⟩
  · have world₁ := idle w₁ a.target text
    have world₂ := idle w₂ b.target text
    rw [written₁] at world₁
    rw [written₂] at world₂
    obtain rfl : w₁' = w₁ := world₁
    obtain rfl : w₂' = w₂ := world₂
    exact ⟨there, told₁, told₂⟩

/-- The blocks of an artifact end alike, with the same calls but for the directory, and the runs
stay in step. -/
theorem blocks (step : InStep patterns kept output other loose₁ loose₂ t₁ t₂ w₁ w₂ a b)
    (hk : ∀ dir ∈ kept, Path.IsName dir) (plain : c.writer.IsPlain)
    (renders₁ : c.renderer.RendersBy loose₁ t₁ render)
    (renders₂ : c.renderer.RendersBy loose₂ t₂ render)
    (stays₁ : t₁.StaysBut loose₁ w₁) (stays₂ : t₂.StaysBut loose₂ w₂) {o₁ o₂ : Outcome}
    (block₁ : Block (c.obeying (within output patterns kept)) a w₁ calls₁ o₁ w₁')
    (block₂ : Block (c.obeying (within other patterns kept)) b w₂ calls₂ o₂ w₂')
    (writes₁ : WritesAll render calls₁) (writes₂ : WritesAll render calls₂) :
    o₁ = o₂ ∧ List.Forall₂ (Call.Moves output other) calls₁ calls₂ ∧ t₁.StaysBut loose₁ w₁' ∧
      t₂.StaysBut loose₂ w₂' ∧
      ∀ x y, InStep patterns kept output other loose₁ loose₂ t₁ t₂ w₁ w₂ x y →
        InStep patterns kept output other loose₁ loose₂ t₁ t₂ w₁' w₂' x y := by
  have asked : (c.obeying (within output patterns kept)).policy w₁ a.target =
      (c.obeying (within other patterns kept)).policy w₂ b.target := step.ignores_eq hk
  have rendered₁ : ∀ payload, ((c.obeying (within output patterns kept)).renderer w₁ a.key payload).1 =
      render a.key payload := fun payload => renders₁ w₁ stays₁ _ payload
  have rendered₂ : ∀ payload, ((c.obeying (within other patterns kept)).renderer w₂ b.key payload).1 =
      render b.key payload := fun payload => renders₂ w₂ stays₂ _ payload
  obtain ⟨ho, hc, worlds⟩ :=
    Block.moves step.moves asked rendered₁ rendered₂ block₁ block₂ writes₁ writes₂
  refine ⟨ho, hc, ?_⟩
  rcases worlds with ⟨rfl, rfl⟩ | ⟨text, lines₁, lines₂, written₁, written₂⟩
  · exact ⟨stays₁, stays₂, fun x y next => next⟩
  · have now₁ := plain.stays stays₁ step.moves.isFile.1 step.own₁ written₁
    have now₂ := plain.stays stays₂ step.moves.isFile.2 step.own₂ written₂
    exact ⟨now₁, now₂, fun x y next => next.written hk plain stays₁ stays₂ step.moves written₁ written₂⟩

end Artifact.InStep

/-- **All artifacts in two directories**: the blocks end alike, with the same calls but for the
directory. -/
theorem Blocks.moves (plain : c.writer.IsPlain) (hk : ∀ dir ∈ kept, Path.IsName dir)
    (renders₁ : c.renderer.RendersBy loose₁ t₁ render)
    (renders₂ : c.renderer.RendersBy loose₂ t₂ render)
    (stays₁ : t₁.StaysBut loose₁ w₁) (stays₂ : t₂.StaysBut loose₂ w₂)
    (steps : List.Forall₂ (Artifact.InStep patterns kept output other loose₁ loose₂ t₁ t₂ w₁ w₂)
      artifacts others)
    (blocks₁ : Blocks (c.obeying (within output patterns kept)) artifacts w₁ calls₁ outcomes₁ w₁')
    (blocks₂ : Blocks (c.obeying (within other patterns kept)) others w₂ calls₂ outcomes₂ w₂')
    (writes₁ : WritesAll render calls₁) (writes₂ : WritesAll render calls₂) :
    outcomes₁ = outcomes₂ ∧ List.Forall₂ (Call.Moves output other) calls₁ calls₂ := by
  induction artifacts generalizing others w₁ w₂ calls₁ calls₂ outcomes₁ outcomes₂ with
  | nil =>
    cases steps
    cases blocks₁
    cases blocks₂
    exact ⟨rfl, .nil⟩
  | cons a artifacts ih =>
    obtain _ | ⟨step, steps⟩ := steps
    cases blocks₁ with
    | fail block₁ =>
      cases blocks₂ with
      | fail block₂ =>
        obtain ⟨ho, hc, -⟩ :=
          step.blocks hk plain renders₁ renders₂ stays₁ stays₂ block₁ block₂ writes₁ writes₂
        exact ⟨by rw [ho], hc⟩
      | cons block₂ complete _ =>
        have first₂ : WritesAll render _ := block₂.writesAll step.moves.hasNews₂ complete
        obtain ⟨rfl, -⟩ :=
          step.blocks hk plain renders₁ renders₂ stays₁ stays₂ block₁ block₂ writes₁ first₂
        exact absurd complete (by simp)
    | cons block₁ complete₁ blocks₁ =>
      have first₁ : WritesAll render _ := block₁.writesAll step.moves.hasNews complete₁
      cases blocks₂ with
      | fail block₂ =>
        obtain ⟨rfl, -⟩ :=
          step.blocks hk plain renders₁ renders₂ stays₁ stays₂ block₁ block₂ first₁ writes₂
        exact absurd complete₁ (by simp)
      | cons block₂ complete₂ blocks₂ =>
        have first₂ : WritesAll render _ := block₂.writesAll step.moves.hasNews₂ complete₂
        obtain ⟨rfl, hc, now₁, now₂, next⟩ :=
          step.blocks hk plain renders₁ renders₂ stays₁ stays₂ block₁ block₂ first₁ first₂
        obtain ⟨rfl, hcs⟩ :=
          ih now₁ now₂ (steps.imp next) blocks₁ blocks₂ writes₁.of_append writes₂.of_append
        exact ⟨rfl, List.rel_append hc hcs⟩

/-- At the start, nothing that is kept is there in either directory. -/
theorem Artifact.InStep.start (hk : ∀ dir ∈ kept, Path.IsName dir)
    (moves : List.Forall₂ (Artifact.Moves output other) artifacts others)
    (own₁ : ∀ a ∈ artifacts, loose₁ (a.target.place t₁.current))
    (own₂ : ∀ b ∈ others, loose₂ (b.target.place t₂.current))
    (room₁ : ∀ a ∈ artifacts, a.HasRoom (within output patterns kept) output t₁)
    (room₂ : ∀ b ∈ others, b.HasRoom (within other patterns kept) other t₂) :
    List.Forall₂ (InStep patterns kept output other loose₁ loose₂ t₁ t₂ t₁ t₂) artifacts others := by
  induction moves with
  | nil => exact .nil
  | cons first _ ih =>
    obtain ⟨loose₁, own₁⟩ := List.forall_mem_cons.mp own₁
    obtain ⟨loose₂, own₂⟩ := List.forall_mem_cons.mp own₂
    obtain ⟨here, room₁⟩ := List.forall_mem_cons.mp room₁
    obtain ⟨there, room₂⟩ := List.forall_mem_cons.mp room₂
    refine .cons ⟨first, loose₁, loose₂, here, there, fun keeps => ?_⟩ (ih own₁ own₂ room₁ room₂)
    exact ⟨false, here.free keeps, there.free (first.path.isProtected_eq hk ▸ keeps)⟩

theorem Blocks.writesAll {σ : Type} {c : Collaborators σ} {w w' : σ}
    (news : ∀ a ∈ artifacts, a.HasNews) (blocks : Blocks c artifacts w calls₁ outcomes₁ w')
    (done : outcomesResult outcomes₁ () = .ok ()) :
    WritesAll render calls₁ := by
  induction blocks with
  | nil => exact fun key payload text _ last => nomatch last
  | fail block => simp [outcomesResult] at done
  | @cons a rest w w₁ w₂ calls₁ calls₂ o outcomes block complete blocks ih =>
    rw [outcomesResult_cons complete] at done
    have first : WritesAll render calls₁ := block.writesAll (news a List.mem_cons_self) complete
    have others := ih (fun b hb => news b (List.mem_cons_of_mem _ hb)) done
    intro key payload text rendered last
    rw [List.getLast?_append] at last
    cases later : calls₂.getLast? with
    | none =>
      rw [later] at last
      exact first key payload text rendered last
    | some call =>
      rw [later] at last
      exact others key payload text rendered (later.trans last)

end

/-! ### Runs -/

namespace Codegen

/-- The generators, with these rules for a policy. -/
def obeying (g : Codegen FileTree) (rules : IgnoreRules) : Codegen FileTree :=
  { g with collaborators := g.collaborators.obeying rules }

/-- The directory of the route table in an output directory. -/
def tableDir (output : Path) : Path := output.child Config.defaultConfigDir

/-- A run into a directory, by rules that are seen from there. -/
def runInto (g : Codegen FileTree) (patterns : List Glob) (kept : List String) (d : Document)
    (base : String) (output : Path) (t : FileTree) : Except Error Report × RunState FileTree :=
  ((g.obeying (within output patterns kept)).run d base output (tableDir output)).start { world := t }

/-- The places of the artifacts in the output directory. -/
def IsPlaceIn (g : Codegen FileTree) (d : Document) (base : String) (output : Path) (t : FileTree)
    (place : Place) : Prop :=
  ∃ a ∈ g.artifacts d base output (tableDir output), a.target.place t.current = place

/-- There is room for all artifacts in the output directory. -/
def HasRoom (g : Codegen FileTree) (patterns : List Glob) (kept : List String) (d : Document)
    (base : String) (output : Path) (t : FileTree) : Prop :=
  ∀ a ∈ g.artifacts d base output (tableDir output), a.HasRoom (within output patterns kept) output t

variable {g : Codegen FileTree} {patterns : List Glob} {kept : List String} {d : Document}
  {base : String} {t t₁ t₂ : FileTree}

theorem isName_defaultConfigDir : Path.IsName Config.defaultConfigDir := by constructor <;> decide

/-- The artifacts of a document are the same in another directory. -/
theorem artifacts_move (he : '/' ∉ g.collaborators.extension.toList) (d : Document) (base : String)
    (output other : Path) :
    List.Forall₂ (Artifact.Moves output other) (g.artifacts d base output (tableDir output))
      (g.artifacts d base other (tableDir other)) := by
  have handlers : List.Forall₂ (Artifact.Moves output other) (g.handlerArtifacts d base output)
      (g.handlerArtifacts d base other) := by
    unfold handlerArtifacts
    rw [List.forall₂_map_left_iff, List.forall₂_map_right_iff]
    refine List.forall₂_same.mpr fun entry _ =>
      ⟨by simp, by simp, by simp, by simp, by simp [Artifact.HasNews], ?_⟩
    refine ⟨handlerDir, g.fileName (handlerName entry.1), isName_handlerDir,
      isName_handler he entry.1, ?_, ?_⟩
    · rw [handlerArtifact_target, handlerTarget_eq]
    · rw [handlerArtifact_target, handlerTarget_eq]
  have hydrators : List.Forall₂ (Artifact.Moves output other) (g.hydratorArtifacts d base output)
      (g.hydratorArtifacts d base other) := by
    unfold hydratorArtifacts
    rw [List.forall₂_map_left_iff, List.forall₂_map_right_iff]
    refine List.forall₂_same.mpr fun entry _ =>
      ⟨by simp, by simp, by simp, by simp, by simp [Artifact.HasNews], ?_⟩
    refine ⟨hydratorDir, g.fileName (hydratorName entry.1), isName_hydratorDir,
      isName_hydrator he entry.1, ?_, ?_⟩
    · rw [hydratorArtifact_target, hydratorTarget_eq]
    · rw [hydratorArtifact_target, hydratorTarget_eq]
  have table : (g.tableArtifact d base (tableDir output)).Moves output other
      (g.tableArtifact d base (tableDir other)) := by
    refine ⟨by simp, by simp, by simp, by simp, by simp [Artifact.HasNews], ?_⟩
    refine ⟨Config.defaultConfigDir, g.fileName routesStem, isName_defaultConfigDir,
      isName_routes he, ?_, ?_⟩
    · rw [tableArtifact_target, routesTarget_eq, tableDir]
    · rw [tableArtifact_target, routesTarget_eq, tableDir]
  exact List.rel_append (List.rel_append handlers hydrators) (.cons table .nil)

/-- The report names no directory. -/
theorem reportOf_moves (g : Codegen FileTree) (d : Document) (base : String)
    (output other : Path) (outcomes : List Outcome) :
    g.reportOf d base output outcomes = g.reportOf d base other outcomes := by
  have handlers : (g.handlerArtifacts d base output).map Artifact.name
      = (g.handlerArtifacts d base other).map Artifact.name := by
    simp [handlerArtifacts]
  have hydrators : (g.hydratorArtifacts d base output).map Artifact.name
      = (g.hydratorArtifacts d base other).map Artifact.name := by
    simp [hydratorArtifacts]
  rw [reportOf, reportOf, madeNames_congr handlers, madeNames_congr hydrators]

/-- Every artifact lies two directories down. -/
theorem names_of_mem (he : '/' ∉ g.collaborators.extension.toList) {a : Artifact}
    (ha : a ∈ g.artifacts d base output (tableDir output)) :
    ∃ dir name, Path.IsName dir ∧ Path.IsName name ∧ a.target = (output.child dir).child name := by
  rw [artifacts_eq, List.mem_append, List.mem_singleton] at ha
  rcases ha with stub | rfl
  · exact exists_names he stub
  · refine ⟨_, _, isName_defaultConfigDir, isName_routes he, ?_⟩
    rw [tableArtifact_target, routesTarget_eq, tableDir]

/-- A new directory has room for every document. -/
theorem hasRoom_of_isNewIn (he : '/' ∉ g.collaborators.extension.toList) (new : output.IsNewIn t) :
    g.HasRoom patterns kept d base output t := by
  intro a ha
  obtain ⟨dir, name, hd, hn, target⟩ := names_of_mem he ha
  constructor
  · rw [target, Path.child_child_place hd hn]
    exact fun _ => new.free dir [name]
  · rw [target]
    exact fun _ => new.aside hd hn

/-- A run that ends well has written every text that it rendered. -/
theorem writesAll_of_ok {report : Report}
    (h : (g.runInto patterns kept d base output t).1 = .ok report) :
    WritesAll render (g.runInto patterns kept d base output t).2.calls := by
  obtain ⟨calls, outcomes, ends, hc, blocks⟩ :=
    (g.obeying (within output patterns kept)).run_ends d base output
      (tableDir output) { world := t }
  unfold runInto at h ⊢
  rw [hc, List.nil_append]
  obtain ⟨done, -⟩ := of_outcomesResult_ok (ends.symm.trans h)
  exact blocks.writesAll (fun a ha => hasNews_of_mem ha) done

/-- **A run does the same in every directory** that has room for its artifacts. It ends in the same
report or the same failure, and makes the same calls with the same things given to the templates and
the same texts, but for the directory in front of every path. This is so for any rules that are seen
from the directory, as long as every text that was rendered is written and rendering does not depend
on what is written. -/
theorem run_moves (g : Codegen FileTree) (patterns : List Glob) (kept : List String) (d : Document)
    (base : String) {output other : Path} {t₁ t₂ : FileTree}
    {render : String → Json → Except Error String} (he : '/' ∉ g.collaborators.extension.toList)
    (hk : ∀ dir ∈ kept, Path.IsName dir) (plain : g.collaborators.writer.IsPlain)
    (renders₁ : g.collaborators.renderer.RendersBy (g.IsPlaceIn d base output t₁) t₁ render)
    (renders₂ : g.collaborators.renderer.RendersBy (g.IsPlaceIn d base other t₂) t₂ render)
    (room₁ : g.HasRoom patterns kept d base output t₁) (room₂ : g.HasRoom patterns kept d base other t₂)
    (writes₁ : WritesAll render (g.runInto patterns kept d base output t₁).2.calls)
    (writes₂ : WritesAll render (g.runInto patterns kept d base other t₂).2.calls) :
    (g.runInto patterns kept d base output t₁).1 = (g.runInto patterns kept d base other t₂).1 ∧
      List.Forall₂ (Call.Moves output other) (g.runInto patterns kept d base output t₁).2.calls
        (g.runInto patterns kept d base other t₂).2.calls := by
  obtain ⟨calls₁, outcomes₁, ends₁, hc₁, blocks₁⟩ :=
    (g.obeying (within output patterns kept)).run_ends d base
      output (tableDir output) { world := t₁ }
  obtain ⟨calls₂, outcomes₂, ends₂, hc₂, blocks₂⟩ :=
    (g.obeying (within other patterns kept)).run_ends d base
      other (tableDir other) { world := t₂ }
  unfold runInto at writes₁ writes₂ ⊢
  rw [hc₁, List.nil_append] at writes₁
  rw [hc₂, List.nil_append] at writes₂
  have own₁ : ∀ a ∈ g.artifacts d base output (tableDir output),
      g.IsPlaceIn d base output t₁ (a.target.place t₁.current) := fun a ha => ⟨a, ha, rfl⟩
  have own₂ : ∀ b ∈ g.artifacts d base other (tableDir other),
      g.IsPlaceIn d base other t₂ (b.target.place t₂.current) := fun b hb => ⟨b, hb, rfl⟩
  have steps :=
    Artifact.InStep.start hk (artifacts_move he d base output other) own₁ own₂ room₁ room₂
  obtain ⟨rfl, same⟩ :=
    Blocks.moves plain hk renders₁ renders₂ (.refl _ t₁) (.refl _ t₂) steps blocks₁ blocks₂
      writes₁ writes₂
  have report : (g.obeying (within output patterns kept)).reportOf d base output outcomes₁ =
      (g.obeying (within other patterns kept)).reportOf d base other outcomes₁ :=
    g.reportOf_moves d base output other outcomes₁
  rw [ends₁, ends₂, hc₁, hc₂, report]
  exact ⟨rfl, same⟩

end Codegen

/-- The rules of a configuration, where there is no file of patterns, are seen from the output
directory. -/
theorem Config.ignoreRules_eq_within {c : Config} {t : FileTree} (unnamed : c.ignoreFile = none)
    (no_file : t.isFile (c.output.child ignoreFileName) = false) :
    c.ignoreRules t =
      .ok (within c.output [] (if c.overwrite then [] else [handlerDir, hydratorDir]), []) := by
  have patterns : c.patternRules t = .ok ({ root := c.output }, []) := by
    unfold patternRules
    rw [unnamed]
    dsimp only
    rw [no_file]
    rfl
  unfold ignoreRules
  rw [patterns]
  cases c.overwrite <;> rfl

/-- A document with two paths and a schema. -/
def trio : Document where
  openapi := "3.0.3"
  title := "Trio"
  version := "1"
  paths := [
    ("/a", .item { operations := [(.get, {})] }),
    ("/b", .item { operations := [(.get, {}), (.post, {})] })]
  components := some { schemas := [("c", .item (.mk false .string))] }

/-- A configuration that keeps what is in a directory. -/
def keepingIn (dir : String) : Config where
  spec := "trio.yaml"
  space := "App"
  outputDir := dir

/-- A run of it. -/
def trioRun (dir : String) : Except Error Report × RunState FileTree :=
  ((Config.codegen .php shortTemplates (within ⟨dir⟩ [] [handlerDir, hydratorDir])).run trio "App"
    (keepingIn dir).output (keepingIn dir).routesDir).start { world := emptyTree }

theorem trioRun_eq (dir : String) :
    trioRun dir = (Config.codegen .php shortTemplates outRules).runInto [] [handlerDir, hydratorDir]
      trio "App" ⟨dir⟩ emptyTree := rfl

/-- The handlers, the hydrator and the route table are made alike in an empty directory and in one
that is not there. -/
theorem trio_moves :
    emptyTree.holds ⟨"."⟩ = true ∧ emptyTree.holds ⟨"/new/"⟩ = false ∧
    (∀ dir ∈ [".", "/new/"], (keepingIn dir).ignoreRules emptyTree
      = .ok (within ⟨dir⟩ [] [handlerDir, hydratorDir], [])) ∧
    (trioRun ".").1 = .ok ⟨["AHandler", "BHandler"], ["CHydrator"], true⟩ ∧
    (trioRun ".").1 = (trioRun "/new/").1 ∧
    List.Forall₂ (Call.Moves ⟨"."⟩ ⟨"/new/"⟩) (trioRun ".").2.calls (trioRun "/new/").2.calls := by
  have there : emptyTree.holds ⟨"."⟩ = true := by decide +kernel
  have rules : ∀ dir ∈ [".", "/new/"], (keepingIn dir).ignoreRules emptyTree
      = .ok (within ⟨dir⟩ [] [handlerDir, hydratorDir], []) := by
    intro dir hd
    refine Config.ignoreRules_eq_within rfl ?_
    revert dir
    decide +kernel
  have first : (trioRun ".").1 = .ok ⟨["AHandler", "BHandler"], ["CHydrator"], true⟩ :=
    eq_ok_of_toOption (by decide +kernel)
  have second : (trioRun "/new/").1 = .ok ⟨["AHandler", "BHandler"], ["CHydrator"], true⟩ :=
    eq_ok_of_toOption (by decide +kernel)
  have here : Path.IsNewIn ⟨"."⟩ emptyTree := by
    refine Path.isNewIn_of_holds there fun name rest => FileTree.start_entry_of_lt ?_
    have place : Path.place ⟨"."⟩ emptyTree.current = ["w"] := rfl
    simp [place]
  have elsewhere : Path.IsNewIn ⟨"/new/"⟩ emptyTree := by
    refine Path.isNewIn_of_forward (by decide) fun name rest => FileTree.start_entry_of_lt ?_
    have place : Path.place ⟨"/new/"⟩ emptyTree.current = ["new"] := rfl
    simp [place]
  have names : ∀ dir ∈ [handlerDir, hydratorDir], Path.IsName dir := by
    simp [isName_handlerDir, isName_hydratorDir]
  have slash := Codegen.slash_not_mem_extension .php shortTemplates outRules
  have nowhere : ∀ location, shortTemplates.location ≠ some location := by simp [shortTemplates]
  refine ⟨there, by decide +kernel, rules, first, ?_⟩
  rw [trioRun_eq] at first second ⊢
  rw [trioRun_eq]
  exact (Config.codegen .php shortTemplates outRules).run_moves [] [handlerDir, hydratorDir] trio "App"
    slash names (.inl rfl)
    (shortTemplates.rendersBy fun location found => absurd found (nowhere location))
    (shortTemplates.rendersBy fun location found => absurd found (nowhere location))
    (Codegen.hasRoom_of_isNewIn slash here) (Codegen.hasRoom_of_isNewIn slash elsewhere)
    (Codegen.writesAll_of_ok first) (Codegen.writesAll_of_ok second)

/-- A document with two paths. -/
def pair : Document where
  openapi := "3.0.3"
  title := "Pair"
  version := "1"
  paths := [("/a", .item { operations := [(.get, {})] }), ("/b", .item { operations := [(.get, {})] })]

/-- The tree with a handler that somebody has written. -/
def takenTree : FileTree := (emptyTree.writeFile ⟨"out/Handler/BHandler.php"⟩ "mine").2

/-- Of three directories that are not there only one has both handlers made in it. The way to the
second leads through the place of a handler and back, and making the first handler makes a directory
there, which is kept. The third leads nowhere before the run, and to a handler that is kept when the
way to it has been made. -/
theorem detours_differ :
    takenTree.holds ⟨"new"⟩ = false ∧ takenTree.holds ⟨"Handler/BHandler.php/../.."⟩ = false ∧
    takenTree.holds ⟨"new/../out"⟩ = false ∧
    (plainly.runInto [.ofText "config/"] [handlerDir, hydratorDir] pair "App" ⟨"new"⟩ takenTree).1
      = .ok ⟨["AHandler", "BHandler"], [], false⟩ ∧
    (plainly.runInto [.ofText "config/"] [handlerDir, hydratorDir] pair "App" ⟨"Handler/BHandler.php/../.."⟩
        takenTree).1
      = .ok ⟨["AHandler"], [], false⟩ ∧
    (plainly.runInto [.ofText "config/"] [handlerDir, hydratorDir] pair "App" ⟨"new/../out"⟩ takenTree).1
      = .ok ⟨["AHandler"], [], false⟩ := by
  refine ⟨by decide +kernel, by decide +kernel, by decide +kernel, ?_, ?_, ?_⟩
  · exact eq_ok_of_toOption (by decide +kernel)
  · exact eq_ok_of_toOption (by decide +kernel)
  · exact eq_ok_of_toOption (by decide +kernel)

end ApiStubs
