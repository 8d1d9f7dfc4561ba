import ApiStubs.FileTree
import ApiStubs.Proofs.PathSteps

/-!
# Where paths lead

In a tree without links, the place that a path leads to is spelled by its steps: `.` stays, `..`
goes back one name and anything else goes on by one. What is there decides only whether the path
leads anywhere. So a tree in which no directory and no file has gone (`Grows`) is one in which
paths still lead where they led.

Writing a file adds directories along the way to it, at places where nothing was (`Gains`), and
puts the file at its place; nothing else changes.
-/

namespace ApiStubs

/-! ### The place that is spelled -/

namespace Path

/-- The place that a step leads to. -/
def stepFrom (place : Place) (step : List Char) : Place :=
  if step = ['.'] then place
  else if step = ['.', '.'] then place.dropLast
  else place ++ [String.ofList step]

/-- The place that steps lead to, one after the other. -/
def walkFrom (place : Place) (steps : List (List Char)) : Place := steps.foldl stepFrom place

/-- The place that a path starts from. -/
def origin (p : Path) (current : Place) : Place := if p.isAbsolute then [] else current

/-- The place that a path spells, whether anything is there or not. -/
def place (p : Path) (current : Place) : Place := walkFrom (p.origin current) p.steps

/-- The places that are passed on the way along a path, and the last one. -/
def Passes (p : Path) (current place : Place) : Prop :=
  ∃ front, front <+: p.steps ∧ place = walkFrom (p.origin current) front

/-- The places that are passed on the way into the directory that a path lies in. -/
def Enters (p : Path) (current place : Place) : Prop :=
  ∃ front, front <+: p.steps.dropLast ∧ place = walkFrom (p.origin current) front

/-- The path of something inside a directory, by a name that one file can have. -/
def IsFile (p : Path) : Prop := ∃ (dir : Path) (name : String), IsName name ∧ p = dir.child name

variable {name : String} (p : Path) (current : Place)

@[simp] theorem walkFrom_nil (place : Place) : walkFrom place [] = place := rfl

@[simp] theorem walkFrom_cons (place : Place) (step : List Char) (steps : List (List Char)) :
    walkFrom place (step :: steps) = walkFrom (stepFrom place step) steps := rfl

theorem walkFrom_append (place : Place) (first second : List (List Char)) :
    walkFrom place (first ++ second) = walkFrom (walkFrom place first) second :=
  List.foldl_append

theorem stepFrom_name (h : IsName name) (place : Place) :
    stepFrom place name.toList = place ++ [name] := by
  rw [stepFrom, if_neg h.ne_here, if_neg h.ne_up, String.ofList_toList]

theorem child_origin (h : IsName name) : (p.child name).origin current = p.origin current := by
  rw [origin, origin, p.child_isAbsolute h]

/-- The place of something inside a directory. -/
theorem child_place (h : IsName name) : (p.child name).place current = p.place current ++ [name] := by
  rw [place, p.child_steps h, p.child_origin current h, walkFrom_append, walkFrom_cons,
    stepFrom_name h]
  rfl

theorem child_enters {current at_ : Place} (h : IsName name) :
    (p.child name).Enters current at_ ↔ p.Passes current at_ := by
  rw [Enters, Passes, p.child_steps h, List.dropLast_concat, p.child_origin current h]

theorem passes_self : p.Passes current (p.place current) := ⟨p.steps, List.prefix_rfl, rfl⟩

variable {p current}

/-- The way into a directory leads along the way to it. -/
theorem Passes.of_child {at_ : Place} (h : IsName name)
    (passes : (p.child name).Passes current at_) :
    p.Passes current at_ ∨ at_ = p.place current ++ [name] := by
  obtain ⟨front, hf, rfl⟩ := passes
  rw [p.child_steps h] at hf
  rw [p.child_origin current h]
  rcases List.prefix_concat_iff.mp hf with rfl | hf
  · right
    rw [walkFrom_append, walkFrom_cons, stepFrom_name h]
    rfl
  · exact .inl ⟨front, hf, rfl⟩

/-- The way to the directory that a path lies in leads along the way to the path. -/
theorem Passes.of_parent {parent : Path} {at_ : Place} (h : p.parent? = some parent)
    (passes : parent.Passes current at_) : p.Passes current at_ := by
  obtain ⟨front, hf, rfl⟩ := passes
  obtain ⟨absolute, steps, -⟩ := parent?_steps h
  exact ⟨front, hf.trans steps, by rw [origin, origin, absolute]⟩

/-- The way to the directory that something inside `p` lies in leads along the way to `p`. -/
theorem Passes.of_child_parent {parent : Path} {at_ : Place} (hn : IsName name)
    (h : (p.child name).parent? = some parent) (passes : parent.Passes current at_) :
    p.Passes current at_ := by
  obtain ⟨front, hf, rfl⟩ := passes
  obtain ⟨absolute, -, steps⟩ := parent?_steps h
  refine ⟨front, hf.trans (steps _ _ (p.child_steps hn) hn.isStep), ?_⟩
  rw [origin, origin, absolute, p.child_isAbsolute hn]

end Path

/-- The place of a spot. -/
def Spot.place : Spot → Place
  | .taken place _ => place
  | .vacant place => place

namespace FileTree

/-! ### What is found at a place -/

variable {t t₁ t₂ : FileTree} {place other : Place} {e : Entry}

theorem lookup_filter_ne (entries : List (Place × Entry)) (h : other ≠ place) :
    (entries.filter fun x => x.1 != place).lookup other = entries.lookup other := by
  induction entries with
  | nil => rfl
  | cons x entries ih =>
    obtain ⟨at_, e⟩ := x
    by_cases ha : at_ = place
    · subst ha
      rw [List.filter_cons_of_neg (by simp), List.lookup_cons, ih, beq_false_of_ne h]
    · rw [List.filter_cons_of_pos (by simpa using ha), List.lookup_cons, List.lookup_cons, ih]

@[simp] theorem put_entry_self (t : FileTree) (place : Place) (e : Entry) :
    entry? (t.put place e) place = some e := by
  unfold entry?
  simp [put]

theorem put_entry_of_ne (t : FileTree) (e : Entry) (h : other ≠ place) :
    entry? (t.put place e) other = t.entry? other := by
  unfold entry? put
  rw [List.lookup_cons, beq_false_of_ne h]
  dsimp only
  rw [lookup_filter_ne t.entries h]

@[simp] theorem put_current (t : FileTree) (place : Place) (e : Entry) :
    (t.put place e).current = t.current := rfl

/-- A starting tree holds the directories on the way to where it starts, and nothing else. -/
theorem start_entry_iff {current : Place} :
    entry? (start current) place = some e ↔ e = .directory ∧ place <+: current := by
  unfold entry? start
  split
  · next e' found =>
    obtain ⟨before, after, same, -⟩ := List.lookup_eq_some_iff.mp found
    have listed : (place, e') ∈ before ++ (place, e') :: after :=
      List.mem_append_right _ List.mem_cons_self
    rw [← same] at listed
    obtain ⟨n, -, entry⟩ := List.mem_map.mp listed
    cases entry
    rw [Option.some.injEq, eq_comm, and_iff_left (List.take_prefix _ _)]
  · next absent =>
    rw [List.lookup_eq_none_iff] at absent
    split
    · next root => rw [Option.some.injEq, eq_comm, root, and_iff_left List.nil_prefix]
    · next inner =>
      refine ⟨nofun, fun ahead => ?_⟩
      have length := Nat.succ_pred_eq_of_ne_zero (mt List.length_eq_zero_iff.mp inner)
      have short := ahead.2.length_le
      refine absurd (absent (place, .directory)
        (List.mem_map.mpr ⟨place.length - 1, ?_, ?_⟩)) (by simp)
      · rw [List.mem_range]
        omega
      · rw [show place.length - 1 + 1 = place.length from length,
          ← List.prefix_iff_eq_take.mp ahead.2]

/-- Nothing lies deeper than where a starting tree starts. -/
theorem start_entry_of_lt {current : Place} (deeper : current.length < place.length) :
    entry? (start current) place = none := by
  refine Option.eq_none_iff_forall_ne_some.mpr fun e found => ?_
  have short := (start_entry_iff.mp found).2.length_le
  omega

/-! ### Trees that only grow -/

/-- In `t₂` every directory of `t₁` is there, and every file, whatever it holds. -/
structure Grows (t₁ t₂ : FileTree) : Prop where
  /-- Paths start where they started. -/
  current : t₂.current = t₁.current
  /-- The directories are there. -/
  directory : ∀ place, t₁.entry? place = some .directory → t₂.entry? place = some .directory
  /-- The files are there. -/
  file : ∀ place c, t₁.entry? place = some (.file c) → ∃ c', t₂.entry? place = some (.file c')

namespace Grows

theorem refl (t : FileTree) : Grows t t := ⟨rfl, fun _ h => h, fun _ c h => ⟨c, h⟩⟩

theorem trans {t₃ : FileTree} (h₁ : Grows t₁ t₂) (h₂ : Grows t₂ t₃) : Grows t₁ t₃ := by
  refine ⟨h₂.current.trans h₁.current, fun p h => h₂.directory p (h₁.directory p h),
    fun p c h => ?_⟩
  obtain ⟨c', h⟩ := h₁.file p c h
  exact h₂.file p c' h

theorem taken (h : Grows t₁ t₂) (there : t₁.entry? place = some e) :
    ∃ e', t₂.entry? place = some e' := by
  cases e with
  | directory => exact ⟨_, h.directory place there⟩
  | file c =>
    obtain ⟨c', hc⟩ := h.file place c there
    exact ⟨_, hc⟩

/-- A file at a place without a directory. -/
theorem put_file (t : FileTree) (c : Content) (h : t.entry? place ≠ some .directory) :
    Grows t (t.put place (.file c)) := by
  refine ⟨rfl, fun other ho => ?_, fun other c' ho => ?_⟩
  · have ne : other ≠ place := fun e => h (e ▸ ho)
    rwa [put_entry_of_ne t _ ne]
  · by_cases hp : other = place
    · subst hp
      exact ⟨c, put_entry_self t other _⟩
    · exact ⟨c', by rwa [put_entry_of_ne t _ hp]⟩

end Grows

/-- `t₂` is `t₁` with directories at places of `S` where nothing was. -/
structure Gains (S : Place → Prop) (t₁ t₂ : FileTree) : Prop where
  /-- Paths start where they started. -/
  current : t₂.current = t₁.current
  /-- What is there is what was there, or a directory. -/
  entry : ∀ place, t₂.entry? place = t₁.entry? place ∨
    S place ∧ t₁.entry? place = none ∧ t₂.entry? place = some .directory

namespace Gains

variable {S : Place → Prop}

theorem refl (t : FileTree) : Gains S t t := ⟨rfl, fun _ => .inl rfl⟩

theorem trans {t₃ : FileTree} (h₁ : Gains S t₁ t₂) (h₂ : Gains S t₂ t₃) : Gains S t₁ t₃ := by
  refine ⟨h₂.current.trans h₁.current, fun place => ?_⟩
  rcases h₂.entry place with same | ⟨hs, free, made⟩
  · rw [same]
    exact h₁.entry place
  · rcases h₁.entry place with same | ⟨-, -, there⟩
    · exact .inr ⟨hs, same ▸ free, made⟩
    · rw [there] at free
      cases free

theorem put (hs : S place) (free : t.entry? place = none) : Gains S t (t.put place .directory) := by
  refine ⟨rfl, fun other => ?_⟩
  by_cases h : other = place
  · subst h
    exact .inr ⟨hs, free, put_entry_self t other _⟩
  · exact .inl (put_entry_of_ne t _ h)

theorem entry_of_some (h : Gains S t₁ t₂) (there : t₁.entry? place = some e) :
    t₂.entry? place = some e := by
  rcases h.entry place with same | ⟨-, free, -⟩
  · rw [same, there]
  · rw [there] at free
    cases free

theorem entry_of_not (h : Gains S t₁ t₂) (hs : ¬ S place) : t₂.entry? place = t₁.entry? place :=
  (h.entry place).elim id fun ⟨hp, _⟩ => absurd hp hs

theorem grows (h : Gains S t₁ t₂) : Grows t₁ t₂ :=
  ⟨h.current, fun _ there => h.entry_of_some there, fun _ c there => ⟨c, h.entry_of_some there⟩⟩

end Gains

/-! ### Following a path -/

/-- What a spot says is found there. -/
def Found (t : FileTree) : Spot → Prop
  | .taken place e => t.entry? place = some e
  | .vacant place => t.entry? place = none

theorem found_taken {e : Entry} : t.Found (.taken place e) ↔ t.entry? place = some e := .rfl

theorem found_vacant : t.Found (.vacant place) ↔ t.entry? place = none := .rfl

variable {p : Path} {spot : Spot}

/-- A step leads on from a directory: to the directory itself, out of it, or to something in it. -/
def LeadsOn (t : FileTree) (place : Place) (step : List Char) : Prop :=
  t.entry? place = some .directory ∧ (step = ['.'] ∨ step = ['.', '.'] ∨
    (String.ofList step).utf8ByteSize ≤ maxName ∧ ∃ e, t.entry? (Path.stepFrom place step) = some e)

/-- A step is the name of nothing in a directory. -/
def IsFreeStep (t : FileTree) (place : Place) (step : List Char) : Prop :=
  t.entry? place = some .directory ∧ step ≠ ['.'] ∧ step ≠ ['.', '.'] ∧
    (String.ofList step).utf8ByteSize ≤ maxName ∧ t.entry? (Path.stepFrom place step) = none

/-- What following one more step comes to. -/
theorem walk_cons_iff {step : List Char} {steps : List (List Char)} :
    t.walk place (step :: steps) = .ok spot ↔
      t.LeadsOn place step ∧ t.walk (Path.stepFrom place step) steps = .ok spot ∨
      t.IsFreeStep place step ∧ steps = [] ∧ spot = .vacant (Path.stepFrom place step) := by
  rw [walk, LeadsOn, IsFreeStep]
  split
  · next dir =>
    by_cases here : step = ['.']
    · simp [dir, here, Path.stepFrom]
    · by_cases up : step = ['.', '.']
      · simp [dir, up, Path.stepFrom]
      · have next : Path.stepFrom place step = place ++ [String.ofList step] := by
          rw [Path.stepFrom, if_neg here, if_neg up]
        by_cases long : maxName < (String.ofList step).utf8ByteSize
        · simp [here, up, long, Nat.not_le.mpr long]
        · have short := Nat.not_lt.mp long
          cases found : t.entry? (place ++ [String.ofList step]) with
          | some e => simp [dir, here, up, next, found, long, short]
          | none => cases steps <;> simp [dir, here, up, next, found, long, short, eq_comm]
  · next file => simp [file]
  · next free => simp [free]

/-- Steps lead to the place that they spell, and to what is there. -/
theorem walk_found {steps : List (List Char)} (h : t.walk place steps = .ok spot) :
    spot.place = Path.walkFrom place steps ∧ t.Found spot := by
  induction steps generalizing place with
  | nil =>
    unfold walk at h
    split at h
    · next e he =>
      cases h
      exact ⟨rfl, he⟩
    · cases h
  | cons step steps ih =>
    rcases walk_cons_iff.mp h with ⟨-, on⟩ | ⟨free, rfl, rfl⟩
    · exact ih on
    · exact ⟨rfl, free.2.2.2.2⟩

/-- In a tree that has grown, a step leads on where it led on. -/
theorem Grows.leadsOn {step : List Char} (g : Grows t₁ t₂) (h : t₁.LeadsOn place step) :
    t₂.LeadsOn place step := by
  refine ⟨g.directory place h.1, h.2.imp id (Or.imp id ?_)⟩
  rintro ⟨short, e, there⟩
  exact ⟨short, g.taken there⟩

/-- In a tree that has grown, steps lead where they led, if something is there. -/
theorem Grows.walk {steps : List (List Char)} (g : Grows t₁ t₂) (h : t₁.walk place steps = .ok spot)
    (there : t₂.entry? spot.place = some e) : t₂.walk place steps = .ok (.taken spot.place e) := by
  induction steps generalizing place with
  | nil =>
    unfold FileTree.walk at h ⊢
    split at h
    · cases h
      rw [Spot.place] at there ⊢
      rw [there]
    · cases h
  | cons step steps ih =>
    rcases walk_cons_iff.mp h with ⟨leads, on⟩ | ⟨⟨dir, -, -, short, -⟩, rfl, rfl⟩
    · exact walk_cons_iff.mpr (.inl ⟨g.leadsOn leads, ih on⟩)
    · -- the name was free, and is taken now
      rw [Spot.place] at there ⊢
      refine walk_cons_iff.mpr (.inl ⟨⟨g.directory place dir, .inr (.inr ⟨short, e, there⟩)⟩, ?_⟩)
      rw [FileTree.walk, there]

theorem resolve_found (h : t.resolve p = .ok spot) :
    spot.place = p.place t.current ∧ t.Found spot := by
  unfold resolve at h
  split at h
  · cases h
  · split at h
    · cases h
    · exact walk_found h

theorem Grows.resolve (g : Grows t₁ t₂) (h : t₁.resolve p = .ok spot)
    (there : t₂.entry? spot.place = some e) : t₂.resolve p = .ok (.taken spot.place e) := by
  unfold FileTree.resolve at h ⊢
  split at h
  · cases h
  · next valid =>
    rw [if_neg valid]
    split at h
    · cases h
    · next full =>
      rw [if_neg full, g.current]
      exact g.walk h there

/-- A file that a path leads to. -/
theorem find_file_iff {c : Content} : t.find p = .ok (.file c) ↔
    (∃ place, t.resolve p = .ok (.taken place (.file c))) ∧ endsInSlash p = false := by
  unfold find
  cases t.resolve p with
  | error fault => simp
  | ok spot =>
    cases spot with
    | vacant place => simp
    | taken place e =>
      cases e with
      | directory => simp
      | file c' => cases endsInSlash p <;> simp

theorem entry_of_find_file {c : Content} (h : t.find p = .ok (.file c)) :
    t.entry? (p.place t.current) = some (.file c) := by
  obtain ⟨⟨place, hr⟩, -⟩ := find_file_iff.mp h
  obtain ⟨hp, found⟩ := resolve_found hr
  rwa [← hp]

/-- A file keeps its content in a tree that has grown elsewhere. -/
theorem Grows.find_file {c c' : Content} (g : Grows t₁ t₂) (h : t₁.find p = .ok (.file c))
    (there : t₂.entry? (p.place t₁.current) = some (.file c')) : t₂.find p = .ok (.file c') := by
  obtain ⟨⟨place, hr⟩, hs⟩ := find_file_iff.mp h
  have hp := (resolve_found hr).1
  rw [← hp] at there
  exact find_file_iff.mpr ⟨⟨_, g.resolve hr there⟩, hs⟩

/-- Where a path leads to a file, it leads to a file in a tree that has grown. -/
theorem Grows.exists_find_file {c : Content} (g : Grows t₁ t₂) (h : t₁.find p = .ok (.file c)) :
    ∃ c', t₂.find p = .ok (.file c') := by
  obtain ⟨c', there⟩ := g.file _ _ (entry_of_find_file h)
  exact ⟨c', g.find_file h there⟩

/-- Something is there where a path leads to a directory or to a file. -/
theorem holds_iff : t.holds p = true ↔
    (∃ place, t.resolve p = .ok (.taken place .directory)) ∨ ∃ c, t.find p = .ok (.file c) := by
  unfold holds find
  cases t.resolve p with
  | error fault => simp
  | ok spot =>
    cases spot with
    | vacant place => simp
    | taken place e =>
      cases e with
      | directory => simp
      | file c => cases endsInSlash p <;> simp

theorem taken_of_holds (h : t.holds p = true) : ∃ place e, t.resolve p = .ok (.taken place e) := by
  obtain ⟨place, hr⟩ | ⟨c, found⟩ := holds_iff.mp h
  · exact ⟨place, _, hr⟩
  · obtain ⟨⟨place, hr⟩, -⟩ := find_file_iff.mp found
    exact ⟨place, _, hr⟩

/-- Whatever a path leads to is at the place that it spells. -/
theorem entry_of_holds (h : t.holds p = true) : ∃ e, t.entry? (p.place t.current) = some e := by
  obtain ⟨place, e, hr⟩ := taken_of_holds h
  obtain ⟨rfl, found⟩ := resolve_found hr
  exact ⟨e, found⟩

theorem holds_eq_false_of_free (h : t.entry? (p.place t.current) = none) : t.holds p = false := by
  rw [← Bool.not_eq_true]
  intro there
  obtain ⟨e, taken⟩ := entry_of_holds there
  rw [h] at taken
  cases taken

theorem Grows.holds (g : Grows t₁ t₂) (h : t₁.holds p = true) : t₂.holds p = true := by
  refine holds_iff.mpr ((holds_iff.mp h).imp ?_ ?_)
  · rintro ⟨place, hr⟩
    exact ⟨place, g.resolve hr (g.directory place (resolve_found hr).2)⟩
  · rintro ⟨c, found⟩
    exact g.exists_find_file found

/-! ### Writing -/

variable {name text : String} {dir : Path} {t' : FileTree} {S : Place → Prop}

theorem makeDirectory_gains (h : t.makeDirectory p = .ok t') (hs : S (p.place t.current)) :
    Gains S t t' := by
  unfold makeDirectory at h
  split at h
  · cases h
  · next hr =>
    cases h
    obtain ⟨hp, found⟩ := resolve_found hr
    rw [Spot.place] at hp
    exact Gains.put (hp ▸ hs) found
  · cases h

theorem ensureDirectory_gains (h : t.ensureDirectory p = .ok t') (hs : S (p.place t.current)) :
    Gains S t t' := by
  unfold ensureDirectory at h
  split at h
  · next made =>
    cases h
    exact makeDirectory_gains made hs
  · split at h
    · cases h
      exact .refl t
    · cases h

/-- Directories are created on the way along the path, also when that fails in the end. -/
theorem makeDirectories_gains (fuel : Nat) (hs : ∀ place, p.Passes t.current place → S place) :
    Gains S t (t.makeDirectories p fuel).2 := by
  induction fuel generalizing p with
  | zero => exact .refl t
  | succ fuel ih =>
    have self := hs _ (p.passes_self t.current)
    unfold makeDirectories
    split
    · exact .refl t
    · split
      · next made => exact makeDirectory_gains made self
      · split
        · exact .refl t
        · next parent hp =>
          have before := ih fun place passes => hs place (passes.of_parent hp)
          split
          · next made =>
            rw [made] at before
            exact before
          · next made =>
            rw [made] at before
            have self : S (p.place _) := before.current ▸ self
            split
            · next ensured => exact before.trans (ensureDirectory_gains ensured self)
            · exact before
      · split <;> exact .refl t

/-- A file is put where the path leads, unless a directory is there. -/
theorem exists_of_putFile {c : Content} (h : t.putFile p c = .ok t') :
    ∃ spot, t.resolve p = .ok spot ∧ t.entry? spot.place ≠ some .directory ∧
      t' = t.put spot.place (.file c) := by
  unfold putFile at h
  cases hr : t.resolve p with
  | error fault =>
    rw [hr] at h
    cases h
  | ok spot =>
    have found := (resolve_found hr).2
    rw [hr] at h
    refine ⟨spot, rfl, ?_⟩
    cases spot with
    | vacant place =>
      rw [found_vacant] at found
      dsimp only at h
      split at h
      · cases h
      · cases h
        exact ⟨by simp [Spot.place, found], rfl⟩
    | taken place e =>
      rw [found_taken] at found
      cases e with
      | directory => cases h
      | file old =>
        dsimp only at h
        split at h
        · cases h
        · cases h
          exact ⟨by simp [Spot.place, found], rfl⟩

/-- A file that could be put somewhere is at the place that is spelled, where no directory was, and
the path leads to it. -/
theorem putFile_ok {c : Content} (h : t.putFile p c = .ok t') :
    t' = t.put (p.place t.current) (.file c) ∧ t.entry? (p.place t.current) ≠ some .directory ∧
    (endsInSlash p = false → t'.find p = .ok (.file c)) := by
  obtain ⟨spot, hr, free, rfl⟩ := exists_of_putFile h
  have now := (Grows.put_file t c free).resolve hr (put_entry_self t spot.place (.file c))
  rw [← (resolve_found hr).1]
  exact ⟨rfl, free, fun hs => find_file_iff.mpr ⟨⟨_, now⟩, hs⟩⟩

/-- What writing a file in a directory does to a tree. -/
inductive Writes (dir : Path) (name text : String) (t : FileTree) :
    Except FileFault Unit × FileTree → Prop where
  /-- Directories are created on the way, and the file is put at its place. -/
  | done {t₁ : FileTree} (gains : Gains (dir.Passes t.current) t t₁)
      (no_directory : t₁.entry? (dir.place t.current ++ [name]) ≠ some .directory)
      (found : (t₁.put (dir.place t.current ++ [name]) (.file (.text text))).find (dir.child name)
        = .ok (.file (.text text))) :
      Writes dir name text t (.ok (), t₁.put (dir.place t.current ++ [name]) (.file (.text text)))
  /-- Directories are created on the way, but the file is not. -/
  | failed {t₁ : FileTree} {fault : FileFault} (gains : Gains (dir.Passes t.current) t t₁) :
      Writes dir name text t (.error fault, t₁)

/-- Behind the directories on the way, the file is put or not. -/
theorem Writes.of_putFile {t₁ : FileTree} (h : Path.IsName name)
    (gains : Gains (dir.Passes t.current) t t₁) :
    Writes dir name text t
      (match t₁.putFile (dir.child name) (.text text) with
        | .ok t₂ => (.ok (), t₂)
        | .error fault => (.error fault, t₁)) := by
  cases hput : t₁.putFile (dir.child name) (.text text) with
  | ok t₂ =>
    obtain ⟨rfl, free, found⟩ := putFile_ok hput
    dsimp only
    rw [dir.child_place _ h, gains.current] at free found ⊢
    refine .done gains free (found ?_)
    simpa [endsInSlash] using dir.child_endsInSlash h
  | error fault => exact .failed gains

/-- **Writing a file** creates directories on the way to it, and puts it at its place. -/
theorem writeFile_writes (dir : Path) (h : Path.IsName name) (t : FileTree) (text : String) :
    Writes dir name text t (t.writeFile (dir.child name) text) := by
  unfold writeFile
  cases hp : (dir.child name).parent? with
  | none => exact .of_putFile h (.refl t)
  | some parent =>
    have gains := makeDirectories_gains (t := t) (parent.text.length + 1)
      fun place passes => Path.Passes.of_child_parent h hp passes
    dsimp only
    unfold ensureDirectories
    rcases hm : t.makeDirectories parent (parent.text.length + 1) with ⟨fault | _, t₁⟩
    · rw [hm] at gains
      exact .failed gains
    · rw [hm] at gains
      exact .of_putFile h gains

/-! ### What a write leaves as it is -/

theorem writeFile_grows (h : p.IsFile) (t : FileTree) (text : String) :
    Grows t (t.writeFile p text).2 := by
  obtain ⟨dir, name, hn, rfl⟩ := h
  have writes := writeFile_writes dir hn t text
  generalize t.writeFile (dir.child name) text = r at writes ⊢
  cases writes with
  | done gains no_directory _ => exact gains.grows.trans (.put_file _ _ no_directory)
  | failed gains => exact gains.grows

/-- Whatever is somewhere else is still there. -/
theorem writeFile_keeps (h : p.IsFile) (text : String) (ne : place ≠ p.place t.current)
    (there : t.entry? place = some e) : entry? (t.writeFile p text).2 place = some e := by
  obtain ⟨dir, name, hn, rfl⟩ := h
  rw [dir.child_place _ hn] at ne
  have writes := writeFile_writes dir hn t text
  generalize t.writeFile (dir.child name) text = r at writes ⊢
  cases writes with
  | done gains _ _ =>
    rw [put_entry_of_ne _ _ ne]
    exact gains.entry_of_some there
  | failed gains => exact gains.entry_of_some there

/-- What is free and not on the way is still free. -/
theorem writeFile_frees (h : p.IsFile) (text : String) (ne : place ≠ p.place t.current)
    (off : ¬ p.Enters t.current place) : entry? (t.writeFile p text).2 place = t.entry? place := by
  obtain ⟨dir, name, hn, rfl⟩ := h
  rw [dir.child_place _ hn] at ne
  rw [dir.child_enters hn] at off
  have writes := writeFile_writes dir hn t text
  generalize t.writeFile (dir.child name) text = r at writes ⊢
  cases writes with
  | done gains _ _ =>
    rw [put_entry_of_ne _ _ ne]
    exact gains.entry_of_not off
  | failed gains => exact gains.entry_of_not off

theorem find_of_writeFile (h : p.IsFile) (written : t.writeFile p text = (.ok (), t')) :
    t'.find p = .ok (.file (.text text)) := by
  obtain ⟨dir, name, hn, rfl⟩ := h
  have writes := writeFile_writes dir hn t text
  rw [written] at writes
  cases writes with
  | done _ _ found => exact found

theorem holds_of_find_file {c : Content} (h : t.find p = .ok (.file c)) : t.holds p = true := by
  rw [holds, h]

/-- A file keeps its content when another one is written. -/
theorem writeFile_find {q : Path} {c : Content} (h : p.IsFile) (text : String)
    (ne : q.place t.current ≠ p.place t.current) (there : t.find q = .ok (.file c)) :
    (t.writeFile p text).2.find q = .ok (.file c) :=
  (writeFile_grows h t text).find_file there (writeFile_keeps h text ne (entry_of_find_file there))

end FileTree

end ApiStubs
