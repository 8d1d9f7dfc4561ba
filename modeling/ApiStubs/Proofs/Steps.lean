import ApiStubs.Stub.Artifact

/-!
# What a step does

A step of a run ends in a result, makes calls and leaves a world; what it adds to the log is of
no interest here. `Does` says all of that at once, from a given world and whatever has been called
and logged before. It composes along `bind`, so what a generator does is put together from what
its collaborators answer.
-/

namespace ApiStubs

variable {σ : Type}

namespace Run

/-- From the world `w` the step ends in `r`, makes the calls `calls` and leaves the world `w'`. -/
structure Does (step : Run σ α) (w : σ) (r : Except Error α) (calls : List Call) (w' : σ) :
    Prop where
  /-- What it ends in. -/
  result : ∀ s : RunState σ, s.world = w → (step.start s).1 = r
  /-- The world it leaves. -/
  world : ∀ s : RunState σ, s.world = w → (step.start s).2.world = w'
  /-- The calls it adds to those before. -/
  calls : ∀ s : RunState σ, s.world = w → (step.start s).2.calls = s.calls ++ calls

theorem start_bind (x : Run σ α) (f : α → Run σ β) (s : RunState σ) :
    (x >>= f).start s =
      match x.start s with
      | (.ok a, s') => (f a).start s'
      | (.error e, s') => (.error e, s') := by
  simp only [start, ExceptT.run, bind, ExceptT.bind, ExceptT.mk, StateT.bind, StateT.run]
  rcases x s with ⟨_ | _, _⟩ <;> rfl

theorem start_bind_of_ok {x : Run σ α} (f : α → Run σ β) {s : RunState σ} {a : α}
    (h : (x.start s).1 = .ok a) : (x >>= f).start s = (f a).start (x.start s).2 := by
  rw [start_bind]
  rcases hx : x.start s with ⟨_ | b, s'⟩
  · rw [hx] at h
    exact absurd h (by simp)
  · rw [hx] at h
    cases h
    rfl

theorem start_bind_of_error {x : Run σ α} (f : α → Run σ β) {s : RunState σ} {e : Error}
    (h : (x.start s).1 = .error e) : (x >>= f).start s = (.error e, (x.start s).2) := by
  rw [start_bind]
  rcases hx : x.start s with ⟨e' | b, s'⟩
  · rw [hx] at h
    cases h
    rfl
  · rw [hx] at h
    exact absurd h (by simp)

namespace Does

variable {w w₁ w₂ : σ} {calls₁ calls₂ : List Call}

theorem pure (a : α) (w : σ) : (pure a : Run σ α).Does w (.ok a) [] w :=
  ⟨fun _ _ => rfl, fun _ h => h, fun _ _ => (List.append_nil _).symm⟩

/-- A step that ends well is followed by the next one. -/
theorem bind {x : Run σ α} {f : α → Run σ β} {a : α} {r : Except Error β}
    (hx : x.Does w (.ok a) calls₁ w₁) (hf : (f a).Does w₁ r calls₂ w₂) :
    (x >>= f).Does w r (calls₁ ++ calls₂) w₂ := by
  refine ⟨fun s hs => ?_, fun s hs => ?_, fun s hs => ?_⟩
  · rw [start_bind_of_ok f (hx.result s hs), hf.result _ (hx.world s hs)]
  · rw [start_bind_of_ok f (hx.result s hs), hf.world _ (hx.world s hs)]
  · rw [start_bind_of_ok f (hx.result s hs), hf.calls _ (hx.world s hs), hx.calls s hs,
      List.append_assoc]

/-- A step without calls adds nothing. -/
theorem bind_quiet {x : Run σ α} {f : α → Run σ β} {a : α} {r : Except Error β}
    (hx : x.Does w (.ok a) calls₁ w₁) (hf : (f a).Does w₁ r [] w₂) :
    (x >>= f).Does w r calls₁ w₂ := by
  have h := hx.bind hf
  rwa [List.append_nil] at h

/-- A step that fails is the last one. -/
theorem bind_error {x : Run σ α} (f : α → Run σ β) {e : Error}
    (hx : x.Does w (.error e) calls₁ w₁) : (x >>= f).Does w (.error e) calls₁ w₁ := by
  refine ⟨fun s hs => ?_, fun s hs => ?_, fun s hs => ?_⟩
  · rw [start_bind_of_error f (hx.result s hs)]
  · rw [start_bind_of_error f (hx.result s hs), hx.world s hs]
  · rw [start_bind_of_error f (hx.result s hs), hx.calls s hs]

theorem map (f : α → β) {x : Run σ α} {r : Except Error α} (hx : x.Does w r calls₁ w₁) :
    (do return f (← x) : Run σ β).Does w (r.map f) calls₁ w₁ := by
  cases r with
  | ok a => exact hx.bind_quiet (pure (f a) w₁)
  | error e => exact hx.bind_error _

theorem get_bind {f : RunState σ → Run σ α} {r : Except Error α}
    (h : ∀ s : RunState σ, s.world = w → (f s).Does w r calls₁ w₁) :
    ((get : Run σ (RunState σ)) >>= f).Does w r calls₁ w₁ :=
  ⟨fun s hs => (h s hs).result s hs, fun s hs => (h s hs).world s hs,
    fun s hs => (h s hs).calls s hs⟩

theorem record (c : Call) (w : σ) : (record c : Run σ Unit).Does w (.ok ()) [c] w :=
  ⟨fun _ _ => rfl, fun _ h => h, fun _ _ => rfl⟩

theorem report (lines : List LogLine) (w : σ) : (report lines : Run σ Unit).Does w (.ok ()) [] w :=
  ⟨fun _ _ => rfl, fun _ h => h, fun _ _ => (List.append_nil _).symm⟩

theorem say (severity : Severity) (text : String) (w : σ) :
    (say severity text : Run σ Unit).Does w (.ok ()) [] w :=
  report _ w

theorem setWorld (w w' : σ) :
    (modify fun s => { s with world := w' } : Run σ Unit).Does w (.ok ()) [] w' :=
  ⟨fun _ _ => rfl, fun _ _ => rfl, fun _ _ => (List.append_nil _).symm⟩

theorem ofExcept (r : Except Error α) (w : σ) :
    (MonadExcept.ofExcept r : Run σ α).Does w r [] w := by
  cases r with
  | ok a => exact pure a w
  | error e => exact ⟨fun _ _ => rfl, fun _ h => h, fun _ _ => (List.append_nil _).symm⟩

theorem ofLogged (work : Logged α) (w : σ) :
    (ofLogged work).Does w ((ExceptT.run work).run []).1 [] w :=
  (report _ w).bind (ofExcept _ w)

end Does

/-! ### Steps that only compute -/

/-- The step makes no calls and leaves every world as it is; it ends in `r`. -/
def Computes (step : Run σ α) (r : Except Error α) : Prop :=
  ∀ w, step.Does w r [] w

namespace Computes

theorem pure (a : α) : (pure a : Run σ α).Computes (.ok a) := fun w => .pure a w

theorem say (severity : Severity) (text : String) :
    (say severity text : Run σ Unit).Computes (.ok ()) := fun w => .say severity text w

theorem ofExcept (r : Except Error α) : (MonadExcept.ofExcept r : Run σ α).Computes r :=
  fun w => .ofExcept r w

theorem ofLogged (work : Logged α) :
    (ofLogged work : Run σ α).Computes ((ExceptT.run work).run []).1 := fun w => .ofLogged work w

theorem bind {x : Run σ α} {f : α → Run σ β} {r : Except Error α} {k : α → Except Error β}
    (hx : x.Computes r) (hf : ∀ a, (f a).Computes (k a)) : (x >>= f).Computes (r >>= k) := by
  intro w
  cases r with
  | ok a => exact (hx w).bind (hf a w)
  | error e => exact (hx w).bind_error f

end Computes

end Run

/-! ### Collaborators -/

namespace Collaborators

variable (c : Collaborators σ) (path : Path) (key text : String) (payload : Json) {w w' : σ}

theorem leavesAlone_does (w : σ) :
    (c.leavesAlone path).Does w (.ok (c.policy w path)) [.asked path (c.policy w path)] w := by
  refine Run.Does.get_bind fun s hs => ?_
  rw [hs]
  refine (Run.Does.record _ w).bind ?_
  split
  · exact (Run.Does.say _ _ w).bind (Run.Does.pure _ w)
  · exact Run.Does.pure _ w

theorem render_does (w : σ) :
    (c.render key payload).Does w (c.renderer w key payload).1 [.rendered key payload] w := by
  refine (Run.Does.record _ w).bind (Run.Does.get_bind fun s hs => ?_)
  rw [hs]
  exact (Run.Does.report _ w).bind (Run.Does.ofExcept _ w)

theorem store_does {lines : List LogLine} (h : c.writer w path text = (.ok (), w', lines)) :
    (c.store path text).Does w (.ok ()) [.wrote path text] w' := by
  refine Run.Does.get_bind fun s hs => ?_
  rw [hs, h]
  exact (Run.Does.setWorld w w').bind ((Run.Does.report _ w').bind
    ((Run.Does.ofExcept _ w').bind (Run.Does.record _ w')))

theorem store_does_error {e : Error} {lines : List LogLine}
    (h : c.writer w path text = (.error e, w', lines)) :
    (c.store path text).Does w (.error e) [] w' := by
  refine Run.Does.get_bind fun s hs => ?_
  rw [hs, h]
  exact (Run.Does.setWorld w w').bind ((Run.Does.report _ w').bind
    ((Run.Does.ofExcept _ w').bind_error _))

theorem write_does {lines : List LogLine} (rendered : (c.renderer w key payload).1 = .ok text)
    (written : c.writer w path text = (.ok (), w', lines)) :
    (c.write key payload path).Does w (.ok ()) [.rendered key payload, .wrote path text] w' := by
  have h := c.render_does key payload w
  rw [rendered] at h
  exact h.bind (c.store_does path text written)

theorem write_does_unrendered {e : Error} (rendered : (c.renderer w key payload).1 = .error e) :
    (c.write key payload path).Does w (.error e) [.rendered key payload] w := by
  have h := c.render_does key payload w
  rw [rendered] at h
  exact h.bind_error _

theorem write_does_unwritten {e : Error} {lines : List LogLine}
    (rendered : (c.renderer w key payload).1 = .ok text)
    (written : c.writer w path text = (.error e, w', lines)) :
    (c.write key payload path).Does w (.error e) [.rendered key payload] w' := by
  have h := c.render_does key payload w
  rw [rendered] at h
  exact h.bind (c.store_does_error path text written)

end Collaborators

end ApiStubs
