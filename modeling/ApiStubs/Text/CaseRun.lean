/-!
# Runs of case pairs

Letters with a counterpart of the other case come in runs: the counterparts of a run lie in
the same order, at the same distance.
-/

namespace ApiStubs.Text

/-- Every `step`-th code point from `first` to `last` has a counterpart; that of `first` is
`target`. -/
structure CaseRun where
  /-- The first code point of the run. -/
  first : Nat
  /-- The last code point of the run. -/
  last : Nat
  /-- The distance between neighbours in the run. -/
  step : Nat
  /-- The counterpart of `first`. -/
  target : Nat
  deriving Repr, DecidableEq

/-- The code point belongs to the run. -/
def CaseRun.covers (r : CaseRun) (n : Nat) : Bool :=
  r.first ≤ n && n ≤ r.last && (n - r.first) % r.step == 0

/-- The counterpart of a character, or the character itself when no run covers it. -/
def CaseRun.apply (runs : List CaseRun) (c : Char) : Char :=
  match runs.find? (fun r => r.covers c.toNat) with
  | some r => Char.ofNat (r.target + (c.toNat - r.first))
  | none => c

end ApiStubs.Text
