/-!
# Sets of characters by ranges

A property of characters is stored as a list of closed ranges of code points.
-/

namespace ApiStubs.Text

/-- The code point lies in one of the closed ranges. -/
def inRanges (ranges : List (Nat × Nat)) (n : Nat) : Bool :=
  ranges.any fun r => r.1 ≤ n && n ≤ r.2

end ApiStubs.Text
