/-!
# Finite doubles

A finite binary64 number as a sign, a significand and a power of two. Reading goes through
exact fractions and rounds once, so no step of it depends on the machine's arithmetic.
-/

namespace ApiStubs

/-- The number `significand · 2 ^ exponent`, below zero when `negative`. In a number built
here the significand is below `2 ^ 53`, the exponent between −1074 and 971, and the
significand at least `2 ^ 52` unless the exponent is −1074. -/
structure Double where
  /-- The sign; zero has one as well. -/
  negative : Bool
  /-- The whole number of units in the last place. -/
  significand : Nat
  /-- The power of two of one unit. -/
  exponent : Int
  deriving Repr, DecidableEq

namespace Double

/-- Zero, with a sign. -/
def zero (negative : Bool) : Double := ⟨negative, 0, -1074⟩

/-- The value as a fraction of naturals, without its sign. -/
def magnitude (d : Double) : Nat × Nat :=
  match d.exponent with
  | .ofNat e => (d.significand * Nat.pow 2 e, 1)
  | .negSucc e => (d.significand, Nat.pow 2 (e + 1))

/-- The whole number nearest to a fraction; of two as near, the even one. -/
def roundHalfEven (num den : Nat) : Nat :=
  let q := num / den
  let twice := 2 * (num % den)
  if twice < den then q
  else if den < twice then q + 1
  else if q % 2 = 0 then q else q + 1

/-- The fraction `num / den` counted in units of `2 ^ e`. -/
def inUnits (num den : Nat) : Int → Nat × Nat
  | .ofNat e => (num, den * Nat.pow 2 e)
  | .negSucc e => (num * Nat.pow 2 (e + 1), den)

/-- The double nearest to a fraction; of two as near, the one with the even significand.
`none` when the fraction is too large. -/
def nearest? (negative : Bool) (num den : Nat) : Option Double :=
  if num = 0 then some (zero negative)
  else
    let guess : Int := max (Int.ofNat num.log2 - Int.ofNat den.log2 - 53) (-1074)
    let (n, d) := inUnits num den guess
    let e := if n / d < Nat.pow 2 53 then guess else guess + 1
    let (n, d) := inUnits num den e
    let q := roundHalfEven n d
    let (q, e) := if q = Nat.pow 2 53 then (Nat.pow 2 52, e + 1) else (q, e)
    if e > 971 then none else some ⟨negative, q, e⟩

/-- The product with a fraction, rounded once. -/
def scale? (d : Double) (num den : Nat) : Option Double :=
  let (n, m) := d.magnitude
  nearest? d.negative (n * num) (m * den)

/-- Zero of either sign. -/
def isZero (d : Double) : Bool := d.significand == 0

/-- The value of a decimal, read in two rounded steps: the digits become a double, and that
is multiplied or divided by a power of ten which is itself a double. Powers beyond 308 are
divided off in portions of 308. `none` when the result is too large. -/
def ofParts? (negative : Bool) (digits : Nat) (exponent : Int) : Option Double := do
  let start ← nearest? negative digits 1
  match exponent with
  | .ofNat e =>
    if start.isZero then some start
    else if e ≤ 308 then
      let pow ← nearest? false (Nat.pow 10 e) 1
      let (n, m) := pow.magnitude
      start.scale? n m
    else none
  | .negSucc e => divide start (e + 1) (e + 1)
where
  /-- Divide by `10 ^ e`, at most 308 at a time. -/
  divide (d : Double) (e : Nat) : Nat → Option Double
    | 0 => some d
    | fuel + 1 => do
      if d.isZero then return d
      let portion := min e 308
      let pow ← nearest? false (Nat.pow 10 portion) 1
      let (n, m) := pow.magnitude
      let next ← d.scale? m n
      if e ≤ 308 then return next else divide next (e - portion) fuel

end Double

end ApiStubs
