import ApiStubs.Number.Double

/-!
# Shortest decimals

The text of a double: the fewest digits that read back as the same double, and of those the
decimal nearest to it. Two layouts of these digits are in use, one positional and one that
changes to powers of ten for large and small numbers.
-/

namespace ApiStubs.Double

/-- Digits and the power of ten of the last one. -/
structure Decimal where
  /-- The digits, read as one number. -/
  digits : Nat
  /-- The power of ten of the last digit. -/
  exponent : Int
  deriving Repr, DecidableEq

/-- The fraction `a / b` is at most `c / d`. -/
def fractionLe (a b c d : Nat) : Bool := a * d ≤ c * b

/-- The numbers that round to a double: their bounds, four times finer than its last place,
and whether the bounds belong to them. -/
structure Rounding where
  /-- The lower bound, in quarters of the last place. -/
  low : Nat
  /-- The upper bound, in quarters of the last place. -/
  high : Nat
  /-- The bounds round to the double as well. -/
  closed : Bool

/-- The numbers that round to `d`. Below a power of two the neighbour is half as far. -/
def rounding (d : Double) : Rounding :=
  let m := d.significand
  let low := if m = Nat.pow 2 52 && d.exponent > -1074 then 4 * m - 1 else 4 * m - 2
  ⟨low, 4 * m + 2, m % 2 = 0⟩

/-- The decimal `n · 10 ^ p` rounds to `d`. -/
def readsBack (d : Double) (n : Nat) (p : Int) : Bool :=
  let r := d.rounding
  let (num, den) := match p with
    | .ofNat e => (n * Nat.pow 10 e, 1)
    | .negSucc e => (n, Nat.pow 10 (e + 1))
  let (a, b) := inUnits num den (d.exponent - 2)
  if r.closed then fractionLe r.low 1 a b && fractionLe a b r.high 1
  else !fractionLe a b r.low 1 && !fractionLe r.high 1 a b

/-- The value counted in units of `10 ^ p`, as a fraction. -/
def inTens (d : Double) (p : Int) : Nat × Nat :=
  let (num, den) := d.magnitude
  match p with
  | .ofNat e => (num, den * Nat.pow 10 e)
  | .negSucc e => (num * Nat.pow 10 (e + 1), den)

/-- The decimal on the grid of `10 ^ p` nearest to `d` among those that read back. -/
def onGrid? (d : Double) (p : Int) : Option Nat :=
  let (num, den) := d.inTens p
  let below := num / den
  let twice := 2 * (num % den)
  let upFirst := twice > den || (twice == den && below % 2 == 1)
  let (first, second) := if upFirst then (below + 1, below) else (below, below + 1)
  if d.readsBack first p then some first
  else if d.readsBack second p then some second
  else none

/-- The power of ten of the first digit of a positive double. -/
def leadingPower (d : Double) : Int :=
  let (num, den) := d.magnitude
  let guess : Int := (Int.ofNat num.log2 - Int.ofNat den.log2) * 30103 / 100000 - 1
  let tooSmall (p : Int) : Bool := let (n, m) := d.inTens p; n / m ≥ 10
  if tooSmall guess then (if tooSmall (guess + 1) then guess + 2 else guess + 1) else guess

/-- The first grid that has a decimal reading back, from one digit up to `count` digits. -/
def search (d : Double) (lead : Int) (used : Nat) : Nat → Decimal
  | 0 => ⟨0, 0⟩
  | count + 1 =>
    let p := lead - Int.ofNat used
    match d.onGrid? p with
    | some n => ⟨n, p⟩
    | none => search d lead (used + 1) count

/-- Drop the zeros at the end of the digits. -/
def Decimal.strip (x : Decimal) : Nat → Decimal
  | 0 => x
  | fuel + 1 =>
    if x.digits % 10 = 0 && x.digits > 0 then Decimal.strip ⟨x.digits / 10, x.exponent + 1⟩ fuel else x

/-- The shortest decimal that reads back as a positive double. -/
def shortest (d : Double) : Decimal :=
  (d.search d.leadingPower 0 18).strip 20

/-- Zeros. -/
def zeros (n : Nat) : String := String.ofList (List.replicate n '0')

/-- The digits written with a decimal point, and without one for a whole number. -/
def positional (x : Decimal) : String :=
  let ds := toString x.digits
  match x.exponent with
  | .ofNat e => ds ++ zeros e
  | .negSucc e =>
    let places := e + 1
    if ds.length > places then
      String.ofList (ds.toList.take (ds.length - places)) ++ "."
        ++ String.ofList (ds.toList.drop (ds.length - places))
    else "0." ++ zeros (places - ds.length) ++ ds

/-- The text of a double in running text: positional, a whole number without a point. -/
def plainText (d : Double) : String :=
  (if d.negative then "-" else "") ++ (if d.isZero then "0" else positional d.shortest)

/-- The text of a double in data: always recognisable as one. From `10 ^ 16` on and below
`10 ^ -5` it is written with a power of ten. -/
def dataText (d : Double) : String :=
  let sign := if d.negative then "-" else ""
  if d.isZero then sign ++ "0.0"
  else
    let x := d.shortest
    let ds := toString x.digits
    let point : Int := Int.ofNat ds.length + x.exponent
    if -5 < point && point ≤ 16 then
      let body := positional x
      sign ++ (if x.exponent ≥ 0 then body ++ ".0" else body)
    else
      let first := String.ofList (ds.toList.take 1)
      let others := String.ofList (ds.toList.drop 1)
      let mantissa := if others.isEmpty then first else first ++ "." ++ others
      sign ++ mantissa ++ "e" ++ toString (point - 1)

end ApiStubs.Double
